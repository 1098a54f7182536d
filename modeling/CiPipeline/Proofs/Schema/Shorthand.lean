import CiPipeline.Proofs.Schema.Taking
import CiPipeline.Proofs.Schema.WellFormed
import Mathlib.Logic.Relation

/-! What the shorthands of a document stand for. Each of them has a long form, and writing it out, in one place or
in many, changes nothing: the document is taken before exactly if it is taken afterwards, and for the same
pipeline. -/
namespace CiPipeline

open CiPipeline.Schema

namespace Schema

/-- Two values that are mappings with related entries. -/
def OnFields (related : Entries → Entries → Prop) (value value' : Document) : Prop :=
  ∃ fields fields', value.opened = .map fields ∧ value'.opened = .map fields' ∧ related fields fields'

def InList (related : Document → Document → Prop) (value value' : Document) : Prop :=
  ∃ front item item' back, IsList value (front ++ item :: back) ∧ IsList value' (front ++ item' :: back) ∧
    related item item'

def InMap (related : Document → Document → Prop) (value value' : Document) : Prop :=
  ∃ front key item item' back, value.opened = .map (front ++ (key, item) :: back) ∧
    value'.opened = .map (front ++ (key, item') :: back) ∧ related item item'

def secondNames : List (String × String) :=
  [("runs-on", "runs_on"), ("working-directory", "cwd"), ("timeout-minutes", "timeout_minutes")]

def OwnNamed (fields fields' : Entries) : Prop :=
  ∃ names ∈ secondNames, Entries.Renamed (.text names.1) (.text names.2) fields fields'

/-- A shorthand in the fields of a job is written out. -/
inductive LongerJob : Entries → Entries → Prop
  | own {fields fields'} (named : OwnNamed fields fields') : LongerJob fields fields'
  /-- A single job that is needed becomes a list. -/
  | need {fields fields' name}
    (replaced : Entries.Replaced (.text "needs") (.text name) (.list [.text name]) fields fields') :
    LongerJob fields fields'
  | noNeeds {fields fields'} (replaced : Entries.Replaced (.text "needs") .null (.list []) fields fields') :
    LongerJob fields fields'
  /-- A matrix at the top moves into the strategy, where there is none. -/
  | matrix {fields middle fields' matrix axes} (mapping : matrix.opened = .map axes)
    (renamed : Entries.Renamed (.text "matrix") (.text "strategy") fields middle)
    (wrapped : Entries.Replaced (.text "strategy") matrix (.map [(.text "matrix", matrix)]) middle fields') :
    LongerJob fields fields'
  | step {fields fields' steps steps'} (replaced : Entries.Replaced (.text "steps") steps steps' fields fields')
    (inside : InList (OnFields OwnNamed) steps steps') : LongerJob fields fields'

def eventMap (events : List String) : Entries :=
  Entries.ofPairs (Entries.ofKeyed (events.map fun event => (event, .null)))

/-- A shorthand in the fields of a pipeline is written out. -/
inductive Longer : Entries → Entries → Prop
  | event {fields fields' event}
    (replaced : Entries.Replaced (.text "on") (.text event) (.map [(.text event, .null)]) fields fields') :
    Longer fields fields'
  | events {fields fields' value events} (list : value.opened = .list (events.map .text))
    (replaced : Entries.Replaced (.text "on") value (.map (eventMap events)) fields fields') :
    Longer fields fields'
  /-- A bare word that was read as a truth value becomes the name that it is. -/
  | bare {fields fields'} (renamed : Entries.Renamed (.bool true) (.text "on") fields fields') :
    Longer fields fields'
  | job {fields fields' jobs jobs'} (replaced : Entries.Replaced (.text "jobs") jobs jobs' fields fields')
    (inside : InMap (OnFields LongerJob) jobs jobs') : Longer fields fields'

abbrev WrittenOut : Document → Document → Prop := Relation.ReflTransGen (OnFields Longer)

section

variable {fields fields' : Entries} {other? : Option String} {name : String}

theorem found_of_kept (own : fields'.field? name = fields.field? name)
    (kept : ∀ other ∈ other?, fields'.field? other = fields.field? other) :
    found fields' other? name = found fields other? name := by
  rw [found, found, own]
  cases other? with
  | none => rfl
  | some other => rw [Option.bind_some, Option.bind_some, kept other rfl]

theorem found_of_renamed {old new : String} (renamed : Entries.Renamed (.text old) (.text new) fields fields')
    (spared : (other?, name) = (some old, new) ∨ ∀ used ∈ name :: other?.toList, used ≠ old ∧ used ≠ new) :
    found fields' other? name = found fields other? name := by
  rcases spared with same | apart
  · obtain ⟨rfl, rfl⟩ := Prod.mk.inj same
    have moved : fields'.field? name = fields.field? old := renamed.moved
    have gone : fields'.field? old = none := renamed.gone
    have free : fields.field? name = none := renamed.free
    rw [found, found, Option.bind_some, Option.bind_some, moved, gone, free, Option.none_or, Option.or_none]
  · have kept (used : String) (member : used ∈ name :: other?.toList) :
        fields'.field? used = fields.field? used :=
      renamed.field? (apart used member).1 (apart used member).2
    exact found_of_kept (kept name List.mem_cons_self) fun other given =>
      kept other (List.mem_cons_of_mem _ (Option.mem_toList.2 given))

theorem found_of_replaced {key : String} {value value' : Document}
    (replaced : Entries.Replaced (.text key) value value' fields fields')
    (spared : ∀ used ∈ name :: other?.toList, used ≠ key) : found fields' other? name = found fields other? name :=
  found_of_kept (replaced.field? (spared name List.mem_cons_self)) fun other given =>
    replaced.field? (spared other (List.mem_cons_of_mem _ (Option.mem_toList.2 given)))

def FoundAlike (names : List (Option String × String)) (fields fields' : Entries) : Prop :=
  ∀ field ∈ names, found fields' field.1 field.2 = found fields field.1 field.2

variable {names : List (Option String × String)}

theorem foundAlike_of_ownNamed (named : OwnNamed fields fields')
    (spared : ∀ pair ∈ secondNames, ∀ field ∈ names, field = (some pair.1, pair.2) ∨
      ∀ used ∈ field.2 :: field.1.toList, used ≠ pair.1 ∧ used ≠ pair.2) : FoundAlike names fields fields' := by
  obtain ⟨pair, known, renamed⟩ := named
  exact fun field member => found_of_renamed renamed (spared pair known field member)

theorem foundAlike_of_replaced {key : String} {value value' : Document}
    (replaced : Entries.Replaced (.text key) value value' fields fields')
    (spared : ∀ field ∈ names, ∀ used ∈ field.2 :: field.1.toList, used ≠ key) : FoundAlike names fields fields' :=
  fun field member => found_of_replaced replaced (spared field member)

end

namespace StepForm

def fieldNames : List (Option String × String) :=
  [(none, "name"), (none, "run"), (none, "uses"), (some "working-directory", "cwd"), (none, "timeout"),
    (some "timeout-minutes", "timeout_minutes"), (none, "env"), (none, "shell")]

theorem value?_ofFields_congr {fields fields' : Entries} (alike : FoundAlike fieldNames fields fields') :
    (ofFields fields').value? = (ofFields fields).value? := by
  simp only [FoundAlike, fieldNames, List.forall_mem_cons] at alike
  obtain ⟨name, run, uses, cwd, timeout, minutes, env, shell, _⟩ := alike
  simp only [ofFields, Checked.value?_seq, Checked.value?_fmap, value?_readField, name, run, uses, cwd, timeout,
    minutes, env, shell]

end StepForm

theorem value?_readStep_of_ownNamed {value value' : Document} (longer : OnFields OwnNamed value value') :
    (readStep value').value? = (readStep value).value? := by
  obtain ⟨fields, fields', mapping, mapping', named⟩ := longer
  have alike : FoundAlike StepForm.fieldNames fields fields' := foundAlike_of_ownNamed named (by decide)
  rw [readStep, value?_readForm mapping, value?_readForm mapping', Checked.value?_andThen, Checked.value?_andThen,
    StepForm.value?_ofFields_congr alike]

theorem value?_readSteps_congr {related : Document → Document → Prop}
    (same : ∀ step step', related step step' → (readStep step').value? = (readStep step).value?)
    {value value' : Document} (changed : InList related value value') :
    (readSteps value').value? = (readSteps value).value? := by
  obtain ⟨front, item, item', back, list, list', inside⟩ := changed
  rw [readSteps, readSteps, Checked.value?_andThen, Checked.value?_andThen, value?_readList readStep list,
    value?_readList readStep list']
  simp only [List.mapM_append, List.mapM_cons, same _ _ inside]

namespace JobForm

def settled (form : JobForm) : JobForm :=
  { form with matrix := some ((form.matrix <|> form.strategy).getD []), strategy := none }

theorem toJob_settled (key : String) (form : JobForm) : form.settled.toJob key = form.toJob key := rfl

def assembled (name : Option (Option String)) (steps : Option (List StepForm)) (needs : Option (List String))
    (matrix strategy : Option (Option (Keyed Document))) (env : Option (Keyed Scalar))
    (runsOn : Option (Option String)) : Option JobForm := do
  return ⟨← name, ← steps, ← needs, ← matrix, ← strategy, ← env, ← runsOn⟩

theorem value?_ofFields (fields : Entries) : (ofFields fields).value? =
    assembled (readField fields none "name" none (readOptional readText)).value?
      (readRequired fields "steps" readSteps).value? (readField fields none "needs" [] readNeeds).value?
      (readField fields none "matrix" none (readOptional readOpenMap)).value?
      (readField fields none "strategy" none (readOptional readStrategy)).value?
      (readField fields none "env" [] readEnv).value?
      (readField fields (some "runs-on") "runs_on" none (readOptional readText)).value? := by
  simp only [ofFields, Checked.value?_seq, Checked.value?_fmap, assembled, bind, pure, Option.map_eq_bind]
  simp only [Option.bind_assoc, Option.bind_some, Function.comp_def]

def plainNames : List (Option String × String) :=
  [(none, "name"), (none, "matrix"), (none, "strategy"), (none, "env"), (some "runs-on", "runs_on")]

section

variable {fields fields' : Entries} {value value' : Document}

theorem value?_ofFields_congr (alike : FoundAlike plainNames fields fields')
    (steps : (readRequired fields' "steps" readSteps).value? = (readRequired fields "steps" readSteps).value?)
    (needs : (readField fields' none "needs" [] readNeeds).value? =
      (readField fields none "needs" [] readNeeds).value?) :
    (ofFields fields').value? = (ofFields fields).value? := by
  simp only [FoundAlike, plainNames, List.forall_mem_cons] at alike
  obtain ⟨name, matrix, strategy, env, runsOn, _⟩ := alike
  rw [value?_ofFields, value?_ofFields, steps, needs]
  simp only [value?_readField, name, matrix, strategy, env, runsOn]

theorem value?_steps_congr (same : found fields' none "steps" = found fields none "steps") :
    (readRequired fields' "steps" readSteps).value? = (readRequired fields "steps" readSteps).value? := by
  rw [value?_readRequired, value?_readRequired, same]

theorem value?_needs_congr (same : found fields' none "needs" = found fields none "needs") :
    (readField fields' none "needs" [] readNeeds).value? =
      (readField fields none "needs" [] readNeeds).value? := by
  rw [value?_readField, value?_readField, same]

theorem value?_ofFields_of_ownNamed (named : OwnNamed fields fields') :
    (ofFields fields').value? = (ofFields fields).value? := by
  have others : FoundAlike [(none, "steps"), (none, "needs")] fields fields' :=
    foundAlike_of_ownNamed named (by decide)
  exact value?_ofFields_congr (foundAlike_of_ownNamed named (by decide))
    (value?_steps_congr (others (none, "steps") (by decide)))
    (value?_needs_congr (others (none, "needs") (by decide)))

theorem value?_ofFields_of_needs (replaced : Entries.Replaced (.text "needs") value value' fields fields')
    (same : (readNeeds value').value? = (readNeeds value).value?) :
    (ofFields fields').value? = (ofFields fields).value? := by
  have before : found fields none "needs" = some value := replaced.before
  have after : found fields' none "needs" = some value' := replaced.after
  refine value?_ofFields_congr (foundAlike_of_replaced replaced (by decide))
    (value?_steps_congr (found_of_replaced replaced (by decide))) ?_
  rw [value?_readField, value?_readField, before, after, Option.elim_some, Option.elim_some, same]

theorem value?_ofFields_of_steps (replaced : Entries.Replaced (.text "steps") value value' fields fields')
    (same : (readSteps value').value? = (readSteps value).value?) :
    (ofFields fields').value? = (ofFields fields).value? := by
  have before : found fields none "steps" = some value := replaced.before
  have after : found fields' none "steps" = some value' := replaced.after
  refine value?_ofFields_congr (foundAlike_of_replaced replaced (by decide)) ?_
    (value?_needs_congr (found_of_replaced replaced (by decide)))
  rw [value?_readRequired, value?_readRequired, before, after, Option.bind_some, Option.bind_some, same]

end

def taken (fields : Entries) : Option JobForm := ((ofFields fields).andThen check).value?.map settled

theorem taken_congr {fields fields' : Entries} (same : (ofFields fields').value? = (ofFields fields).value?) :
    taken fields' = taken fields := by
  rw [taken, taken, Checked.value?_andThen, Checked.value?_andThen, same]

/-- A matrix counts alike at the top and in the strategy, where the other place is left open. -/
theorem settled_assembled (name : Option (Option String)) (steps : Option (List StepForm))
    (needs : Option (List String)) (axes : Option (Keyed Document)) (env : Option (Keyed Scalar))
    (runsOn : Option (Option String)) :
    ((assembled name steps needs (some none) (axes.map some) env runsOn).bind fun form =>
        form.check.value?).map settled =
      ((assembled name steps needs (axes.map some) (some none) env runsOn).bind fun form =>
        form.check.value?).map settled := by
  cases name <;> cases steps <;> cases needs <;> cases axes <;> cases env <;> cases runsOn <;> rfl

theorem taken_of_matrix {fields middle fields' : Entries} {matrix : Document} {axes : Entries}
    (mapping : matrix.opened = .map axes)
    (renamed : Entries.Renamed (.text "matrix") (.text "strategy") fields middle)
    (wrapped : Entries.Replaced (.text "strategy") matrix (.map [(.text "matrix", matrix)]) middle fields') :
    taken fields' = taken fields := by
  have kept : FoundAlike [(none, "name"), (none, "steps"), (none, "needs"), (none, "env"),
      (some "runs-on", "runs_on")] fields fields' := by
    have apart : ∀ field ∈ [(none, "name"), (none, "steps"), (none, "needs"), (none, "env"),
        (some "runs-on", "runs_on")], ∀ used ∈ field.2 :: field.1.toList, used ≠ "matrix" ∧ used ≠ "strategy" := by
      decide
    intro field member
    rw [found_of_replaced wrapped fun used there => (apart field member used there).2]
    exact found_of_renamed renamed (.inr (apart field member))
  simp only [FoundAlike, List.forall_mem_cons] at kept
  obtain ⟨name, steps, needs, env, runsOn, _⟩ := kept
  -- The matrix is read in another place and as part of a strategy, but from the same value.
  have at_top : found fields none "matrix" = some matrix := renamed.moved.symm.trans wrapped.before
  have no_strategy : found fields none "strategy" = none := renamed.free
  have gone : found fields' none "matrix" = none :=
    (wrapped.field? (by decide)).trans renamed.gone
  have inside : found fields' none "strategy" = some (.map [(.text "matrix", matrix)]) := wrapped.after
  have not_null : matrix ≠ .null := by
    rintro rfl
    cases mapping
  have top : (readOptional readOpenMap matrix).value? = (readOpenMap matrix).value?.map some := by
    rw [readOptional_of_ne_null not_null, Checked.value?_map]
  have below : (readOptional readStrategy (.map [(.text "matrix", matrix)])).value? =
      (readOpenMap matrix).value?.map some := by
    rw [readOptional_of_ne_null Document.noConfusion, Checked.value?_map, readStrategy, value?_readForm rfl,
      value?_readField]
    rfl
  rw [taken, taken, Checked.value?_andThen, Checked.value?_andThen, value?_ofFields, value?_ofFields]
  simp only [value?_readField, value?_readRequired, at_top, no_strategy, gone, inside, Option.elim_some,
    Option.elim_none, top, below, name, steps, needs, env, runsOn]
  exact settled_assembled _ _ _ _ _ _

theorem taken_of_longer {fields fields' : Entries} (longer : LongerJob fields fields') :
    taken fields' = taken fields := by
  cases longer with
  | own named => exact taken_congr (value?_ofFields_of_ownNamed named)
  | need replaced => exact taken_congr (value?_ofFields_of_needs replaced rfl)
  | noNeeds replaced => exact taken_congr (value?_ofFields_of_needs replaced rfl)
  | matrix mapping renamed wrapped => exact taken_of_matrix mapping renamed wrapped
  | step replaced inside =>
    exact taken_congr (value?_ofFields_of_steps replaced
      (value?_readSteps_congr (fun _ _ => value?_readStep_of_ownNamed) inside))

end JobForm

theorem value?_readJob_of_longer {value value' : Document} (longer : OnFields LongerJob value value') :
    (readJob value').value?.map JobForm.settled = (readJob value).value?.map JobForm.settled := by
  obtain ⟨fields, fields', mapping, mapping', inside⟩ := longer
  rw [readJob, value?_readForm mapping, value?_readForm mapping']
  exact JobForm.taken_of_longer inside

def takenJobs (value : Document) : Option (Keyed JobForm) :=
  (readJobs value).value?.map fun jobs => jobs.mapValues JobForm.settled

theorem takenJobs_eq {value : Document} {entries : Entries} (mapping : value.opened = .map entries) :
    takenJobs value = ((entries.mapM fun entry => (readKey entry.1).value?.bind fun name =>
      ((readJob entry.2).value?.map JobForm.settled).map (Prod.mk name)).map Keyed.ofPairs).bind fun jobs =>
        if jobs.isEmpty then none else some jobs := by
  have each (entry : Document × Document) : ((readKey entry.1).value?.bind fun name =>
      ((readJob entry.2).value?.map JobForm.settled).map (Prod.mk name)) =
        (takenEntry readJob entry).map fun pair => (pair.1, pair.2.settled) := by
    rw [takenEntry, Option.map_bind]
    simp only [Function.comp_def, Option.map_map]
  simp only [each]
  rw [takenJobs, readJobs, Checked.value?_andThen, value?_readMap readJob mapping, ← map_mapM]
  cases entries.mapM (takenEntry readJob) with
  | none => rfl
  | some pairs =>
    have settled : Keyed.ofPairs (pairs.map fun pair => (pair.1, pair.2.settled)) =
        (Keyed.ofPairs pairs).mapValues JobForm.settled := (Keyed.mapValues_ofPairs pairs _).symm
    simp only [Option.map_some, Option.bind_some, settled, Keyed.mapValues, List.isEmpty_map]
    split <;> rfl

theorem takenJobs_congr {related : Document → Document → Prop}
    (same : ∀ job job', related job job' →
      (readJob job').value?.map JobForm.settled = (readJob job).value?.map JobForm.settled)
    {value value' : Document} (changed : InMap related value value') : takenJobs value' = takenJobs value := by
  obtain ⟨front, key, item, item', back, mapping, mapping', inside⟩ := changed
  rw [takenJobs_eq mapping, takenJobs_eq mapping']
  simp only [List.mapM_append, List.mapM_cons, same _ _ inside]

section

variable {fields fields' : Entries}

/-- Where the triggers stand: under their name, under the truth value, or under their second name. -/
def triggersOf (fields : Entries) : Option Document :=
  ((fields.field? "on").or (fields.get? (.bool true))).or (fields.field? "triggers")

theorem field?_on_restoreTriggers (fields : Entries) :
    (restoreTriggers fields).field? "on" = (fields.field? "on").or (fields.get? (.bool true)) := by
  rw [restoreTriggers]
  cases bare : fields.get? (.bool true) with
  | none => exact Option.or_none.symm
  | some triggers =>
    have erased : (fields.erase (.bool true)).field? "on" = fields.field? "on" :=
      Entries.field?_erase fields rfl
    dsimp only
    rw [Entries.contains_eq_isSome, ← Entries.field?, erased]
    cases named : fields.field? "on" with
    | none => exact Entries.get?_put_self (Document.firm_text "on").self triggers _
    | some value => exact erased.trans named

theorem found_restoreTriggers (fields : Entries) {name : String} (apart : "on" ≠ name) :
    found (restoreTriggers fields) none name = fields.field? name := by
  rw [found, field?_restoreTriggers fields apart]
  rfl

theorem found_triggers (fields : Entries) :
    found (restoreTriggers fields) (some "on") "triggers" = triggersOf fields := by
  rw [found, Option.bind_some, field?_on_restoreTriggers, field?_restoreTriggers fields (by decide), triggersOf]

def takenTriggers (fields : Entries) : Option (Keyed Document) :=
  (triggersOf fields).elim (some []) fun value => (readTriggers value).value?

end

theorem mapM_takenEntry_ofKeyed (map : Keyed Document) :
    (Entries.ofKeyed map).mapM (takenEntry Checked.valid) = some map := by
  induction map with
  | nil => rfl
  | cons entry rest ih =>
    have unfolded : Entries.ofKeyed (entry :: rest) = (.text entry.1, entry.2) :: Entries.ofKeyed rest := rfl
    have first : takenEntry Checked.valid (.text entry.1, entry.2) = some entry := rfl
    rw [unfolded, List.mapM_cons, first, ih]
    rfl

theorem value?_readTriggers_of_events {value : Document} {events : List String}
    (list : value.opened = .list (events.map .text)) :
    (readTriggers (.map (eventMap events))).value? = (readTriggers value).value? := by
  have short : (events.map Document.text).any Document.hasLongNumber = false := by
    simp [Document.hasLongNumber]
  have mapping : (readTriggers (.map (eventMap events))).value? =
      some (Keyed.ofPairs (events.map fun event => (event, .null))) := by
    have read : readTriggers (.map (eventMap events)) = readOpenMap (.map (eventMap events)) := rfl
    rw [read, readOpenMap, value?_readMap Checked.valid rfl, eventMap, Entries.ofPairs_ofKeyed,
      mapM_takenEntry_ofKeyed, Option.map_some, Keyed.ofPairs_of_nodup (Keyed.nodup_names_ofPairs _)]
  rw [mapping, readTriggers, list]
  dsimp only
  rw [short, if_neg Bool.false_ne_true, List.map_map]
  rfl

namespace PipelineForm

def settled (form : PipelineForm) : PipelineForm :=
  { form with jobs := form.jobs.mapValues JobForm.settled }

theorem toPipeline_settled (form : PipelineForm) : form.settled.toPipeline = form.toPipeline := by
  simp only [toPipeline, settled, Keyed.mapValues, List.mapM_map, Function.comp_def, JobForm.toJob_settled]

def taken (fields : Entries) : Option PipelineForm := (ofFields (restoreTriggers fields)).value?.map settled

theorem taken_eq (fields : Entries) : taken fields = (do
    let name ← (fields.field? "name").elim (some "pipeline") fun value => (readText value).value?
    let triggers ← takenTriggers fields
    let env ← (fields.field? "env").elim (some []) fun value => (readEnv value).value?
    let jobs ← (fields.field? "jobs").bind takenJobs
    return ⟨name, triggers, env, jobs⟩) := by
  rw [taken, takenTriggers]
  simp only [ofFields, Checked.value?_seq, Checked.value?_fmap, value?_readField, value?_readRequired,
    found_triggers, found_restoreTriggers fields (show "on" ≠ "name" by decide),
    found_restoreTriggers fields (show "on" ≠ "env" by decide),
    found_restoreTriggers fields (show "on" ≠ "jobs" by decide)]
  have jobs : (fields.field? "jobs").bind takenJobs = ((fields.field? "jobs").bind fun value =>
      (readJobs value).value?).map fun jobs => jobs.mapValues JobForm.settled :=
    Option.map_bind.symm
  rw [jobs]
  simp only [bind, pure, Option.map_eq_bind, Option.bind_assoc, Option.bind_some, Function.comp_apply]
  rfl

section

variable {fields fields' : Entries} {value value' : Document}

theorem taken_congr (kept : ∀ name ∈ ["name", "env", "jobs"], fields'.field? name = fields.field? name)
    (triggers : takenTriggers fields' = takenTriggers fields) : taken fields' = taken fields := by
  simp only [List.forall_mem_cons] at kept
  obtain ⟨name, env, jobs, _⟩ := kept
  rw [taken_eq, taken_eq, name, env, jobs, triggers]

theorem taken_of_on (replaced : Entries.Replaced (.text "on") value value' fields fields')
    (same : (readTriggers value').value? = (readTriggers value).value?) : taken fields' = taken fields := by
  have apart : ∀ name ∈ ["name", "env", "jobs"], name ≠ "on" := by decide
  have before : fields.field? "on" = some value := replaced.before
  have after : fields'.field? "on" = some value' := replaced.after
  refine taken_congr (fun name member => replaced.field? (apart name member)) ?_
  rw [takenTriggers, takenTriggers, triggersOf, triggersOf, before, after]
  exact same

theorem taken_of_bare (renamed : Entries.Renamed (.bool true) (.text "on") fields fields') :
    taken fields' = taken fields := by
  have apart : ∀ name ∈ ["triggers", "name", "env", "jobs"], name ≠ "on" := by decide
  have kept (name : String) (member : name ∈ ["triggers", "name", "env", "jobs"]) :
      fields'.field? name = fields.field? name :=
    renamed.kept _ rfl (Document.text_sameKey_text (apart name member))
  have moved : fields'.field? "on" = fields.get? (.bool true) := renamed.moved
  have free : fields.field? "on" = none := renamed.free
  refine taken_congr (fun name member => kept name (List.mem_cons_of_mem _ member)) ?_
  rw [takenTriggers, takenTriggers, triggersOf, triggersOf, moved, renamed.gone, free, Option.or_none,
    Option.none_or, kept "triggers" List.mem_cons_self]

theorem taken_of_jobs (replaced : Entries.Replaced (.text "jobs") value value' fields fields')
    (same : takenJobs value' = takenJobs value) : taken fields' = taken fields := by
  have kept {name : String} (apart : name ≠ "jobs") : fields'.field? name = fields.field? name :=
    replaced.field? apart
  have before : fields.field? "jobs" = some value := replaced.before
  have after : fields'.field? "jobs" = some value' := replaced.after
  have bare : fields'.get? (.bool true) = fields.get? (.bool true) := replaced.kept _ rfl
  have triggers : takenTriggers fields' = takenTriggers fields := by
    rw [takenTriggers, takenTriggers, triggersOf, triggersOf, bare, kept (by decide), kept (by decide)]
  rw [taken_eq, taken_eq, triggers, before, after, Option.bind_some, Option.bind_some, same, kept (by decide),
    kept (by decide)]

theorem taken_of_longer (longer : Longer fields fields') : taken fields' = taken fields := by
  cases longer with
  | event replaced => exact taken_of_on replaced rfl
  | events list replaced => exact taken_of_on replaced (value?_readTriggers_of_events list)
  | bare renamed => exact taken_of_bare renamed
  | job replaced inside =>
    exact taken_of_jobs replaced (takenJobs_congr (fun _ _ => value?_readJob_of_longer) inside)

end

end PipelineForm

end Schema

namespace Pipeline

/-- Two ways to end that are not told apart by what comes of them: the same pipeline, a refusal in both, or the
same crash. -/
structure EndsAlike (one other : Except Failure Pipeline) : Prop where
  taken : ∀ pipeline, one = .ok pipeline ↔ other = .ok pipeline
  refused : (∃ problem, one = .error (.problem problem)) ↔ ∃ problem, other = .error (.problem problem)
  broken : ∀ crash, one = .error (.crash crash) ↔ other = .error (.crash crash)

theorem EndsAlike.refl (result : Except Failure Pipeline) : EndsAlike result result :=
  ⟨fun _ => Iff.rfl, Iff.rfl, fun _ => Iff.rfl⟩

theorem EndsAlike.trans {one other third : Except Failure Pipeline} (first : EndsAlike one other)
    (second : EndsAlike other third) : EndsAlike one third :=
  ⟨fun pipeline => (first.taken pipeline).trans (second.taken pipeline), first.refused.trans second.refused,
    fun crash => (first.broken crash).trans (second.broken crash)⟩

theorem ofDocument_of_mapping (source : String) {document : Document} {fields : Entries}
    (mapping : document.opened = .map fields) :
    (∃ issues, PipelineForm.taken fields = none ∧
      ofDocument source document = .error (.problem (.invalidFields source issues))) ∨
    ∃ form, PipelineForm.taken fields = some form ∧
      ofDocument source document = form.toPipeline.mapError .crash := by
  rw [ofDocument, mapping, PipelineForm.taken]
  dsimp only
  cases PipelineForm.ofFields (restoreTriggers fields) with
  | invalid issues => exact .inl ⟨issues, rfl, rfl⟩
  | valid form => exact .inr ⟨form.settled, rfl, by rw [PipelineForm.toPipeline_settled]⟩

theorem endsAlike_of_taken (source : String) {document document' : Document} {fields fields' : Entries}
    (mapping : document.opened = .map fields) (mapping' : document'.opened = .map fields')
    (same : PipelineForm.taken fields' = PipelineForm.taken fields) :
    EndsAlike (ofDocument source document) (ofDocument source document') := by
  rcases ofDocument_of_mapping source mapping with ⟨issues, none, ended⟩ | ⟨form, read, ended⟩
  · rcases ofDocument_of_mapping source mapping' with ⟨issues', _, ended'⟩ | ⟨form', read', _⟩
    · rw [ended, ended']
      exact ⟨fun _ => by simp, iff_of_true ⟨_, rfl⟩ ⟨_, rfl⟩, fun _ => by simp⟩
    · rw [read', none] at same
      cases same
  · rcases ofDocument_of_mapping source mapping' with ⟨issues', none', _⟩ | ⟨form', read', ended'⟩
    · rw [none', read] at same
      cases same
    · rw [read', read] at same
      rw [ended, ended', Option.some.inj same]
      exact EndsAlike.refl _

theorem endsAlike_of_longer (source : String) {document document' : Document}
    (longer : OnFields Longer document document') :
    EndsAlike (ofDocument source document) (ofDocument source document') := by
  obtain ⟨fields, fields', mapping, mapping', inside⟩ := longer
  exact endsAlike_of_taken source mapping mapping' (PipelineForm.taken_of_longer inside)

/-- Writing out shorthands of a document, each at its own place and any number of them, changes nothing about what
comes of the document. -/
theorem ofDocument_writtenOut (source : String) {document document' : Document}
    (written : WrittenOut document document') :
    EndsAlike (ofDocument source document) (ofDocument source document') := by
  induction written with
  | refl => exact EndsAlike.refl _
  | tail _ longer ih => exact ih.trans (endsAlike_of_longer source longer)

def directoryStep (name : String) : Document :=
  .map [(.text "run", .text "make all"), (.text name, .text "src")]

def directoryJob (step needs : Document) (matrix : Document × Document) : Document :=
  .map [(.text "steps", .list [step]), (.text "needs", needs), matrix]

def directoryDocument (triggers : Document × Document) (job : Document) : Document :=
  .map [triggers, (.text "jobs", .map [(.text "build", job)])]

def shortDocument : Document :=
  directoryDocument (.bool true, .text "push")
    (directoryJob (directoryStep "working-directory") .null (.text "matrix", sampleAxes))

def longDocument : Document :=
  directoryDocument (.text "on", .map [(.text "push", .null)])
    (directoryJob (directoryStep "cwd") (.list []) (.text "strategy", .map [(.text "matrix", sampleAxes)]))

theorem longer_directoryDocument {value job job' : Document} (longer : OnFields LongerJob job job') :
    OnFields Longer (directoryDocument (.text "on", value) job) (directoryDocument (.text "on", value) job') := by
  refine ⟨_, _, rfl, rfl, .job (Entries.replaced_of_place [(.text "on", value)] [] (Document.firm_text "jobs") ?_
    _ _) ⟨[], .text "build", job, job', [], rfl, rfl, longer⟩⟩
  exact Entries.get?_eq_none_iff.2 (List.forall_mem_singleton.2 (Document.text_sameKey_text (by decide)))

theorem writtenOut_shortDocument : WrittenOut shortDocument longDocument := by
  have bare : OnFields Longer shortDocument (directoryDocument (.text "on", .text "push")
      (directoryJob (directoryStep "working-directory") .null (.text "matrix", sampleAxes))) :=
    ⟨_, _, rfl, rfl, .bare (Entries.renamed_of_place [] [_] _ (Document.firm_bool true) (Document.firm_text "on")
      rfl rfl rfl)⟩
  have event (job : Document) : OnFields Longer (directoryDocument (.text "on", .text "push") job)
      (directoryDocument (.text "on", .map [(.text "push", .null)]) job) :=
    ⟨_, _, rfl, rfl, .event (Entries.replaced_of_place [] [_] (Document.firm_text "on") rfl _ _)⟩
  have directory : OnFields OwnNamed (directoryStep "working-directory") (directoryStep "cwd") :=
    ⟨_, _, rfl, rfl, ("working-directory", "cwd"), by decide, Entries.renamed_of_place [_] []
      _ (Document.firm_text _) (Document.firm_text _) rfl rfl rfl⟩
  have step (needs : Document) (matrix : Document × Document) :
      OnFields LongerJob (directoryJob (directoryStep "working-directory") needs matrix)
        (directoryJob (directoryStep "cwd") needs matrix) :=
    ⟨_, _, rfl, rfl, .step (Entries.replaced_of_place [] [_, _] (Document.firm_text "steps") rfl _ _)
      ⟨[], _, _, [], .inl rfl, .inl rfl, directory⟩⟩
  have noNeeds (step : Document) (matrix : Document × Document) :
      OnFields LongerJob (directoryJob step .null matrix) (directoryJob step (.list []) matrix) :=
    ⟨_, _, rfl, rfl, .noNeeds (Entries.replaced_of_place [_] [_] (Document.firm_text "needs") rfl _ _)⟩
  have matrix (step needs : Document) : OnFields LongerJob (directoryJob step needs (.text "matrix", sampleAxes))
      (directoryJob step needs (.text "strategy", .map [(.text "matrix", sampleAxes)])) :=
    ⟨_, _, rfl, rfl, .matrix rfl
      (Entries.renamed_of_place [_, _] [] _ (Document.firm_text "matrix") (Document.firm_text "strategy") rfl rfl
        rfl)
      (Entries.replaced_of_place [_, _] [] (Document.firm_text "strategy") rfl _ _)⟩
  exact .tail (.tail (.tail (.tail (.tail .refl bare) (event _)) (longer_directoryDocument (step _ _)))
    (longer_directoryDocument (noNeeds _ _))) (longer_directoryDocument (matrix _ _))

theorem ofDocument_writtenOut_sample : EndsAlike (ofDocument "sample" shortDocument)
    (ofDocument "sample" longDocument) ∧ ∃ pipeline, ofDocument "sample" shortDocument = .ok pipeline ∧
      pipeline.triggers = [("push", .null)] := by
  have alike := ofDocument_writtenOut "sample" writtenOut_shortDocument
  refine ⟨alike, ?_⟩
  have read : ∃ pipeline, ofDocument "sample" longDocument = .ok pipeline ∧
      pipeline.triggers = [("push", .null)] := ⟨_, by with_unfolding_all rfl, rfl⟩
  obtain ⟨pipeline, taken, triggers⟩ := read
  exact ⟨pipeline, (alike.taken pipeline).2 taken, triggers⟩

end Pipeline

end CiPipeline
