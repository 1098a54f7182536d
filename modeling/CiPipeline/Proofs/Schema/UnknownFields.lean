import CiPipeline.Proofs.Schema.Shorthand

/-! Fields that nothing is known about. Adding one to the fields of a pipeline, a job, a strategy or a step changes
nothing, whatever its key and its value are, with one exception: at the top a key that counts as the truth value
reads as the triggers. -/
namespace CiPipeline

open CiPipeline.Schema

namespace Schema

/-- Mappings that differ in the value of one field, and in this are related. -/
def Under (name : String) (related : Document → Document → Prop) (fields fields' : Entries) : Prop :=
  ∃ value value', Entries.Replaced (.text name) value value' fields fields' ∧ related value value'

inductive Level
  | pipeline
  | job
  | strategy
  | step
deriving DecidableEq

namespace Level

def fieldNames : Level → List (Option String × String)
  | pipeline => [(none, "name"), (some "on", "triggers"), (none, "env"), (none, "jobs")]
  | job => [(none, "steps"), (none, "needs")] ++ JobForm.plainNames
  | strategy => [(none, "matrix")]
  | step => StepForm.fieldNames

/-- A key that belongs to no field of the level. At the top the truth value belongs to the triggers. -/
structure Unknown (level : Level) (key : Document) : Prop where
  unnamed : ∀ field ∈ level.fieldNames, ∀ used ∈ field.2 :: field.1.toList, key ≠ .text used
  not_bare : level = .pipeline → key ≠ .bool true

/-- The fields of a pipeline before and after an entry is added at a level. -/
def Extended (key value : Document) : Level → Entries → Entries → Prop
  | pipeline => Entries.Added key value
  | job => Under "jobs" (InMap (OnFields (Entries.Added key value)))
  | strategy => Under "jobs" (InMap (OnFields (Under "strategy" (OnFields (Entries.Added key value)))))
  | step => Under "jobs" (InMap (OnFields (Under "steps" (InList (OnFields (Entries.Added key value))))))

/-- A key that is not the truth value but counts as it, at the top of a document without triggers under their first
name. -/
structure ReadsAsTriggers (level : Level) (key : Document) (fields : Entries) : Prop where
  top : level = .pipeline
  same : key.sameKey (.bool true) = true
  free : fields.field? "on" = none

end Level

section

variable {key value : Document} {fields fields' : Entries}

theorem foundAlike_of_added {names : List (Option String × String)} (added : Entries.Added key value fields fields')
    (unnamed : ∀ field ∈ names, ∀ used ∈ field.2 :: field.1.toList, key ≠ .text used) :
    FoundAlike names fields fields' := by
  intro field member
  have kept (used : String) (there : used ∈ field.2 :: field.1.toList) : fields'.field? used = fields.field? used :=
    added.field? (unnamed field member used there)
  exact found_of_kept (kept field.2 List.mem_cons_self) fun other given =>
    kept other (List.mem_cons_of_mem _ (Option.mem_toList.2 given))

theorem value?_readStep_of_added (unknown : Level.step.Unknown key) {step step' : Document}
    (extended : OnFields (Entries.Added key value) step step') :
    (readStep step').value? = (readStep step).value? := by
  obtain ⟨fields, fields', mapping, mapping', added⟩ := extended
  have alike : FoundAlike StepForm.fieldNames fields fields' := foundAlike_of_added added unknown.unnamed
  rw [readStep, value?_readForm mapping, value?_readForm mapping', Checked.value?_andThen, Checked.value?_andThen,
    StepForm.value?_ofFields_congr alike]

theorem value?_readStrategy_of_added (unknown : Level.strategy.Unknown key) {strategy strategy' : Document}
    (extended : OnFields (Entries.Added key value) strategy strategy') :
    (readOptional readStrategy strategy').value? = (readOptional readStrategy strategy).value? := by
  obtain ⟨fields, fields', mapping, mapping', added⟩ := extended
  have not_null {document : Document} {entries : Entries} (mapping : document.opened = .map entries) :
      document ≠ .null := by
    rintro rfl
    cases mapping
  have matrix : found fields' none "matrix" = found fields none "matrix" :=
    foundAlike_of_added added unknown.unnamed (none, "matrix") (List.mem_singleton_self _)
  rw [readOptional_of_ne_null (not_null mapping), readOptional_of_ne_null (not_null mapping'), Checked.value?_map,
    Checked.value?_map, readStrategy, value?_readForm mapping, value?_readForm mapping', value?_readField,
    value?_readField, matrix]

end

namespace JobForm

variable {key value : Document} {fields fields' : Entries}

theorem value?_ofFields_of_added (unknown : Level.job.Unknown key) (added : Entries.Added key value fields fields') :
    (ofFields fields').value? = (ofFields fields).value? := by
  obtain ⟨items, plain⟩ := List.forall_mem_append.1 (foundAlike_of_added added unknown.unnamed)
  exact value?_ofFields_congr plain (value?_steps_congr (items (none, "steps") (by decide)))
    (value?_needs_congr (items (none, "needs") (by decide)))

theorem value?_ofFields_of_strategy {strategy strategy' : Document}
    (replaced : Entries.Replaced (.text "strategy") strategy strategy' fields fields')
    (same : (readOptional readStrategy strategy').value? = (readOptional readStrategy strategy).value?) :
    (ofFields fields').value? = (ofFields fields).value? := by
  have kept : FoundAlike [(none, "name"), (none, "steps"), (none, "needs"), (none, "matrix"), (none, "env"),
      (some "runs-on", "runs_on")] fields fields' := foundAlike_of_replaced replaced (by decide)
  simp only [FoundAlike, List.forall_mem_cons] at kept
  obtain ⟨name, steps, needs, matrix, env, runsOn, _⟩ := kept
  have before : found fields none "strategy" = some strategy := replaced.before
  have after : found fields' none "strategy" = some strategy' := replaced.after
  rw [value?_ofFields, value?_ofFields]
  simp only [value?_readField, value?_readRequired, before, after, Option.elim_some, same, name, steps, needs, matrix,
    env, runsOn]

end JobForm

theorem settled_readJob_congr {related : Entries → Entries → Prop}
    (same : ∀ fields fields', related fields fields' →
      (JobForm.ofFields fields').value? = (JobForm.ofFields fields).value?)
    {job job' : Document} (changed : OnFields related job job') :
    (readJob job').value?.map JobForm.settled = (readJob job).value?.map JobForm.settled := by
  obtain ⟨fields, fields', mapping, mapping', inside⟩ := changed
  rw [readJob, value?_readForm mapping, value?_readForm mapping']
  exact JobForm.taken_congr (same fields fields' inside)

namespace PipelineForm

variable {key value : Document} {fields fields' : Entries}

theorem taken_of_jobs_of {related : Entries → Entries → Prop}
    (same : ∀ fields fields', related fields fields' →
      (JobForm.ofFields fields').value? = (JobForm.ofFields fields).value?)
    (changed : Under "jobs" (InMap (OnFields related)) fields fields') : taken fields' = taken fields := by
  obtain ⟨jobs, jobs', replaced, inside⟩ := changed
  exact taken_of_jobs replaced (takenJobs_congr (fun _ _ => settled_readJob_congr same) inside)

/-- Below the top the keys are looked up by their names, and a key that is none of them is never met. -/
theorem taken_of_inner {level : Level} (unknown : level.Unknown key) (inner : level ≠ .pipeline)
    (extended : level.Extended key value fields fields') : taken fields' = taken fields := by
  cases level with
  | pipeline => exact absurd rfl inner
  | job => exact taken_of_jobs_of (fun _ _ => JobForm.value?_ofFields_of_added unknown) extended
  | strategy =>
    refine taken_of_jobs_of (fun fields fields' changed => ?_) extended
    obtain ⟨strategy, strategy', replaced, inside⟩ := changed
    exact JobForm.value?_ofFields_of_strategy replaced (value?_readStrategy_of_added unknown inside)
  | step =>
    refine taken_of_jobs_of (fun fields fields' changed => ?_) extended
    obtain ⟨steps, steps', replaced, inside⟩ := changed
    exact JobForm.value?_ofFields_of_steps replaced
      (value?_readSteps_congr (fun _ _ => value?_readStep_of_added unknown) inside)

theorem kept_of_added (unknown : Level.pipeline.Unknown key) (added : Entries.Added key value fields fields')
    {name : String} (known : name ∈ ["name", "on", "triggers", "env", "jobs"]) :
    fields'.field? name = fields.field? name := by
  have named : ∃ field ∈ Level.pipeline.fieldNames, name ∈ field.2 :: field.1.toList := by
    revert known name
    decide
  obtain ⟨field, member, used⟩ := named
  exact added.field? (unknown.unnamed field member name used)

theorem triggersOf_of_readsAsTriggers (added : Entries.Added key value fields fields')
    (unknown : Level.pipeline.Unknown key) (reads : Level.pipeline.ReadsAsTriggers key fields) :
    triggersOf fields' = some value := by
  have free : fields'.field? "on" = none := (kept_of_added unknown added (by decide)).trans reads.free
  rw [triggersOf, free, added.added _ reads.same, Option.none_or, Option.some_or]

theorem triggersOf_of_not_readsAsTriggers (added : Entries.Added key value fields fields')
    (unknown : Level.pipeline.Unknown key) (ignored : ¬Level.pipeline.ReadsAsTriggers key fields) :
    triggersOf fields' = triggersOf fields := by
  have on : fields'.field? "on" = fields.field? "on" := kept_of_added unknown added (by decide)
  have triggers : fields'.field? "triggers" = fields.field? "triggers" := kept_of_added unknown added (by decide)
  rw [triggersOf, triggersOf, on, triggers]
  cases same : key.sameKey (.bool true) with
  | false => rw [added.kept _ same]
  | true =>
    -- The first name of the triggers is there, and wins.
    cases named : fields.field? "on" with
    | none => exact absurd ⟨rfl, same, named⟩ ignored
    | some value => rfl

theorem taken_of_not_readsAsTriggers {level : Level} (unknown : level.Unknown key)
    (extended : level.Extended key value fields fields') (ignored : ¬level.ReadsAsTriggers key fields) :
    taken fields' = taken fields := by
  by_cases inner : level = .pipeline
  · subst inner
    refine taken_congr (fun name member => ?_) ?_
    · have known : ∀ name ∈ ["name", "env", "jobs"], name ∈ ["name", "on", "triggers", "env", "jobs"] := by decide
      exact kept_of_added unknown extended (known name member)
    · rw [takenTriggers, takenTriggers, triggersOf_of_not_readsAsTriggers extended unknown ignored]
  · exact taken_of_inner unknown inner extended

theorem taken_of_readsAsTriggers (unknown : Level.pipeline.Unknown key)
    (added : Entries.Added key value fields fields') (reads : Level.pipeline.ReadsAsTriggers key fields)
    {form : PipelineForm} (read : taken fields = some form) :
    taken fields' = (readTriggers value).value?.map fun triggers => { form with triggers := triggers } := by
  have kept {name : String} (known : name ∈ ["name", "on", "triggers", "env", "jobs"]) :
      fields'.field? name = fields.field? name := kept_of_added unknown added known
  have triggers : takenTriggers fields' = (readTriggers value).value? := by
    rw [takenTriggers, triggersOf_of_readsAsTriggers added unknown reads, Option.elim_some]
  rw [taken_eq] at read
  obtain ⟨name, read_name, read⟩ := Option.bind_eq_some_iff.1 read
  obtain ⟨before, _, read⟩ := Option.bind_eq_some_iff.1 read
  obtain ⟨env, read_env, read⟩ := Option.bind_eq_some_iff.1 read
  obtain ⟨jobs, read_jobs, read⟩ := Option.bind_eq_some_iff.1 read
  obtain rfl := Option.some.inj read
  rw [taken_eq, kept (by decide), kept (by decide), kept (by decide), triggers, read_name, read_env, read_jobs]
  cases (readTriggers value).value? <;> rfl

theorem toPipeline_with {form : PipelineForm} {pipeline : Pipeline} (made : form.toPipeline = .ok pipeline)
    (triggers : Keyed Document) : form.triggers = pipeline.triggers ∧
      { form with triggers := triggers }.toPipeline = .ok { pipeline with triggers := triggers } := by
  obtain ⟨jobs, made_jobs, made⟩ := Success.bind_iff.1 made
  obtain ⟨env, spelled, made⟩ := Success.bind_iff.1 made
  obtain rfl := Except.ok.inj made
  exact ⟨rfl, Success.bind_iff.2 ⟨jobs, made_jobs, Success.bind_iff.2 ⟨env, spelled, rfl⟩⟩⟩

end PipelineForm

end Schema

namespace Pipeline

section

variable {level : Level} {key value : Document} {fields fields' : Entries} {document document' : Document}
  {pipeline : Pipeline}

theorem ofDocument_of_readsAsTriggers (source : String) (mapping : document.opened = .map fields)
    (mapping' : document'.opened = .map fields') (accepted : ofDocument source document = .ok pipeline)
    (unknown : Level.pipeline.Unknown key) (added : Entries.Added key value fields fields')
    (reads : Level.pipeline.ReadsAsTriggers key fields) :
    (∀ triggers, (readTriggers value).value? = some triggers →
      ofDocument source document' = .ok { pipeline with triggers := triggers }) ∧
    ((readTriggers value).value? = none →
      ∃ issues, ofDocument source document' = .error (.problem (.invalidFields source issues))) := by
  rcases ofDocument_of_mapping source mapping with ⟨issues, _, ended⟩ | ⟨form, read, ended⟩
  · cases ended.symm.trans accepted
  have made : form.toPipeline = .ok pipeline := Success.mapError_iff.1 (ended.symm.trans accepted)
  have after := PipelineForm.taken_of_readsAsTriggers unknown added reads read
  rcases ofDocument_of_mapping source mapping' with ⟨issues, read', ended'⟩ | ⟨form', read', ended'⟩
  · rw [read'] at after
    refine ⟨fun triggers taken => ?_, fun _ => ⟨issues, ended'⟩⟩
    rw [taken] at after
    cases after
  · rw [read'] at after
    refine ⟨fun triggers taken => ?_, fun taken => ?_⟩
    · rw [taken] at after
      rw [ended', Option.some.inj after]
      exact Success.mapError_iff.2 (PipelineForm.toPipeline_with made triggers).2
    · rw [taken] at after
      cases after

/-- An entry with an unknown key changes nothing about the pipeline of an accepted document, at whatever level it is
added and whatever its value is, unless the key reads as the triggers. These are the same exactly if the value is
taken for them, and otherwise all that is different: the document is refused, or has the triggers of the value. -/
theorem ofDocument_extended_iff (source : String) (mapping : document.opened = .map fields)
    (mapping' : document'.opened = .map fields') (accepted : ofDocument source document = .ok pipeline)
    (unknown : level.Unknown key) (extended : level.Extended key value fields fields') :
    (ofDocument source document' = .ok pipeline ↔
      (level.ReadsAsTriggers key fields → (readTriggers value).value? = some pipeline.triggers)) ∧
    (level.ReadsAsTriggers key fields →
      (∀ triggers, (readTriggers value).value? = some triggers →
        ofDocument source document' = .ok { pipeline with triggers := triggers }) ∧
      ((readTriggers value).value? = none →
        ∃ issues, ofDocument source document' = .error (.problem (.invalidFields source issues)))) := by
  by_cases reads : level.ReadsAsTriggers key fields
  · obtain rfl := reads.top
    have ended := ofDocument_of_readsAsTriggers source mapping mapping' accepted unknown extended reads
    refine ⟨⟨fun same _ => ?_, fun taken => ended.1 _ (taken reads)⟩, fun _ => ended⟩
    cases taken : (readTriggers value).value? with
    | none =>
      obtain ⟨issues, refused⟩ := ended.2 taken
      cases same.symm.trans refused
    | some triggers =>
      have changed := Except.ok.inj (same.symm.trans (ended.1 triggers taken))
      rw [changed]
  · have alike := endsAlike_of_taken source mapping mapping'
      (PipelineForm.taken_of_not_readsAsTriggers unknown extended reads)
    exact ⟨iff_of_true ((alike.taken pipeline).1 accepted) fun read => absurd read reads,
      fun read => absurd read reads⟩

end

def singleFields (step : Entries) : Entries :=
  [(.text "jobs", .map [(.text "build", .map [(.text "steps", .list [.map step])])])]

def single : Pipeline where
  name := "pipeline"
  jobs := [
    { name := "build", steps := [⟨"make", "make", none, none, [], none⟩], needs := [], matrix := [], env := []
      title := none, runsOn := none }]
  env := []
  triggers := []

theorem ofDocument_single (source : String) :
    ofDocument source (.map (singleFields [(.text "run", .text "make")])) = .ok single := by
  with_unfolding_all rfl

theorem ofDocument_extended_sample : Level.step.Unknown (.bool true) ∧
    ofDocument "sample" (.map (singleFields [(.text "run", .text "make"), (.bool true, .list [.null])])) =
      .ok single := by
  have unknown : Level.step.Unknown (.bool true) :=
    ⟨fun _ _ _ _ same => Document.noConfusion same, fun top => Level.noConfusion top⟩
  have added : Entries.Added (.bool true) (.list [.null]) [(.text "run", .text "make")]
      [(.text "run", .text "make"), (.bool true, .list [.null])] :=
    Entries.added_of_place [_] [] (Entries.get?_of_texts
      (List.forall_mem_singleton.2 ⟨"run", rfl, Document.noConfusion⟩)) _
  have extended : Level.step.Extended (.bool true) (.list [.null]) (singleFields [(.text "run", .text "make")])
      (singleFields [(.text "run", .text "make"), (.bool true, .list [.null])]) :=
    ⟨_, _, Entries.replaced_of_place [] [] (Document.firm_text "jobs") rfl _ _,
      [], _, _, _, [], rfl, rfl, _, _, rfl, rfl,
      _, _, Entries.replaced_of_place [] [] (Document.firm_text "steps") rfl _ _,
      [], _, _, [], .inl rfl, .inl rfl, _, _, rfl, rfl, added⟩
  exact ⟨unknown, (ofDocument_extended_iff "sample" rfl rfl (ofDocument_single "sample") unknown extended).1.2
    fun reads => Level.noConfusion reads.top⟩

/-- At the top the number one is read as the triggers, as it counts as the truth value. -/
theorem not_ofDocument_extended : Level.pipeline.Unknown (.int 1) ∧
    Level.pipeline.Extended (.int 1) (.text "push") (singleFields [(.text "run", .text "make")])
      ((.int 1, .text "push") :: singleFields [(.text "run", .text "make")]) ∧
    ofDocument "<pipeline>" (.map (singleFields [(.text "run", .text "make")])) = .ok single ∧
    ofDocument "<pipeline>" (.map ((.int 1, .text "push") :: singleFields [(.text "run", .text "make")])) =
      .ok { single with triggers := [("push", .null)] } ∧
    { single with triggers := [("push", .null)] } ≠ single := by
  refine ⟨⟨fun _ _ _ _ same => Document.noConfusion same, fun _ same => Document.noConfusion same⟩, ?_,
    ofDocument_single "<pipeline>", by with_unfolding_all rfl, fun same => ?_⟩
  · exact Entries.added_of_place [] _ (Entries.get?_of_texts
      (List.forall_mem_singleton.2 ⟨"jobs", rfl, Document.noConfusion⟩)) _
  · cases congrArg Pipeline.triggers same

end Pipeline

end CiPipeline
