import CiPipeline.Declare
import CiPipeline.Proofs.Loading
import CiPipeline.Proofs.Run.Rendering
import CiPipeline.Proofs.Schema.WellFormed
import CiPipeline.Workflow

/-! The same variables, written down in a document, in a workflow, and in declarations of steps and jobs. The first
two use the spelling of documents and the others the plain one, so that all of them agree exactly where no value is
a truth value, or where none of them comes to an end because a number is too long. -/
namespace CiPipeline.Environment

open Schema

def written (bindings : Keyed Scalar) : Document :=
  .map (bindings.map fun entry => (.text entry.1, entry.2.toDocument))

def drafted (env : Env) : Declare.DraftEnv := env.map fun entry => (.text entry.1, entry.2)

/-- Documents and workflows take the mapping, and all their places for variables make the same of it: texts, or a
crash. -/
structure InDocuments (bindings : Keyed Scalar) (ended : Except Crash Env) : Prop where
  taken : readEnv (written bindings) = .valid bindings
  step : ∀ fields form, StepForm.ofFields fields = .valid form →
    fields.field? "env" = some (written bindings) → form.toStep.map (·.env) = ended
  job : ∀ fields form, JobForm.ofFields fields = .valid form →
    fields.field? "env" = some (written bindings) → ∀ key job, form.toJob key = .ok job → ended = .ok job.env
  pipeline : ∀ fields form, PipelineForm.ofFields fields = .valid form →
    fields.field? "env" = some (written bindings) →
      ∀ pipeline, form.toPipeline = .ok pipeline → ended = .ok pipeline.env
  workflow : Workflow.envOf (some (written bindings)) = ended

structure InDeclarations (bindings : Keyed Scalar) (ended : Except Crash Env) : Prop where
  step : ∀ name run cwd timeout shell,
    (Declare.step name run cwd timeout (written bindings) shell).map (·.env) = ended.map drafted
  job : ∀ name steps axes parts needs, steps.isEmpty = false → Declare.givenItems parts.needs = .ok needs →
    parts.env = written bindings →
      (Declare.job name steps (.ok axes) parts).map (·.env) = ended.map drafted
  builder : ∀ builder : Declare.Builder,
    (builder.withEnv (bindings.mapValues Scalar.toDocument)).map (·.env) = ended.map builder.env.putAll

def spelledWith (spelling : Scalar → String) (bindings : Keyed Scalar) : Except Crash Env :=
  if bindings.any fun entry => entry.2.toDocument.hasLongNumber then .error .longNumber
  else .ok (bindings.mapValues spelling)

theorem spelledWith_of_long {bindings : Keyed Scalar} (long : HasLongNumber bindings) (spelling : Scalar → String) :
    spelledWith spelling bindings = .error .longNumber :=
  if_pos (List.any_eq_true.2 long)

theorem spelledWith_of_short {bindings : Keyed Scalar} (short : ¬HasLongNumber bindings)
    (spelling : Scalar → String) : spelledWith spelling bindings = .ok (bindings.mapValues spelling) :=
  if_neg fun long => short (List.any_eq_true.1 long)

theorem mapValues_eq_iff {bindings : Keyed Scalar} {one other : Scalar → String} :
    bindings.mapValues one = bindings.mapValues other ↔ ∀ entry ∈ bindings, one entry.2 = other entry.2 := by
  rw [Keyed.mapValues, Keyed.mapValues, List.map_inj_left]
  simp only [Prod.mk.injEq, true_and]

theorem spellEnv_eq (bindings : Keyed Scalar) : spellEnv bindings = spelledWith Scalar.spelled bindings := rfl

theorem spelledWith_eq_iff {bindings : Keyed Scalar} :
    spelledWith Scalar.spelled bindings = spelledWith Scalar.plain bindings ↔
      HasLongNumber bindings ∨ ∀ entry ∈ bindings, ∀ truth, entry.2 ≠ .bool truth := by
  by_cases long : HasLongNumber bindings
  · rw [spelledWith_of_long long, spelledWith_of_long long]
    exact iff_of_true rfl (.inl long)
  · rw [spelledWith_of_short long, spelledWith_of_short long, Except.ok.injEq, mapValues_eq_iff,
      or_iff_right long]
    exact forall₂_congr fun entry _ => Scalar.spelled_eq_plain_iff

section

variable {bindings : Keyed Scalar}

theorem readScalar_toDocument (value : Scalar) : readScalar value.toDocument = .valid value := by
  cases value <;> rfl

theorem anyLongEntry_written (bindings : Keyed Scalar) :
    Document.anyLongEntry (bindings.map fun entry => (.text entry.1, entry.2.toDocument)) =
      bindings.any fun entry => entry.2.toDocument.hasLongNumber := by
  induction bindings with
  | nil => rfl
  | cons entry rest ih =>
    have key : (Document.text entry.1).hasLongNumber = false := rfl
    rw [List.map_cons, Document.anyLongEntry, ih, List.any_cons, key, Bool.false_or]

theorem spellPlainly_map {κ : Type} (key : String → κ) (bindings : Keyed Scalar) :
    Declare.spellPlainly (bindings.map fun entry => (key entry.1, entry.2.toDocument)) =
      (spelledWith Scalar.plain bindings).map fun env => env.map fun entry => (key entry.1, entry.2) := by
  rw [Declare.spellPlainly, spelledWith, List.any_map]
  simp only [Function.comp_def]
  split
  · rfl
  · rw [Except.map, Keyed.mapValues, List.map_map, List.map_map]
    rfl

theorem env_written (bindings : Keyed Scalar) :
    Declare.env (written bindings) = (spelledWith Scalar.plain bindings).map drafted :=
  spellPlainly_map Document.text bindings

theorem drafted_injective : Function.Injective drafted :=
  List.map_injective_iff.2 fun _ _ same =>
    Prod.ext (Document.text.inj (Prod.mk.inj same).1) (Prod.mk.inj same).2

theorem map_drafted_injective : Function.Injective (Except.map drafted : Except Crash Env → _) := by
  intro one other same
  cases one <;> cases other
  case ok.ok => exact congrArg _ (drafted_injective (Except.ok.inj same))
  case error.error => exact congrArg _ (Except.error.inj same)
  all_goals cases same

theorem inDeclarations_plain (bindings : Keyed Scalar) :
    InDeclarations bindings (spelledWith Scalar.plain bindings) where
  step name run cwd timeout shell := by
    rw [Declare.step, env_written]
    cases spelledWith Scalar.plain bindings <;> rfl
  job name steps axes parts needs filled walked same := by
    rw [Declare.job, filled, walked, same, env_written]
    cases spelledWith Scalar.plain bindings <;> rfl
  builder builder := by
    have spelled : Declare.spellPlainly (bindings.mapValues Scalar.toDocument) =
        (spelledWith Scalar.plain bindings).map fun env => env.map id :=
      spellPlainly_map id bindings
    rw [Declare.Builder.withEnv, spelled]
    cases spelledWith Scalar.plain bindings with
    | error crash => rfl
    | ok env => exact congrArg (Except.ok ∘ builder.env.putAll) (List.map_id env)

theorem InDeclarations.eq {ended : Except Crash Env} (declared : InDeclarations bindings ended) :
    ended = spelledWith Scalar.plain bindings :=
  map_drafted_injective ((declared.step "" "" .null .null .null).symm.trans
    ((inDeclarations_plain bindings).step "" "" .null .null .null))

variable (distinct : bindings.names.Nodup)
include distinct

theorem readEnv_written : readEnv (written bindings) = .valid bindings := by
  have each : List.Forall₂ (fun entry result : String × Scalar =>
      Checked.both (readKey (.text entry.1)) ((readScalar entry.2.toDocument).under (keyPlace (.text entry.1))) =
        .valid result) bindings bindings := by
    refine List.forall₂_same.2 fun entry _ => Checked.both_eq_valid_iff.2 ⟨rfl, ?_⟩
    exact Checked.under_eq_valid_iff.2 (readScalar_toDocument entry.2)
  have all := Checked.all_map_eq_valid_iff.2 each
  have entries : readEnv (written bindings) = (Checked.all ((bindings.map fun entry =>
      (Document.text entry.1, entry.2.toDocument)).map fun entry =>
        Checked.both (readKey entry.1) ((readScalar entry.2).under (keyPlace entry.1)))).map Keyed.ofPairs := rfl
  rw [entries, List.map_map]
  exact Checked.map_eq_valid_iff.2 ⟨bindings, all, Keyed.ofPairs_of_nodup distinct⟩

theorem envOf_written : Workflow.envOf (some (written bindings)) = spelledWith Scalar.spelled bindings := by
  have names : Keyed.names (bindings.mapValues Scalar.spelled) = bindings.names := Keyed.names_mapValues _ _
  have texts : (bindings.map fun entry => (Document.text entry.1, entry.2.toDocument)).map
      (fun entry => (entry.1.render, entry.2.spelled)) = bindings.mapValues Scalar.spelled :=
    List.map_map ..
  have entries : Workflow.envOf (some (written bindings)) =
      if Document.anyLongEntry (bindings.map fun entry => (.text entry.1, entry.2.toDocument))
      then .error .longNumber
      else .ok (Keyed.ofPairs ((bindings.map fun entry => (Document.text entry.1, entry.2.toDocument)).map
        fun entry => (entry.1.render, entry.2.spelled))) := rfl
  rw [entries, anyLongEntry_written, texts, Keyed.ofPairs_of_nodup (names.symm ▸ distinct), spelledWith]

theorem eq_of_readField {fields : Entries} {env : Keyed Scalar}
    (valid : readField fields none "env" [] readEnv = .valid env)
    (found : fields.field? "env" = some (written bindings)) : env = bindings := by
  rcases readField_eq_valid_iff.1 valid with ⟨missing, _⟩ | ⟨value, here, read⟩
  · cases missing.symm.trans found
  · obtain rfl := Option.some.inj (found.symm.trans here)
    exact (Checked.valid.inj ((readEnv_written distinct).symm.trans read)).symm

theorem inDocuments_spelled : InDocuments bindings (spelledWith Scalar.spelled bindings) where
  taken := readEnv_written distinct
  step fields form valid found := by
    obtain ⟨_, _, _, read⟩ := StepForm.ofFields_valid valid
    rw [StepForm.toStep, eq_of_readField distinct read found, spellEnv_eq]
    cases spelledWith Scalar.spelled bindings <;> rfl
  job fields form valid found key job converted := by
    obtain ⟨_, _, _, read⟩ := JobForm.ofFields_valid valid
    obtain ⟨steps, _, converted⟩ := Success.bind_iff.1 converted
    obtain ⟨env, spelled, same⟩ := Success.bind_iff.1 converted
    obtain rfl := Except.ok.inj same
    rwa [eq_of_readField distinct read found] at spelled
  pipeline fields form valid found pipeline converted := by
    obtain ⟨read, _⟩ := PipelineForm.ofFields_valid valid
    obtain ⟨jobs, _, converted⟩ := Success.bind_iff.1 converted
    obtain ⟨env, spelled, same⟩ := Success.bind_iff.1 converted
    obtain rfl := Except.ok.inj same
    rwa [eq_of_readField distinct read found] at spelled
  workflow := envOf_written distinct

theorem InDocuments.eq {ended : Except Crash Env} (read : InDocuments bindings ended) :
    ended = spelledWith Scalar.spelled bindings :=
  read.workflow.symm.trans (envOf_written distinct)

/-- Documents and workflows make one thing of a mapping and declarations another. They are the same exactly if no
value is a truth value, or if some number among them is too long to be written out. -/
theorem exists_inBoth_iff :
    InDocuments bindings (spelledWith Scalar.spelled bindings) ∧
      InDeclarations bindings (spelledWith Scalar.plain bindings) ∧
      ((∃ ended, InDocuments bindings ended ∧ InDeclarations bindings ended) ↔
        HasLongNumber bindings ∨ ∀ entry ∈ bindings, ∀ truth, entry.2 ≠ .bool truth) := by
  refine ⟨inDocuments_spelled distinct, inDeclarations_plain bindings, ?_⟩
  rw [← spelledWith_eq_iff]
  constructor
  · rintro ⟨ended, read, declared⟩
    exact (read.eq distinct).symm.trans declared.eq
  · intro same
    exact ⟨_, inDocuments_spelled distinct, same ▸ inDeclarations_plain bindings⟩

end

theorem exists_inBoth_sample :
    (Keyed.names [("NAME", Scalar.text "true"), ("COUNT", .int 3)]).Nodup ∧
    ∃ ended, InDocuments [("NAME", .text "true"), ("COUNT", .int 3)] ended ∧
      InDeclarations [("NAME", .text "true"), ("COUNT", .int 3)] ended := by
  have distinct : (Keyed.names [("NAME", Scalar.text "true"), ("COUNT", .int 3)]).Nodup := by decide
  have plain : ∀ entry ∈ [("NAME", Scalar.text "true"), ("COUNT", .int 3)], ∀ truth, entry.2 ≠ .bool truth := by
    decide
  exact ⟨distinct, (exists_inBoth_iff distinct).2.2.2 (.inr plain)⟩

def switched : Keyed Scalar := [("FAST", .bool true)]

/-- The value reads as it was written in a step of a document and in a workflow, but not in a step that is
declared. -/
theorem not_inBoth : switched.names.Nodup ∧
    (∀ fields form, StepForm.ofFields fields = .valid form → fields.field? "env" = some (written switched) →
      form.toStep.map (·.env) = .ok [("FAST", "true")]) ∧
    Workflow.envOf (some (written switched)) = .ok [("FAST", "true")] ∧
    (Declare.step "s" "x" .null .null (written switched) .null).map (·.env) = .ok [(.text "FAST", "True")] ∧
    ¬∃ ended, InDocuments switched ended ∧ InDeclarations switched ended := by
  have distinct : switched.names.Nodup := by decide
  refine ⟨distinct, (inDocuments_spelled distinct).step, envOf_written distinct,
    (inDeclarations_plain switched).step _ _ _ _ _, ?_⟩
  rintro ⟨ended, read, declared⟩
  have same : spelledWith Scalar.spelled switched = spelledWith Scalar.plain switched :=
    (read.eq distinct).symm.trans declared.eq
  rcases spelledWith_eq_iff.1 same with ⟨entry, member, long⟩ | plain
  · obtain rfl := List.mem_singleton.1 member
    cases long
  · exact plain ("FAST", .bool true) (List.mem_singleton_self _) true rfl

end CiPipeline.Environment
