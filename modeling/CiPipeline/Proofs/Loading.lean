import CiPipeline.Loading
import CiPipeline.Proofs.Success

/-! How reading a document can fail. Whatever is found wrong with a document is told as a problem of parsing,
but some scalars and some numbers end in a crash instead; these are told apart exactly. -/
namespace CiPipeline

/-- A computation that fails under a condition and only then, and in no way but one. -/
def FailsJust {ε α : Type} (failure : ε) (condition : Prop) (result : Except ε α) : Prop :=
  ∀ other, result = .error other ↔ condition ∧ other = failure

namespace FailsJust

variable {ε α β : Type} {failure : ε} {p q : Prop}

theorem ok (value : α) : FailsJust failure False (Except.ok value : Except ε α) :=
  fun _ => iff_of_false (by simp) fun both => both.1

theorem error (holds : p) : FailsJust failure p (Except.error failure : Except ε α) :=
  fun _ => ⟨fun same => ⟨holds, (Except.error.inj same).symm⟩, fun both => both.2 ▸ rfl⟩

theorem map {result : Except ε α} (fails : FailsJust failure p result) (f : α → β) :
    FailsJust failure p (result.map f) :=
  fun other => Success.map_error_iff.trans (fails other)

theorem bind {first : Except ε α} {next : α → Except ε β} (fails : FailsJust failure p first)
    (later : ∀ value, FailsJust failure q (next value)) :
    FailsJust failure (p ∨ q) (first >>= next) := by
  intro other
  cases first with
  | error raised =>
    obtain ⟨holds, rfl⟩ := (fails raised).1 rfl
    exact error (.inl holds) other
  | ok value =>
    have fine : ¬p := fun holds => by cases (fails failure).2 ⟨holds, rfl⟩
    rw [or_iff_right fine]
    exact later value other

theorem mapM {f : α → Except ε β} {condition : α → Prop} {items : List α}
    (fails : ∀ item, FailsJust failure (condition item) (f item)) :
    FailsJust failure (∃ item ∈ items, condition item) (items.mapM f) := by
  induction items with
  | nil =>
    simp only [List.not_mem_nil, false_and, exists_false]
    exact ok []
  | cons item rest ih =>
    have both := (fails item).bind fun value => ih.bind fun values => ok (value :: values)
    rw [or_false] at both
    rw [List.mapM_cons]
    simp only [List.mem_cons, exists_eq_or_imp]
    exact both

end FailsJust

namespace Schema

def HasLongNumber (env : Keyed Scalar) : Prop :=
  ∃ entry ∈ env, entry.2.toDocument.hasLongNumber = true

theorem failsJust_spellEnv (env : Keyed Scalar) :
    FailsJust Crash.longNumber (HasLongNumber env) (spellEnv env) := by
  rw [spellEnv]
  split
  · rename_i long
    exact .error (List.any_eq_true.1 long)
  · rename_i short
    have none : ¬HasLongNumber env := fun long => short (List.any_eq_true.2 long)
    rw [eq_false none]
    exact .ok _

def StepForm.HasLongNumber (form : StepForm) : Prop := Schema.HasLongNumber form.env

def JobForm.HasLongNumber (form : JobForm) : Prop :=
  (∃ step ∈ form.steps, step.HasLongNumber) ∨ Schema.HasLongNumber form.env

def PipelineForm.HasLongNumber (form : PipelineForm) : Prop :=
  (∃ entry ∈ form.jobs, entry.2.HasLongNumber) ∨ Schema.HasLongNumber form.env

theorem StepForm.failsJust_toStep (form : StepForm) :
    FailsJust Crash.longNumber form.HasLongNumber form.toStep :=
  (failsJust_spellEnv form.env).map _

theorem JobForm.failsJust_toJob (key : String) (form : JobForm) :
    FailsJust Crash.longNumber form.HasLongNumber (form.toJob key) := by
  have steps : FailsJust Crash.longNumber (∃ step ∈ form.steps, step.HasLongNumber)
      (form.steps.mapM StepForm.toStep) := .mapM StepForm.failsJust_toStep
  have parts := steps.bind fun steps => (failsJust_spellEnv form.env).bind fun env =>
    .ok (Job.mk key steps form.needs ((form.matrix <|> form.strategy).getD []) env form.name
      form.runsOn)
  rw [or_false] at parts
  exact parts

theorem PipelineForm.failsJust_toPipeline (form : PipelineForm) :
    FailsJust Crash.longNumber form.HasLongNumber form.toPipeline := by
  have jobs : FailsJust Crash.longNumber (∃ entry ∈ form.jobs, entry.2.HasLongNumber)
      (form.jobs.mapM fun entry => entry.2.toJob entry.1) :=
    .mapM fun entry => entry.2.failsJust_toJob entry.1
  have parts := jobs.bind fun jobs => (failsJust_spellEnv form.env).bind fun env =>
    .ok (Pipeline.mk form.name jobs env form.triggers)
  rw [or_false] at parts
  exact parts

end Schema

namespace Pipeline

open Schema

def readCrash? (text : String) : Option Crash :=
  match Yaml.read text with
  | .error fault => fault.crash?
  | .ok _ => none

/-- Texts that end in a crash: some scalar in them breaks the reader, or what they describe is valid but binds
a variable to a number that is too long. -/
inductive Escapes (text : String) : Crash → Prop
  | scalar {crash} (broken : readCrash? text = some crash) : Escapes text crash
  | number {document fields form} (read : Yaml.read text = .ok document)
    (mapping : document.opened = .map fields)
    (valid : PipelineForm.ofFields (restoreTriggers fields) = .valid form)
    (long : form.HasLongNumber) : Escapes text .longNumber

def escapingKinds : List String :=
  ["ValueError", "OverflowError", "KeyError", "IndexError", "AttributeError", "TypeError",
    "RecursionError"]

theorem kind_mem_of_crash? {fault : Yaml.ValueFault} {crash : Crash}
    (escapes : fault.crash? = some crash) : crash.kind ∈ escapingKinds := by
  cases fault <;> rw [Yaml.ValueFault.crash?] at escapes
  case invalid => cases escapes
  case badInt base text fault =>
    rw [← Option.some.inj escapes]
    cases fault <;> simp [Crash.badWhole, Crash.badValue, escapingKinds]
  all_goals
    rw [← Option.some.inj escapes]
    simp [Crash.badValue, Crash.missingKey, Crash.noAttribute, escapingKinds]

theorem Escapes.kind_mem {text : String} {crash : Crash} (escapes : Escapes text crash) :
    crash.kind ∈ escapingKinds := by
  cases escapes with
  | scalar broken =>
    rw [readCrash?] at broken
    split at broken
    · exact kind_mem_of_crash? broken
    · cases broken
  | number => simp [Crash.longNumber, Crash.badValue, escapingKinds]

theorem kind_of_ofDocument {source : String} {document : Document} {problem : Problem}
    (refused : ofDocument source document = .error (.problem problem)) : problem.kind = .parse := by
  rw [ofDocument] at refused
  split at refused
  · split at refused
    · rename_i form _
      cases converted : form.toPipeline with
      | ok pipeline => rw [converted] at refused; cases refused
      | error crash => rw [converted] at refused; cases refused
    · rw [← Failure.problem.inj (Except.error.inj refused), Problem.kind]
  · rw [← Failure.problem.inj (Except.error.inj refused), Problem.kind]

theorem ofDocument_crash_iff {source : String} {document : Document} {crash : Crash} :
    ofDocument source document = .error (.crash crash) ↔
      ∃ fields form, document.opened = .map fields ∧
        PipelineForm.ofFields (restoreTriggers fields) = .valid form ∧
        form.HasLongNumber ∧ crash = .longNumber := by
  have converted (form : PipelineForm) :
      (form.toPipeline.mapError Failure.crash = .error (.crash crash)) ↔
        form.HasLongNumber ∧ crash = .longNumber := by
    rw [← form.failsJust_toPipeline crash]
    cases form.toPipeline <;> simp [Except.mapError]
  rw [ofDocument]
  split
  · rename_i fields mapping
    split
    · rename_i form valid
      rw [converted]
      constructor
      · rintro ⟨long, rfl⟩
        exact ⟨fields, form, mapping, valid, long, rfl⟩
      · rintro ⟨fields', form', mapping', valid', long, rfl⟩
        obtain rfl := Document.map.inj (mapping.symm.trans mapping')
        obtain rfl := Checked.valid.inj (valid.symm.trans valid')
        exact ⟨long, rfl⟩
    · rename_i issues invalid
      refine iff_of_false (by simp) ?_
      rintro ⟨fields', form, mapping', valid, _⟩
      obtain rfl := Document.map.inj (mapping.symm.trans mapping')
      rw [invalid] at valid
      cases valid
  · rename_i other
    refine iff_of_false (by simp) ?_
    rintro ⟨fields, _, mapping, _⟩
    exact other fields mapping

section

variable {source text : String} {crash : Crash}

theorem escapes_iff_of_broken {fault : Yaml.ValueFault} (broken : Yaml.read text = .error fault) :
    Escapes text crash ↔ fault.crash? = some crash := by
  have known : readCrash? text = fault.crash? := by rw [readCrash?, broken]
  constructor
  · intro escapes
    cases escapes with
    | scalar crashed => exact known ▸ crashed
    | number read =>
      rw [broken] at read
      cases read
  · exact fun crashed => .scalar (known.trans crashed)

theorem escapes_iff_of_read {document : Document} (read : Yaml.read text = .ok document) :
    Escapes text crash ↔ ofDocument source document = .error (.crash crash) := by
  rw [ofDocument_crash_iff]
  constructor
  · intro escapes
    cases escapes with
    | scalar crashed =>
      rw [readCrash?, read] at crashed
      cases crashed
    | number read' mapping valid long =>
      obtain rfl := Except.ok.inj (read.symm.trans read')
      exact ⟨_, _, mapping, valid, long, rfl⟩
  · rintro ⟨fields, form, mapping, valid, long, rfl⟩
    exact .number read mapping valid long

theorem kind_of_ofText {problem : Problem}
    (refused : ofText source text = .error (.problem problem)) : problem.kind = .parse := by
  rw [ofText] at refused
  split at refused
  · rw [← Failure.problem.inj (Except.error.inj refused), Problem.kind]
  · split at refused
    · split at refused
      · rw [← Failure.problem.inj (Except.error.inj refused), Problem.kind]
      · cases refused
    · exact kind_of_ofDocument refused

theorem ofText_crash_iff : ofText source text = .error (.crash crash) ↔
    Text.isBlankText text = false ∧ Escapes text crash := by
  rw [ofText]
  split
  · rename_i blank
    exact iff_of_false (by simp) fun both => Bool.noConfusion (blank.symm.trans both.1)
  · rename_i filled
    rw [and_iff_right (Bool.eq_false_iff.2 filled)]
    split
    · rename_i fault broken
      rw [escapes_iff_of_broken broken]
      cases fault.crash? <;> simp
    · rename_i document read
      exact (escapes_iff_of_read read).symm

end

def Promised (source text : String) : Prop :=
  (∃ pipeline, ofText source text = .ok pipeline) ∨
    ∃ problem, ofText source text = .error (.problem problem) ∧ problem.kind = .parse

theorem not_promised_of_crash {source text : String} {crash : Crash}
    (crashed : ofText source text = .error (.crash crash)) : ¬Promised source text := by
  rintro (⟨pipeline, read⟩ | ⟨problem, refused, _⟩)
  · rw [crashed] at read
    cases read
  · rw [crashed] at refused
    cases refused

/-- The promise is kept unless a scalar breaks the reader or a variable is bound to a number that is too long.
Such a text ends in a crash of one of a few kinds. -/
theorem promised_iff (source text : String) :
    (Promised source text ↔ Text.isBlankText text = true ∨ ∀ crash, ¬Escapes text crash) ∧
    (∀ crash, ofText source text = .error (.crash crash) ↔
      Text.isBlankText text = false ∧ Escapes text crash) ∧
    ∀ crash, ofText source text = .error (.crash crash) → crash.kind ∈ escapingKinds := by
  refine ⟨⟨fun promised => ?_, fun safe => ?_⟩, fun crash => ofText_crash_iff,
    fun crash crashed => (ofText_crash_iff.1 crashed).2.kind_mem⟩
  · refine or_iff_not_imp_left.2 fun filled crash escapes => ?_
    have crashed : ofText source text = .error (.crash crash) :=
      ofText_crash_iff.2 ⟨Bool.eq_false_iff.2 filled, escapes⟩
    exact not_promised_of_crash crashed promised
  · cases ended : ofText source text with
    | ok pipeline => exact .inl ⟨pipeline, ended⟩
    | error failure =>
      cases failure with
      | problem problem => exact .inr ⟨problem, ended, kind_of_ofText ended⟩
      | crash crash =>
        obtain ⟨filled, escapes⟩ := ofText_crash_iff.1 ended
        rcases safe with blank | none
        · rw [filled] at blank
          cases blank
        · exact absurd escapes (none crash)

def impossibleDay : String := "a: 2020-02-30\njobs:\n  a:\n    steps:\n      - run: x\n"

theorem not_promised : ¬∀ source text, Promised source text := by
  intro promised
  have broken : readCrash? impossibleDay =
      some ⟨"ValueError", "day is out of range for month"⟩ := by decide +kernel
  have crashed : ofText "<string>" impossibleDay =
      .error (.crash ⟨"ValueError", "day is out of range for month"⟩) :=
    ofText_crash_iff.2 ⟨by decide +kernel, .scalar broken⟩
  exact not_promised_of_crash crashed (promised "<string>" impossibleDay)

def breakingTexts : Keyed String :=
  [("ValueError", impossibleDay), ("OverflowError", "\"\\UFFFFFFFF\""), ("KeyError", "!!bool maybe"),
    ("IndexError", "!!int ''"), ("AttributeError", "!!timestamp x"),
    ("TypeError", "!!timestamp\n=: x"), ("RecursionError", "&a !!int\n=: *a")]

theorem readCrash?_breakingTexts : ∀ entry ∈ breakingTexts,
    Text.isBlankText entry.2 = false ∧ (readCrash? entry.2).map Crash.kind = some entry.1 := by
  decide +kernel

theorem exists_crash_iff (source kind : String) :
    (∃ text crash, ofText source text = .error (.crash crash) ∧ crash.kind = kind) ↔
      kind ∈ escapingKinds := by
  constructor
  · rintro ⟨text, crash, crashed, rfl⟩
    exact (ofText_crash_iff.1 crashed).2.kind_mem
  · intro escaping
    have named : kind ∈ breakingTexts.map Prod.fst := escaping
    obtain ⟨entry, member, rfl⟩ := List.mem_map.1 named
    obtain ⟨filled, broken⟩ := readCrash?_breakingTexts entry member
    obtain ⟨crash, crashed, same⟩ := Option.map_eq_some_iff.1 broken
    exact ⟨entry.2, crash, ofText_crash_iff.2 ⟨filled, .scalar crashed⟩, same⟩

end Pipeline

end CiPipeline
