import CiPipeline.Proofs.Matrix.Binding
import CiPipeline.Proofs.Matrix.Combinations

/-! Which jobs can be expanded. A job has instances exactly where its axes are in order and every reference in
one of its texts names an axis, whatever the values are. Where this is not so a problem of the matrix is told,
unless a number that is too long to be written out comes first. -/
namespace CiPipeline

open CiPipeline.Matrix

def Step.texts (step : Step) : List String :=
  [step.name, step.run] ++ step.cwd.toList ++ step.env.values

def Job.texts (job : Job) : List String :=
  job.steps.flatMap Step.texts ++ job.env.values ++ job.runsOn.toList ++ job.title.toList

namespace Matrix

/-- Every reference in a text names one of some axes. -/
def Declared (axes : List String) (text : String) : Prop := ∀ axis, Refers text axis → axis ∈ axes

instance (axes : List String) (text : String) : Decidable (Declared axes text) :=
  decidable_of_iff (∀ axis ∈ referred text, axis ∈ axes) (by simp only [Declared, refers_iff_mem])

def Tells (job : String) (failure : Failure) : Prop :=
  ∃ problem, failure = .problem problem ∧ Concerns job problem

section

variable (job : String) {values : Keyed Scalar} (short : ∀ entry ∈ values, entry.2.isLong = false)

include short

theorem decided_bindText (text : String) :
    Success.Decided (Declared values.names text) (Tells job) (bindText job values text) := by
  have written {axis : String} {value : Scalar} (known : values.get? axis = some value) :
      value.isLong = false := short _ (Keyed.mem_of_get? known)
  constructor
  case ok_iff =>
    rw [exists_bindText_iff]
    exact forall_congr' fun axis => imp_congr_right fun _ => spellable_iff fun _ => written
  case error =>
    intro failure failed
    obtain ⟨_, _, _, _, _, ⟨_⟩ | ⟨known, long⟩⟩ := bindText_error_iff.1 failed
    · exact ⟨_, rfl, rfl, rfl⟩
    · rw [written known] at long
      cases long

theorem decided_bindText? (text : Option String) :
    Success.Decided (∀ given ∈ text.toList, Declared values.names given) (Tells job)
      (bindText? job values text) := by
  cases text with
  | none => exact (Success.Decided.ok none).congr (by simp)
  | some given => exact ((decided_bindText job short given).map some).congr (by simp)

theorem decided_bindEnv (env : Env) :
    Success.Decided (∀ text ∈ env.values, Declared values.names text) (Tells job)
      (bindEnv job values env) := by
  induction env with
  | nil => exact (Success.Decided.ok []).congr (by simp [Keyed.values])
  | cons entry rest ih =>
    refine ((decided_bindText job short entry.2).bind fun bound =>
      ih.bind fun others => .ok ((entry.1, bound) :: others)).congr ?_
    simp [Keyed.values]

theorem decided_bindStep (step : Step) :
    Success.Decided (∀ text ∈ step.texts, Declared values.names text) (Tells job)
      (bindStep job values step) := by
  refine ((decided_bindText job short step.name).bind fun name =>
    (decided_bindText job short step.run).bind fun run =>
    (decided_bindText? job short step.cwd).bind fun cwd =>
    (decided_bindEnv job short step.env).bind fun env =>
      .ok (Step.mk name run cwd step.timeout env step.shell)).congr ?_
  simp only [Step.texts, List.forall_mem_append, List.forall_mem_cons, List.not_mem_nil,
    false_imp_iff, implies_true, and_true, and_assoc]

end

theorem decided_bindJob (job : Job) (index : Nat) {assignment : Assignment}
    (short : ∀ entry ∈ assignment, entry.2.isLong = false) :
    Success.Decided (∀ text ∈ job.texts, Declared assignment.names text) (Tells job.name)
      (bindJob job index assignment) := by
  refine ((Success.Decided.mapM (decided_bindStep job.name short) job.steps).bind fun steps =>
    (decided_bindEnv job.name short job.env).bind fun env =>
    (decided_bindText? job.name short job.runsOn).bind fun runsOn =>
    (decided_bindText? job.name short job.title).bind fun title =>
      .ok (Instance.mk job.name assignment steps index env runsOn title)).congr ?_
  simp only [Job.texts, List.forall_mem_append, List.forall_mem_flatMap, and_true, and_assoc]

theorem decided_bindJobs (job : Job) (start : Nat) {assignments : List Assignment}
    (short : ∀ assignment ∈ assignments, ∀ entry ∈ assignment, entry.2.isLong = false) :
    Success.Decided (∀ assignment ∈ assignments, ∀ text ∈ job.texts, Declared assignment.names text)
      (Tells job.name) (bindJobs job start assignments) := by
  induction assignments generalizing start with
  | nil => exact (Success.Decided.ok []).congr (by simp)
  | cons assignment rest ih =>
    obtain ⟨here, later⟩ := List.forall_mem_cons.1 short
    refine ((decided_bindJob job start here).bind fun first =>
      (ih (start + 1) later).bind fun others => .ok (first :: others)).congr ?_
    simp only [List.forall_mem_cons, and_true]

theorem decided_combinations {job : Job} {axes : Keyed (List Scalar)}
    (checked : checkAxes job.name job.matrix = .ok axes) (start : Nat) :
    Success.Decided (∀ text ∈ job.texts, Declared job.matrix.names text) (Tells job.name)
      (bindJobs job start (combinations axes)) := by
  have names : axes.names = job.matrix.names := (checkAxes_ok_iff.1 checked).names
  refine (decided_bindJobs job start (short_of_mem_combinations checked)).congr
    ⟨fun all => ?_, fun all assignment member => ?_⟩
  · obtain ⟨assignment, member⟩ :=
      List.exists_mem_of_ne_nil _ (combinations_ne_nil (checkAxes_ok checked))
    have one := all assignment member
    rwa [names_of_mem_combinations member, names] at one
  · rwa [names_of_mem_combinations member, names]

end Matrix

namespace Job

/-- The axes of a job list values, at least one each and no two spelled alike, and all references in its texts
name axes. -/
structure Expandable (job : Job) : Prop where
  axes : ∀ axis ∈ job.matrix, ∃ values : List Scalar,
    axis.2.Lists (values.map Scalar.toDocument) ∧ values ≠ [] ∧ (values.map Scalar.spelled).Nodup
  references : ∀ text ∈ job.texts, ∀ axis, Refers text axis → axis ∈ job.matrix.names

def Writable (job : Job) : Prop :=
  ∀ axis ∈ job.matrix, ∀ items, axis.2.Lists items → ∀ item ∈ items, item.hasLongNumber = false

/-- A number that is too long to be written out is the first thing that is wrong with the axes of a job. -/
def BreaksOff (job : Job) : Prop :=
  ∃ front axis back, job.matrix = front ++ axis :: back ∧
    (∀ earlier ∈ front, ∃ values, Fits earlier.2 values) ∧ Matrix.BreaksOff axis.2

variable {job : Job}

theorem fits_iff : (∀ axis ∈ job.matrix, ∃ values, Fits axis.2 values) ↔
    (∀ axis ∈ job.matrix, ∃ values : List Scalar, axis.2.Lists (values.map Scalar.toDocument) ∧
      values ≠ [] ∧ (values.map Scalar.spelled).Nodup) ∧ job.Writable := by
  constructor
  · intro all
    refine ⟨fun axis member => ?_, fun axis member items lists item there => ?_⟩
    · obtain ⟨values, fits⟩ := all axis member
      exact ⟨values, fits.lists, fits.some_value, fits.apart.nodup⟩
    · obtain ⟨values, fits⟩ := all axis member
      rw [lists.unique fits.lists] at there
      obtain ⟨value, here, rfl⟩ := List.mem_map.1 there
      exact fits.apart.short value here
  · rintro ⟨all, writable⟩ axis member
    obtain ⟨values, lists, some_value, nodup⟩ := all axis member
    refine ⟨values, lists, some_value, fun value here => ?_, by simp, nodup⟩
    exact writable axis member _ lists _ (List.mem_map_of_mem here)

theorem BreaksOff.not_writable (breaks : job.BreaksOff) : ¬job.Writable := by
  obtain ⟨front, axis, back, split, _, values, item, rest, lists, _, long⟩ := breaks
  intro writable
  have short := writable axis (by simp [split]) _ lists item (by simp)
  rw [long] at short
  cases short

theorem exists_instancesFrom_iff {start : Nat} :
    (∃ instances, job.instancesFrom start = .ok instances) ↔ job.Expandable ∧ job.Writable := by
  have both : job.Expandable ∧ job.Writable ↔ (∃ axes, checkAxes job.name job.matrix = .ok axes) ∧
      ∀ text ∈ job.texts, Declared job.matrix.names text := by
    rw [exists_checkAxes_iff, fits_iff]
    exact ⟨fun ⟨⟨axes, references⟩, writable⟩ => ⟨⟨axes, writable⟩, references⟩,
      fun ⟨⟨axes, writable⟩, references⟩ => ⟨⟨axes, references⟩, writable⟩⟩
  rw [both]
  constructor
  · rintro ⟨instances, expanded⟩
    obtain ⟨axes, checked, bound⟩ := instancesFrom_ok_iff.1 expanded
    exact ⟨⟨axes, checked⟩, (decided_combinations checked start).ok_iff.1 ⟨instances, bound⟩⟩
  · rintro ⟨⟨axes, checked⟩, declared⟩
    obtain ⟨instances, bound⟩ := (decided_combinations checked start).ok_iff.2 declared
    exact ⟨instances, instancesFrom_ok_iff.2 ⟨axes, checked, bound⟩⟩

theorem instancesFrom_problem {start : Nat} {problem : Problem}
    (told : job.instancesFrom start = .error (.problem problem)) : Concerns job.name problem := by
  rcases Success.error_bind_iff.1 told with told | ⟨axes, checked, told⟩
  · exact checkAxes_problem told
  · obtain ⟨_, same, concerns⟩ := (decided_combinations checked start).error _ told
    exact Failure.problem.inj same ▸ concerns

theorem instancesFrom_crash_iff {start : Nat} {crash : Crash} :
    job.instancesFrom start = .error (.crash crash) ↔ crash = .longNumber ∧ job.BreaksOff := by
  have axes : checkAxes job.name job.matrix = .error (.crash crash) ↔
      crash = .longNumber ∧ job.BreaksOff := checkAxes_crash_iff
  rw [← axes, instancesFrom, Success.error_bind_iff]
  refine or_iff_left ?_
  rintro ⟨_, checked, broken⟩
  obtain ⟨_, ⟨⟩, _⟩ := (decided_combinations checked start).error _ broken

end Job

namespace Pipeline

theorem instancesOf_crash {start : Nat} {owners : Keyed String} {jobs : List Job} {crash : Crash}
    (broken : instancesOf start owners jobs = .error (.crash crash)) : crash = .longNumber := by
  induction jobs generalizing start owners with
  | nil => cases broken
  | cons job rest ih =>
    rcases Success.error_bind_iff.1 broken with here | ⟨instances, _, broken⟩
    · exact (Job.instancesFrom_crash_iff.1 here).1
    rcases Success.error_bind_iff.1 broken with here | ⟨claimed, _, broken⟩
    · obtain ⟨_, _, ⟨⟩⟩ := Success.mapError_error_iff.1 here
    rcases Success.error_bind_iff.1 broken with here | ⟨others, _, broken⟩
    · exact ih here
    · cases broken

theorem instances_crash {pipeline : Pipeline} {crash : Crash}
    (broken : pipeline.instances = .error (.crash crash)) : crash = .longNumber :=
  instancesOf_crash broken

end Pipeline

/-- A job is expanded if its axes list values that are all spelled differently and every reference in its texts
names an axis, and if no number on its axes is too long to be written out. Where there is no such number, a job
that is not expanded is told as a problem of its matrix. Where there is one, the expansion breaks off as soon
as it is reached. Whether the texts can be bound does not depend on the values of the axes. -/
theorem Job.instancesFrom_ends (job : Job) (start : Nat) :
    ((∃ instances, job.instancesFrom start = .ok instances) ↔ job.Expandable ∧ job.Writable) ∧
    (job.Writable → ¬job.Expandable →
      ∃ problem, job.instancesFrom start = .error (.problem problem)) ∧
    (∀ problem, job.instancesFrom start = .error (.problem problem) →
      problem.kind = .matrix ∧ problem.job = job.name) ∧
    (∀ crash, job.instancesFrom start = .error (.crash crash) ↔ crash = .longNumber ∧ job.BreaksOff) ∧
    (∀ assignment index, assignment.names = job.matrix.names →
      (∀ entry ∈ assignment, entry.2.isLong = false) → ((∃ inst, bindJob job index assignment = .ok inst) ↔
        ∀ text ∈ job.texts, ∀ axis, Refers text axis → axis ∈ job.matrix.names)) := by
  refine ⟨exists_instancesFrom_iff, fun writable not_expandable => ?_, fun _ => instancesFrom_problem,
    fun _ => instancesFrom_crash_iff, fun assignment index names short => ?_⟩
  · cases outcome : job.instancesFrom start with
    | ok instances => exact absurd (exists_instancesFrom_iff.1 ⟨instances, outcome⟩).1 not_expandable
    | error failure =>
      cases failure with
      | problem problem => exact ⟨problem, rfl⟩
      | crash crash => exact absurd writable (instancesFrom_crash_iff.1 outcome).2.not_writable
  · have decided := (decided_bindJob job index short).ok_iff
    rwa [names] at decided

def numberJob (n : Int) (more : List Document) : Job where
  name := "a"
  steps := [⟨"x", "x", none, none, [], none⟩]
  needs := []
  matrix := [("n", .list (.int n :: more))]
  env := []
  title := none
  runsOn := none

theorem expandable_numberJob (n : Int) : (numberJob n []).Expandable := by
  refine ⟨fun axis member => ?_, ?_⟩
  · obtain rfl := List.mem_singleton.1 member
    exact ⟨[.int n], .inl rfl, by simp, by simp⟩
  · have declared : ∀ text ∈ ["x", "x"], Declared ["n"] text := by decide +kernel
    exact declared

theorem not_expandable_numberJob (n : Int) : ¬(numberJob n [.list []]).Expandable := by
  intro expandable
  obtain ⟨values, lists, _⟩ := expandable.axes _ (List.mem_singleton.2 rfl)
  have same : [Document.int n, .list []] = values.map Scalar.toDocument :=
    Document.Lists.unique (.inl rfl) lists
  have member : Document.list [] ∈ values.map Scalar.toDocument := same ▸ .tail _ (.head _)
  obtain ⟨value, _, collection⟩ := List.mem_map.1 member
  cases value <;> cases collection

theorem instancesFrom_numberJob {n : Int} (long : Number.isLong n = true) (more : List Document) :
    (numberJob n more).instancesFrom 0 = .error (.crash .longNumber) :=
  Job.instancesFrom_crash_iff.2 ⟨rfl, [], ("n", .list (.int n :: more)), [], rfl, by simp,
    [], .int n, more, .inl rfl, ⟨by simp, by simp, by simp⟩, long⟩

/-- A job with an axis of one number and no references is not expanded, and of an axis with a collection on it
behind this number no problem is told. -/
theorem Job.neither_expanded_nor_told :
    ((numberJob (Nat.pow 10 Number.digitLimit) []).Expandable ∧
      ¬∃ instances, (numberJob (Nat.pow 10 Number.digitLimit) []).instancesFrom 0 = .ok instances) ∧
    ¬(numberJob (Nat.pow 10 Number.digitLimit) [.list []]).Expandable ∧
      ¬∃ problem, (numberJob (Nat.pow 10 Number.digitLimit) [.list []]).instancesFrom 0 =
        .error (.problem problem) := by
  rw [instancesFrom_numberJob Number.isLong_pow, instancesFrom_numberJob Number.isLong_pow]
  exact ⟨⟨expandable_numberJob _, fun ⟨_, expanded⟩ => by cases expanded⟩,
    not_expandable_numberJob _, fun ⟨_, told⟩ => by cases told⟩

end CiPipeline
