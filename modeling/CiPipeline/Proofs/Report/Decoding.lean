import CiPipeline.CommandLine.Basic
import CiPipeline.Proofs.Json.Printing
import CiPipeline.Proofs.Run.Verdict
import CiPipeline.Proofs.Schedule.Results

/-! Reading a printed report back. The durations of steps are always finite numbers, so the text is a document of the
data format unless a value of an axis is not; and it stands for the report unless one of its texts is split. -/
namespace CiPipeline

open Number

/-- No two moments of the calendar are further apart than its first day and its last. -/
def StepResult.Timed (result : StepResult) : Prop :=
  ∀ started ∈ result.started, ∀ finished ∈ result.finished, (finished - started).natAbs <
    Calendar.daysBeforeYear 10000 * Calendar.secondsPerDay * microsPerSecond

def Executor.Timed {ω : Type} (executor : Executor ω) : Prop :=
  ∀ step environment onLine world result,
    (executor step environment onLine world).1 = .finished result → result.Timed

def Instance.Genuine (inst : Instance) : Prop := ∀ axis ∈ inst.matrix, ∀ x, axis.2 = .float x → x.WellFormed

structure JobResult.Measured (result : JobResult) : Prop where
  genuine : result.inst.Genuine
  timed : ∀ step ∈ result.steps, step.Timed

namespace StepResult

theorem duration_of_timed {result : StepResult} (timed : result.Timed) {x : Binary64} (known : x ∈ result.duration) :
    x.isFinite = true ∧ x.WellFormed := by
  rw [duration] at known
  split at known
  · rename_i started finished started_eq finished_eq
    have near := timed started started_eq finished finished_eq
    obtain rfl := Option.some.inj known
    have positive : 0 < microsPerSecond := by decide
    refine ⟨Binary64.isFinite_ofRatio _ positive ?_, Binary64.wellFormed_ofRatio _ positive⟩
    have seconds : ((finished - started).natAbs : ℚ) / microsPerSecond ≤ (finished - started).natAbs :=
      div_le_self (Nat.cast_nonneg _) (Nat.one_le_cast.2 positive)
    have few : ((finished - started).natAbs : ℚ) < (2 ^ 60 : Nat) := Nat.cast_lt.2 (near.trans (by decide))
    have far : ((2 ^ 60 : Nat) : ℚ) ≤ 2 ^ (1023 : Int) := by
      exact_mod_cast zpow_le_zpow_right₀ (one_le_two (α := ℚ)) (by decide : (60 : Int) ≤ 1023)
    exact (seconds.trans_lt few).trans_le far
  · cases known

end StepResult

namespace Run

open Schedule

section

variable {σ : Type} {context : Context} {options : Options} {executorFor : Option String → Executor (World σ)}
  (timed : ∀ backend, (executorFor backend).Timed)

theorem timed_resultOf {step : Step} {attempt : Attempt} (timed : ∀ result, attempt = .finished result → result.Timed)
    {result : StepResult} (given : resultOf step attempt = .ok result) : result.Timed := by
  cases attempt with
  | finished found => exact Except.ok.inj given ▸ timed found rfl
  | notLaunched message =>
    rw [← Except.ok.inj given]
    exact fun _ known => by cases known
  | raised failure => cases given

theorem timed_runSteps {console : Console} {tailLines : Int} {executor : Executor (World σ)} (timed : executor.Timed)
    {environment : StepEnvironment} {steps : List Step} {world : World σ} {results : List StepResult}
    (ran : (runSteps console tailLines executor environment steps world).1 = .ok results) :
    ∀ result ∈ results, result.Timed := by
  induction steps generalizing world results with
  | nil =>
    rw [← Except.ok.inj ran]
    exact fun _ member => absurd member List.not_mem_nil
  | cons step rest ih =>
    rw [runSteps] at ran
    dsimp only at ran
    split at ran
    · cases ran
    · rename_i result given
      have first : result.Timed := timed_resultOf (fun found => timed _ _ _ _ found) given
      split at ran
      · obtain ⟨others, later, rfl⟩ := Success.map_iff.1 ran
        exact List.forall_mem_cons.2 ⟨first, ih later⟩
      · rw [← Except.ok.inj ran]
        refine List.forall_mem_cons.2 ⟨first, List.forall_mem_map.2 fun skipped _ => ?_⟩
        exact fun _ known => by cases known

include timed in
theorem measured_runJob {inst : Instance} (genuine : inst.Genuine) {world : World σ} {result : JobResult}
    (ran : ((runner context options executorFor).run inst world).1 = .ok result) : result.Measured := by
  obtain ⟨_, _, results, ended, rfl⟩ := exists_results ran
  refine ⟨by rwa [inst_jobResult], ?_⟩
  rw [jobResult]
  split <;> exact timed_runSteps (timed _) ended

variable {instances : List Instance} (genuine : ∀ inst ∈ instances, inst.Genuine)

include genuine timed

theorem grants_measured (graph : InstanceGraph) (workers : Nat) :
    (runner context options executorFor).Grants (Plan.ofGraph instances graph workers) JobResult.Measured := by
  have known {id : String} {inst : Instance}
      (found : (Plan.ofGraph instances graph workers).instances.get? id = some inst) : inst.Genuine := by
    obtain ⟨other, member, same⟩ := List.mem_map.1 (Keyed.mem_of_mem_ofPairs (Keyed.mem_of_get? found))
    exact (Prod.mk.inj same).2 ▸ genuine other member
  have here (id : String) : ((Plan.ofGraph instances graph workers).inst id).Genuine := by
    rw [Plan.inst]
    cases found : (Plan.ofGraph instances graph workers).instances.get? id with
    | some inst => exact known found
    | none => exact fun _ member => absurd member List.not_mem_nil
  have no_steps : ∀ step ∈ ([] : List StepResult), step.Timed := fun _ member => absurd member List.not_mem_nil
  exact ⟨fun id _ _ ran => measured_runJob timed (here id) ran, fun id _ => ⟨here id, no_steps⟩,
    fun _ _ _ found => ⟨known found, no_steps⟩⟩

theorem measured_report {pipeline : Pipeline} (expanded : pipeline.instances = .ok instances) {world last : World σ}
    {report : Report} (ran : runPipeline pipeline context options executorFor world = (.ok report, last)) :
    ∀ entry ∈ report.results, entry.2.Measured := by
  rw [runPipeline, expanded] at ran
  dsimp only at ran
  split at ran
  · cases ran
  · have everywhere : Everywhere JobResult.Measured
        (schedule pipeline instances context options executorFor world).results :=
      Everywhere.run (grants_measured timed genuine) _ _ _ _
    rw [← Except.ok.inj (Prod.mk.inj ran).1]
    intro entry member
    obtain ⟨inst, _, listed⟩ := List.mem_filterMap.1 (Keyed.mem_of_mem_ofPairs member)
    obtain ⟨result, found, rfl⟩ := Option.map_eq_some_iff.1 listed
    exact everywhere _ (Keyed.mem_of_get? found)

end

end Run

namespace Report

open Json

section

variable {p : Binary64 → Prop}

theorem forall_float_text {content : String} : (∀ x, .float x ∈ (Json.text content).parts → p x) ↔ True := by
  refine iff_of_true (fun x inside => ?_) trivial
  cases List.mem_singleton.1 inside

theorem forall_float_text? {content : Option String} : (∀ x, .float x ∈ (ofText? content).parts → p x) ↔ True := by
  refine iff_of_true (fun x inside => ?_) trivial
  cases content <;> cases List.mem_singleton.1 inside

theorem forall_float_int? {code : Option Int} :
    (∀ x, .float x ∈ ((code.map Json.int).getD .null).parts → p x) ↔ True := by
  refine iff_of_true (fun x inside => ?_) trivial
  cases code <;> cases List.mem_singleton.1 inside

theorem forall_float_float? {amount : Option Binary64} :
    (∀ x, .float x ∈ ((amount.map Json.float).getD .null).parts → p x) ↔ ∀ x ∈ amount, p x := by
  cases amount with
  | none =>
    refine iff_of_true (fun x inside => ?_) fun x known => by cases known
    cases List.mem_singleton.1 inside
  | some amount =>
    constructor
    · exact fun all x known => Option.some.inj known ▸ all amount (List.mem_singleton_self _)
    · exact fun all x inside => float.inj (List.mem_singleton.1 inside) ▸ all amount rfl

theorem forall_float_scalar {value : Scalar} :
    (∀ x, .float x ∈ (ofScalar value).parts → p x) ↔ ∀ x, value = .float x → p x := by
  cases value with
  | float y =>
    constructor
    · exact fun all x same => all x (List.mem_singleton.2 (congrArg ofScalar same).symm)
    · exact fun all x inside => all x (congrArg Scalar.float (float.inj (List.mem_singleton.1 inside)).symm)
  | _ =>
    refine iff_of_true (fun x inside => ?_) fun x same => by cases same
    cases List.mem_singleton.1 inside

theorem forall_float_stepData {result : StepResult} :
    (∀ x, .float x ∈ (stepData result).parts → p x) ↔ ∀ x ∈ result.duration, p x := by
  simp only [stepData, forall_float_object, List.forall_mem_cons, List.not_mem_nil, IsEmpty.forall_iff,
    forall_float_text, forall_float_text?, forall_float_int?, forall_float_float?, forall_float_list,
    List.forall_mem_map, implies_true, and_true, true_and]

theorem forall_float_jobData {entry : String × JobResult} : (∀ x, .float x ∈ (jobData entry).parts → p x) ↔
    (∀ axis ∈ entry.2.inst.matrix, ∀ x, axis.2 = .float x → p x) ∧
      ∀ step ∈ entry.2.steps, ∀ x ∈ step.duration, p x := by
  simp only [jobData, forall_float_object, List.forall_mem_cons, List.not_mem_nil, IsEmpty.forall_iff,
    forall_float_text, forall_float_text?, forall_float_list, List.forall_mem_map, Keyed.mapValues,
    forall_float_scalar, forall_float_stepData, implies_true, and_true, true_and]

theorem forall_float_data {report : Report} : (∀ x, .float x ∈ report.data.parts → p x) ↔
    ∀ entry ∈ report.results, (∀ axis ∈ entry.2.inst.matrix, ∀ x, axis.2 = .float x → p x) ∧
      ∀ step ∈ entry.2.steps, ∀ x ∈ step.duration, p x := by
  simp only [data, forall_float_object, List.forall_mem_cons, List.not_mem_nil, IsEmpty.forall_iff,
    forall_float_text, forall_float_list, List.forall_mem_map, forall_float_jobData, implies_true, and_true, true_and]

end

theorem isLeaf_ofText? (content : Option String) : (ofText? content).isLeaf = true := by cases content <;> rfl

theorem distinct_stepData (result : StepResult) : (stepData result).Distinct := by
  have names : ["name", "outcome", "exit_code", "cause", "error", "duration", "output"].Nodup := by decide
  have leaf_exit : ((result.exitCode.map Json.int).getD .null).isLeaf = true := by cases result.exitCode <;> rfl
  have leaf_duration : ((result.duration.map Json.float).getD .null).isLeaf = true := by cases result.duration <;> rfl
  refine distinct_object_iff.2 ⟨names, ?_⟩
  simp only [List.forall_mem_cons, List.not_mem_nil, IsEmpty.forall_iff, implies_true, and_true, distinct_list_iff,
    List.forall_mem_map]
  exact ⟨distinct_of_isLeaf rfl, distinct_of_isLeaf rfl, distinct_of_isLeaf leaf_exit,
    distinct_of_isLeaf (isLeaf_ofText? _), distinct_of_isLeaf (isLeaf_ofText? _), distinct_of_isLeaf leaf_duration,
    fun _ _ => distinct_of_isLeaf rfl⟩

theorem distinct_jobData (entry : String × JobResult) : (jobData entry).Distinct := by
  have names : ["id", "job", "title", "matrix", "outcome", "reason", "steps"].Nodup := by decide
  have leaf_scalar (value : Scalar) : (ofScalar value).isLeaf = true := by cases value <;> rfl
  have axes : (entry.2.inst.matrix.mapValues ofScalar).names.Nodup := by
    rw [Keyed.names_mapValues]
    exact Keyed.nodup_names_ofPairs _
  have matrix : (object (entry.2.inst.matrix.mapValues ofScalar)).Distinct :=
    distinct_object_iff.2 ⟨axes, List.forall_mem_map.2 fun axis _ => distinct_of_isLeaf (leaf_scalar axis.2)⟩
  refine distinct_object_iff.2 ⟨names, ?_⟩
  simp only [List.forall_mem_cons, List.not_mem_nil, IsEmpty.forall_iff, implies_true, and_true, distinct_list_iff,
    List.forall_mem_map]
  exact ⟨distinct_of_isLeaf rfl, distinct_of_isLeaf rfl, distinct_of_isLeaf (isLeaf_ofText? _), matrix,
    distinct_of_isLeaf rfl, distinct_of_isLeaf (isLeaf_ofText? _), fun result _ => distinct_stepData result⟩

theorem distinct_data (report : Report) : report.data.Distinct := by
  have names : ["pipeline", "verdict", "jobs"].Nodup := by decide
  refine distinct_object_iff.2 ⟨names, ?_⟩
  simp only [List.forall_mem_cons, List.not_mem_nil, IsEmpty.forall_iff, implies_true, and_true, distinct_list_iff,
    List.forall_mem_map]
  exact ⟨distinct_of_isLeaf rfl, distinct_of_isLeaf rfl, fun entry _ => distinct_jobData entry⟩

/-- What is printed for a report is a document of the data format that stands for a value. -/
def StandsFor (report : Report) (value : Json) : Prop :=
  ∃ text, CommandLine.reportLines true report = Console.info text ∧ IsText text value

/-- What is printed for a report stands for the report and for nothing else. -/
def ComesBack (report : Report) : Prop := ∀ value, report.StandsFor value ↔ value = report.data

theorem standsFor_iff {report : Report} {value : Json} : report.StandsFor value ↔ IsText report.data.print value := by
  constructor
  · rintro ⟨text, told, document⟩
    have printed : report.data.print = text := (List.cons.inj (congrArg (List.map Line.text) told)).1
    rwa [← printed] at document
  · exact fun document => ⟨report.data.print, rfl, document⟩

end Report

namespace Run

section

variable {σ : Type} {pipeline : Pipeline} {instances : List Instance} {context : Context} {options : Options}
  {executorFor : Option String → Executor (World σ)} (expanded : pipeline.instances = .ok instances)
  (genuine : ∀ inst ∈ instances, inst.Genuine) (timed : ∀ backend, (executorFor backend).Timed)

include expanded genuine timed

theorem wellFormed_data {world last : World σ} {report : Report}
    (ran : runPipeline pipeline context options executorFor world = (.ok report, last)) : report.data.WellFormed := by
  have measured := measured_report timed genuine expanded ran
  exact Report.forall_float_data.2 fun entry member => ⟨(measured entry member).genuine, fun step there x known =>
    (StepResult.duration_of_timed ((measured entry member).timed step there) known).2⟩

theorem finite_data_iff {world last : World σ} {report : Report}
    (ran : runPipeline pipeline context options executorFor world = (.ok report, last)) :
    report.data.Finite ↔
      ∀ entry ∈ report.results, ∀ axis ∈ entry.2.inst.matrix, ∀ x, axis.2 = .float x → x.isFinite = true := by
  have measured := measured_report timed genuine expanded ran
  rw [Json.Finite, Report.forall_float_data]
  exact forall₂_congr fun entry member => and_iff_left fun step there x known =>
    (StepResult.duration_of_timed ((measured entry member).timed step there) known).1

/-- The printed report of a run is a document exactly if the values of all axes that are doubles are finite numbers, and
it comes back exactly if, besides, no text of the report is split. -/
theorem comesBack_iff {world last : World σ} {report : Report}
    (ran : runPipeline pipeline context options executorFor world = (.ok report, last)) :
    ((∃ value, report.StandsFor value) ↔
      ∀ entry ∈ report.results, ∀ axis ∈ entry.2.inst.matrix, ∀ x, axis.2 = .float x → x.isFinite = true) ∧
    (report.ComesBack ↔
      (∀ entry ∈ report.results, ∀ axis ∈ entry.2.inst.matrix, ∀ x, axis.2 = .float x → x.isFinite = true) ∧
        report.data.Intact) := by
  have formed := wellFormed_data expanded genuine timed ran
  rw [← finite_data_iff expanded genuine timed ran, Report.ComesBack]
  simp only [Report.standsFor_iff]
  refine ⟨⟨?_, fun finite => ⟨_, (Json.isText_print_iff formed).2 ⟨finite, rfl⟩⟩⟩,
    Json.isText_print_self_iff formed (Report.distinct_data report)⟩
  rintro ⟨value, document⟩
  exact ((Json.isText_print_iff formed).1 document).1

end

def ranging (value : Document) : Pipeline where
  name := "numbers"
  jobs := [⟨"a", [⟨"s", "true", none, none, [], none⟩], [], [("n", .list [value])], [], none, none⟩]
  env := []
  triggers := []

def rangingInstance (value : Scalar) : Instance :=
  ⟨"a", [("n", value)], [⟨"s", "true", none, none, [], none⟩], 0, [], none, none⟩

def rangingReport (id : String) (value : Scalar) : Report where
  pipeline := "numbers"
  results := [(id, ⟨rangingInstance value, .succeeded,
    [⟨"s", .succeeded, some 0, ["x"], some 1500000, some 3000000, none, none⟩], none⟩)]
  verdict := .success

def timedExecutor : Executor (World Unit) := fun step _ _ world =>
  (.finished ⟨step.name, .succeeded, some 0, ["x"], some 1500000, some 3000000, none, none⟩, world)

def runRanging (value : Document) : Except Failure Report × World Unit :=
  runPipeline (ranging value) sampleContext sampleOptions (fun _ => timedExecutor) ⟨[], ()⟩

def half : Binary64 := Number.Binary64.ofRatio false 1 2

theorem timed_timedExecutor : timedExecutor.Timed := by
  intro step environment onLine world result ended started first finished second
  obtain rfl := Attempt.finished.inj ended
  obtain rfl := Option.some.inj first
  obtain rfl := Option.some.inj second
  decide

theorem forall_float_ranging {x : Binary64} {p : Binary64 → Prop} :
    (∀ axis ∈ (rangingInstance (.float x)).matrix, ∀ y, axis.2 = .float y → p y) ↔ p x := by
  constructor
  · exact fun all => all _ (List.mem_singleton_self _) x rfl
  · intro here axis member y same
    obtain rfl := List.mem_singleton.1 member
    exact Scalar.float.inj same ▸ here

theorem comesBack_half : ∃ report last, runRanging (.float half) = (.ok report, last) ∧ report.ComesBack := by
  have expanded : (ranging (.float half)).instances = .ok [rangingInstance (.float half)] := by with_unfolding_all rfl
  have ran : runRanging (.float half) =
      (.ok (rangingReport "a (n=0.5)" (.float half)), (runRanging (.float half)).2) :=
    Prod.ext (by with_unfolding_all rfl) rfl
  have formed : half.WellFormed := Number.Binary64.wellFormed_ofRatio false (by decide)
  refine ⟨_, _, ran, (comesBack_iff expanded ?_ (fun _ => timed_timedExecutor) ran).2.2 ⟨?_, by decide +kernel⟩⟩
  · exact List.forall_mem_singleton.2 (forall_float_ranging.2 formed)
  · exact List.forall_mem_singleton.2 (forall_float_ranging.2 (by decide +kernel))

/-- An infinite value of an axis is accepted, and then nothing comes back. -/
theorem not_comesBack : ∃ report last, runRanging (.float (.infinite false)) = (.ok report, last) ∧
    (∀ value, ¬report.StandsFor value) ∧ ¬report.ComesBack := by
  have expanded : (ranging (.float (.infinite false))).instances =
      .ok [rangingInstance (.float (.infinite false))] := by with_unfolding_all rfl
  have ran : runRanging (.float (.infinite false)) =
      (.ok (rangingReport "a (n=inf)" (.float (.infinite false))), (runRanging (.float (.infinite false))).2) :=
    Prod.ext (by with_unfolding_all rfl) rfl
  have genuine : ∀ inst ∈ [rangingInstance (.float (.infinite false))], inst.Genuine :=
    List.forall_mem_singleton.2 (forall_float_ranging.2 trivial)
  have formed := wellFormed_data expanded genuine (fun _ => timed_timedExecutor) ran
  have nothing (value : Json) : ¬(rangingReport "a (n=inf)" (.float (.infinite false))).StandsFor value := by
    intro stands
    have document := Report.standsFor_iff.1 stands
    have finite := (finite_data_iff expanded genuine (fun _ => timed_timedExecutor) ran).1
      ((Json.isText_print_iff formed).1 document).1
    exact absurd (forall_float_ranging.1 (List.forall_mem_singleton.1 finite)) (by decide)
  exact ⟨_, _, ran, nothing, fun back => nothing _ ((back _).2 rfl)⟩

end Run

end CiPipeline
