import CiPipeline.Proofs.Number.Writing
import CiPipeline.Proofs.Report.Order

/-! A report is shown in two ways, as a tree of lines and as plain data. Both tell of the same jobs and steps in
the same order; the numbers in the last line of the tree are those of the data, and the verdict, which is read
from the instances, can be read from these numbers as well. -/
namespace CiPipeline

namespace Json

def field? (name : String) : Json → Option Json
  | object entries => List.lookup name entries
  | _ => none

def tells (name value : String) (data : Json) : Bool :=
  match data.field? name with
  | some (text found) => found == value
  | _ => false

end Json

namespace JobOutcome

theorem name_inj {one other : JobOutcome} : one.name = other.name ↔ one = other := by
  cases one <;> cases other <;> simp [name]

end JobOutcome

namespace Report

def countLine (succeeded failed cancelled : Nat) : String :=
  Calendar.natText succeeded ++ " succeeded, " ++ Calendar.natText failed ++ " failed, " ++
    Calendar.natText cancelled ++ " cancelled"

theorem countLine_inj {succeeded failed cancelled succeeded' failed' cancelled' : Nat}
    (same : countLine succeeded failed cancelled = countLine succeeded' failed' cancelled') :
    succeeded = succeeded' ∧ failed = failed' ∧ cancelled = cancelled' := by
  have chars := congrArg String.toList same
  have succeeded_word : " succeeded, ".toList = ' ' :: "succeeded, ".toList := rfl
  have failed_word : " failed, ".toList = ' ' :: "failed, ".toList := rfl
  have cancelled_word : " cancelled".toList = ' ' :: "cancelled".toList := rfl
  simp only [countLine, Calendar.natText, String.toList_append, String.toList_ofList, List.append_assoc,
    succeeded_word, failed_word, cancelled_word, List.cons_append] at chars
  obtain ⟨first, chars⟩ := Number.writeNat_blank_inj chars
  obtain ⟨second, chars⟩ := Number.writeNat_blank_inj (List.append_cancel_left chars)
  obtain ⟨third, _⟩ := Number.writeNat_blank_inj (List.append_cancel_left chars)
  exact ⟨first, second, third⟩

def SameStep (line : String) (step : Json) : Prop :=
  ∃ (name : String) (outcome : StepOutcome) (remarks : String),
    step.field? "name" = some (.text name) ∧ step.field? "outcome" = some (.text outcome.name) ∧
      line = "    " ++ stepMark outcome ++ " " ++ name ++ ": " ++ outcome.name ++ remarks

def SameHead (line : String) (job : Json) : Prop :=
  ∃ (id : String) (title : Option String) (outcome : JobOutcome) (remark : String),
    job.field? "id" = some (.text id) ∧ job.field? "title" = some (.ofText? title) ∧
      job.field? "outcome" = some (.text outcome.name) ∧
      line = jobMark outcome ++ " " ++ labelled id title ++ ": " ++ outcome.title ++ remark

/-- Lines of the tree and the data of a job that tell of the same job: one line for itself, and below it one for
each of its steps. -/
def SameJob (lines : List String) (job : Json) : Prop :=
  ∃ head below steps, lines = head :: below ∧ job.field? "steps" = some (.list steps) ∧
    SameHead head job ∧ List.Forall₂ SameStep below steps

def tally (outcome : JobOutcome) (jobs : List Json) : Nat := jobs.countP (Json.tells "outcome" outcome.name)

theorem sameStep (result : StepResult) : SameStep (stepLine result) (stepData result) := by
  have shown : ∃ remarks, stepLine result = "    " ++ stepMark result.outcome ++ " " ++ result.name ++
      ": " ++ result.outcome.name ++ remarks := by
    rw [stepLine]
    split
    · exact ⟨"", String.append_empty.symm⟩
    · exact ⟨_, by rw [String.append_assoc, String.append_assoc]⟩
  obtain ⟨remarks, same⟩ := shown
  exact ⟨result.name, result.outcome, remarks, rfl, rfl, same⟩

theorem sameHead (entry : String × JobResult) : SameHead (jobLine entry.1 entry.2) (jobData entry) := by
  have shown : ∃ remark, jobLine entry.1 entry.2 = jobMark entry.2.outcome ++ " " ++
      labelled entry.1 entry.2.inst.title ++ ": " ++ entry.2.outcome.title ++ remark := by
    rw [jobLine]
    split
    · split
      · exact ⟨"", String.append_empty.symm⟩
      · exact ⟨_, by rw [String.append_assoc, String.append_assoc]⟩
    · exact ⟨"", String.append_empty.symm⟩
  obtain ⟨remark, same⟩ := shown
  exact ⟨entry.1, entry.2.inst.title, entry.2.outcome, remark, rfl, rfl, rfl, same⟩

theorem sameJob (entry : String × JobResult) : SameJob (jobLines entry) (jobData entry) := by
  refine ⟨_, _, _, rfl, rfl, sameHead entry, ?_⟩
  rw [List.forall₂_map_left_iff, List.forall₂_map_right_iff, List.forall₂_same]
  exact fun result _ => sameStep result

theorem tally_jobData (report : Report) (outcome : JobOutcome) :
    tally outcome (report.results.map jobData) = report.count outcome := by
  rw [tally, List.countP_map, count, byOutcome, ← List.countP_eq_length_filter, Keyed.values, List.countP_map]
  refine List.countP_congr fun entry _ => ?_
  have told : Json.tells "outcome" outcome.name (jobData entry) = (entry.2.outcome.name == outcome.name) := rfl
  rw [Function.comp_apply, told, beq_iff_eq, JobOutcome.name_inj, Function.comp_apply, beq_iff_eq]

theorem count_add (report : Report) :
    report.count .succeeded + report.count .failed + report.count .cancelled = report.results.length := by
  have add (results : List JobResult) : (results.filter (·.outcome == .succeeded)).length +
      (results.filter (·.outcome == .failed)).length + (results.filter (·.outcome == .cancelled)).length =
        results.length := by
    induction results with
    | nil => rfl
    | cons result rest ih =>
      rw [List.length_cons, ← ih]
      cases outcome : result.outcome <;> simp [outcome] <;> omega
  rw [count, count, count, byOutcome, byOutcome, byOutcome, add, Keyed.values, List.length_map]

variable {instances : List Instance} (distinct : (instances.map Instance.id).Nodup)

include distinct

theorem results_build (pipeline : String) (results : Keyed JobResult) :
    (build pipeline instances results).results = (inOrder instances).filterMap (listed? results) :=
  collect_eq (InstanceGraph.nodup_ids_inOrder distinct) results

theorem length_results_build (pipeline : String) (results : Keyed JobResult) :
    (build pipeline instances results).results.length =
      instances.countP fun inst => (results.get? inst.id).isSome := by
  rw [results_build distinct, List.length_filterMap_eq_countP, (InstanceGraph.perm_inOrder instances).countP_eq]
  refine List.countP_congr fun inst _ => ?_
  rw [listed?, Option.isSome_map]

theorem count_build (pipeline : String) (results : Keyed JobResult) (outcome : JobOutcome) :
    (build pipeline instances results).count outcome =
      instances.countP fun inst => (results.get? inst.id).any (·.outcome == outcome) := by
  rw [count, byOutcome, ← List.countP_eq_length_filter, Keyed.values, List.countP_map, results_build distinct,
    List.countP_filterMap, (InstanceGraph.perm_inOrder instances).countP_eq]
  refine List.countP_congr fun inst _ => ?_
  rw [listed?]
  cases results.get? inst.id <;> rfl

theorem verdict_iff_count (pipeline : String) (results : Keyed JobResult) :
    (build pipeline instances results).verdict = .success ↔
      (build pipeline instances results).count .succeeded = instances.length := by
  rw [verdict_build, count_build distinct, List.countP_eq_length]
  exact Iff.rfl

variable (results : Keyed JobResult)

end Report

end CiPipeline
