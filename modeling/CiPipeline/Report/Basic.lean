import CiPipeline.Graph.Instances
import CiPipeline.Result

/-! Reports. A report holds the results of a run in the order in which the instances are numbered,
never in the order in which they came in. A run is a success when every instance succeeded; one
without a result counts against it. -/
namespace CiPipeline

structure Report where
  pipeline : String
  results : Keyed JobResult
  verdict : Verdict

namespace Report

def succeeded (results : Keyed JobResult) (inst : Instance) : Bool :=
  match results.get? inst.id with
  | some result => result.ok
  | none => false

def verdictOf (instances : List Instance) (results : Keyed JobResult) : Verdict :=
  if instances.all (succeeded results) then .success else .failure

def collect (instances : List Instance) (results : Keyed JobResult) : Keyed JobResult :=
  Keyed.ofPairs (instances.filterMap fun inst =>
    (results.get? inst.id).map fun result => (inst.id, result))

def build (pipeline : String) (instances : List Instance) (results : Keyed JobResult) : Report :=
  let ordered := inOrder instances
  ⟨pipeline, collect ordered results, verdictOf ordered results⟩

def ok (report : Report) : Bool := report.verdict == .success

def byOutcome (report : Report) (outcome : JobOutcome) : List JobResult :=
  report.results.values.filter (·.outcome == outcome)

end Report

end CiPipeline
