import CiPipeline.Pipeline.Basic
import CiPipeline.Matrix.Reference

/-! The graph of jobs. An edge leads from a job to each job that needs it. The graph exists when job
names are pairwise different, no job needs itself and every need names a job. -/
namespace CiPipeline

/-- The jobs that need a job, and how many different jobs each one needs. -/
structure JobGraph where
  dependents : Keyed (List String)
  needCount : Keyed Int

namespace JobGraph

def distinct (names : List String) : List String :=
  names.foldl (fun found name => if found.contains name then found else found ++ [name]) []

def repeated (names : List String) : List String :=
  Matrix.sortedNames (distinct (names.filter fun name => 1 < names.count name))

def dependentsOf (graph : JobGraph) (name : String) : List String :=
  (graph.dependents.get? name).getD []

def addEdge (graph : JobGraph) (need job : String) : JobGraph :=
  let known := graph.dependentsOf need
  if known.contains job then graph
  else
    ⟨graph.dependents.put need (known ++ [job]),
      graph.needCount.put job ((graph.needCount.get? job).getD 0 + 1)⟩

def addNeeds (names : List String) (job : String) (graph : JobGraph) :
    List String → Except Problem JobGraph
  | [] => .ok graph
  | need :: rest =>
    if need = job then .error (.needsItself job)
    else if names.contains need then addNeeds names job (graph.addEdge need job) rest
    else .error (.needsUnknown job need (Matrix.sortedNames names))

def addJobs (names : List String) (graph : JobGraph) : List Job → Except Problem JobGraph
  | [] => .ok graph
  | job :: rest => do
    let extended ← addNeeds names job.name graph job.needs
    addJobs names extended rest

def isolated (names : List String) : JobGraph :=
  ⟨names.map fun name => (name, []), names.map fun name => (name, 0)⟩

def ofJobs (jobs : List Job) : Except Problem JobGraph :=
  let names := jobs.map Job.name
  match repeated names with
  | [] => addJobs names (isolated names) jobs
  | duplicates => .error (.duplicateJobs duplicates)

end JobGraph

end CiPipeline
