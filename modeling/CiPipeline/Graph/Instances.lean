import CiPipeline.Graph.Levels
import CiPipeline.Matrix.Expansion

/-! The graph of instances. An instance waits for every instance of every job that its own job needs,
whatever their values are.

Names are looked up where they are known: the jobs of instances and the needs of accepted jobs are jobs, and what an
instance waits for is an instance. For a name that is not known these functions have an empty list, where a strict
lookup would fail. -/
namespace CiPipeline

/-- For each instance, by name, the instances that it waits for and those that wait for it. -/
structure InstanceGraph where
  prereqs : Keyed (List String)
  dependents : Keyed (List String)

def inOrder (instances : List Instance) : List Instance :=
  instances.mergeSort fun a b => a.index ≤ b.index

def positions (names : List String) : Keyed Int :=
  Keyed.ofPairs (names.mapIdx fun position name => (name, (position : Int)))

namespace InstanceGraph

def idsOf (ordered : List Instance) (job : String) : List String :=
  (ordered.filter fun inst => inst.job == job).map Instance.id

def needsOf (jobs : List Job) (name : String) : List String :=
  match jobs.find? (·.name == name) with
  | some job => JobGraph.distinct job.needs
  | none => []

def prereqsOf (jobs : List Job) (ordered : List Instance) (inst : Instance) : List String :=
  (needsOf jobs inst.job).flatMap (idsOf ordered)

def addDependent (dependents : Keyed (List String)) (prereq id : String) :
    Keyed (List String) :=
  dependents.put prereq ((dependents.get? prereq).getD [] ++ [id])

def enter (jobs : List Job) (ordered : List Instance) (graph : InstanceGraph) (inst : Instance) :
    InstanceGraph :=
  let pre := prereqsOf jobs ordered inst
  ⟨graph.prereqs.put inst.id pre,
    pre.foldl (fun dependents prereq => addDependent dependents prereq inst.id) graph.dependents⟩

def build (jobs : List Job) (instances : List Instance) : InstanceGraph :=
  let ordered := inOrder instances
  ordered.foldl (enter jobs ordered)
    ⟨[], Keyed.ofPairs (instances.map fun inst => (inst.id, []))⟩

def ofInstances (jobs : List Job) (instances : List Instance) : Except Failure InstanceGraph := do
  let graph ← (JobGraph.ofJobs jobs).mapError .problem
  let _ ← Levels.of graph.dependents graph.needCount (some (positions (jobs.map Job.name)))
  return build jobs instances

end InstanceGraph

def planLevels (jobs : List Job) (instances : List Instance) :
    Except Failure (List (List String)) := do
  let graph ← InstanceGraph.ofInstances jobs instances
  Levels.of graph.dependents
    (graph.prereqs.mapValues fun pre => (pre.length : Int))
    (some (Keyed.ofPairs (instances.map fun inst => (inst.id, (inst.index : Int)))))

end CiPipeline
