import CiPipeline.Files.Path
import CiPipeline.Failure
import CiPipeline.Matrix.Instance
import CiPipeline.Text.Uppercase

/-! The surroundings of a run: where steps work, what their environment holds, and which backend runs
the steps of an instance. -/
namespace CiPipeline

open Files

structure Context where
  pipelineEnv : Env
  /-- The environment in which the run was started. -/
  environ : Env
  workspace : Path
  /-- Directory that holds a directory for each instance, if instances are kept apart. -/
  scratch : Path
  isolate : Bool
  backends : List String
  backendAxis : String
  defaultTimeout : Option Document

namespace Context

def backendFor (context : Context) (inst : Instance) : Option String :=
  ((inst.matrix.get? context.backendAxis).map Scalar.plain).filter context.backends.contains

/-- The directory of an instance below a scratch directory. A name that no directory may have is a
crash. -/
def isolatedDir (scratch : Path) (inst : Instance) : Except Crash Path :=
  let path := scratch.join (Path.ofText inst.slug)
  if Path.isLongName inst.slug then .error (.longPath path.text) else .ok path

def workdirFor (context : Context) (inst : Instance) : Except Crash Path :=
  if context.isolate then isolatedDir context.scratch inst else .ok context.workspace

def axisVariable (axis : String) : String :=
  "TINYCI_MATRIX_" ++
    String.ofList ((Text.uppercase axis).toList.map fun c => if c = '-' then '_' else c)

def reserved (context : Context) (inst : Instance) : Env :=
  [("CI", "true"), ("TINYCI_WORKSPACE", context.workspace.text), ("TINYCI_JOB", inst.job),
    ("TINYCI_JOB_INSTANCE", inst.id)]

def axisVariables (inst : Instance) : Env :=
  inst.assignment.map fun entry => (axisVariable entry.1, entry.2.plain)

/-- The environment of an instance. Later layers win: the surroundings, the pipeline, the job, and what
the runner sets. -/
def envFor (context : Context) (inst : Instance) : Env :=
  [context.pipelineEnv, inst.env, context.reserved inst, axisVariables inst].foldl Keyed.putAll
    context.environ

end Context

end CiPipeline
