import CiPipeline.Failure
import CiPipeline.Matrix.Instance
import CiPipeline.Matrix.Reference

/-! Expansion of jobs into instances. The axes of a job are checked first; then every combination of
their values makes one instance, the last axis running fastest. -/
namespace CiPipeline.Matrix

/-- Checks the values of an axis in their order. Each is a single value, and no two are spelled alike;
those already met stand in `seen` under their spelling. A value is written out here, be it in the notice
of a problem or for its spelling, and a number in it that is too long for this breaks the check off. -/
def checkValues (job axis : String) (seen : Keyed Scalar) :
    List Document → Except Failure (List Scalar)
  | [] => .ok []
  | value :: rest =>
    if value.hasLongNumber then .error (.crash .longNumber)
    else
      match value.scalar? with
      | none => .error (.problem (.axisCollection job axis value))
      | some scalar =>
        match seen.get? scalar.spelled with
        | some first =>
          .error (.problem
            (.axisRepeats job axis scalar.spelled first.toDocument scalar.toDocument))
        | none =>
          (checkValues job axis (seen ++ [(scalar.spelled, scalar)]) rest).map (scalar :: ·)

def checkAxis (job axis : String) (value : Document) : Except Failure (List Scalar) :=
  match value.opened with
  | .list [] | .tuple [] => .error (.problem (.axisEmpty job axis))
  | .list values | .tuple values => checkValues job axis [] values
  | other => .error (.problem (.axisNoList job axis other.kind))

def checkAxes (job : String) : Keyed Document → Except Failure (Keyed (List Scalar))
  | [] => .ok []
  | (axis, values) :: rest => do
    let first ← checkAxis job axis values
    let others ← checkAxes job rest
    return (axis, first) :: others

/-- All combinations of values, in the order of the axes and with the last one running fastest. -/
def combinations : Keyed (List Scalar) → List Assignment
  | [] => [[]]
  | (axis, values) :: rest =>
    values.flatMap fun value => (combinations rest).map ((axis, value) :: ·)

def combinationCount (axes : Keyed (List Scalar)) : Nat :=
  axes.foldr (fun axis count => axis.2.length * count) 1

theorem combinations_length (axes : Keyed (List Scalar)) :
    (combinations axes).length = combinationCount axes := by
  induction axes with
  | nil => rfl
  | cons axis rest ih =>
    have first (values : List Scalar) :
        (values.flatMap fun value => (combinations rest).map ((axis.1, value) :: ·)).length =
          values.length * combinationCount rest := by
      induction values with
      | nil => simp
      | cons value others ih_values =>
        rw [List.flatMap_cons, List.length_append, List.length_map, ih, ih_values,
          List.length_cons, Nat.succ_mul, Nat.add_comm]
    exact first axis.2

def bindEnv (job : String) (values : Keyed Scalar) : Env → Except Failure Env
  | [] => .ok []
  | (name, text) :: rest => do
    let bound ← bindText job values text
    let others ← bindEnv job values rest
    return (name, bound) :: others

def bindStep (job : String) (values : Keyed Scalar) (step : Step) : Except Failure Step := do
  let name ← bindText job values step.name
  let run ← bindText job values step.run
  let cwd ← bindText? job values step.cwd
  let env ← bindEnv job values step.env
  return ⟨name, run, cwd, step.timeout, env, step.shell⟩

def bindJob (job : Job) (index : Nat) (assignment : Assignment) : Except Failure Instance := do
  let steps ← job.steps.mapM (bindStep job.name assignment)
  let env ← bindEnv job.name assignment job.env
  let runsOn ← bindText? job.name assignment job.runsOn
  let title ← bindText? job.name assignment job.title
  return ⟨job.name, assignment, steps, index, env, runsOn, title⟩

def bindJobs (job : Job) : Nat → List Assignment → Except Failure (List Instance)
  | _, [] => .ok []
  | index, assignment :: rest => do
    let first ← bindJob job index assignment
    let others ← bindJobs job (index + 1) rest
    return first :: others

/-- Notes who owns each instance. A name that another job already owns is a problem. -/
def claimAll (owners : Keyed String) : List Instance → Except Problem (Keyed String)
  | [] => .ok owners
  | inst :: rest =>
    match owners.get? inst.id with
    | some owner =>
      if owner = inst.job then claimAll owners rest
      else .error (.sharedInstance inst.id owner inst.job)
    | none => claimAll (owners ++ [(inst.id, inst.job)]) rest

end CiPipeline.Matrix

namespace CiPipeline

open CiPipeline.Matrix

def Job.instancesFrom (start : Nat) (job : Job) : Except Failure (List Instance) := do
  let axes ← checkAxes job.name job.matrix
  bindJobs job start (combinations axes)

def Pipeline.instancesOf (start : Nat) (owners : Keyed String) :
    List Job → Except Failure (List Instance)
  | [] => .ok []
  | job :: rest => do
    let instances ← job.instancesFrom start
    let owners ← (claimAll owners instances).mapError .problem
    let others ← instancesOf (start + instances.length) owners rest
    return instances ++ others

def Pipeline.instances (pipeline : Pipeline) : Except Failure (List Instance) :=
  instancesOf 0 [] pipeline.jobs

end CiPipeline
