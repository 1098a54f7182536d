import CiPipeline.Console
import CiPipeline.Run.Context

/-! Running one instance. Its steps run strictly in order; the first one that does not succeed fails the
job, and the steps behind it are recorded as skipped. -/
namespace CiPipeline

open Files

structure StepEnvironment where
  cwd : Path
  env : Env
  job : String
  defaultTimeout : Option Document

/-- How running a step ends: with a result, with a command that could not be started, or with some
other failure. -/
inductive Attempt
  | finished (result : StepResult)
  | notLaunched (message : String)
  | raised (failure : Failure)

/-- Runs a step in a world. Every line of its output is handed on when it comes. -/
abbrev Executor (ω : Type) :=
  Step → StepEnvironment → (String → ω → ω) → ω → Attempt × ω

structure World (σ : Type) where
  lines : List Line
  inner : σ

namespace World

variable {σ : Type}

def tell (lines : List Line) (world : World σ) : World σ :=
  { world with lines := world.lines ++ lines }

end World

namespace Run

variable {σ : Type}

/-- The result of an attempt, unless it broke off. A command that could not be started is a failure of
the step. -/
def resultOf (step : Step) : Attempt → Except Failure StepResult
  | .finished result => .ok result
  | .notLaunched message => .ok (.launchError step.name message)
  | .raised failure => .error failure

def lastLines (limit : Int) (output : List String) : List String :=
  output.drop (output.length - limit.toNat)

def runSteps (console : Console) (tailLines : Int) (executor : Executor (World σ))
    (environment : StepEnvironment) :
    List Step → World σ → Except Failure (List StepResult) × World σ
  | [], world => (.ok [], world)
  | step :: rest, world =>
    let id := environment.job
    let world := world.tell (Console.step id step.name)
    let ended := executor step environment
      (fun line world => world.tell (console.outputLine id line)) world
    let world := ended.2
    match resultOf step ended.1 with
    | .error failure => (.error failure, world)
    | .ok result =>
      if result.ok then
        let others := runSteps console tailLines executor environment rest world
        (others.1.map (result :: ·), others.2)
      else
        (.ok (result :: rest.map fun skipped => .skipped skipped.name),
          world.tell (console.stepFailed id result (lastLines tailLines result.output)))

def jobResult (inst : Instance) (results : List StepResult) : JobResult :=
  match results.find? fun result => !result.ok with
  | none => ⟨inst, .succeeded, results, none⟩
  | some failure =>
    ⟨inst, .failed, results, some ("step '" ++ failure.name ++ "' " ++ failure.outcome.name)⟩

def environmentFor (context : Context) (inst : Instance) : Except Crash StepEnvironment :=
  (context.workdirFor inst).map fun cwd =>
    ⟨cwd, context.envFor inst, inst.id, context.defaultTimeout⟩

/-- Runs an instance under its name. Without one nothing is told and nothing is run. -/
def runJob (context : Context) (console : Console) (tailLines : Int)
    (executorFor : Option String → Executor (World σ)) (inst : Instance) (world : World σ) :
    Except Failure JobResult × World σ :=
  if !inst.isNamed then (.error (.crash .longNumber), world)
  else
    let world := world.tell (Console.jobStarted inst.id inst.runsOn inst.title)
    match environmentFor context inst with
    | .error crash => (.error (.crash crash), world)
    | .ok environment =>
      let executor := executorFor (context.backendFor inst)
      match runSteps console tailLines executor environment inst.steps world with
      | (.error failure, world) => (.error failure, world)
      | (.ok results, world) =>
        let result := jobResult inst results
        (.ok result, world.tell (Console.jobFinished inst.id result.outcome))

end Run

end CiPipeline
