import CiPipeline.CommandLine.Request
import CiPipeline.Json.Printer
import CiPipeline.Loading
import CiPipeline.Report.Data
import CiPipeline.Run.Basic

/-! The program: it reads its command line, runs a pipeline or shows its stages, and ends with an exit
code. A pipeline that cannot be run is refused before anything has run. -/
namespace CiPipeline.CommandLine

open Files

structure Surroundings where
  tree : Tree
  home : Path
  scratch : Path
  environ : Env
  settings : Settings
  policy : Schedule.Policy

/-- How the program ends: its exit code, and the failure that broke it off if there was one. -/
structure Exit (σ : Type) where
  code : Nat
  failure : Option Failure
  world : World σ

variable {σ : Type}

def Exit.plain (code : Nat) (world : World σ) : Exit σ := ⟨code, none, world⟩

def suggestion : String :=
  "Nothing was executed. Fix the pipeline description and re-run."

def problemLines (path : Path) (problem : Problem) : List Line :=
  Console.error ("Invalid pipeline (" ++ problem.kind.name ++ ")")
    (path.text ++ ": " ++ problem.message)
    (problem.details.map fun entry => entry.1 ++ ": " ++ entry.2.render) (some suggestion)

def interruptKind : String := "KeyboardInterrupt"

/-- How the program ends when something failed. Only a run may be interrupted by the user. -/
def failed (path : Path) (mayInterrupt : Bool) (failure : Failure) (world : World σ) : Exit σ :=
  match failure with
  | .problem problem => .plain Settings.exitConfigError (world.tell (problemLines path problem))
  | .crash crash =>
    if mayInterrupt && crash.kind == interruptKind then
      .plain Settings.exitInterrupted (world.tell (Console.info "\nInterrupted by user"))
    else ⟨Settings.exitFailure, some failure, world⟩

structure Prepared where
  pipeline : Pipeline
  instances : List Instance
  levels : List (List String)

def prepare (around : Surroundings) (path : Path) : Except Failure Prepared := do
  let pipeline ← Pipeline.load around.tree around.home path
  let instances ← pipeline.instances
  let levels ← planLevels pipeline.jobs instances
  return ⟨pipeline, instances, levels⟩

def planLines (prepared : Prepared) : List Line :=
  Console.header (prepared.pipeline.name ++ ": " ++
      Calendar.natText prepared.instances.length ++ " job instance(s)") ++
    Console.plan prepared.levels

def plan (around : Surroundings) (path : Path) (world : World σ) : Exit σ :=
  match prepare around path with
  | .error failure => failed path false failure world
  | .ok prepared => .plain Settings.exitOk (world.tell (planLines prepared))

def contextFor (around : Surroundings) (request : RunRequest) (pipeline : Pipeline)
    (backends : Keyed String) : Context where
  pipelineEnv := pipeline.env
  environ := around.environ
  workspace := around.home.resolve request.workspace
  scratch := around.scratch
  isolate := request.isolate
  backends := backends.names
  backendAxis := around.settings.axisOr request.backendAxis
  defaultTimeout := request.timeout.map .float

def optionsFor (around : Surroundings) (debug : Bool) (request : RunRequest) : Run.Options :=
  ⟨⟨debug, request.stream⟩, around.settings.tailLines, request.workers, around.policy⟩

def reportLines (asJson : Bool) (report : Report) : List Line :=
  if asJson then Console.info report.data.print
  else Console.results report.verdict report.tree

def startLines (request : RunRequest) (prepared : Prepared) : List Line :=
  Console.runStarted prepared.pipeline.name request.pipeline.text prepared.pipeline.jobs.length
    prepared.instances.length request.workers

def exitCode (report : Report) : Nat :=
  if report.ok then Settings.exitOk else Settings.exitFailure

def run (around : Surroundings) (debug : Bool) (request : RunRequest) (backends : Keyed String)
    (executorFor : Option String → Executor (World σ)) (world : World σ) : Exit σ :=
  match prepare around request.pipeline with
  | .error failure => failed request.pipeline true failure world
  | .ok prepared =>
    let ended := Run.runPipeline prepared.pipeline
      (contextFor around request prepared.pipeline backends) (optionsFor around debug request)
      (fun backend => executorFor (backend.bind backends.get?))
      (world.tell (startLines request prepared))
    match ended.1 with
    | .error failure => failed request.pipeline true failure ended.2
    | .ok report =>
      .plain (exitCode report) (ended.2.tell (reportLines request.asJson report))

def usageExit (usage : Usage) (world : World σ) : Exit σ :=
  match usage with
  | .help => .plain Settings.exitOk world
  | .noArguments => .plain Settings.exitConfigError world
  | .broken crash => ⟨Settings.exitFailure, some (.crash crash), world⟩
  | usage => .plain Settings.exitConfigError (world.tell (Console.err ["Error: " ++ usage.message]))

def execute (around : Surroundings) (arguments : List String)
    (executorFor : Option String → Executor (World σ)) (world : World σ) : Exit σ :=
  match readRequest around.settings around.tree around.home arguments with
  | .error usage => usageExit usage world
  | .ok (_, .plan path) => plan around path world
  | .ok (debug, .run request) =>
    match readBackends request.backends with
    | .error message => usageExit (.badValue "--backend" message) world
    | .ok backends => run around debug request backends executorFor world

end CiPipeline.CommandLine
