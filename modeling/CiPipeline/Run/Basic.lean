import CiPipeline.Report.Basic
import CiPipeline.Run.Job
import CiPipeline.Schedule.Basic

/-! Running a pipeline: its jobs are expanded, their graph is checked, all instances are scheduled, and the
results make a report. A problem found on the way means that no step has run. -/
namespace CiPipeline.Run

structure Options where
  console : Console
  tailLines : Int
  workers : Option Int
  policy : Schedule.Policy

variable {σ : Type}

def runner (context : Context) (options : Options)
    (executorFor : Option String → Executor (World σ)) : Schedule.Runner (World σ) where
  run := runJob context options.console options.tailLines executorFor
  tell := World.tell

def schedule (pipeline : Pipeline) (instances : List Instance) (context : Context)
    (options : Options) (executorFor : Option String → Executor (World σ)) (world : World σ) :
    Schedule.Ended (World σ) :=
  Schedule.run pipeline.jobs instances options.workers options.console options.policy
    (runner context options executorFor) world

def runPipeline (pipeline : Pipeline) (context : Context) (options : Options)
    (executorFor : Option String → Executor (World σ)) (world : World σ) :
    Except Failure Report × World σ :=
  match pipeline.instances with
  | .error failure => (.error failure, world)
  | .ok instances =>
    let ended := schedule pipeline instances context options executorFor world
    match ended.failure with
    | some failure => (.error failure, ended.world)
    | none => (.ok (Report.build pipeline.name instances ended.results), ended.world)

end CiPipeline.Run
