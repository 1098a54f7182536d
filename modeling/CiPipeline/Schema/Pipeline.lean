import CiPipeline.Failure
import CiPipeline.Pipeline.Basic
import CiPipeline.Schema.Fields
import CiPipeline.Text.Lines

/-! The shape of a pipeline document: which fields a step, a job and a pipeline have, what their
shorthands mean, and the rules that join several fields. Unknown fields have no effect. Rules on
several fields are checked only where every single field is valid. -/
namespace CiPipeline.Schema

open Number Text

def readEnv : Document → Checked (Keyed Scalar) := readMap readScalar

def spellEnv (env : Keyed Scalar) : Except Crash Env :=
  if env.any fun entry => entry.2.toDocument.hasLongNumber then .error .longNumber
  else .ok (env.mapValues Scalar.spelled)

structure StepForm where
  name : Option String
  run : Option String
  uses : Option String
  cwd : Option String
  timeout : Option Binary64
  timeoutMinutes : Option Binary64
  env : Keyed Scalar
  shell : Option String

def ruleBroken {α : Type} (rule : String) : Checked α := .refuse ("Value error, " ++ rule)

namespace StepForm

def ofFields (fields : Entries) : Checked StepForm :=
  StepForm.mk
    <$> readField fields none "name" none (readOptional readText)
    <*> readField fields none "run" none (readOptional readText)
    <*> readField fields none "uses" none (readOptional readText)
    <*> readField fields (some "working-directory") "cwd" none (readOptional readText)
    <*> readField fields none "timeout" none (readOptional readPositive)
    <*> readField fields (some "timeout-minutes") "timeout_minutes" none
      (readOptional readPositive)
    <*> readField fields none "env" [] readEnv
    <*> readField fields none "shell" none (readOptional readText)

def check (form : StepForm) : Checked StepForm :=
  match form.uses, form.run with
  | some uses, _ => ruleBroken ("reusable actions are not supported (uses: " ++ uses ++ ")")
  | none, run =>
    if isBlankText (run.getD "") then ruleBroken "step must define a non-empty 'run' command"
    else .valid form

/-- Without a name a step is named after the first line of its command. Minutes count only where no
seconds are given. -/
def toStep (form : StepForm) : Except Crash Step :=
  (spellEnv form.env).map fun env => {
    name := (givenText form.name).getD (firstLine (trim (form.run.getD "")))
    run := form.run.getD ""
    cwd := form.cwd
    timeout :=
      ((form.timeout <|> form.timeoutMinutes.map fun minutes => minutes.scaleNat 60)).map .float
    env := env
    shell := form.shell }

end StepForm

def readForm {α : Type} (form : String) (read : Entries → Checked α) (value : Document) :
    Checked α :=
  match value.opened with
  | .map fields => read fields
  | _ => .refuse (notMap ++ " or instance of " ++ form)

def readStep : Document → Checked StepForm :=
  readForm "StepModel" fun fields => (StepForm.ofFields fields).andThen StepForm.check

def readStrategy : Document → Checked (Keyed Document) :=
  readForm "StrategyModel" fun fields => readField fields none "matrix" [] readOpenMap

def readSteps (value : Document) : Checked (List StepForm) :=
  (readList readStep value).andThen fun steps =>
    if steps.isEmpty then .refuse "List should have at least 1 item after validation, not 0"
    else .valid steps

def readNeeds : Document → Checked (List String)
  | .null => .valid []
  | .text need => .valid [need]
  | value => readList readText value

structure JobForm where
  name : Option String
  steps : List StepForm
  needs : List String
  matrix : Option (Keyed Document)
  strategy : Option (Keyed Document)
  env : Keyed Scalar
  runsOn : Option String

namespace JobForm

def ofFields (fields : Entries) : Checked JobForm :=
  JobForm.mk
    <$> readField fields none "name" none (readOptional readText)
    <*> readRequired fields "steps" readSteps
    <*> readField fields none "needs" [] readNeeds
    <*> readField fields none "matrix" none (readOptional readOpenMap)
    <*> readField fields none "strategy" none (readOptional readStrategy)
    <*> readField fields none "env" [] readEnv
    <*> readField fields (some "runs-on") "runs_on" none (readOptional readText)

def check (form : JobForm) : Checked JobForm :=
  if form.matrix.isSome && !(form.strategy.getD []).isEmpty then
    ruleBroken "define the matrix either at 'matrix' or at 'strategy.matrix', not both"
  else .valid form

def toJob (key : String) (form : JobForm) : Except Crash Job := do
  let steps ← form.steps.mapM StepForm.toStep
  let env ← spellEnv form.env
  return {
    name := key
    steps := steps
    needs := form.needs
    matrix := (form.matrix <|> form.strategy).getD []
    env := env
    title := form.name
    runsOn := form.runsOn }

end JobForm

def readJob : Document → Checked JobForm :=
  readForm "JobModel" fun fields => (JobForm.ofFields fields).andThen JobForm.check

def readJobs (value : Document) : Checked (Keyed JobForm) :=
  (readMap readJob value).andThen fun jobs =>
    if jobs.isEmpty then .refuse "Dictionary should have at least 1 item after validation, not 0"
    else .valid jobs

def readTriggers (value : Document) : Checked (Keyed Document) :=
  match value.opened with
  | .null => .valid []
  | .text event => .valid [(event, .null)]
  | .list events =>
    if events.any Document.hasLongNumber then ruleBroken Crash.longNumber.message
    else .valid (Keyed.ofPairs (events.map fun event => (event.render, .null)))
  | value => readOpenMap value

structure PipelineForm where
  name : String
  triggers : Keyed Document
  env : Keyed Scalar
  jobs : Keyed JobForm

namespace PipelineForm

def ofFields (fields : Entries) : Checked PipelineForm :=
  PipelineForm.mk
    <$> readField fields none "name" "pipeline" readText
    <*> readField fields (some "on") "triggers" [] readTriggers
    <*> readField fields none "env" [] readEnv
    <*> readRequired fields "jobs" readJobs

def toPipeline (form : PipelineForm) : Except Crash Pipeline := do
  let jobs ← form.jobs.mapM fun entry => entry.2.toJob entry.1
  let env ← spellEnv form.env
  return ⟨form.name, jobs, env, form.triggers⟩

end PipelineForm

/-- A bare word for the triggers reads as the truth value; it is put back under its name, unless that
name is there as well. -/
def restoreTriggers (fields : Entries) : Entries :=
  match fields.get? (.bool true) with
  | none => fields
  | some triggers =>
    let rest := fields.erase (.bool true)
    if rest.contains (.text "on") then rest else rest.put (.text "on") triggers

end CiPipeline.Schema

namespace CiPipeline.Pipeline

open Schema

def ofDocument (source : String) (document : Document) : Except Failure Pipeline :=
  match document.opened with
  | .map fields =>
    match PipelineForm.ofFields (restoreTriggers fields) with
    | .valid form => form.toPipeline.mapError .crash
    | .invalid issues => .error (.problem (.invalidFields source issues))
  | _ => .error (.problem (.notMapping source document.kind))

end CiPipeline.Pipeline
