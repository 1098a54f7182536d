import CiPipeline.Run.Job
import CiPipeline.Shell.Launch
import CiPipeline.Shell.Quoting
import CiPipeline.Text.Lines

/-! Running a step on a machine. The command of the step is handed to a shell, maybe wrapped for another
command; the lines that come out are kept in order, and a step that takes too long is ended. -/
namespace CiPipeline.Run

open Files Number Shell

/-- A machine with a clock that moves on by one tick whenever it is read. -/
structure Host where
  disk : Disk
  /-- Directories below this one come into being when a step works in them. -/
  scratch : Path
  readings : Int
  tick : Int

structure Lodging (σ : Type) where
  host : σ → Host
  update : σ → Host → σ

def Lodging.whole : Lodging Host := ⟨fun host => host, fun _ host => host⟩

namespace Host

def read (host : Host) : Int × Host :=
  let readings := host.readings + 1
  (readings * host.tick, { host with readings := readings })

def enter (host : Host) (path : Path) : Host :=
  if path.anchor == host.scratch.anchor && host.scratch.names.isPrefixOf path.names then
    { host with disk := { host.disk with tree := host.disk.tree.makeDirectories path } }
  else host

end Host

def directoryOf (step : Step) (environment : StepEnvironment) : Path :=
  match step.cwd.filter (· != "") with
  | some cwd => environment.cwd.join (Path.ofText cwd)
  | none => environment.cwd

def variablesOf (step : Step) (environment : StepEnvironment) : Env :=
  environment.env.putAll step.env

def wordsOf (wrapper : Option String) (step : Step) : List String :=
  [(step.shell.filter (· != "")).getD "/bin/sh", "-c", wrap wrapper step.run]

/-- The limit for a step: its own, or one for all steps of the run, or the general one. -/
def limitOf (general : Binary64) (step : Step) (environment : StepEnvironment) : Document :=
  match step.timeout, environment.defaultTimeout.filter Document.isGiven with
  | some limit, _ => limit.toDocument
  | none, some limit => limit
  | none, none => .float general

inductive Limit
  | atOnce
  | after (time : Time)
  | never

def Limit.ofSeconds (seconds : Binary64) : Limit :=
  match seconds with
  | .nan | .infinite false => .never
  | .infinite true => .atOnce
  | .finite negative significand exponent =>
    if negative || significand = 0 then .atOnce
    else
      let ratio := Binary64.ratio significand exponent
      .after (ratio.1 * 1000000000 / ratio.2)

def secondsOf (limit : Document) : Except Crash Binary64 :=
  match limit.scalar?.bind Scalar.toBinary64?, limit with
  | some seconds, _ => .ok seconds
  | none, .int _ => .error ⟨"OverflowError", "int too large to convert to float"⟩
  | none, _ =>
    .error ⟨"TypeError", "unsupported operand type(s) for +: 'float' and '" ++ limit.longKind ++ "'"⟩

def hasZero (text : String) : Bool := text.toList.contains (Char.ofNat 0)

def checkPassable (words : List String) (environ : Env) : Except Crash Unit := do
  if environ.any fun entry => entry.1.toList.contains '=' then
    throw (.badValue "illegal environment variable name")
  if words.any hasZero || environ.any (fun entry => hasZero entry.1 || hasZero entry.2) then
    throw .embeddedNul

def outputLines (output : Octets) : List String :=
  (Text.streamLines (Text.unifyNewlines output.toText.toList)).map String.ofList

def launchOf (wrapper : Option String) (step : Step) (environment : StepEnvironment)
    (limit : Limit) : Launch where
  words := (wordsOf wrapper step).map Octets.ofText
  environ := (variablesOf step environment).map fun entry =>
    (Octets.ofText entry.1, Octets.ofText entry.2)
  directory := directoryOf step environment
  deadline := match limit with
    | .after time => some time
    | .atOnce => some 0
    | .never => none

/-- The exit code of a process; a signal counts as a negative one. -/
def exitCodeOf : Ended → Int
  | .status code => (code % 256 : Nat)
  | .signal number => -(number : Int)

def resultFor (step : Step) (seconds : Binary64) (started finished : Int) (ended : Option Ended)
    (output : List String) : StepResult :=
  match ended with
  | none => {
      name := step.name, outcome := .timedOut, exitCode := some (-9), output := output
      started := some started, finished := some finished, cause := some .timeout
      error := some ("step exceeded timeout of " ++ String.ofList (writeCompact seconds) ++ "s") }
  | some ended =>
    let code := exitCodeOf ended
    if code = 0 then {
      name := step.name, outcome := .succeeded, exitCode := some 0, output := output
      started := some started, finished := some finished, cause := none, error := none }
    else {
      name := step.name, outcome := .failed, exitCode := some code, output := output
      started := some started, finished := some finished, cause := some .nonZeroExit
      error := some ("command exited with code " ++ Calendar.intText code) }

def launchFailure (step : Step) (started finished : Int) (message : String) : StepResult :=
  { StepResult.launchError step.name message with
    started := some started, finished := some finished }

def launchStep (wrapper : Option String) (disk : Disk) (step : Step)
    (environment : StepEnvironment) (limit : Limit) :
    Except Failure (Except String Finished) := do
  let directory := directoryOf step environment
  let launch := launchOf wrapper step environment limit
  if disk.tree.refuses directory directory then throw (.crash (.longPath directory.text))
  match ((launch.machine disk).look? directory) with
  | some (place, .directory) =>
    let launch := { launch with directory := place }
    (checkPassable (wordsOf wrapper step) (variablesOf step environment)).mapError .crash
    match launch.check disk with
    | .error reason =>
      let program := ((wordsOf wrapper step).head?.getD "")
      return .error (reason.text ++ ": " ++ Text.quoted program)
    | .ok _ =>
      match limit with
      | .atOnce => return .ok ⟨none, [], disk⟩
      | _ => return .ok (launch.run disk)
  | _ => return .error ("working directory not found: " ++ directory.text)

variable {σ : Type}

def hostExecutor (lodging : Lodging σ) (general : Binary64) (wrapper : Option String) :
    Executor (World σ) := fun step environment onLine world =>
  let host := (lodging.host world.inner).enter environment.cwd
  let (started, host) := host.read
  let settle (host : Host) : World σ :=
    { world with inner := lodging.update world.inner host }
  let seconds := secondsOf (limitOf general step environment)
  let limit := match seconds with
    | .ok seconds => Limit.ofSeconds seconds
    | .error _ => .never
  match launchStep wrapper host.disk step environment limit, seconds with
  | .error failure, _ => (.raised failure, settle host)
  | .ok (.error message), _ =>
    let (finished, host) := host.read
    (.finished (launchFailure step started finished message), settle host)
  | .ok (.ok _), .error crash => (.raised (.crash crash), settle host)
  | .ok (.ok finished), .ok seconds =>
    let (time, host) := { host with disk := finished.disk }.read
    let lines := outputLines finished.output
    let world := lines.foldl (fun world line => onLine line world) (settle host)
    (.finished (resultFor step seconds started time finished.ended lines), world)

end CiPipeline.Run
