import CiPipeline.CommandLine.Arguments
import CiPipeline.CommandLine.Backends
import CiPipeline.Files.Tree
import CiPipeline.Settings

/-! What a command line asks for: to run a pipeline in a certain way, or to show its stages. -/
namespace CiPipeline.CommandLine

open Files Number

structure RunRequest where
  pipeline : Path
  workers : Option Int
  timeout : Option Binary64
  workspace : Path
  isolate : Bool
  backends : List String
  backendAxis : String
  stream : Bool
  asJson : Bool

inductive Request
  | run (request : RunRequest)
  | plan (pipeline : Path)

def helpOption : Spelling := ⟨"--help", "help", .switch true⟩

def programOptions : List Spelling := [⟨"--debug", "debug", .switch true⟩, helpOption]

def planOptions : List Spelling := [helpOption]

def runOptions : List Spelling := [
  ⟨"--workers", "workers", .valued⟩, ⟨"-j", "workers", .valued⟩,
  ⟨"--timeout", "timeout", .valued⟩, ⟨"--workspace", "workspace", .valued⟩,
  ⟨"--isolate", "isolate", .switch true⟩, ⟨"--no-isolate", "isolate", .switch false⟩,
  ⟨"--backend", "backend", .valued⟩, ⟨"--backend-axis", "backend-axis", .valued⟩,
  ⟨"--stream", "stream", .switch true⟩, ⟨"--no-stream", "stream", .switch false⟩,
  ⟨"--json", "json", .switch true⟩, helpOption]

/-- No path holds a zero character. -/
def checkPath (text : String) : Except Usage Unit :=
  if text.contains '\x00' then .error (.broken .embeddedNul) else .ok ()

def checkFile (tree : Tree) (home : Path) (text : String) : Except Usage Unit := do
  checkPath text
  match tree.entryAt? home (Path.ofText text) with
  | some .directory =>
    if text = "" then .ok ()
    else .error (.badValue "'PIPELINE'" ("File " ++ Text.quoted text ++ " is a directory."))
  | _ => .ok ()

def checkDirectory (tree : Tree) (home : Path) (text : String) : Except Usage Unit := do
  checkPath text
  match tree.entryAt? home (Path.ofText text) with
  | some .directory | none => .ok ()
  | some _ =>
    .error (.badValue "'--workspace'" ("Directory " ++ Text.quoted text ++ " is a file."))

def workersPlace : String := "'--workers' / '-j'"

def checkWorkers (count : Int) : Except Usage Int :=
  if count < 1 then
    .error (.badValue workersPlace (Calendar.intText count ++ " is not in the range x>=1."))
  else .ok count

def readWorkers (text : String) : Except Usage Int :=
  match readWhole 10 text with
  | .error _ =>
    .error (.badValue workersPlace (Text.quoted text ++ " is not a valid integer range."))
  | .ok count => checkWorkers count

def timeoutPlace : String := "'--timeout'"

/-- A limit has to be above zero; one that is no number is let through. -/
def readTimeout (text : String) : Except Usage Binary64 :=
  match readBinary64? text with
  | none =>
    .error (.badValue timeoutPlace (Text.quoted text ++ " is not a valid float range."))
  | some x =>
    if x.isPositive || x == .nan then .ok x
    else
      .error (.badValue timeoutPlace
        (String.ofList (writeBinary64 x) ++ " is not in the range x>0."))

def checkOption (tree : Tree) (home : Path) (parsed : Parsed) (option : String) :
    Except Usage Unit :=
  match option, parsed.value? option with
  | "workers", some text => (readWorkers text).map fun _ => ()
  | "timeout", some text => (readTimeout text).map fun _ => ()
  | "workspace", some text => checkDirectory tree home text
  | "help", _ => .error .help
  | _, _ => .ok ()

/-- The path of the pipeline. The options are checked before it, in the order in which they were given;
what stands for options that were left out is checked after it, and further arguments last. -/
def pipelineArgument (tree : Tree) (home : Path) (parsed : Parsed) (leftOut : Except Usage Unit) :
    Except Usage Path := do
  if parsed.isOn "help" then throw .help
  parsed.order.forM (checkOption tree home parsed)
  match parsed.others with
  | [] => throw (.missingArgument "PIPELINE")
  | pipeline :: more =>
    checkFile tree home pipeline
    leftOut
    if more.isEmpty then return Path.ofText pipeline else throw (.unexpected more)

/-- The number of workers in the settings counts where none is given, and is then checked like a given
one. -/
def checkSettings (settings : Settings) (parsed : Parsed) : Except Usage Unit :=
  match parsed.value? "workers", settings.maxWorkers with
  | none, some count => (checkWorkers count).map fun _ => ()
  | _, _ => .ok ()

def readRun (settings : Settings) (tree : Tree) (home : Path) (arguments : List String) :
    Except Usage RunRequest := do
  let parsed ← read runOptions true arguments
  let pipeline ← pipelineArgument tree home parsed (checkSettings settings parsed)
  let workers ← (parsed.value? "workers").mapM readWorkers
  let timeout ← (parsed.value? "timeout").mapM readTimeout
  return {
    pipeline := pipeline
    workers := workers <|> settings.maxWorkers
    timeout := timeout
    workspace := Path.ofText ((parsed.value? "workspace").getD ".")
    isolate := parsed.isOn "isolate"
    backends := parsed.values "backend"
    backendAxis := (parsed.value? "backend-axis").getD settings.backendAxis
    stream := parsed.isOn "stream"
    asJson := parsed.isOn "json" }

def readPlan (tree : Tree) (home : Path) (arguments : List String) : Except Usage Path := do
  pipelineArgument tree home (← read planOptions true arguments) (.ok ())

def commands : List String := ["plan", "run"]

/-- Reads a whole command line; the switch for details stands before the command. -/
def readRequest (settings : Settings) (tree : Tree) (home : Path) (arguments : List String) :
    Except Usage (Bool × Request) := do
  let program ← read programOptions false arguments
  if arguments.isEmpty then throw .noArguments
  if program.isOn "help" then throw .help
  let debug := program.isOn "debug"
  match program.others with
  | [] => throw .missingCommand
  | "run" :: rest => return (debug, .run (← readRun settings tree home rest))
  | "plan" :: rest => return (debug, .plan (← readPlan tree home rest))
  | name :: _ => throw (.noSuchCommand name (Text.closest name commands))

end CiPipeline.CommandLine
