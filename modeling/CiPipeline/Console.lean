import CiPipeline.Failure
import CiPipeline.Report.Tree

/-! What is told while a pipeline runs. Every notice is a list of lines on one of two channels, and what
is told depends on two switches: whether to tell details, and whether to repeat the output of steps
line by line. -/
namespace CiPipeline

inductive Channel
  | out
  | err
deriving DecidableEq, Repr

structure Line where
  channel : Channel
  text : String
deriving DecidableEq, Repr

def Line.transcript (channel : Channel) (lines : List Line) : String :=
  String.join ((lines.filter (·.channel == channel)).map fun line => line.text ++ "\n")

structure Console where
  debug : Bool
  stream : Bool
deriving DecidableEq, Repr

namespace Console

def out (texts : List String) : List Line := texts.map (⟨.out, ·⟩)

def err (texts : List String) : List Line := texts.map (⟨.err, ·⟩)

def header (title : String) : List Line :=
  out ["\n" ++ title, String.ofList (List.replicate title.length '-')]

def runStarted (pipeline source : String) (jobs instances : Int) (workers : Option Int) :
    List Line :=
  let workers := (workers.filter (· != 0)).map Calendar.intText
  out ["\nRUN STARTED", "Pipeline: " ++ pipeline, "Source: " ++ source,
    "Jobs: " ++ Calendar.intText jobs ++ " (" ++ Calendar.intText instances ++ " instances)",
    "Workers: " ++ workers.getD "unbounded", ""]

def stageLines (stage : Nat × List String) : List String :=
  ("Stage " ++ Calendar.natText (stage.1 + 1) ++ ":") :: stage.2.map ("  " ++ ·)

def plan (levels : List (List String)) : List Line :=
  out ((levels.mapIdx fun position level => (position, level)).flatMap stageLines)

def jobStarted (id : String) (runsOn title : Option String) : List Line :=
  let place := ((givenText runsOn).map (" on " ++ ·)).getD ""
  out ["JOB STARTED: " ++ Report.labelled id title ++ place]

def about (id text : String) : String := "[" ++ id ++ "] " ++ text

def step (id name : String) : List Line := out [about id ("STEP: " ++ name)]

def quotation (id line : String) : String := about id ("| " ++ line)

def outputLine (console : Console) (id line : String) : List Line :=
  if console.stream then out [quotation id line] else []

/-- A failed step with the end of its output, unless that was already told. -/
def stepFailed (console : Console) (id : String) (result : StepResult) (tail : List String) :
    List Line :=
  let exit := (result.exitCode.map fun code => about id ("Exit code: " ++ Calendar.intText code))
  let error := (givenText result.error).map fun error => about id ("Error: " ++ error)
  let quoted :=
    if tail.isEmpty || console.stream then []
    else
      about id ("Last " ++ Calendar.natText tail.length ++ " line(s) of output:") ::
        tail.map (quotation id)
  out (about id ("STEP FAILED: " ++ result.name) :: exit.toList ++ error.toList ++ quoted)

def jobFinished (id : String) (outcome : JobOutcome) : List Line :=
  out ["JOB " ++ outcome.title ++ ": " ++ id]

def jobCancelled (id reason : String) : List Line :=
  out ["JOB CANCELLED: " ++ id ++ " (" ++ reason ++ ")"]

def rule : String := String.ofList (List.replicate 40 '=')

def results (verdict : Verdict) (tree : List String) : List Line :=
  out (["\n" ++ rule, "RESULTS", rule] ++ tree ++ ["", "VERDICT: " ++ verdict.title])

def error (title message : String) (details : List String) (suggestion : Option String) :
    List Line :=
  err (["\nERROR: " ++ title, message] ++ details.map ("  " ++ ·) ++
    ((givenText suggestion).map ("\n" ++ ·)).toList)

def problemHome : String := "tinyci.errors."

def failureLine : Failure → String
  | .problem problem => problemHome ++ (Failure.problem problem).labelled
  | .crash crash => crash.line

def failure (console : Console) (failure : Failure) : List Line :=
  if console.debug then err [failureLine failure] else err ["Error: " ++ failure.text]

def info (message : String) : List Line := out [message]

def detail (console : Console) (message : String) : List Line :=
  if console.debug then err ["[DEBUG] " ++ message] else []

end Console

end CiPipeline
