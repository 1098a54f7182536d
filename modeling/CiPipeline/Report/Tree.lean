import CiPipeline.Report.Basic

/-! A report as a tree of lines: one line for each job, below it one for each step, and a summary at the
end. -/
namespace CiPipeline.Report

open Number

def jobMark : JobOutcome → String
  | .succeeded => "✓"
  | .failed => "✗"
  | .cancelled => "⊘"

def stepMark : StepOutcome → String
  | .succeeded => "✓"
  | .failed => "✗"
  | .timedOut => "⏱"
  | .skipped => "⏭"

def labelled (name : String) (title : Option String) : String :=
  match givenText title with
  | some title => name ++ " [" ++ title ++ "]"
  | none => name

def jobLine (id : String) (result : JobResult) : String :=
  let head := jobMark result.outcome ++ " " ++ labelled id result.inst.title ++ ": " ++
    result.outcome.title
  match givenText result.reason with
  | some reason => if result.ok then head else head ++ " (" ++ reason ++ ")"
  | none => head

def stepRemarks (result : StepResult) : List String :=
  let exit :=
    match result.exitCode with
    | some code => if result.ok then [] else ["exit=" ++ Calendar.intText code]
    | none => []
  let cause := (result.cause.map FailureCause.name).toList
  let seconds :=
    (result.duration.map fun duration => String.ofList (writePlaces 1 duration) ++ "s").toList
  exit ++ cause ++ seconds

def stepLine (result : StepResult) : String :=
  let head := "    " ++ stepMark result.outcome ++ " " ++ result.name ++ ": " ++
    result.outcome.name
  match stepRemarks result with
  | [] => head
  | remarks => head ++ " [" ++ ", ".intercalate remarks ++ "]"

def count (report : Report) (outcome : JobOutcome) : Nat := (report.byOutcome outcome).length

def summary (report : Report) : String :=
  Calendar.natText (report.count .succeeded) ++ " succeeded, " ++
    Calendar.natText (report.count .failed) ++ " failed, " ++
    Calendar.natText (report.count .cancelled) ++ " cancelled"

def jobLines (entry : String × JobResult) : List String :=
  jobLine entry.1 entry.2 :: entry.2.steps.map stepLine

def tree (report : Report) : List String :=
  report.results.flatMap jobLines ++ ["", report.summary]

end CiPipeline.Report
