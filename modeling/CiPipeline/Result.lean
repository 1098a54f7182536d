import CiPipeline.Matrix.Instance

/-! Results of steps and of jobs. A result is written once and never changed. Moments are counted in
microseconds from an instant that is the same for the whole run. -/
namespace CiPipeline

open Number

inductive StepOutcome
  | succeeded
  | failed
  | timedOut
  | skipped
deriving DecidableEq, Repr

namespace StepOutcome

def name : StepOutcome → String
  | succeeded => "succeeded"
  | failed => "failed"
  | timedOut => "timed_out"
  | skipped => "skipped"

def all : List StepOutcome := [succeeded, failed, timedOut, skipped]

def ofName? (text : String) : Option StepOutcome := all.find? (·.name == text)

end StepOutcome

inductive FailureCause
  | nonZeroExit
  | launchError
  | timeout
deriving DecidableEq, Repr

namespace FailureCause

def name : FailureCause → String
  | nonZeroExit => "non_zero_exit"
  | launchError => "launch_error"
  | timeout => "timeout"

def all : List FailureCause := [nonZeroExit, launchError, timeout]

def ofName? (text : String) : Option FailureCause := all.find? (·.name == text)

end FailureCause

inductive JobOutcome
  | succeeded
  | failed
  | cancelled
deriving DecidableEq, Repr

namespace JobOutcome

def name : JobOutcome → String
  | succeeded => "succeeded"
  | failed => "failed"
  | cancelled => "cancelled"

def title : JobOutcome → String
  | succeeded => "SUCCEEDED"
  | failed => "FAILED"
  | cancelled => "CANCELLED"

def all : List JobOutcome := [succeeded, failed, cancelled]

def ofName? (text : String) : Option JobOutcome := all.find? (·.name == text)

end JobOutcome

inductive Verdict
  | success
  | failure
deriving DecidableEq, Repr

namespace Verdict

def name : Verdict → String
  | success => "success"
  | failure => "failure"

def title : Verdict → String
  | success => "SUCCESS"
  | failure => "FAILURE"

end Verdict

structure StepResult where
  name : String
  outcome : StepOutcome
  exitCode : Option Int
  output : List String
  started : Option Int
  finished : Option Int
  cause : Option FailureCause
  error : Option String
deriving DecidableEq

namespace StepResult

def skipped (name : String) : StepResult :=
  ⟨name, .skipped, none, [], none, none, none, none⟩

def launchError (name message : String) : StepResult :=
  ⟨name, .failed, none, [], none, none, some .launchError, some message⟩

def ok (result : StepResult) : Bool := result.outcome == .succeeded

def microsPerSecond : Nat := 1000000

def duration (result : StepResult) : Option Binary64 :=
  match result.started, result.finished with
  | some started, some finished =>
    let span := finished - started
    some (Binary64.ofRatio (span < 0) span.natAbs microsPerSecond)
  | _, _ => none

end StepResult

structure JobResult where
  inst : Instance
  outcome : JobOutcome
  steps : List StepResult
  reason : Option String
deriving DecidableEq

namespace JobResult

def ok (result : JobResult) : Bool := result.outcome == .succeeded

def failedStep (result : JobResult) : Option StepResult :=
  result.steps.find? fun step => step.outcome == .failed || step.outcome == .timedOut

def cancelled (inst : Instance) (culprit : String) : JobResult :=
  ⟨inst, .cancelled, [], some ("prerequisite '" ++ culprit ++ "' did not succeed")⟩

end JobResult

end CiPipeline
