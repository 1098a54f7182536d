import CiPipeline.Run.Context
import CiPipeline.Schedule.Cascade

/-! What a run keeps while it lasts: the results so far, and whether its scratch directory is there. -/
namespace CiPipeline.Run

structure Session where
  results : Keyed JobResult
  scratchOpen : Bool

namespace Session

def start : Session := ⟨[], false⟩

def record (session : Session) (result : JobResult) : Bool × Session :=
  match Schedule.record session.results result with
  | some results => (true, { session with results := results })
  | none => (false, session)

def resultFor (session : Session) (inst : Instance) : Option JobResult :=
  session.results.get? inst.id

/-- The directory of an instance. Asking for one of its own opens the scratch directory. -/
def workdirFor (session : Session) (context : Context) (inst : Instance) :
    Except Crash Files.Path × Session :=
  (context.workdirFor inst, { session with scratchOpen := session.scratchOpen || context.isolate })

def close (session : Session) : Bool × Session :=
  (session.scratchOpen, { session with scratchOpen := false })

end Session

end CiPipeline.Run
