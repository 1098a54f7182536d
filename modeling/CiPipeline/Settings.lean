import CiPipeline.Number.Reading
import CiPipeline.Failure

/-! Settings. They come from variables of the environment, and each has a value of its own where its
variable is not set. -/
namespace CiPipeline

open Number

structure Settings where
  stepTimeout : Binary64
  maxWorkers : Option Int
  backendAxis : String
  tailLines : Int
deriving DecidableEq

namespace Settings

def backendAxisDefault : String := "os"

def readFloat (text : String) : Except Crash Binary64 :=
  match readBinary64? text with
  | some x => .ok x
  | none =>
    .error (.badValue ("could not convert string to float: " ++ Text.quoted text))

def readCount (text : String) : Except Crash Int :=
  (readWhole 10 text).mapError (.badWhole 10 text)

def valueOf (environ : Keyed String) (name absent : String) : String :=
  (environ.get? name).getD absent

/-- Reads the settings; no limit on workers is given by leaving it out or by zero. -/
def ofEnviron (environ : Keyed String) : Except Crash Settings := do
  let stepTimeout ← readFloat (valueOf environ "TINYCI_STEP_TIMEOUT" "3600")
  let maxWorkers ← readCount (valueOf environ "TINYCI_MAX_WORKERS" "0")
  let backendAxis := valueOf environ "TINYCI_BACKEND_AXIS" backendAxisDefault
  let tailLines ← readCount (valueOf environ "TINYCI_TAIL_LINES" "30")
  return ⟨stepTimeout, (some maxWorkers).filter (· != 0), backendAxis, tailLines⟩

def standard : Settings := ⟨Binary64.ofInt 3600, none, backendAxisDefault, 30⟩

def axisOr (settings : Settings) (axis : String) : String :=
  if axis = "" then settings.backendAxis else axis

def exitOk : Nat := 0
def exitFailure : Nat := 1
def exitConfigError : Nat := 2
def exitInterrupted : Nat := 130

end Settings

end CiPipeline
