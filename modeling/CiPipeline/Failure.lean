import CiPipeline.Problem
import CiPipeline.Yaml.Value

/-! Failures of every sort. A problem is an error of the description and is told as such; a crash is
any other failure, known by its kind and its message alone. Interrupts are crashes that end the
whole program. -/
namespace CiPipeline

structure Crash where
  kind : String
  message : String
deriving DecidableEq, Repr

namespace Crash

def missingKey (key : Document) : Crash := ⟨"KeyError", key.display⟩

def badValue (message : String) : Crash := ⟨"ValueError", message⟩

def shownLength : Nat := 200

def digitLimitText (remark : String) : String :=
  "Exceeds the limit (" ++ Calendar.natText Number.digitLimit ++
    " digits) for integer string conversion" ++ remark ++
    "; use sys.set_int_max_str_digits() to increase the limit"

def longNumber : Crash := badValue (digitLimitText "")

def badWhole (base : Nat) (text : String) : Number.WholeFault → Crash
  | .notNumeral =>
    badValue ("invalid literal for int() with base " ++ Calendar.natText base ++ ": " ++
      String.ofList ((Text.quoted text).toList.take shownLength))
  | .tooManyDigits count =>
    badValue (digitLimitText (": value has " ++ Calendar.natText count ++ " digits"))

def embeddedNul : Crash := badValue "embedded null byte"

def longPath (path : String) : Crash :=
  ⟨"OSError", "[Errno 36] File name too long: " ++ Text.quoted path⟩

def notIterable (value : Document) : Crash :=
  ⟨"TypeError", "'" ++ value.longKind ++ "' object is not iterable"⟩

def notAKey (value : Document) : Crash := ⟨"TypeError", "unhashable type: '" ++ value.longKind ++ "'"⟩

def noAttribute (value : Document) (name : String) : Crash :=
  ⟨"AttributeError", "'" ++ value.longKind ++ "' object has no attribute '" ++ name ++ "'"⟩

def interruptKinds : List String := ["KeyboardInterrupt", "SystemExit", "GeneratorExit"]

def isInterrupt (crash : Crash) : Bool := interruptKinds.contains crash.kind

def syntaxKinds : List String := ["SyntaxError", "IndentationError", "TabError"]

/-- Kind and message on one line. A crash without a message is its kind alone, unless a program text
was refused. -/
def line (crash : Crash) : String :=
  if crash.message != "" then crash.kind ++ ": " ++ crash.message
  else if syntaxKinds.contains crash.kind then crash.kind ++ ": <no detail available>"
  else crash.kind

def labelled (crash : Crash) : String := crash.kind ++ ": " ++ crash.message

end Crash

namespace Yaml.ValueFault

def crash? : ValueFault → Option Crash
  | invalid => none
  | beyondLastChar => some (.badValue "chr() arg not in range(0x110000)")
  | beyondWord => some ⟨"OverflowError", "Python int too large to convert to C int"⟩
  | unknownWord word => some (.missingKey (.text word))
  | missingDigits => some ⟨"IndexError", "string index out of range"⟩
  | badInt base text fault => some (.badWhole base text fault)
  | badFloat text => some (.badValue ("could not convert string to float: " ++ Text.quoted text))
  | badTimestamp => some (.noAttribute .null "groupdict")
  | timestampOfEntries =>
    some ⟨"TypeError", "expected string or bytes-like object, got 'list'"⟩
  | calendar fault => some (.badValue fault.message)
  | tooDeep => some ⟨"RecursionError", "maximum recursion depth exceeded"⟩

end Yaml.ValueFault

inductive Failure
  | problem (cause : Problem)
  | crash (cause : Crash)

namespace Failure

/-- What is raised under the name of a kind with a message as its only argument. A missing key shows
its argument in quotes. -/
def ofKind (kind argument : String) : Failure :=
  match ProblemKind.ofName? kind with
  | some known => problem (.declared known argument)
  | none =>
    if kind = "KeyError" then crash (.missingKey (.text argument)) else crash ⟨kind, argument⟩

def kind : Failure → String
  | problem cause => cause.kind.name
  | crash cause => cause.kind

def text : Failure → String
  | problem cause => cause.text
  | crash cause => cause.message

def labelled (failure : Failure) : String := failure.kind ++ ": " ++ failure.text

def isInterrupt : Failure → Bool
  | problem _ => false
  | crash cause => cause.isInterrupt

end Failure

end CiPipeline
