import CiPipeline.Document
import CiPipeline.Text.Utf8

/-! Single values: what an axis of a matrix ranges over and what an environment binds. They have two
spellings. One is that of documents, where truth values are lower-case words; the other is the plain
one, where they are capitalised. -/
namespace CiPipeline

open Number

def Document.spelled : Document → String
  | .bool value => if value then "true" else "false"
  | value => value.render

inductive Scalar
  | text (value : String)
  | int (value : Int)
  | float (value : Binary64)
  | bool (value : Bool)
deriving DecidableEq, Repr

namespace Scalar

def toDocument : Scalar → Document
  | text value => .text value
  | int value => .int value
  | float value => .float value
  | bool value => .bool value

def plain (scalar : Scalar) : String := scalar.toDocument.render

def spelled (scalar : Scalar) : String := scalar.toDocument.spelled

def isLong (scalar : Scalar) : Bool := scalar.toDocument.hasLongNumber

theorem spelled_eq_plain (scalar : Scalar) (noBool : ∀ value, scalar ≠ bool value) :
    scalar.spelled = scalar.plain := by
  cases scalar with
  | bool value => exact absurd rfl (noBool value)
  | _ => rfl

def isGiven (scalar : Scalar) : Bool := scalar.toDocument.isGiven

/-- The number that a value stands for, unless it is a text or too large for a double. -/
def toBinary64? : Scalar → Option Binary64
  | text _ => none
  | int value =>
    let x := Binary64.ofInt value
    if x.isFinite then some x else none
  | float value => some value
  | bool value => some (Binary64.ofInt (if value then 1 else 0))

/-- Equality of values, where numbers and truth values are compared by amount. -/
def same (a b : Scalar) : Bool := a.toDocument.sameKey b.toDocument

end Scalar

namespace Document

def scalar? : Document → Option Scalar
  | text value => some (.text value)
  | int value => some (.int value)
  | float value => some (.float value)
  | bool value => some (.bool value)
  | _ => none

theorem scalar?_toDocument (scalar : Scalar) : scalar.toDocument.scalar? = some scalar := by
  cases scalar <;> rfl

end Document

end CiPipeline
