/-! Double-precision numbers as exact values: a sign, a whole significand and a power of two. All
arithmetic goes through `ofRatio`, which rounds an exact quotient once, to the nearest double and
on a tie to the even one. -/
namespace CiPipeline.Number

def roundHalfEven (num den : Nat) : Nat :=
  let quotient := num / den
  let twice := 2 * (num % den)
  if twice < den then quotient
  else if den < twice then quotient + 1
  else if quotient % 2 = 0 then quotient else quotient + 1

/-- A double; a finite one stands for its significand times two to the exponent. -/
inductive Binary64
  | nan
  | infinite (negative : Bool)
  | finite (negative : Bool) (significand : Nat) (exponent : Int)
deriving DecidableEq, Repr, Inhabited

namespace Binary64

def leastExponent : Int := -1074
def greatestExponent : Int := 971

def scaleDown (num den : Nat) (exponent : Int) : Nat × Nat :=
  match exponent with
  | .ofNat e => (num, den * Nat.pow 2 e)
  | .negSucc e => (num * Nat.pow 2 (e + 1), den)

/-- The exponent at which the significand of a positive quotient has 53 bits, or the least one. -/
def exponentFor (num den : Nat) : Int :=
  let guess : Int := (num.log2 : Int) - (den.log2 : Int) - 52
  let scaled := scaleDown num den guess
  let exponent := if scaled.1 < Nat.pow 2 52 * scaled.2 then guess - 1 else guess
  max leastExponent exponent

def ofRatio (negative : Bool) (num den : Nat) : Binary64 :=
  if num = 0 then .finite negative 0 leastExponent
  else
    let exponent := exponentFor num den
    let scaled := scaleDown num den exponent
    let significand := roundHalfEven scaled.1 scaled.2
    let carried := significand = Nat.pow 2 53
    let significand := if carried then Nat.pow 2 52 else significand
    let exponent := if carried then exponent + 1 else exponent
    if greatestExponent < exponent then .infinite negative
    else .finite negative significand exponent

def zero : Binary64 := .finite false 0 leastExponent

def ofInt (n : Int) : Binary64 :=
  ofRatio (n < 0) n.natAbs 1

def ratio (significand : Nat) (exponent : Int) : Nat × Nat :=
  match exponent with
  | .ofNat e => (significand * Nat.pow 2 e, 1)
  | .negSucc e => (significand, Nat.pow 2 (e + 1))

def isNegative : Binary64 → Bool
  | nan => false
  | infinite negative => negative
  | finite negative _ _ => negative

def isFinite : Binary64 → Bool
  | finite .. => true
  | _ => false

def neg : Binary64 → Binary64
  | nan => nan
  | infinite negative => infinite !negative
  | finite negative significand exponent => finite (!negative) significand exponent

def scaleNat (x : Binary64) (factor : Nat) : Binary64 :=
  match x with
  | nan => nan
  | infinite negative => infinite negative
  | finite negative significand exponent =>
    let value := ratio significand exponent
    ofRatio negative (value.1 * factor) value.2

def signed (negative : Bool) (n : Nat) : Int :=
  if negative then -(n : Int) else n

def add (x y : Binary64) : Binary64 :=
  match x, y with
  | nan, _ => nan
  | _, nan => nan
  | infinite a, infinite b => if a = b then infinite a else nan
  | infinite a, _ => infinite a
  | _, infinite b => infinite b
  | finite a m e, finite b n f =>
    let left := ratio m e
    let right := ratio n f
    let total := signed a (left.1 * right.2) + signed b (right.1 * left.2)
    if total = 0 then finite (a && b) 0 leastExponent
    else ofRatio (total < 0) total.natAbs (left.2 * right.2)

def isPositive : Binary64 → Bool
  | nan => false
  | infinite negative => !negative
  | finite negative significand _ => !negative && significand != 0

def isZero : Binary64 → Bool
  | finite _ significand _ => significand == 0
  | _ => false

/-- Numeric equality: zeros of both signs agree and nothing equals a number that is no number. -/
def numEq : Binary64 → Binary64 → Bool
  | nan, _ => false
  | _, nan => false
  | infinite a, infinite b => a == b
  | finite a m e, finite b n f => (m == 0 && n == 0) || (a == b && m == n && e == f)
  | _, _ => false

def toInt? : Binary64 → Option Int
  | finite negative significand exponent =>
    let value := ratio significand exponent
    if value.1 % value.2 = 0 then some (signed negative (value.1 / value.2)) else none
  | _ => none

end Binary64

end CiPipeline.Number
