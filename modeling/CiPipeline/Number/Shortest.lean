import CiPipeline.Number.Binary64

/-! The fewest decimal digits that read back as a given double, and among those the ones nearest to
it. For one digit, two, and so on, the two decimals around the value are tried; seventeen digits
always suffice. -/
namespace CiPipeline.Number

/-- A positive decimal: the digits stand behind a point that is moved right by `point` places. -/
structure Decimal where
  digits : List Nat
  point : Int
deriving DecidableEq, Repr

def digitsBefore : Nat → Nat → List Nat → List Nat
  | 0, _, digits => digits
  | bound + 1, n, digits =>
    if n = 0 then digits else digitsBefore bound (n / 10) (n % 10 :: digits)

def digitsOf (n : Nat) : List Nat :=
  digitsBefore n n []

def natOfDigits (digits : List Nat) : Nat :=
  digits.foldl (fun value digit => value * 10 + digit) 0

def dropTrailingZeros (digits : List Nat) : List Nat :=
  (digits.reverse.dropWhile (· == 0)).reverse

def tenthsDown (num den : Nat) (power : Int) : Nat × Nat :=
  match power with
  | .ofNat p => (num, den * Nat.pow 10 p)
  | .negSucc p => (num * Nat.pow 10 (p + 1), den)

def decimalPoint (num den : Nat) : Int :=
  let guess : Int := (((num.log2 : Int) - den.log2) * 30103).fdiv 100000
  let exceeds (power : Int) : Bool :=
    let scaled := tenthsDown num den power
    scaled.1 < scaled.2
  if exceeds (guess - 1) then guess - 1
  else if exceeds guess then guess
  else if exceeds (guess + 1) then guess + 1
  else guess + 2

namespace Binary64

def ofUnits (units : Nat) (power : Int) : Binary64 :=
  match power with
  | .ofNat p => ofRatio false (units * Nat.pow 10 p) 1
  | .negSucc p => ofRatio false units (Nat.pow 10 (p + 1))

/-- The nearer of the two neighbours on the grid of so many digits that reads back, if any does. -/
def nearestOnGrid? (value : Binary64) (num den : Nat) (point : Int) (count : Nat) :
    Option Decimal :=
  let power := point - count
  let scaled := tenthsDown num den power
  let below := scaled.1 / scaled.2
  let remainder := scaled.1 % scaled.2
  let nearest := roundHalfEven scaled.1 scaled.2
  let other := if remainder = 0 then below else if nearest = below then below + 1 else below
  let readsBack (units : Nat) : Bool := ofUnits units power == value
  let found :=
    if readsBack nearest then some nearest
    else if readsBack other then some other else none
  found.map fun units =>
    let digits := digitsOf units
    ⟨dropTrailingZeros digits, power + digits.length⟩

def shortest (significand : Nat) (exponent : Int) : Decimal :=
  let value := ratio significand exponent
  let point := decimalPoint value.1 value.2
  let self := finite false significand exponent
  (((List.range 17).map (· + 1)).findSome? (nearestOnGrid? self value.1 value.2 point)).getD
    ⟨digitsOf (value.1 / value.2), point⟩

end Binary64

end CiPipeline.Number
