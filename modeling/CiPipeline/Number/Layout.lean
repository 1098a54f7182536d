import CiPipeline.Number.Shortest

/-! How numbers are written. The general form keeps the shortest digits and turns to an exponent
far from the point; the plain form has a fixed count of places; the compact form keeps six digits
and no trailing zeros. -/
namespace CiPipeline.Number

def digitChar (digit : Nat) : Char :=
  Char.ofNat ('0'.toNat + digit % 10)

def writeDigits (digits : List Nat) : List Char :=
  digits.map digitChar

def zeros (count : Nat) : List Char :=
  List.replicate count '0'

def writeNat (n : Nat) : List Char :=
  if n = 0 then ['0'] else writeDigits (digitsOf n)

def writeInt (n : Int) : List Char :=
  if n < 0 then '-' :: writeNat n.natAbs else writeNat n.natAbs

def writeExponent (exponent : Int) : List Char :=
  let digits := writeNat exponent.natAbs
  'e' :: (if exponent < 0 then '-' else '+') :: zeros (2 - digits.length) ++ digits

def writeScientific (decimal : Decimal) : List Char :=
  let fraction :=
    match decimal.digits.tail with
    | [] => []
    | rest => '.' :: writeDigits rest
  writeDigits (decimal.digits.take 1) ++ fraction ++ writeExponent (decimal.point - 1)

def splitAtPoint (decimal : Decimal) : List Char × List Char :=
  let digits := writeDigits decimal.digits
  match decimal.point with
  | .negSucc p => (['0'], zeros (p + 1) ++ digits)
  | .ofNat 0 => (['0'], digits)
  | .ofNat p => (digits.take p ++ zeros (p - digits.length), digits.drop p)

def signText (negative : Bool) (rest : List Char) : List Char :=
  if negative then '-' :: rest else rest

structure GeneralForm where
  leastPoint : Int
  greatestPoint : Int
  leastPlaces : Nat

/-- Positional from 0.0001 up to sixteen whole digits, always with a fractional digit. -/
def generalForm : GeneralForm := ⟨-3, 16, 1⟩

def writeDecimal (form : GeneralForm) (decimal : Decimal) : List Char :=
  if form.leastPoint ≤ decimal.point ∧ decimal.point ≤ form.greatestPoint then
    let parts := splitAtPoint decimal
    let places := parts.2 ++ zeros (form.leastPlaces - parts.2.length)
    parts.1 ++ (if places.isEmpty then [] else '.' :: places)
  else writeScientific decimal

def writeBinary64 (x : Binary64) : List Char :=
  match x with
  | .nan => "nan".toList
  | .infinite negative => signText negative "inf".toList
  | .finite negative significand exponent =>
    let decimal : Decimal :=
      if significand = 0 then ⟨[0], 1⟩ else Binary64.shortest significand exponent
    signText negative (writeDecimal generalForm decimal)

/-- Fixed count of places; a half goes to the even digit. -/
def writePlaces (places : Nat) (x : Binary64) : List Char :=
  match x with
  | .nan => "nan".toList
  | .infinite negative => signText negative "inf".toList
  | .finite negative significand exponent =>
    let value := Binary64.ratio significand exponent
    let units := writeNat (roundHalfEven (value.1 * Nat.pow 10 places) value.2)
    let padded := zeros (places + 1 - units.length) ++ units
    let whole := padded.take (padded.length - places)
    let fraction := padded.drop (padded.length - places)
    signText negative (whole ++ (if places = 0 then [] else '.' :: fraction))

def significantDigits (count num den : Nat) : Decimal :=
  let point := decimalPoint num den
  let scaled := tenthsDown num den (point - count)
  let digits := digitsOf (roundHalfEven scaled.1 scaled.2)
  ⟨dropTrailingZeros (digits.take count), point + (digits.length - count : Nat)⟩

/-- Six significant digits without trailing zeros, positional from 0.0001 up to six digits. -/
def compactForm : GeneralForm := ⟨-3, 6, 0⟩

def writeCompact (x : Binary64) : List Char :=
  match x with
  | .nan => "nan".toList
  | .infinite negative => signText negative "inf".toList
  | .finite negative significand exponent =>
    let value := Binary64.ratio significand exponent
    let decimal : Decimal :=
      if significand = 0 then ⟨[0], 1⟩ else significantDigits 6 value.1 value.2
    signText negative (writeDecimal compactForm decimal)

end CiPipeline.Number
