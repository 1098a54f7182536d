import CiPipeline.Number.Layout
import CiPipeline.Text.Blank
import CiPipeline.Text.Digit

/-! Reading numbers. A numeral may stand between blanks, carry a sign, use the decimal digits of any
script, and have single underscores between its digits. -/
namespace CiPipeline.Number

open Text

structure Numeral where
  whole : List Nat
  fraction : List Nat
  power : Int

/-- Beyond this power of ten every double is infinite, and below its negative zero. -/
def powerLimit : Nat := 400

namespace Numeral

def toBinary64 (negative : Bool) (numeral : Numeral) : Binary64 :=
  let digits := (numeral.whole ++ numeral.fraction).dropWhile (· == 0)
  let units := natOfDigits digits
  let power := numeral.power - numeral.fraction.length
  if units = 0 then .finite negative 0 Binary64.leastExponent
  else if (powerLimit : Int) < power + digits.length then .infinite negative
  else if power + digits.length < -(powerLimit : Int) then
    .finite negative 0 Binary64.leastExponent
  else
    match power with
    | .ofNat p => Binary64.ofRatio negative (units * Nat.pow 10 p) 1
    | .negSucc p => Binary64.ofRatio negative units (Nat.pow 10 (p + 1))

end Numeral

def takeSign : List Char → Bool × List Char
  | '-' :: rest => (true, rest)
  | '+' :: rest => (false, rest)
  | cs => (false, cs)

def isDigitChar (c : Char) : Bool := isAsciiDigit c

def digitsOfChars (cs : List Char) : List Nat :=
  cs.map fun c => c.toNat - '0'.toNat

def readPower? (cs : List Char) : Option Int :=
  match cs with
  | [] => some 0
  | c :: rest =>
    if c = 'e' ∨ c = 'E' then
      let signed := takeSign rest
      if signed.2.isEmpty || !signed.2.all isDigitChar then none
      else
        let n := natOfDigits (digitsOfChars signed.2)
        some (if signed.1 then -(n : Int) else n)
    else none

def readNumeral? (cs : List Char) : Option Numeral :=
  let whole := cs.takeWhile isDigitChar
  let rest := cs.dropWhile isDigitChar
  let fraction :=
    match rest with
    | '.' :: tail => tail.takeWhile isDigitChar
    | _ => []
  let rest :=
    match rest with
    | '.' :: tail => tail.dropWhile isDigitChar
    | _ => rest
  if whole.isEmpty && fraction.isEmpty then none
  else (readPower? rest).map fun power => ⟨digitsOfChars whole, digitsOfChars fraction, power⟩

def asciiLower (c : Char) : Char :=
  if 'A' ≤ c ∧ c ≤ 'Z' then Char.ofNat (c.toNat + 32) else c

def readUnsigned? (negative : Bool) (cs : List Char) : Option Binary64 :=
  let word := String.ofList (cs.map asciiLower)
  if word = "inf" || word = "infinity" then some (.infinite negative)
  else if word = "nan" then some .nan
  else (readNumeral? cs).map (Numeral.toBinary64 negative)

def readSigned? (cs : List Char) : Option Binary64 :=
  let signed := takeSign cs
  readUnsigned? signed.1 signed.2

def plainDigits (cs : List Char) : List Char :=
  cs.map fun c => ((digitValue? c).map digitChar).getD c

def joinDigitGroups? : Bool → List Char → Option (List Char)
  | afterDigit, '_' :: c :: rest =>
    if afterDigit && isDigitChar c then (joinDigitGroups? true rest).map (c :: ·) else none
  | _, ['_'] => none
  | _, c :: rest => (joinDigitGroups? (isDigitChar c) rest).map (c :: ·)
  | _, [] => some []

/-- Reads a double in free form: blanks around it, digits of any script, digit groups. -/
def readBinary64? (text : String) : Option Binary64 :=
  let cs := plainDigits (trimChars isBlank text.toList)
  (joinDigitGroups? false cs).bind readSigned?

def digitInBase? (base : Nat) (c : Char) : Option Nat :=
  (hexDigitValue? c).filter (· < base)

def readDigitsInBase? (base : Nat) : List Char → Option Nat
  | [] => none
  | cs => go false 0 cs
where
  go (afterDigit : Bool) (value : Nat) : List Char → Option Nat
    | [] => if afterDigit then some value else none
    | '_' :: rest => if afterDigit then go false value rest else none
    | c :: rest =>
      (digitInBase? base c).bind fun digit => go true (value * base + digit) rest

def baseMark (base : Nat) (c : Char) : Bool :=
  (base = 2 ∧ (c = 'b' ∨ c = 'B')) || (base = 8 ∧ (c = 'o' ∨ c = 'O')) ||
    (base = 16 ∧ (c = 'x' ∨ c = 'X'))

def readInt? (base : Nat) (text : String) : Option Int :=
  let cs := plainDigits (trimChars isBlank text.toList)
  let signed := takeSign cs
  let digits :=
    match signed.2 with
    | '0' :: mark :: '_' :: rest => if baseMark base mark then rest else signed.2
    | '0' :: mark :: rest => if baseMark base mark then rest else signed.2
    | rest => rest
  (readDigitsInBase? base digits).map fun n => if signed.1 then -(n : Int) else n

inductive WholeFault
  | notNumeral
  | tooManyDigits (count : Nat)
deriving DecidableEq, Repr

def digitLimit : Nat := 4300

def isLong (n : Int) : Bool := Nat.pow 10 digitLimit ≤ n.natAbs

theorem isLong_pow : isLong (Nat.pow 10 digitLimit) = true :=
  decide_eq_true (Nat.le_of_eq (Int.natAbs_natCast _).symm)

def leadingDigits (text : String) : List Char :=
  let digits := (takeSign (plainDigits (trimChars isBlank text.toList))).2
  (joinDigitGroups? false (digits.takeWhile fun c => isDigitChar c || c == '_')).getD []

/-- Reads a whole number of a base. Decimal digits beyond the limit are a fault whatever follows
them. -/
def readWhole (base : Nat) (text : String) : Except WholeFault Int :=
  let count := (leadingDigits text).length
  if base = 10 && digitLimit < count then .error (.tooManyDigits count)
  else
    match readInt? base text with
    | some n => .ok n
    | none => .error .notNumeral

end CiPipeline.Number
