import CiPipeline.Document
import CiPipeline.Number.Reading
import CiPipeline.Text.Lowercase
import CiPipeline.Yaml.Tag

/-! The values that texts stand for under the tags of scalars. -/
namespace CiPipeline.Yaml

open Number Text

/-- Why a text has no value. All but the first are accidents: of an escape with too large a number, of
too many collections inside each other, or of reading a scalar whose tag does not fit its text. -/
inductive ValueFault
  | invalid
  | beyondLastChar
  | beyondWord
  | unknownWord (word : String)
  | missingDigits
  | badInt (base : Nat) (text : String) (fault : WholeFault)
  | badFloat (text : String)
  | badTimestamp
  | timestampOfEntries
  | calendar (fault : Calendar.Fault)
  | tooDeep
deriving DecidableEq, Repr

def readBool (text : String) : Except ValueFault Document :=
  let word := lowercase text
  if word = "yes" || word = "true" || word = "on" then .ok (.bool true)
  else if word = "no" || word = "false" || word = "off" then .ok (.bool false)
  else .error (.unknownWord word)

def withoutUnderscores (text : String) : List Char :=
  text.toList.filter (· != '_')

def splitAtColons (cs : List Char) : List (List Char) :=
  cs.splitOn ':'

def readIntOf (base : Nat) (cs : List Char) : Except ValueFault Int :=
  let text := String.ofList cs
  (readWhole base text).mapError (.badInt base text)

def readFloatOf (cs : List Char) : Except ValueFault Binary64 :=
  let text := String.ofList cs
  match readBinary64? text with
  | some x => .ok x
  | none => .error (.badFloat text)

/-- Binary, hexadecimal, octal behind a zero, base sixty with colons, and decimal. -/
def readIntScalar (text : String) : Except ValueFault Document := do
  let cs := withoutUnderscores text
  if cs.isEmpty then throw .missingDigits
  let negative := cs.head? == some '-'
  let digits := withoutSign cs
  let magnitude ←
    match digits with
    | [] => throw .missingDigits
    | ['0'] => pure 0
    | '0' :: 'b' :: rest => readIntOf 2 rest
    | '0' :: 'x' :: rest => readIntOf 16 rest
    | '0' :: _ => readIntOf 8 digits
    | _ =>
      if digits.contains ':' then
        let parts ← (splitAtColons digits).mapM (readIntOf 10)
        pure (parts.foldl (fun total part => total * 60 + part) 0)
      else readIntOf 10 digits
  pure (.int (if negative then -magnitude else magnitude))

def sumBase60 (parts : List Binary64) : Binary64 :=
  (parts.reverse.foldl
    (fun (total : Binary64 × Nat) part => (total.1.add (part.scaleNat total.2), total.2 * 60))
    (Binary64.zero, 1)).1

def readFloatScalar (text : String) : Except ValueFault Document := do
  let cs := (lowercase (String.ofList (withoutUnderscores text))).toList
  if cs.isEmpty then throw .missingDigits
  let negative := cs.head? == some '-'
  let digits := withoutSign cs
  let magnitude ←
    if digits == ".inf".toList then pure (Binary64.infinite false)
    else if digits == ".nan".toList then pure Binary64.nan
    else if digits.contains ':' then
      sumBase60 <$> (splitAtColons digits).mapM readFloatOf
    else readFloatOf digits
  pure (.float (if negative then magnitude.neg else magnitude))

def base64Value? (c : Char) : Option Nat :=
  if 'A' ≤ c ∧ c ≤ 'Z' then some (c.toNat - 'A'.toNat)
  else if 'a' ≤ c ∧ c ≤ 'z' then some (c.toNat - 'a'.toNat + 26)
  else if isAsciiDigit c then some (c.toNat - '0'.toNat + 52)
  else if c = '+' then some 62
  else if c = '/' then some 63
  else none

/-- Reads groups of four; characters outside the alphabet are passed over, and padding that
completes a group ends the data. -/
def base64Bytes? (position carried pads : Nat) (bytes : List UInt8) :
    List Char → Option (List UInt8)
  | [] => if position = 0 then some bytes.reverse else none
  | c :: rest =>
    if c = '=' then
      if 2 ≤ position then
        if 4 ≤ position + pads + 1 then some bytes.reverse
        else base64Bytes? position carried (pads + 1) bytes rest
      else base64Bytes? position carried pads bytes rest
    else
      match base64Value? c with
      | none => base64Bytes? position carried pads bytes rest
      | some value =>
        match position with
        | 0 => base64Bytes? 1 value 0 bytes rest
        | 1 => base64Bytes? 2 (value % 16) 0 ((carried * 4 + value / 16).toUInt8 :: bytes) rest
        | 2 => base64Bytes? 3 (value % 4) 0 ((carried * 16 + value / 4).toUInt8 :: bytes) rest
        | _ => base64Bytes? 0 0 0 ((carried * 64 + value).toUInt8 :: bytes) rest

def readBinary (text : String) : Except ValueFault Document :=
  if text.toList.any fun c => 0x7F < c.toNat then .error .invalid
  else
    match base64Bytes? 0 0 0 [] text.toList with
    | some bytes => .ok (.bytes bytes)
    | none => .error .invalid

def natOfChars (cs : List Char) : Nat := natOfDigits (digitsOfChars cs)

/-- Six digits of a fraction of a second; further ones are cut off. -/
def microsOf (fraction : List Char) : Nat :=
  let digits := fraction.take 6
  natOfChars (digits ++ zeros (6 - digits.length))

def liftCalendar {α : Type} : Except Calendar.Fault α → Except ValueFault α :=
  Except.mapError .calendar

def readTimestamp (text : String) : Except ValueFault Document := do
  match timestampParts? true (withoutFinalNewline text.toList) with
  | none => throw .badTimestamp
  | some parts =>
    let date : Calendar.Date :=
      ⟨natOfChars parts.year, natOfChars parts.month, natOfChars parts.day⟩
    match parts.time with
    | none => .date <$> liftCalendar date.check
    | some (hour, minute, second) =>
      let offset ←
        match parts.zone with
        | none => pure none
        | some none => pure (some 0)
        | some (some (negative, hours, minutes)) =>
          let seconds : Int := natOfChars hours * 3600 + natOfChars minutes * 60
          some <$> liftCalendar (Calendar.checkOffset (if negative then -seconds else seconds))
      let moment : Calendar.Moment :=
        ⟨date, natOfChars hour, natOfChars minute, natOfChars second, microsOf parts.fraction,
          offset⟩
      .moment <$> liftCalendar moment.check

def readScalar (tag : Tag) (text : String) : Except ValueFault Document :=
  match tag with
  | .null => .ok .null
  | .bool => readBool text
  | .int => readIntScalar text
  | .float => readFloatScalar text
  | .binary => readBinary text
  | .timestamp => readTimestamp text
  | .text => .ok (.text text)
  | _ => .error .invalid

end CiPipeline.Yaml
