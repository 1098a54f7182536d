import CiPipeline.Text.Digit

/-! Types of nodes. A node without a tag of its own has the type that its form suggests: a plain
scalar is recognised by its spelling, everything else is a text, a sequence or a mapping. -/
namespace CiPipeline.Yaml

open Text

inductive Tag
  | null
  | bool
  | int
  | float
  | binary
  | timestamp
  | text
  | sequence
  | mapping
  | set
  | orderedMap
  | pairs
  | merge
  | valueKey
  | other (address : String)
deriving DecidableEq, Repr

namespace Tag

def standard : String := "tag:yaml.org,2002:"

def names : List (String × Tag) :=
  [("null", null), ("bool", bool), ("int", int), ("float", float), ("binary", binary),
    ("timestamp", timestamp), ("str", text), ("seq", sequence), ("map", mapping), ("set", set),
    ("omap", orderedMap), ("pairs", pairs), ("merge", merge), ("value", valueKey)]

def ofAddress (address : String) : Tag :=
  match names.find? fun entry => standard ++ entry.1 == address with
  | some entry => entry.2
  | none => other address

end Tag

def boolWords : List String :=
  ["yes", "Yes", "YES", "no", "No", "NO", "true", "True", "TRUE", "false", "False", "FALSE",
    "on", "On", "ON", "off", "Off", "OFF"]

def nullWords : List String := ["~", "null", "Null", "NULL", ""]

def isSign (c : Char) : Bool := c == '-' || c == '+'

def withoutSign (cs : List Char) : List Char :=
  match cs with
  | c :: rest => if isSign c then rest else cs
  | [] => []

def isDigitOrUnderscore (c : Char) : Bool := isAsciiDigit c || c == '_'

def isPower (cs : List Char) : Bool :=
  match cs with
  | [] => true
  | letter :: sign :: digits =>
    (letter == 'e' || letter == 'E') && isSign sign && !digits.isEmpty && digits.all isAsciiDigit
  | _ => false

def base60Groups : Nat → Nat → List Char → Nat × List Char
  | 0, count, cs => (count, cs)
  | fuel + 1, count, cs =>
    match cs with
    | ':' :: tens :: ones :: rest =>
      if '0' ≤ tens ∧ tens ≤ '5' ∧ isAsciiDigit ones then base60Groups fuel (count + 1) rest
      else if isAsciiDigit tens then base60Groups fuel (count + 1) (ones :: rest)
      else (count, cs)
    | [':', digit] => if isAsciiDigit digit then (count + 1, []) else (count, cs)
    | _ => (count, cs)

def startsWithDigit (cs : List Char) : Bool :=
  match cs with
  | c :: _ => isAsciiDigit c
  | [] => false

def isPointedFloat (cs : List Char) : Bool :=
  let digits := withoutSign cs
  startsWithDigit digits &&
    match digits.dropWhile isDigitOrUnderscore with
    | '.' :: rest => isPower (rest.dropWhile isDigitOrUnderscore)
    | _ => false

def isFractionFloat (cs : List Char) : Bool :=
  match cs with
  | '.' :: rest => startsWithDigit rest && isPower (rest.dropWhile isDigitOrUnderscore)
  | _ => false

def isBase60Float (cs : List Char) : Bool :=
  let digits := withoutSign cs
  startsWithDigit digits &&
    let groups := base60Groups cs.length 0 (digits.dropWhile isDigitOrUnderscore)
    groups.1 != 0 &&
      match groups.2 with
      | '.' :: rest => rest.all isDigitOrUnderscore
      | _ => false

def infinityWords : List String := [".inf", ".Inf", ".INF"]

def nanWords : List String := [".nan", ".NaN", ".NAN"]

def isFloatSpelling (cs : List Char) : Bool :=
  isPointedFloat cs || isFractionFloat cs || isBase60Float cs ||
    infinityWords.any (fun word => word.toList == withoutSign cs) ||
    nanWords.any (fun word => word.toList == cs)

def isIntSpelling (cs : List Char) : Bool :=
  match withoutSign cs with
  | '0' :: 'b' :: digits => !digits.isEmpty && digits.all fun c => c == '0' || c == '1' || c == '_'
  | '0' :: 'x' :: digits =>
    !digits.isEmpty && digits.all fun c => (hexDigitValue? c).isSome || c == '_'
  | ['0'] => true
  | '0' :: digits => digits.all fun c => ('0' ≤ c && c ≤ '7') || c == '_'
  | c :: digits =>
    isAsciiDigit c &&
      (digits.all isDigitOrUnderscore ||
        let groups := base60Groups digits.length 0 (digits.dropWhile isDigitOrUnderscore)
        groups.1 != 0 && groups.2.isEmpty)
  | [] => false

def takeDigits? (least most : Nat) (cs : List Char) : Option (List Char × List Char) :=
  let digits := (cs.take most).takeWhile isAsciiDigit
  if digits.length < least then none else some (digits, cs.drop digits.length)

structure TimestampParts where
  year : List Char
  month : List Char
  day : List Char
  time : Option (List Char × List Char × List Char)
  fraction : List Char
  zone : Option (Option (Bool × List Char × List Char))

def takeChar? (c : Char) : List Char → Option (List Char)
  | first :: rest => if first = c then some rest else none
  | [] => none

def isHorizontalBlank (c : Char) : Bool := c == ' ' || c == '\t'

def takeTimeMark? (cs : List Char) : Option (List Char) :=
  match cs with
  | [] => none
  | c :: rest =>
    if c == 'T' || c == 't' then some rest
    else if isHorizontalBlank c then some (rest.dropWhile isHorizontalBlank)
    else none

def zoneParts? (cs : List Char) : Option (Option (Option (Bool × List Char × List Char))) :=
  match cs.dropWhile isHorizontalBlank with
  | [] => if cs.isEmpty then some none else none
  | ['Z'] => some (some none)
  | sign :: rest =>
    if isSign sign then do
      let (hours, rest) ← takeDigits? 1 2 rest
      match rest with
      | [] => some (some (some (sign == '-', hours, [])))
      | ':' :: rest =>
        let (minutes, rest) ← takeDigits? 2 2 rest
        if rest.isEmpty then some (some (some (sign == '-', hours, minutes))) else none
      | _ => none
    else none

/-- Reads the spelling of a timestamp. A bare date has two digits in each of its parts unless
`loose` allows fewer. -/
def timestampParts? (loose : Bool) (cs : List Char) : Option TimestampParts := do
  let (year, rest) ← takeDigits? 4 4 cs
  let rest ← takeChar? '-' rest
  let (month, rest) ← takeDigits? 1 2 rest
  let rest ← takeChar? '-' rest
  let (day, rest) ← takeDigits? 1 2 rest
  if rest.isEmpty then
    if loose || (month.length == 2 && day.length == 2) then
      some ⟨year, month, day, none, [], none⟩
    else none
  else
    let rest ← takeTimeMark? rest
    let (hour, rest) ← takeDigits? 1 2 rest
    let rest ← takeChar? ':' rest
    let (minute, rest) ← takeDigits? 2 2 rest
    let rest ← takeChar? ':' rest
    let (second, rest) ← takeDigits? 2 2 rest
    let (fraction, rest) :=
      match rest with
      | '.' :: rest => (rest.takeWhile isAsciiDigit, rest.dropWhile isAsciiDigit)
      | _ => ([], rest)
    let zone ← zoneParts? rest
    some ⟨year, month, day, some (hour, minute, second), fraction, zone⟩

/-- A line feed at the very end does not count for the spelling. -/
def withoutFinalNewline (cs : List Char) : List Char :=
  match cs.reverse with
  | '\n' :: rest => rest.reverse
  | _ => cs

def Tag.ofPlain (text : String) : Tag :=
  let all := text.toList
  let cs := withoutFinalNewline all
  let word := String.ofList cs
  if boolWords.contains word then .bool
  else if isFloatSpelling cs then .float
  else if isIntSpelling cs then .int
  else if word = "<<" then .merge
  else if nullWords.contains word && (all.isEmpty || !cs.isEmpty) then .null
  else if (timestampParts? false cs).isSome then .timestamp
  else if word = "=" then .valueKey
  else if word = "!" || word = "&" || word = "*" then .other (Tag.standard ++ "yaml")
  else .text

end CiPipeline.Yaml
