import CiPipeline.Number.Layout
import CiPipeline.Number.Reading
import CiPipeline.Shell.Octets

/-! Text that is put together from patterns: escapes, and formats whose directives take arguments one after
the other. A format is used again as long as there are arguments left. -/
namespace CiPipeline.Shell.Format

open Number

def isOctal (c : Char) : Bool := '0' ≤ c && c ≤ '7'

def octalValue (digits : Octets) : Char :=
  Char.ofNat (digits.foldl (fun n c => n * 8 + (c.toNat - '0'.toNat)) 0 % 256)

def octalDigits (most : Nat) (text : Octets) : Octets := (text.take most).takeWhile isOctal

/-- The character that an escape stands for, and what follows it. There is none where a backslash means
itself. -/
def escape? (text : Octets) : Option (Char × Octets) :=
  match text with
  | '\\' :: rest => some ('\\', rest)
  | 'a' :: rest => some ('\x07', rest)
  | 'b' :: rest => some ('\x08', rest)
  | 'e' :: rest => some ('\x1b', rest)
  | 'f' :: rest => some ('\x0c', rest)
  | 'n' :: rest => some ('\n', rest)
  | 'r' :: rest => some ('\r', rest)
  | 't' :: rest => some ('\t', rest)
  | 'v' :: rest => some ('\x0b', rest)
  | text =>
    let digits := octalDigits 3 text
    if digits.isEmpty then none else some (octalValue digits, text.drop digits.length)

/-- Text with its escapes replaced, and whether one of them stopped it. Octal numbers may have a zero in
front of their digits. -/
def unescapeUpTo : Nat → Octets → Octets × Bool
  | 0, _ => ([], false)
  | _, [] => ([], false)
  | bound + 1, '\\' :: rest =>
    match rest with
    | 'c' :: _ => ([], true)
    | '0' :: others =>
      let digits := octalDigits 3 others
      let (text, stopped) := unescapeUpTo bound (others.drop digits.length)
      (octalValue digits :: text, stopped)
    | rest =>
      match escape? rest with
      | some (c, others) =>
        let (text, stopped) := unescapeUpTo bound others
        (c :: text, stopped)
      | none =>
        let (text, stopped) := unescapeUpTo bound rest
        ('\\' :: text, stopped)
  | bound + 1, c :: rest =>
    let (text, stopped) := unescapeUpTo bound rest
    (c :: text, stopped)

def unescape (text : Octets) : Octets × Bool := unescapeUpTo (text.length + 1) text

def joinUnescaped : List Octets → Octets × Bool
  | [] => ([], false)
  | [one] => unescape one
  | one :: rest =>
    match unescape one with
    | (text, true) => (text, true)
    | (text, false) =>
      let (others, stopped) := joinUnescaped rest
      (text ++ ' ' :: others, stopped)

def echoed (escapes lineFeed : Bool) (arguments : List Octets) : Octets :=
  let (text, stopped) :=
    if escapes then joinUnescaped arguments else ([' '].intercalate arguments, false)
  if stopped || !lineFeed then text else text ++ ['\n']

inductive Amount
  | none
  | given (n : Nat)
  | taken
deriving DecidableEq, Repr

structure Directive where
  flags : Octets
  width : Amount
  precision : Amount
  letter : Char
deriving Repr

inductive Piece
  | text (c : Char)
  | directive (directive : Directive)
  /-- A directive that means nothing, as it is written. -/
  | invalid (written : Octets)
deriving Repr

def readAmount (text : Octets) : Amount × Octets :=
  match text with
  | '*' :: rest => (.taken, rest)
  | text =>
    let digits := text.takeWhile Char.isDigit
    match Octets.toNat? digits with
    | some n => (.given n, text.drop digits.length)
    | none => (.none, text)

def letters : Octets := ['d', 'i', 'o', 'u', 'x', 'X', 'c', 's', 'b', 'e', 'E', 'f', 'F', 'g', 'G']

def readDirective (text : Octets) : Piece × Octets :=
  match text with
  | '%' :: rest => (.text '%', rest)
  | text =>
    let flags := text.takeWhile fun c => ['-', '+', ' ', '#', '0'].contains c
    let (width, rest) := readAmount (text.drop flags.length)
    let (precision, rest) :=
      match rest with
      | '.' :: rest =>
        let (amount, rest) := readAmount rest
        (if amount = .none then .given 0 else amount, rest)
      | rest => (.none, rest)
    match rest with
    | [] => (.invalid ('%' :: text), [])
    | letter :: others =>
      if letters.contains letter then (.directive ⟨flags, width, precision, letter⟩, others)
      else (.invalid ('%' :: text.take (text.length - others.length)), others)

def piecesUpTo : Nat → Octets → List Piece
  | 0, _ => []
  | _, [] => []
  | bound + 1, '\\' :: rest =>
    match escape? rest with
    | some (c, others) => .text c :: piecesUpTo bound others
    | none => .text '\\' :: piecesUpTo bound rest
  | bound + 1, '%' :: rest =>
    let (piece, others) := readDirective rest
    piece :: piecesUpTo bound others
  | bound + 1, c :: rest => .text c :: piecesUpTo bound rest

def pieces (format : Octets) : List Piece := piecesUpTo (format.length + 1) format

def readC (text : Octets) : Option (Int × Octets) :=
  let (negative, digits) := takeSign text
  let number (base : Nat) (text : Octets) : Option (Int × Octets) :=
    let used := text.takeWhile fun c =>
      match digitInBase? base c with
      | some _ => true
      | none => false
    if used.isEmpty then none
    else
      let n : Nat := used.foldl (fun n c => n * base + (digitInBase? base c).getD 0) 0
      some (if negative then -(n : Int) else n, text.drop used.length)
  match digits with
  | '0' :: 'x' :: rest | '0' :: 'X' :: rest => number 16 rest
  | '0' :: rest => number 8 ('0' :: rest)
  | rest => number 10 rest

def numberOf (argument : Octets) : Int × Option Octets :=
  match argument with
  | [] => (0, none)
  | '\'' :: rest | '"' :: rest => ((rest.head?.map fun c => (c.toNat : Int)).getD 0, none)
  | argument =>
    match readC (argument.dropWhile fun c => c == ' ' || c == '\t') with
    | none => (0, some (argument ++ ": expected numeric value".toList))
    | some (n, []) => (n, none)
    | some (n, _) => (n, some (argument ++ ": not completely converted".toList))

def realOf (argument : Octets) : Binary64 × Option Octets :=
  match argument with
  | [] => (Binary64.zero, none)
  | argument =>
    match readSigned? argument with
    | some x => (x, none)
    | none => (Binary64.zero, some (argument ++ ": expected numeric value".toList))

def unsignedDigits (base : Nat) (upper : Bool) (n : Int) : Octets :=
  let digits := Nat.toDigits base (n.emod (Nat.pow 2 64 : Nat)).toNat
  if upper then digits.map Char.toUpper else digits

def fill (flags : Octets) (width : Nat) (zeros : Bool) (sign digits : Octets) : Octets :=
  let missing := width - (sign.length + digits.length)
  if flags.contains '-' then sign ++ digits ++ List.replicate missing ' '
  else if zeros && flags.contains '0' then sign ++ List.replicate missing '0' ++ digits
  else List.replicate missing ' ' ++ sign ++ digits

def signOf (flags : Octets) (negative : Bool) : Octets :=
  if negative then ['-'] else if flags.contains '+' then ['+']
  else if flags.contains ' ' then [' '] else []

def wholeText (directive : Directive) (width : Nat) (precision : Option Nat) (n : Int) : Octets :=
  let flags := directive.flags
  let (sign, digits) :=
    match directive.letter with
    | 'u' => ([], unsignedDigits 10 false n)
    | 'o' => (if flags.contains '#' && n != 0 then ['0'] else [], unsignedDigits 8 false n)
    | 'x' => (if flags.contains '#' && n != 0 then ['0', 'x'] else [], unsignedDigits 16 false n)
    | 'X' => (if flags.contains '#' && n != 0 then ['0', 'X'] else [], unsignedDigits 16 true n)
    | _ => (signOf flags (n < 0), Octets.ofNat n.natAbs)
  let digits := List.replicate (precision.getD 1 - digits.length) '0' ++ digits
  fill flags width precision.isNone sign digits

def scientific (places : Nat) (x : Binary64) : Octets :=
  match x with
  | .finite _ significand exponent =>
    if significand = 0 then
      '0' :: (if places = 0 then [] else '.' :: zeros places) ++ writeExponent 0
    else
      let ratio := Binary64.ratio significand exponent
      let decimal := significantDigits (places + 1) ratio.1 ratio.2
      let digits := writeDigits decimal.digits ++ zeros (places + 1 - decimal.digits.length)
      digits.take 1 ++ (if places = 0 then [] else '.' :: digits.drop 1) ++
        writeExponent (decimal.point - 1)
  | x => writePlaces 0 x

def realText (directive : Directive) (width : Nat) (precision : Option Nat) (x : Binary64) :
    Octets :=
  let flags := directive.flags
  let magnitude := if x.isNegative then x.neg else x
  let digits :=
    match directive.letter with
    | 'e' => scientific (precision.getD 6) magnitude
    | 'E' => (scientific (precision.getD 6) magnitude).map Char.toUpper
    | 'g' | 'G' => writeCompact magnitude
    | _ => writePlaces (precision.getD 6) magnitude
  fill flags width x.isFinite (signOf flags x.isNegative) digits

structure Formatted where
  text : Octets
  complaints : List Octets
  rest : List Octets
  /-- Whether an argument was asked for. -/
  asked : Bool
  /-- Whether nothing more is to be written. -/
  stopped : Bool
  /-- Whether a directive could not be followed. -/
  broken : Bool

namespace Formatted

def take (formatted : Formatted) : Octets × Formatted :=
  (formatted.rest.head?.getD [],
    { formatted with rest := formatted.rest.drop 1, asked := true })

def write (formatted : Formatted) (text : Octets) : Formatted :=
  { formatted with text := formatted.text ++ text }

def complain (formatted : Formatted) (complaint : Option Octets) : Formatted :=
  { formatted with complaints := formatted.complaints ++ complaint.toList }

def amount (formatted : Formatted) : Amount → Option Int × Formatted
  | .none => (none, formatted)
  | .given n => (some n, formatted)
  | .taken =>
    let (argument, formatted) := formatted.take
    let (n, complaint) := numberOf argument
    (some n, formatted.complain complaint)

end Formatted

def follow (directive : Directive) (formatted : Formatted) : Formatted :=
  let (width, formatted) := formatted.amount directive.width
  let (precision, formatted) := formatted.amount directive.precision
  let (argument, formatted) := formatted.take
  let directive :=
    if width.any (· < 0) then { directive with flags := '-' :: directive.flags } else directive
  let width := (width.getD 0).natAbs
  let precision := (precision.filter (0 ≤ ·)).map Int.toNat
  let padded (text : Octets) : Octets := fill directive.flags width false [] text
  match directive.letter with
  | 's' => formatted.write (padded ((precision.map argument.take).getD argument))
  | 'c' => formatted.write (padded (argument.take 1))
  | 'b' =>
    let (text, stopped) := unescape argument
    let formatted := formatted.write (padded ((precision.map text.take).getD text))
    { formatted with stopped := stopped }
  | 'd' | 'i' | 'o' | 'u' | 'x' | 'X' =>
    let (n, complaint) := numberOf argument
    (formatted.complain complaint).write (wholeText directive width precision n)
  | _ =>
    let (x, complaint) := realOf argument
    (formatted.complain complaint).write (realText directive width precision x)

def once : List Piece → Formatted → Formatted
  | [], formatted => formatted
  | piece :: rest, formatted =>
    if formatted.stopped || formatted.broken then formatted
    else
      match piece with
      | .text c => once rest (formatted.write [c])
      | .directive directive => once rest (follow directive formatted)
      | .invalid written =>
        { formatted with
          broken := true
          complaints := formatted.complaints ++ [written ++ ": invalid directive".toList] }

def again (pieces : List Piece) : Nat → Formatted → Formatted
  | 0, formatted => formatted
  | bound + 1, formatted =>
    let formatted := once pieces { formatted with asked := false }
    if formatted.stopped || formatted.broken || !formatted.asked || formatted.rest.isEmpty then
      formatted
    else again pieces bound formatted

def write (format : Octets) (arguments : List Octets) : Formatted :=
  again (pieces format) (arguments.length + 1) ⟨[], [], arguments, false, false, false⟩

/-- Zero if all went well, two for a bad directive, one for a bad argument. -/
def Formatted.status (formatted : Formatted) : Nat :=
  if formatted.broken then 2 else if formatted.complaints.isEmpty then 0 else 1

end CiPipeline.Shell.Format
