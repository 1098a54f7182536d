import CiPipeline.Text.Utf8

/-! Text as a shell sees it: one character for each byte. What stands outside of ASCII is several
characters long and has no meaning of its own. -/
namespace CiPipeline.Shell

/-- Characters below 256, one for each byte. -/
abbrev Octets := List Char

namespace Octets

def ofBytes (bytes : List UInt8) : Octets := bytes.map fun byte => Char.ofNat byte.toNat

def toBytes (text : Octets) : List UInt8 := text.map fun c => UInt8.ofNat c.toNat

def ofText (text : String) : Octets := ofBytes (Text.encodeUtf8 text)

def toText (text : Octets) : String := String.ofList (Text.decodeLenient text.toBytes)

def ofNat (n : Nat) : Octets := (Nat.toDigits 10 n)

def ofInt (n : Int) : Octets :=
  if n < 0 then '-' :: ofNat n.natAbs else ofNat n.natAbs

def toNat? (text : Octets) : Option Nat :=
  if text.isEmpty || !text.all Char.isDigit then none
  else some (text.foldl (fun n c => n * 10 + (c.toNat - '0'.toNat)) 0)

def toInt? (text : Octets) : Option Int :=
  match text with
  | '-' :: rest => (toNat? rest).map fun n => -(n : Int)
  | '+' :: rest => (toNat? rest).map fun n => (n : Int)
  | rest => (toNat? rest).map fun n => (n : Int)

def lines (text : Octets) : List Octets :=
  match text with
  | [] => []
  | c :: rest =>
    if c = '\n' then [c] :: lines rest
    else
      match lines rest with
      | [] => [[c]]
      | line :: others => (c :: line) :: others

def dropLineEnds (text : Octets) : Octets := (text.reverse.dropWhile (· == '\n')).reverse

end Octets

def isNameStart (c : Char) : Bool := c.isAlpha || c == '_'

def isNameChar (c : Char) : Bool := c.isAlphanum || c == '_'

def isName (text : Octets) : Bool :=
  match text with
  | [] => false
  | c :: rest => isNameStart c && rest.all isNameChar

end CiPipeline.Shell
