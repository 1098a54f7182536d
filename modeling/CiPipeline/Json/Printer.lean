import CiPipeline.Json.Basic
import CiPipeline.Text.Quoted

/-! Printing of JSON in indented form. Every character beyond plain text is escaped by its units of
sixteen bits, and empty collections stay on one line. -/
namespace CiPipeline.Json

open Number Text

def escapeUnit (unit : Nat) : List Char := '\\' :: 'u' :: hexDigits 4 unit

/-- A character beyond sixteen bits is written as two units. -/
def escapeCode (code : Nat) : List Char :=
  if code < 0x10000 then escapeUnit code
  else
    let above := code - 0x10000
    escapeUnit (0xD800 + above / 0x400) ++ escapeUnit (0xDC00 + above % 0x400)

def escapeChar (c : Char) : List Char :=
  if c = '"' then ['\\', '"']
  else if c = '\\' then ['\\', '\\']
  else if c = '\n' then ['\\', 'n']
  else if c = '\r' then ['\\', 'r']
  else if c = '\t' then ['\\', 't']
  else if c.toNat = 8 then ['\\', 'b']
  else if c.toNat = 12 then ['\\', 'f']
  else if 0x20 ≤ c.toNat ∧ c.toNat < 0x7F then [c]
  else escapeCode ((surrogate? c).getD c.toNat)

def quote (text : String) : List Char :=
  '"' :: text.toList.flatMap escapeChar ++ ['"']

def writeFloat : Binary64 → List Char
  | .nan => "NaN".toList
  | .infinite negative => signText negative "Infinity".toList
  | x => writeBinary64 x

def indentation (depth : Nat) : List Char := '\n' :: List.replicate (2 * depth) ' '

def enclose (opening closing : Char) (depth : Nat) : List (List Char) → List Char
  | [] => [opening, closing]
  | items =>
    opening :: (List.intersperse [','] (items.map fun item => indentation (depth + 1) ++ item)).flatten
      ++ indentation depth ++ [closing]

mutual

def write (depth : Nat) : Json → List Char
  | null => "null".toList
  | bool value => if value then "true".toList else "false".toList
  | int value => writeInt value
  | float value => writeFloat value
  | text value => quote value
  | list items => enclose '[' ']' depth (writeItems (depth + 1) items)
  | object entries => enclose '\x7b' '\x7d' depth (writeEntries (depth + 1) entries)

def writeItems (depth : Nat) : List Json → List (List Char)
  | [] => []
  | item :: rest => write depth item :: writeItems depth rest

def writeEntries (depth : Nat) : List (String × Json) → List (List Char)
  | [] => []
  | (name, value) :: rest => (quote name ++ [':', ' '] ++ write depth value) ::
      writeEntries depth rest

end

def print (value : Json) : String := String.ofList (write 0 value)

end CiPipeline.Json
