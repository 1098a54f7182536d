/-! Reading UTF-8. The strict reader refuses malformed input; the lenient one puts the replacement
character for every maximal part that could still have begun a well-formed sequence. -/
namespace CiPipeline.Text

/-- What a lead byte promises: how many bytes follow, the range of the first of them, and the bits
that the lead contributes. -/
structure LeadByte where
  following : Nat
  low : Nat
  high : Nat
  bits : Nat

def leadByte? (byte : Nat) : Option LeadByte :=
  if 0xC2 ≤ byte ∧ byte ≤ 0xDF then some ⟨1, 0x80, 0xBF, byte - 0xC0⟩
  else if byte = 0xE0 then some ⟨2, 0xA0, 0xBF, 0⟩
  else if byte = 0xED then some ⟨2, 0x80, 0x9F, 0xD⟩
  else if 0xE1 ≤ byte ∧ byte ≤ 0xEF then some ⟨2, 0x80, 0xBF, byte - 0xE0⟩
  else if byte = 0xF0 then some ⟨3, 0x90, 0xBF, 0⟩
  else if 0xF1 ≤ byte ∧ byte ≤ 0xF3 then some ⟨3, 0x80, 0xBF, byte - 0xF0⟩
  else if byte = 0xF4 then some ⟨3, 0x80, 0x8F, 4⟩
  else none

/-- Reads continuation bytes. The code point is absent if one of them is missing; the rest starts
behind the bytes that were well-formed so far. -/
def continuation : Nat → Nat → Nat → Nat → List UInt8 → Option Nat × List UInt8
  | 0, _, _, code, rest => (some code, rest)
  | _ + 1, _, _, _, [] => (none, [])
  | missing + 1, low, high, code, byte :: rest =>
    if low ≤ byte.toNat ∧ byte.toNat ≤ high then
      continuation missing 0x80 0xBF (code * 64 + (byte.toNat - 0x80)) rest
    else (none, byte :: rest)

def decodeFront (byte : UInt8) (rest : List UInt8) : Option Nat × List UInt8 :=
  if byte.toNat < 0x80 then (some byte.toNat, rest)
  else
    match leadByte? byte.toNat with
    | none => (none, rest)
    | some lead => continuation lead.following lead.low lead.high lead.bits rest

def decodeUpTo : Nat → List UInt8 → List (Option Char)
  | 0, _ => []
  | _ + 1, [] => []
  | bound + 1, byte :: rest =>
    let front := decodeFront byte rest
    front.1.map Char.ofNat :: decodeUpTo bound front.2

def decodeParts (bytes : List UInt8) : List (Option Char) :=
  decodeUpTo bytes.length bytes

def decodeLenient (bytes : List UInt8) : List Char :=
  (decodeParts bytes).map fun part => part.getD '\uFFFD'

def decodeStrict? (bytes : List UInt8) : Option (List Char) :=
  (decodeParts bytes).mapM id

def encodeUtf8 (text : String) : List UInt8 :=
  text.toUTF8.toList

end CiPipeline.Text
