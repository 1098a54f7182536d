/-! Surrogates. Some code points are numbers without a character. Where one of them is written by its
number, the character that lies a fixed distance further on stands for it, in a plane for private use. -/
namespace CiPipeline.Text

def firstSurrogate : Nat := 0xD800

def lastSurrogate : Nat := 0xDFFF

/-- From a surrogate to the character that stands for it. -/
def surrogateDistance : Nat := 0x100000

def isSurrogate (code : Nat) : Bool := firstSurrogate ≤ code && code ≤ lastSurrogate

def charOfCode (code : Nat) : Char :=
  Char.ofNat (if isSurrogate code then code + surrogateDistance else code)

def surrogate? (c : Char) : Option Nat :=
  if isSurrogate (c.toNat - surrogateDistance) && surrogateDistance ≤ c.toNat then
    some (c.toNat - surrogateDistance)
  else none

end CiPipeline.Text
