/-! Blank characters. Two sets are in use: the one that trimming a text removes, which counts the
four information separators, and the smaller one of the Unicode property White_Space. -/
namespace CiPipeline.Text

def isWhiteSpace (c : Char) : Bool :=
  let code := c.toNat
  (9 ≤ code && code ≤ 13) || code == 32 || code == 0x85 || code == 0xA0 || code == 0x1680 ||
    (0x2000 ≤ code && code ≤ 0x200A) || code == 0x2028 || code == 0x2029 || code == 0x202F ||
    code == 0x205F || code == 0x3000

/-- White space and the information separators U+001C to U+001F. -/
def isBlank (c : Char) : Bool :=
  isWhiteSpace c || (0x1C ≤ c.toNat && c.toNat ≤ 0x1F)

def trimChars (blank : Char → Bool) (cs : List Char) : List Char :=
  ((cs.dropWhile blank).reverse.dropWhile blank).reverse

def trimWith (blank : Char → Bool) (text : String) : String :=
  String.ofList (trimChars blank text.toList)

def trim (text : String) : String :=
  trimWith isBlank text

def isBlankText (text : String) : Bool :=
  text.toList.all isBlank

end CiPipeline.Text
