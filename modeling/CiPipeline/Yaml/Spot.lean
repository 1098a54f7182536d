/-! Characters together with their place in the text. A text is read as a list of spots that ends in
a spot without a character of its own, so that reading behind the end needs no case of its own. -/
namespace CiPipeline.Yaml

/-- A character, its number from the start of the text, its line, and its column. -/
structure Spot where
  char : Char
  index : Nat
  line : Nat
  column : Nat
deriving Repr

def endMark : Char := '\x00'

def byteOrderMark : Char := '\uFEFF'

abbrev Spots := List Spot

def isBreak (c : Char) : Bool :=
  c == '\r' || c == '\n' || c == '\u0085' || c == '\u2028' || c == '\u2029'

def isBreakOrEnd (c : Char) : Bool := c == endMark || isBreak c

def isSpaceBreakOrEnd (c : Char) : Bool := c == ' ' || isBreakOrEnd c

def isGap (c : Char) : Bool := c == '\t' || isSpaceBreakOrEnd c

def isHorizontal (c : Char) : Bool := c == ' ' || c == '\t'

/-- A carriage return before a line feed does not end the line yet. -/
def endsLine (c : Char) (next : Option Char) : Bool :=
  c == '\n' || c == '\u0085' || c == '\u2028' || c == '\u2029' || (c == '\r' && next != some '\n')

namespace Spots

/-- Places every character; a byte order mark takes no column. -/
def locate (index line column : Nat) : List Char → Spots
  | [] => [⟨endMark, index, line, column⟩]
  | c :: rest =>
    let spot : Spot := ⟨c, index, line, column⟩
    if endsLine c rest.head? then spot :: locate (index + 1) (line + 1) 0 rest
    else
      let column := if c == byteOrderMark then column else column + 1
      spot :: locate (index + 1) line column rest

def ofChars (cs : List Char) : Spots := locate 0 0 0 cs

def peek (spots : Spots) (ahead : Nat) : Char :=
  match spots[ahead]? with
  | some spot => spot.char
  | none => endMark

def current (spots : Spots) : Char := spots.peek 0

def columnAt (spots : Spots) : Nat :=
  match spots with
  | spot :: _ => spot.column
  | [] => 0

def lineAt (spots : Spots) : Nat :=
  match spots with
  | spot :: _ => spot.line
  | [] => 0

def indexAt (spots : Spots) : Nat :=
  match spots with
  | spot :: _ => spot.index
  | [] => 0

def run (keep : Char → Bool) (spots : Spots) : List Char :=
  (spots.takeWhile fun spot => keep spot.char).map (·.char)

def skip (drop : Char → Bool) (spots : Spots) : Spots :=
  spots.dropWhile fun spot => drop spot.char

def skipSpaces (spots : Spots) : Spots := spots.skip (· == ' ')

def skipSpacesTo (column : Nat) : Spots → Spots
  | [] => []
  | spot :: rest =>
    if spot.column < column && spot.char == ' ' then skipSpacesTo column rest else spot :: rest

def skipComment (spots : Spots) : Spots :=
  if spots.current == '#' then spots.skip fun c => !isBreakOrEnd c else spots

/-- A line break as one character, with what follows: the breaks of plain text all read as a line
feed, the two separators of Unicode as themselves. -/
def takeBreak? (spots : Spots) : Option (Char × Spots) :=
  let c := spots.current
  if c == '\r' && spots.peek 1 == '\n' then some ('\n', spots.drop 2)
  else if c == '\r' || c == '\n' || c == '\u0085' then some ('\n', spots.drop 1)
  else if c == '\u2028' || c == '\u2029' then some (c, spots.drop 1)
  else none

def atMarker (mark : Char) (spots : Spots) : Bool :=
  spots.peek 0 == mark && spots.peek 1 == mark && spots.peek 2 == mark && isGap (spots.peek 3)

def atDocumentBoundary (spots : Spots) : Bool :=
  spots.atMarker '-' || spots.atMarker '.'

end Spots

end CiPipeline.Yaml
