/-! Lines of a text. Two conventions are in use: the broad one, where every line or paragraph
boundary of Unicode and the vertical controls end a line, and the one of text streams, where
carriage return and line feed are the same newline. -/
namespace CiPipeline.Text

def isLineBoundary (c : Char) : Bool :=
  let code := c.toNat
  (0x0A ≤ code && code ≤ 0x0D) || (0x1C ≤ code && code ≤ 0x1E) || code == 0x85 ||
    code == 0x2028 || code == 0x2029

def firstLine (text : String) : String :=
  String.ofList (text.toList.takeWhile fun c => !isLineBoundary c)

/-- Every carriage return, alone or before a line feed, becomes a line feed. -/
def unifyNewlines : List Char → List Char
  | [] => []
  | '\r' :: '\n' :: rest => '\n' :: unifyNewlines rest
  | c :: rest => (if c = '\r' then '\n' else c) :: unifyNewlines rest

/-- Lines that line feeds end; characters after the last one make a line of their own. -/
def streamLines : List Char → List (List Char)
  | [] => []
  | c :: rest =>
    if c = '\n' then [] :: streamLines rest
    else
      match streamLines rest with
      | [] => [[c]]
      | line :: lines => (c :: line) :: lines

end CiPipeline.Text
