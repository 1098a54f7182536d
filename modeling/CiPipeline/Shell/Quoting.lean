import CiPipeline.Text.Digit

/-! Quoting for a shell, and the rules by which a shell splits a line into words. A quoted text is one
word and stands for exactly itself: a text of plain characters needs no quotes, and in any other single
quotes stand around everything but the single quotes themselves, which are put into double ones. -/
namespace CiPipeline.Shell

def isPlainChar (c : Char) : Bool :=
  ('A' ≤ c && c ≤ 'Z') || ('a' ≤ c && c ≤ 'z') || Text.isAsciiDigit c ||
    ['_', '@', '%', '+', '=', ':', ',', '.', '/', '-'].contains c

def quoteChar (c : Char) : List Char :=
  if c = '\'' then ['\'', '"', '\'', '"', '\''] else [c]

def quoteChars (cs : List Char) : List Char :=
  if cs.isEmpty then ['\'', '\'']
  else if cs.all isPlainChar then cs
  else '\'' :: cs.flatMap quoteChar ++ ['\'']

def quote (text : String) : String := String.ofList (quoteChars text.toList)

inductive Quotes
  | none
  | single
  | double
deriving DecidableEq, Repr

def separatesWords (c : Char) : Bool := c = ' ' || c = '\t'

def specialChars : List Char :=
  ['\n', '|', '&', ';', '<', '>', '(', ')', '$', Char.ofNat 96, '*', '?', '[', '#', '~', '\x7b', '\x7d']

def escapedChars : List Char := ['$', Char.ofNat 96, '"', '\\']

/-- Splits the rest of a line, behind the word that is open. A backslash takes a line feed away. -/
def splitRest : Quotes → Option (List Char) → List Char → Option (List (List Char))
  | .none, word, [] => some word.toList
  | _, _, [] => none
  | .single, word, c :: rest =>
    if c = '\'' then splitRest .none word rest
    else splitRest .single (some (word.getD [] ++ [c])) rest
  | .double, word, '\\' :: c :: rest =>
    if c = '\n' then splitRest .double word rest
    else if escapedChars.contains c then splitRest .double (some (word.getD [] ++ [c])) rest
    else splitRest .double (some (word.getD [] ++ ['\\', c])) rest
  | .double, word, c :: rest =>
    if c = '"' then splitRest .none word rest
    else if escapedChars.contains c then none
    else splitRest .double (some (word.getD [] ++ [c])) rest
  | .none, word, '\\' :: c :: rest =>
    if c = '\n' then splitRest .none word rest
    else splitRest .none (some (word.getD [] ++ [c])) rest
  | .none, word, c :: rest =>
    if separatesWords c then (splitRest .none none rest).map (word.toList ++ ·)
    else if c = '\'' then splitRest .single (some (word.getD [])) rest
    else if c = '"' then splitRest .double (some (word.getD [])) rest
    else if specialChars.contains c || c = '\\' then none
    else splitRest .none (some (word.getD [] ++ [c])) rest

/-- The words of a line that consists of words only; there are none where quotes stay open or where an
unquoted character means more than itself. -/
def splitWords? (line : List Char) : Option (List (List Char)) := splitRest .none none line

def wrap (wrapper : Option String) (command : String) : String :=
  match wrapper.filter (· != "") with
  | some wrapper => wrapper ++ " " ++ quote command
  | none => command

end CiPipeline.Shell
