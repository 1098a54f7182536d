import CiPipeline.Shell.Reader

/-! Reading words: quotes, parameters, substitutions and arithmetic. What a word ends with depends on where
it stands. Substitutions hold commands, so reading words and reading commands need each other; a word
is therefore read with a way back into the commands. -/
namespace CiPipeline.Shell

inductive Place
  /-- Among commands, where blanks and operators end it. -/
  | command
  /-- Behind the sign of a here-document, where nothing is expanded. -/
  | delimiter
  /-- Between double quotes. -/
  | quotes
  /-- Behind the modifier of a parameter in braces. -/
  | braces (underQuotes : Bool)
  /-- In a here-document. -/
  | document
  /-- Between the parentheses of an arithmetic expansion. -/
  | arithmetic
deriving DecidableEq, Repr

def Place.underQuotes : Place → Bool
  | command | delimiter => false
  | braces underQuotes => underQuotes
  | quotes | document | arithmetic => true

/-- The ways back from words into commands and into the words inside of words. -/
structure Reentry where
  /-- A list of commands, which may be empty. -/
  commands : Parse Command
  /-- Such a list with the parenthesis that closes it. -/
  enclosed : Parse Command
  /-- A list of one command or more. -/
  required : Parse Command
  command : Parse Command
  segments : Place → Parse (Word × Bool)

def endsWord (c : Char) : Bool := [' ', '\t', '\n', ';', '&', '|', '<', '>', '(', ')'].contains c

/-- Segments so far, the last one first, and whether there were quotes. -/
structure Drafted where
  segments : List Segment
  hasQuotes : Bool

namespace Drafted

def empty : Drafted := ⟨[], false⟩

def add (drafted : Drafted) (segment : Segment) : Drafted :=
  { drafted with segments := segment :: drafted.segments }

def plain (drafted : Drafted) (c : Char) : Drafted := drafted.add (.plain [c])

def quoted (drafted : Drafted) (text : Octets) : Drafted :=
  ⟨.quoted text :: drafted.segments, true⟩

def literal (drafted : Drafted) (place : Place) (c : Char) : Drafted :=
  if place.underQuotes then drafted.add (.quoted [c]) else drafted.plain c

def merge : List Segment → List Segment
  | [] => []
  | segment :: rest =>
    match segment, merge rest with
    | .plain a, .plain b :: others => .plain (a ++ b) :: others
    | .quoted a, .quoted b :: others => .quoted (a ++ b) :: others
    | segment, others => segment :: others

def result (drafted : Drafted) : Word × Bool := (merge drafted.segments.reverse, drafted.hasQuotes)

end Drafted

namespace Parse

def unterminated {α : Type} : Parse α := refuse "Syntax error: Unterminated quoted string"

def singleQuoted : Parse Octets := do
  go (← bound)
where
  go : Nat → Parse Octets
    | 0 => unterminated
    | bound + 1 => do
      match ← peek? with
      | none => unterminated
      | some c =>
        advance
        if c = '\'' then return [] else return c :: (← go bound)

def isEscapable (place : Place) (c : Char) : Bool :=
  match place with
  | .command | .delimiter => true
  | .braces underQuotes => !underQuotes || ['$', '`', '"', '\\', '}'].contains c
  | .document => ['$', '`', '\\'].contains c
  | .quotes | .arithmetic => ['$', '`', '"', '\\'].contains c

def escaped (place : Place) (drafted : Drafted) : Parse Drafted := do
  match ← peek? with
  | none => return drafted.literal place '\\'
  | some '\n' =>
    advance
    return drafted
  | some c =>
    if isEscapable place c then
      advance
      return drafted.quoted [c]
    else return drafted.literal place '\\'

def backquoted (underQuotes : Bool) : Parse Octets := do
  go (← bound)
where
  go : Nat → Parse Octets
    | 0 => refuse "Syntax error: EOF in backquote substitution"
    | bound + 1 => do
      match ← peek? with
      | none => refuse "Syntax error: EOF in backquote substitution"
      | some '`' =>
        advance
        return []
      | some '\\' =>
        advance
        match ← peekJoined? with
        | none => refuse "Syntax error: EOF in backquote substitution"
        | some c =>
          advance
          if ['\\', '`', '$'].contains c || (underQuotes && c == '"') then
            return c :: (← go bound)
          else return '\\' :: c :: (← go bound)
      | some c =>
        advance
        return c :: (← go bound)

def within {α : Type} (text : Octets) (parse : Parse α) : Parse α := do
  let outer ← get
  set { outer with rest := text, held := none }
  let value ← parse
  modify fun inner => { inner with rest := outer.rest, held := outer.held, line := outer.line }
  return value

def isSpecialParameter (c : Char) : Bool :=
  ['@', '*', '#', '?', '-', '$', '!'].contains c || c.isDigit

def modifier (self : Reentry) (underQuotes : Bool) : Parse (Modifier × Word) := do
  let emptyToo ← accept ':'
  let inside : Parse Word := do return (← self.segments (.braces underQuotes)).1
  match ← peekJoined? with
  | some '}' =>
    advance
    if emptyToo then return (.malformed, ← inside) else return (.value, [])
  | some '-' =>
    advance
    return (.orElse emptyToo, ← inside)
  | some '=' =>
    advance
    return (.assign emptyToo, ← inside)
  | some '?' =>
    advance
    return (.demand emptyToo, ← inside)
  | some '+' =>
    advance
    return (.instead emptyToo, ← inside)
  | some c =>
    if (c = '%' || c = '#') && !emptyToo then
      advance
      let longest ← accept c
      let word := (← self.segments (.braces false)).1
      return (if c = '%' then .dropEnd longest else .dropStart longest, word)
    else
      let word ← inside
      return (.malformed, word)
  | none => refuse "Syntax error: Missing '\x7d'"

def braced (self : Reentry) (underQuotes : Bool) : Parse Segment := do
  let plainly (name : Octets) : Parse Segment := do
    let (modifier, word) ← modifier self underQuotes
    return .parameter underQuotes name modifier word
  match ← peekJoined? with
  | some '#' =>
    advance
    match ← peekJoined? with
    | some c =>
      if c = '}' then plainly ['#']
      else if isNameStart c || isSpecialParameter c then
        let before ← get
        let name ← if isNameStart c then takeWhile isNameChar
          else if c.isDigit then takeWhile Char.isDigit
          else do
            advance
            pure [c]
        if ← accept '}' then return .parameter underQuotes name .length []
        else
          set before
          plainly ['#']
      else plainly ['#']
    | none => plainly ['#']
  | some c =>
    if isNameStart c then plainly (← takeWhile isNameChar)
    else if c.isDigit then plainly (← takeWhile Char.isDigit)
    else if isSpecialParameter c then
      advance
      plainly [c]
    else
      let word := (← self.segments (.braces underQuotes)).1
      return .parameter underQuotes [] .malformed word
  | none => refuse "Syntax error: Missing '\x7d'"

def dollar (self : Reentry) (place : Place) : Parse (Option Segment) := do
  let underQuotes := place.underQuotes
  match ← peekJoined? with
  | some '(' =>
    advance
    if ← accept '(' then
      return some (.arithmetic underQuotes (← self.segments .arithmetic).1)
    else
      return some (.substitution underQuotes (← self.enclosed))
  | some '{' =>
    advance
    return some (← braced self underQuotes)
  | some c =>
    if isNameStart c then
      return some (.parameter underQuotes (← takeWhile isNameChar) .value [])
    else if isSpecialParameter c then
      advance
      return some (.parameter underQuotes [c] .value [])
    else return none
  | none => return none

/-- Reads segments up to what ends them in their place, which is taken unless it ends a word among
commands. -/
def drafted (self : Reentry) (place : Place) : Nat → Nat → Drafted → Parse Drafted
  | 0, _, drafted => return drafted
  | bound + 1, depth, sofar => do
    let go := drafted self place bound
    match ← peek? with
    | none =>
      match place with
      | .quotes => unterminated
      | .braces _ => refuse "Syntax error: Missing '\x7d'"
      | .arithmetic => refuse "Syntax error: Missing '))'"
      | _ => return sofar
    | some '\\' =>
      advance
      go depth (← escaped place sofar)
    | some '"' =>
      if place = .document then
        advance
        go depth (sofar.literal place '"')
      else
        advance
        if place = .quotes then return sofar
        else if place = .arithmetic then go depth sofar
        else
          let (segments, _) ← self.segments .quotes
          go depth ⟨segments.reverse ++ .quoted [] :: sofar.segments, true⟩
    | some '\'' =>
      advance
      if place.underQuotes then go depth (sofar.literal place '\'')
      else go depth (sofar.quoted (← singleQuoted))
    | some '$' =>
      advance
      if place = .delimiter then go depth (sofar.plain '$')
      else
        match ← dollar self place with
        | some segment => go depth (sofar.add segment)
        | none => go depth (sofar.literal place '$')
    | some '`' =>
      advance
      if place = .delimiter then go depth (sofar.plain '`')
      else
        let text ← backquoted place.underQuotes
        let body ← within text self.commands
        go depth (sofar.add (.substitution place.underQuotes body))
    | some c =>
      match place with
      | .command | .delimiter =>
        if endsWord c then return sofar
        else
          advance
          go depth (sofar.plain c)
      | .braces _ =>
        advance
        if c = '}' then return sofar else go depth (sofar.literal place c)
      | .arithmetic =>
        advance
        if c = '(' then go (depth + 1) (sofar.literal place c)
        else if c = ')' then
          if 0 < depth then go (depth - 1) (sofar.literal place c)
          else if ← accept ')' then return sofar
          else go depth (sofar.literal place c)
        else go depth (sofar.literal place c)
      | .quotes | .document =>
        advance
        go depth (sofar.literal place c)

def segments (self : Reentry) (place : Place) : Parse (Word × Bool) := do
  return (← drafted self place (← bound) 0 .empty).result

end Parse

end CiPipeline.Shell
