import CiPipeline.Shell.Words

/-! Reading commands. Text is read line by line, so that the commands of a line can be carried out before
the next line is read; a compound command goes on over as many lines as it needs. -/
namespace CiPipeline.Shell

def reservedWords : List String :=
  ["!", "case", "do", "done", "elif", "else", "esac", "fi", "for", "if", "in", "then", "until",
    "while", "\x7b", "\x7d"]

def closingMarks : List String :=
  [")", ";;", "do", "done", "elif", "else", "esac", "fi", "then", "\x7d"]

def specialCommands : List String :=
  ["break", ":", ".", "continue", "eval", "exec", "exit", "export", "local", "readonly", "return",
    "set", "shift", "times", "trap", "unset"]

namespace Parse

def wholeLine? : Parse (Option Octets) := do
  let reader ← get
  if reader.rest.isEmpty then return none
  let line := reader.rest.takeWhile (· != '\n')
  let rest := reader.rest.drop line.length
  set { reader with
    rest := rest.drop 1, line := if rest.isEmpty then reader.line else reader.line + 1 }
  return some line

def documentLines (awaited : Awaited) : Nat → Parse Octets
  | 0 => return []
  | bound + 1 => do
    match ← wholeLine? with
    | none => return []
    | some line =>
      let line := if awaited.dropTabs then line.dropWhile (· == '\t') else line
      if line == awaited.delimiter then return []
      else return line ++ '\n' :: (← documentLines awaited bound)

def documents (self : Reentry) : Parse Unit := do
  let awaited := (← get).awaited
  modify fun reader => { reader with awaited := [] }
  awaited.forM fun one => do
    let text ← documentLines one (← bound)
    let body ←
      if one.isLiteral then pure [.quoted text]
      else within text (do return (← self.segments .document).1)
    modify fun reader => { reader with documents := (one.number, body) :: reader.documents }

def redirection (descriptor : Option Nat) : Parse Token := do
  if ← accept '>' then
    let descriptor := descriptor.getD 1
    if ← accept '>' then return .redirect (.file descriptor .append)
    else if ← accept '|' then return .redirect (.file descriptor .write)
    else if ← accept '&' then return .redirect (.duplicate descriptor)
    else return .redirect (.file descriptor .write)
  else
    advance
    let descriptor := descriptor.getD 0
    if ← accept '<' then return .document descriptor (← accept '-')
    else if ← accept '&' then return .redirect (.duplicate descriptor)
    else if ← accept '>' then return .redirect (.file descriptor .both)
    else return .redirect (.file descriptor .read)

def isBlankChar (c : Char) : Bool := c == ' ' || c == '\t'

def oneOrTwo (c : Char) : Parse Token := do
  advance
  if ← accept c then return .mark (String.ofList [c, c]) else return .mark (String.singleton c)

def wordToken (self : Reentry) (place : Place) : Parse Token := do
  let (segments, _) ← self.segments place
  match segments, ← peek? with
  | [.plain [digit]], some c =>
    if digit.isDigit && (c = '<' || c = '>') then redirection (some (digit.toNat - '0'.toNat))
    else return .word segments
  | segments, _ => return .word segments

def freshToken (self : Reentry) (place : Place) : Parse Token := do
  let _ ← takeWhile isBlankChar
  if (← peek?) == some '#' then
    modify fun reader => { reader with rest := reader.rest.dropWhile (· != '\n') }
  match ← peek? with
  | none =>
    documents self
    return .endOfInput
  | some c =>
    if c = '\n' then
      advance
      documents self
      return .newline
    else if c = '&' || c = '|' || c = ';' then oneOrTwo c
    else if c = '(' || c = ')' then
      advance
      return .mark (String.singleton c)
    else if c = '<' || c = '>' then redirection none
    else wordToken self place

def tokenAt (self : Reentry) (place : Place) : Parse Token := do
  match (← get).held with
  | some token =>
    modify fun reader => { reader with held := none }
    return token
  | none => freshToken self place

def skipNewlines (self : Reentry) : Nat → Token → Parse Token
  | bound + 1, .newline => do skipNewlines self bound (← tokenAt self .command)
  | _, token => return token

/-- The next token. Where reserved words count, a word that is one of them becomes a mark. -/
def token (self : Reentry) (overNewlines reserved : Bool) : Parse Token := do
  let first ← tokenAt self .command
  let token ← if overNewlines then skipNewlines self (← bound) first else pure first
  match token with
  | .word segments =>
    match segments.plainText? with
    | some text =>
      let text := String.ofList text
      if reserved && reservedWords.contains text then return .mark text
      else return .word segments
    | none => return .word segments
  | token => return token

def expect (self : Reentry) (overNewlines : Bool) (mark : String) : Parse Unit := do
  let found ← token self overNewlines true
  if !found.isMark mark then unexpected found (some (.mark mark))

def delimiterText (word : Word) : Octets :=
  word.flatMap fun segment =>
    match segment with
    | .plain text | .quoted text => text
    | _ => []

def hasQuotedText (word : Word) : Bool :=
  word.any fun segment => segment matches .quoted _

def completed (self : Reentry) (complete : Word → Redirection) : Parse Redirection := do
  match ← token self false false with
  | .word word => return complete word
  | token => unexpected token none

def completedDocument (self : Reentry) (descriptor : Nat) (dropTabs : Bool) :
    Parse Redirection := do
  match ← tokenAt self .delimiter with
  | .word word =>
    let number := (← get).nextDocument
    modify fun reader => { reader with
      nextDocument := number + 1
      awaited := reader.awaited ++ [⟨number, delimiterText word, hasQuotedText word, dropTabs⟩] }
    return .document descriptor number
  | token => unexpected token none

def redirections (self : Reentry) : Nat → Parse (List Redirection)
  | 0 => return []
  | bound + 1 => do
    match ← token self false true with
    | .redirect complete =>
      let one ← completed self complete
      return one :: (← redirections self bound)
    | .document descriptor dropTabs =>
      let one ← completedDocument self descriptor dropTabs
      return one :: (← redirections self bound)
    | token =>
      hold token
      return []

def assignment? : Word → Option (Octets × Word)
  | .plain text :: others =>
    let name := text.takeWhile (· != '=')
    match text.drop name.length with
    | _ :: value =>
      if isName name then
        some (name, if value.isEmpty then others else .plain value :: others)
      else none
    | [] => none
  | _ => none

structure SimpleParts where
  assignments : List (Octets × Word)
  words : List Word
  redirections : List Redirection

def badFunctionName {α : Type} : Parse α := refuse "Syntax error: Bad function name"

def function (self : Reentry) (name : Word) : Parse Command := do
  let close ← token self false false
  if !close.isMark ")" then unexpected close (some (.mark ")"))
  match name.plainText? with
  | none => badFunctionName
  | some text =>
    if !isName text || specialCommands.contains (String.ofList text) then badFunctionName
    else
      let first ← token self true true
      hold first
      return .define text (← self.command)

def simpleFrom (self : Reentry) (line : Nat) : Nat → SimpleParts → Parse Command
  | 0, parts => return .simple line parts.assignments parts.words parts.redirections
  | bound + 1, parts => do
    let go := simpleFrom self line bound
    match ← token self false false with
    | .word word =>
      match (if parts.words.isEmpty then assignment? word else none) with
      | some assignment =>
        go { parts with assignments := parts.assignments ++ [assignment] }
      | none => go { parts with words := parts.words ++ [word] }
    | .redirect complete =>
      let one ← completed self complete
      go { parts with redirections := parts.redirections ++ [one] }
    | .document descriptor dropTabs =>
      let one ← completedDocument self descriptor dropTabs
      go { parts with redirections := parts.redirections ++ [one] }
    | token =>
      match parts with
      | ⟨[], [name], []⟩ =>
        if token.isMark "(" then function self name
        else
          hold token
          return .simple line [] [name] []
      | parts =>
        hold token
        return .simple line parts.assignments parts.words parts.redirections

def simple (self : Reentry) : Parse Command := do
  simpleFrom self (← get).line (← bound) ⟨[], [], []⟩

def otherBranches (self : Reentry) : Nat → Parse Command
  | 0 => return .nothing
  | bound + 1 => do
    let next ← token self false true
    if next.isMark "elif" then
      let condition ← self.required
      expect self false "then"
      let yes ← self.required
      return .choice condition yes (← otherBranches self bound)
    else if next.isMark "else" then self.required
    else
      hold next
      return .nothing

def choice (self : Reentry) : Parse Command := do
  let condition ← self.required
  expect self false "then"
  let yes ← self.required
  let no ← otherBranches self (← bound)
  expect self false "fi"
  return .choice condition yes no

def loop (self : Reentry) (untilTrue : Bool) : Parse Command := do
  let condition ← self.required
  expect self false "do"
  let body ← self.required
  expect self false "done"
  return .loop untilTrue condition body

def wordsBefore (self : Reentry) : Nat → Parse (List Word × Token)
  | 0 => return ([], .endOfInput)
  | bound + 1 => do
    match ← token self false false with
    | .word word =>
      let (words, last) ← wordsBefore self bound
      return (word :: words, last)
    | token => return ([], token)

def forEachValues (self : Reentry) : Parse (List Word) := do
  let next ← token self true true
  if next.isMark "in" then
    let (words, last) ← wordsBefore self (← bound)
    if last matches .newline || last.isMark ";" then return words
    else unexpected last none
  else
    if !next.isMark ";" then hold next
    return [Word.positionals]

def forEach (self : Reentry) : Parse Command := do
  match ← token self false false with
  | .word word =>
    match word.plainText? with
    | some name =>
      if !isName name then refuse "Syntax error: Bad for loop variable"
      let values ← forEachValues self
      expect self true "do"
      let body ← self.required
      expect self false "done"
      return .forEach name values body
    | none => refuse "Syntax error: Bad for loop variable"
  | _ => refuse "Syntax error: Bad for loop variable"

def patternsFrom (self : Reentry) : Nat → Token → Parse (List Word)
  | 0, _ => return []
  | bound + 1, first => do
    let pattern ←
      match first with
      | .word word => pure word
      | .mark text => pure [.plain text.toList]
      | _ => pure []
    let next ← token self false false
    if next.isMark "|" then
      return pattern :: (← patternsFrom self bound (← token self false false))
    else if next.isMark ")" then return [pattern]
    else unexpected next (some (.mark ")"))

def branches (self : Reentry) : Nat → Parse (List (List Word × Command))
  | 0 => return []
  | bound + 1 => do
    let first ← token self true true
    if first.isMark "esac" then return []
    let first ← if first.isMark "(" then token self false false else pure first
    let patterns ← patternsFrom self (bound + 1) first
    let body ← self.commands
    let next ← token self true true
    if next.isMark "esac" then return [(patterns, body)]
    else if next.isMark ";;" then return (patterns, body) :: (← branches self bound)
    else unexpected next (some (.mark ";;"))

def select (self : Reentry) : Parse Command := do
  match ← token self false false with
  | .word subject =>
    expect self true "in"
    return .select subject (← branches self (← bound))
  | token => unexpected token (some (.word []))

def withRedirections (self : Reentry) (line : Nat) (body : Command) : Parse Command := do
  match ← redirections self (← bound) with
  | [] => return body
  | redirections => return .redirected line body redirections

def commandAt (self : Reentry) (overNewlines : Bool) : Parse Command := do
  let line := (← get).line
  let whole (parse : Parse Command) : Parse Command := do
    withRedirections self line (← parse)
  match ← token self overNewlines true with
  | .mark "if" => whole (choice self)
  | .mark "while" => whole (loop self false)
  | .mark "until" => whole (loop self true)
  | .mark "for" => whole (forEach self)
  | .mark "case" => whole (select self)
  | .mark "(" => whole do
    let body ← self.required
    expect self false ")"
    return .subshell body
  | .mark "\x7b" => whole do
    let body ← self.required
    expect self false "\x7d"
    return body
  | .word segments =>
    hold (.word segments)
    simple self
  | .redirect complete =>
    hold (.redirect complete)
    simple self
  | .document descriptor dropTabs =>
    hold (.document descriptor dropTabs)
    simple self
  | token => unexpected token none

def stages (self : Reentry) : Nat → Parse (List Command)
  | 0 => return []
  | bound + 1 => do
    let next ← token self false false
    if next.isMark "|" then
      let stage ← commandAt self true
      return stage :: (← stages self bound)
    else
      hold next
      return []

def pipeline (self : Reentry) (overNewlines : Bool) : Parse Command := do
  let first ← token self overNewlines true
  let isNegated := first.isMark "!"
  if !isNegated then hold first
  let command ← commandAt self false
  let whole :=
    match ← stages self (← bound) with
    | [] => command
    | others => .pipeline (command :: others)
  return if isNegated then .negated whole else whole

def conditionals (self : Reentry) : Nat → Command → Parse Command
  | 0, first => return first
  | bound + 1, first => do
    let next ← token self false false
    if next.isMark "&&" then conditionals self bound (.both first (← pipeline self true))
    else if next.isMark "||" then conditionals self bound (.either first (← pipeline self true))
    else
      hold next
      return first

def conditional (self : Reentry) : Parse Command := do
  let first ← pipeline self false
  conditionals self (← bound) first

inductive ListKind
  | line
  | required
  | optional
deriving DecidableEq

def joinCommands (before : Option Command) (next : Command) : Command :=
  match before with
  | none => next
  | some before => .sequence before next

/-- Goes on with a list of commands. There is none if the text ends where a line should begin. -/
def listFrom (self : Reentry) (kind : ListKind) : Nat → Option Command → Parse (Option Command)
  | 0, before => return before
  | bound + 1, before => do
    let next ← token self (kind ≠ .line) true
    match next with
    | .newline => return some (before.getD .nothing)
    | .endOfInput =>
      hold next
      return if kind = .line then before else some (before.getD .nothing)
    | _ =>
      hold next
      let mayEnd := kind = .optional || (kind = .required && before.isSome)
      let closes := match next with
        | .mark text => closingMarks.contains text
        | _ => false
      if mayEnd && closes then return some (before.getD .nothing)
      let command ← conditional self
      let mark ← token self false false
      let command := if mark.isMark "&" then .background command else command
      let sofar := joinCommands before command
      if mark.isMark "&" || mark.isMark ";" then listFrom self kind bound (some sofar)
      else
        match mark with
        | .newline =>
          hold mark
          listFrom self kind bound (some sofar)
        | .endOfInput =>
          hold mark
          return some sofar
        | mark =>
          if kind = .line then unexpected mark none
          else
            hold mark
            return some sofar

def list (self : Reentry) (kind : ListKind) : Parse (Option Command) := do
  listFrom self kind (← bound) none

def reentry : Nat → Reentry
  | 0 => ⟨refuse "Syntax error", refuse "Syntax error", refuse "Syntax error",
      refuse "Syntax error", fun _ => refuse "Syntax error"⟩
  | depth + 1 =>
    { commands := do return (← list (reentry depth) .optional).getD .nothing
      enclosed := do
        let body := (← list (reentry depth) .optional).getD .nothing
        expect (reentry depth) false ")"
        return body
      required := do return (← list (reentry depth) .required).getD .nothing
      command := commandAt (reentry depth) false
      segments := fun place => segments (reentry depth) place }

def line : Parse (Option Command) := do
  list (reentry (2 * (← bound))) .line

end Parse

namespace Reader

def start (text : Octets) (nextDocument : Nat) : Reader := ⟨text, 1, none, [], [], nextDocument⟩

end Reader

end CiPipeline.Shell
