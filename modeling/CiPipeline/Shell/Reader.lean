import CiPipeline.Shell.Syntax

/-! Reading shell text. A reader keeps what is still to be read, the number of the current line, a token
that was put back, and the here-documents whose bodies are still to come. -/
namespace CiPipeline.Shell

/-- What a line of commands is made of. Marks are operators and reserved words. -/
inductive Token
  | word (segments : Word)
  | redirect (complete : Word → Redirection)
  | document (descriptor : Nat) (dropTabs : Bool)
  | mark (text : String)
  | newline
  | endOfInput

structure Awaited where
  number : Nat
  delimiter : Octets
  isLiteral : Bool
  dropTabs : Bool

structure Reader where
  rest : Octets
  line : Nat
  held : Option Token
  awaited : List Awaited
  /-- Bodies of here-documents, by their numbers. -/
  documents : List (Nat × Word)
  nextDocument : Nat

structure Refusal where
  line : Nat
  message : String

abbrev Parse := StateT Reader (Except Refusal)

namespace Parse

def refuse {α : Type} (message : String) : Parse α := do
  throw ⟨(← get).line, message⟩

def peek? : Parse (Option Char) := do return (← get).rest.head?

def advance : Parse Unit := modify fun reader =>
  match reader.rest with
  | [] => reader
  | c :: rest => { reader with rest := rest, line := if c = '\n' then reader.line + 1 else reader.line }

def joined : Octets → Octets × Nat
  | '\\' :: '\n' :: rest => let (rest, count) := joined rest; (rest, count + 1)
  | rest => (rest, 0)

def peekJoined? : Parse (Option Char) := do
  modify fun reader =>
    let (rest, count) := joined reader.rest
    { reader with rest := rest, line := reader.line + count }
  peek?

def accept (c : Char) : Parse Bool := do
  if (← peekJoined?) == some c then
    advance
    return true
  else return false

def takeWhile (test : Char → Bool) : Parse Octets := do
  let bound := (← get).rest.length
  go bound
where
  go : Nat → Parse Octets
    | 0 => return []
    | bound + 1 => do
      match ← peekJoined? with
      | some c =>
        if test c then
          advance
          return c :: (← go bound)
        else return []
      | none => return []

def hold (token : Token) : Parse Unit := modify fun reader => { reader with held := some token }

/-- More than the number of characters that are left, which bounds every loop over them. -/
def bound : Parse Nat := do return (← get).rest.length + 1

end Parse

def Token.name : Token → String
  | word _ => "word"
  | redirect _ | document _ _ => "redirection"
  | newline => "newline"
  | endOfInput => "end of file"
  | mark text => "\"" ++ text ++ "\""

def Token.isMark (token : Token) (text : String) : Bool :=
  match token with
  | mark found => found == text
  | _ => false

def unexpected {α : Type} (token : Token) (wanted : Option Token) : Parse α :=
  Parse.refuse ("Syntax error: " ++ token.name ++ " unexpected" ++
    match wanted with
    | some wanted => " (expecting " ++ wanted.name ++ ")"
    | none => "")

end CiPipeline.Shell
