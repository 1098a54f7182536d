import CiPipeline.Shell.Octets

/-! Syntax of shell commands. A word is a list of segments; a segment under quotes is neither split into
fields nor matched against file names. Bodies of here-documents stand behind the line that asks for
them, so a redirection knows its document by a number only. -/
namespace CiPipeline.Shell

/-- What becomes of the value of a parameter. Where a flag says so, an empty value counts as none. -/
inductive Modifier
  | value
  | length
  | orElse (emptyToo : Bool)
  | assign (emptyToo : Bool)
  | demand (emptyToo : Bool)
  | instead (emptyToo : Bool)
  | dropEnd (longest : Bool)
  | dropStart (longest : Bool)
  | malformed
deriving DecidableEq, Repr

inductive OpenMode
  | read
  | write
  | append
  | both
deriving DecidableEq, Repr

mutual

inductive Segment
  | plain (text : Octets)
  | quoted (text : Octets)
  | parameter (underQuotes : Bool) (name : Octets) (modifier : Modifier) (word : List Segment)
  | substitution (underQuotes : Bool) (body : Command)
  | arithmetic (underQuotes : Bool) (expression : List Segment)

inductive Redirection
  | file (descriptor : Nat) (mode : OpenMode) (target : List Segment)
  | duplicate (descriptor : Nat) (source : List Segment)
  | document (descriptor : Nat) (number : Nat)

inductive Command
  | nothing
  | simple (line : Nat) (assignments : List (Octets × List Segment)) (words : List (List Segment))
    (redirections : List Redirection)
  | pipeline (stages : List Command)
  | negated (body : Command)
  | both (first second : Command)
  | either (first second : Command)
  | sequence (first second : Command)
  | background (body : Command)
  | subshell (body : Command)
  | redirected (line : Nat) (body : Command) (redirections : List Redirection)
  | choice (condition yes no : Command)
  | loop (untilTrue : Bool) (condition body : Command)
  | forEach (name : Octets) (values : List (List Segment)) (body : Command)
  | select (subject : List Segment) (branches : List (List (List Segment) × Command))
  | define (name : Octets) (body : Command)

end

abbrev Word := List Segment

instance : Inhabited Command := ⟨.nothing⟩

def Command.inOrder : Command → List Command → List Command
  | .sequence first second, later => first.inOrder (second.inOrder later)
  | command, later => command :: later

def Word.plainText? : Word → Option Octets
  | [.plain text] => some text
  | _ => none

def Word.positionals : Word := [.parameter true ['@'] .value []]

end CiPipeline.Shell
