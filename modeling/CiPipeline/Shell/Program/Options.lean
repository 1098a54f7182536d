import CiPipeline.Shell.Process

/-! Options of programs, and the ways in which programs complain. Options may stand behind other
arguments, up to two hyphens. -/
namespace CiPipeline.Shell.Program

open Exec

abbrev Action := Engine → Octets → List Octets → Exec Nat

/-- Options of a program: letters without and with a value, and words that stand for letters. -/
structure OptionTable where
  flags : Octets
  valued : Octets
  words : List (String × Char)

structure Parsed where
  options : List (Char × Octets)
  operands : List Octets

namespace Parsed

def has (parsed : Parsed) (letter : Char) : Bool := parsed.options.any (·.1 == letter)

def value? (parsed : Parsed) (letter : Char) : Option Octets :=
  parsed.options.reverse.lookup letter

end Parsed

namespace OptionTable

def readLetters (table : OptionTable) (next : Option Octets) :
    Octets → Except Octets (List (Char × Octets) × Bool)
  | [] => .ok ([], false)
  | c :: rest =>
    if table.flags.contains c then
      (readLetters table next rest).map fun (options, used) => ((c, []) :: options, used)
    else if table.valued.contains c then
      if !rest.isEmpty then .ok ([(c, rest)], false)
      else
        match next with
        | some value => .ok ([(c, value)], true)
        | none => .error ("option requires an argument -- '".toList ++ [c, '\''])
    else .error ("invalid option -- '".toList ++ [c, '\''])

def readWord (table : OptionTable) (next : Option Octets) (word : Octets) :
    Except Octets (List (Char × Octets) × Bool) :=
  let name := word.takeWhile (· != '=')
  let own := match word.drop name.length with
    | _ :: value => some value
    | [] => none
  match table.words.lookup (String.ofList name) with
  | none => .error ("unrecognized option '--".toList ++ word ++ ['\''])
  | some letter =>
    if table.flags.contains letter then
      match own with
      | none => .ok ([(letter, [])], false)
      | some _ => .error ("option '--".toList ++ name ++ "' doesn't allow an argument".toList)
    else
      match own, next with
      | some value, _ => .ok ([(letter, value)], false)
      | none, some value => .ok ([(letter, value)], true)
      | none, none => .error ("option '--".toList ++ name ++ "' requires an argument".toList)

def readFrom (table : OptionTable) (mixed : Bool) : Nat → List Octets → Except Octets Parsed
  | 0, _ => .ok ⟨[], []⟩
  | _, [] => .ok ⟨[], []⟩
  | bound + 1, argument :: rest =>
    match argument with
    | ['-', '-'] => .ok ⟨[], rest⟩
    | '-' :: '-' :: word => do
      let (options, used) ← readWord table rest.head? word
      let later ← readFrom table mixed bound (if used then rest.drop 1 else rest)
      return ⟨options ++ later.options, later.operands⟩
    | '-' :: c :: letters => do
      let (options, used) ← readLetters table rest.head? (c :: letters)
      let later ← readFrom table mixed bound (if used then rest.drop 1 else rest)
      return ⟨options ++ later.options, later.operands⟩
    | operand =>
      if mixed then do
        let later ← readFrom table mixed bound rest
        return ⟨later.options, operand :: later.operands⟩
      else return ⟨[], operand :: rest⟩

/-- Reads arguments; without `mixed`, the first operand ends the options. -/
def read (table : OptionTable) (mixed : Bool) (arguments : List Octets) : Except Octets Parsed :=
  readFrom table mixed (arguments.length + 1) arguments

end OptionTable

def complainAs (name message : Octets) : Exec Unit :=
  complain (name ++ ": ".toList ++ message ++ ['\n'])

def hint (name : Octets) : Exec Unit :=
  complain ("Try '".toList ++ name ++ " --help' for more information.\n".toList)

def misused (name message : Octets) (status : Nat) : Exec Nat := do
  complainAs name message
  hint name
  return status

def withOptions (table : OptionTable) (name : Octets) (arguments : List Octets) (status : Nat)
    (next : Parsed → Exec Nat) : Exec Nat := do
  match table.read true arguments with
  | .error message => misused name message status
  | .ok parsed => next parsed

def isVisible (c : Char) : Bool := 0x20 ≤ c.toNat && c.toNat < 0x7F

def escapeOctet (c : Char) : Octets :=
  match [('\x07', 'a'), ('\x08', 'b'), ('\t', 't'), ('\n', 'n'), ('\x0b', 'v'), ('\x0c', 'f'),
      ('\r', 'r')].lookup c with
  | some letter => ['\\', letter]
  | none =>
    let digits := Nat.toDigits 8 c.toNat
    '\\' :: List.replicate (3 - digits.length) '0' ++ digits

/-- What stands between the outer quotes of a name; octets without a visible form stand in quotes of
their own, in which escapes count. -/
def quoteFrom : Bool → Octets → Octets
  | _, [] => []
  | escaping, c :: rest =>
    if isVisible c then
      (if escaping then ['\'', '\''] else []) ++ (if c = '\'' then "'\\''".toList else [c]) ++
        quoteFrom false rest
    else (if escaping then [] else ['\'', '$', '\'']) ++ escapeOctet c ++ quoteFrom true rest

def quoteName (text : Octets) : Octets :=
  if text.all isVisible && text.contains '\'' &&
      !text.any fun c => ['"', '$', '`', '\\', '!'].contains c then
    '"' :: text ++ ['"']
  else '\'' :: quoteFrom false text ++ ['\'']

def quoteValue (text : Octets) : Octets :=
  let part (c : Char) : Octets :=
    if c = '\'' || c = '\\' then ['\\', c] else if isVisible c then [c] else escapeOctet c
  '\'' :: text.flatMap part ++ ['\'']

def telltales : List Char :=
  [' ', '!', '"', '$', '&', '\'', '(', ')', '*', ';', '<', '=', '>', '[', '^', '`', '|', '?', '\\', ':']

/-- A name as it is told in messages, in quotes only where it needs them. -/
def quoteIfNeeded (text : Octets) : Octets :=
  let atFront := (text.head?).any fun c => c = '#' || c = '~'
  let isBrace := text = ['\x7b'] || text = ['\x7d']
  if text.isEmpty || atFront || isBrace || text.any fun c => !isVisible c || telltales.contains c then
    quoteName text
  else text

def missingOperand (name : Octets) : Exec Nat := misused name "missing operand".toList 1

def extraOperand (name operand : Octets) : Exec Nat :=
  misused name ("extra operand ".toList ++ quoteValue operand) 1

inductive Trouble
  | absent
  | directory
  | notDirectory

def Trouble.message : Trouble → Octets
  | absent => "No such file or directory".toList
  | directory => "Is a directory".toList
  | notDirectory => "Not a directory".toList

def absence (operand : Octets) : Exec Trouble := do
  let machine ← machine
  let path := machine.locate (← shell).directory operand
  let names := path.names ++ (if operand.getLast? == some '/' then ["."] else [])
  return if machine.isBlocked ⟨path.anchor, []⟩ names then .notDirectory else .absent

def contentOf (operand : Octets) : Exec (Except Trouble Octets) := do
  if operand = ['-'] then return .ok ((← readAll? 0).getD [])
  else
    match (← get).look? operand with
    | some (_, .file content) => return .ok content
    | some (_, .device .zeros) => throw .stuck
    | some (_, .device _) | some (_, .program _) => return .ok []
    | some (_, .directory) => return .error .directory
    | none => return .error (← absence operand)

def allContents (name : Octets) (operands : List Octets) : Exec (Option (List Octets)) := do
  let mut contents := []
  for operand in (if operands.isEmpty then [['-']] else operands) do
    match ← contentOf operand with
    | .ok content => contents := contents ++ [content]
    | .error trouble =>
      let verb := match trouble with
        | .directory => "read failed: "
        | _ => "cannot read: "
      complainAs name (verb.toList ++ quoteIfNeeded operand ++ ": ".toList ++ trouble.message)
      return none
  return some contents

/-- The contents of all operands that have one; the others are told of. -/
def contentsOf (name : Octets) (operands : List Octets) : Exec (List Octets × Nat) := do
  let mut contents := []
  let mut status := 0
  for operand in (if operands.isEmpty then [['-']] else operands) do
    match ← contentOf operand with
    | .ok content => contents := contents ++ [content]
    | .error trouble =>
      complainAs name (quoteIfNeeded operand ++ ": ".toList ++ trouble.message)
      status := 1
  return (contents, status)

end CiPipeline.Shell.Program
