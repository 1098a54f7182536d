import CiPipeline.Shell.Builtin.Jobs
import CiPipeline.Shell.Builtin.Variables
import CiPipeline.Shell.Grammar
import CiPipeline.Shell.Lookup

/-! Commands that decide what is carried out next: ending shells, functions and loops, carrying out texts
and files of commands, and passing commands on. -/
namespace CiPipeline.Shell.Builtin

open Exec

def statusArgument (arguments : List Octets) : Exec Nat := do
  match arguments with
  | [] => return (← shell).status
  | text :: _ =>
    match Octets.toNat? text with
    | some status => return status
    | none => fail ("Illegal number: ".toList ++ text)

def exit : Action := fun _ arguments => do
  setStatus (← statusArgument arguments)
  throw .exited

def returnAction : Action := fun _ arguments => do
  setStatus (← statusArgument arguments)
  throw .returned

/-- How many loops a command is about; outside of loops it is about none. -/
def loopLevels (arguments : List Octets) : Exec Nat := do
  let loops := (← shell).loops
  match arguments with
  | [] => return min 1 loops
  | text :: _ =>
    match Octets.toNat? text with
    | some 0 | none => fail ("Illegal number: ".toList ++ text)
    | some levels => return min levels loops

def breakAction : Action := fun _ arguments => do
  let levels ← loopLevels arguments
  setStatus 0
  if levels = 0 then return 0 else throw (.leave levels)

def continueAction : Action := fun _ arguments => do
  let levels ← loopLevels arguments
  setStatus 0
  if levels = 0 then return 0 else throw (.again levels)

def eval : Action := fun engine arguments => do
  setStatus 0
  if (← shell).dialect = .extended then modifyShell fun shell => { shell with inside := none }
  engine.script ([' '].intercalate arguments)
  return (← shell).status

def sourceText (name : Octets) : Exec (Octets × Octets) := do
  let machine ← machine
  let shell ← shell
  let candidates :=
    if name.contains '/' then [name]
    else
      ((searchDirectories shell).map fun place => place ++ '/' :: name) ++
        (if shell.dialect = .plain then [] else [name])
  let found := candidates.findSome? fun text =>
    match machine.look? (machine.locate shell.directory text) with
    | some (_, .file content) => some (text, content)
    | some (_, .device _) => some (text, [])
    | _ => none
  match found with
  | some found => return found
  | none =>
    if name.contains '/' then fail ("cannot open ".toList ++ name ++ ": No such file".toList)
    else fail (name ++ ": not found".toList)

def source : Action := fun engine arguments => do
  match arguments with
  | [] => return 0
  | name :: positional =>
    let (path, text) ← sourceText name
    let inside := if (← shell).dialect = .plain then some path else none
    modifyShell fun shell => { shell with inside := inside }
    let before := (← shell).arguments
    if !positional.isEmpty && (← shell).dialect = .extended then
      modifyShell fun shell => { shell with arguments := positional }
    let halted ← halting (do setStatus 0; engine.script text)
    if !positional.isEmpty && (← shell).dialect = .extended then
      modifyShell fun shell => { shell with arguments := before }
    match halted with
    | none | some .returned => return (← shell).status
    | some halt => throw halt

def execAction : Action := fun engine arguments => do
  match arguments with
  | [] => return 0
  | name :: _ =>
    match findProgram (← machine) (← shell) name with
    | .ok _ =>
      match ← engine.program arguments with
      | .status code =>
        setStatus code
        modifyShell fun shell => { shell with traps := [] }
        throw .exited
      | .signal number => throw (.killed number)
    | .error reason =>
      let (message, status) : String × Nat :=
        if reason = .absent then (": not found", 127) else (": Permission denied", 126)
      report (name ++ message.toList)
      setStatus status
      modifyShell fun shell => { shell with traps := [] }
      throw .exited

end CiPipeline.Shell.Builtin
