import CiPipeline.Shell.Expansion
import CiPipeline.Shell.Signal

/-! Processes: subshells, programs with an environment of their own, and what is redirected for them. A
process hands the machine on to its parent when it ends, and nothing else of its state. -/
namespace CiPipeline.Shell

open Files

inductive Ended
  | status (code : Nat)
  | signal (number : Nat)

structure Engine where
  /-- Carries a command out. Failures of a tested one do not end a shell that ends on errors. -/
  command : Bool → Command → Exec Unit
  /-- Runs a program with arguments as a process. -/
  program : List Octets → Exec Ended
  /-- Carries out a text of commands. -/
  script : Octets → Exec Unit

namespace Exec

def halting (body : Exec Unit) : Exec (Option Halt) :=
  tryCatch (do body; return none) (fun halt => return some halt)

def meetSignals : Exec Unit := do
  let own := (← shell).own
  match (← machine).doomed.lookup own with
  | some signal => throw (.killed signal)
  | none => return

def newProcess : Exec Nat := do
  let number := (← machine).nextProcess
  modifyMachine fun machine => { machine with nextProcess := number + 1 }
  return number

def process (body : Exec Unit) : Exec Ended := do
  let number ← newProcess
  let ended ← apart do
    modifyShell fun shell => { shell with own := number }
    match ← halting body with
    | some (.killed signal) => return .signal signal
    | some .stuck => throw .stuck
    | _ => return .status (← shell).status
  meetSignals
  return ended

def statusOf (ended : Ended) : Exec Nat := do
  match ended with
  | .status code => return code
  | .signal number =>
    match Signal.notice? number with
    | some notice => complain (notice.toList ++ ['\n'])
    | none => pure ()
    return Signal.status number

/-- What a subshell starts from: no traps but those that ignore, and no loops around it. -/
def enterSubshell : Exec Unit := modifyShell fun shell => { shell with
  traps := shell.traps.filter (·.2.isEmpty)
  loops := 0 }

def runExitTrap (engine : Engine) : Exec Unit := do
  match (← shell).traps.lookup "EXIT" with
  | none => return
  | some text =>
    let status := (← shell).status
    modifyShell fun shell => { shell with traps := shell.traps.filter (·.1 != "EXIT") }
    match ← halting (engine.script text) with
    | some (.killed signal) => throw (.killed signal)
    | some .stuck => throw .stuck
    | some .exited | some .broken => return
    | _ => setStatus status

def toTheEnd (engine : Engine) (body : Exec Unit) : Exec Unit := do
  match ← halting body with
  | some (.killed signal) => throw (.killed signal)
  | some .stuck => throw .stuck
  | _ => runExitTrap engine

def subshell (engine : Engine) (body : Exec Unit) : Exec Ended :=
  process (toTheEnd engine (do enterSubshell; body))

def capture (engine : Engine) (command : Command) : Exec Octets := do
  let (stream, machine) := (← machine).addStream (.pipe [] 0)
  modifyMachine fun _ => machine
  let ended ← subshell engine do
    modifyShell fun shell => shell.setDescriptor 1 stream
    engine.command false command
  let status ← statusOf ended
  modifyShell fun shell => { shell with status := status, substituted := some status }
  match (← Exec.machine).stream stream with
  | .pipe content _ => return Octets.dropLineEnds (content.filter (· != Char.ofNat 0))
  | _ => return []

def openPath (mode : OpenMode) (text : Octets) : Exec (Except String Nat) := do
  let machine ← machine
  let path := machine.locate (← shell).directory text
  let add (stream : Stream) : Exec (Except String Nat) := do
    let (number, machine) := (← Exec.machine).addStream stream
    modifyMachine fun _ => machine
    return .ok number
  let absent : String := if mode = .read then "No such file" else "Directory nonexistent"
  match if text.isEmpty then none else machine.settle? path with
  | none => return .error absent
  | some place =>
    if text.getLast? == some '/' && !machine.isDirectory place then
      return .error (if mode = .read then absent else "Is a directory")
    match machine.nodeAt? place, mode with
    | some (.device stream), _ => add stream
    | some .directory, .read => add .nowhere
    | some .directory, _ => return .error "Is a directory"
    | some (.program _), .read => add .nowhere
    | some (.program _), _ => return .error "Text file busy"
    | some (.file _), .write =>
      modifyMachine fun machine => machine.putFile place []
      add (.file place 0 .write)
    | some (.file _), mode => add (.file place 0 mode)
    | none, .read => return .error absent
    | none, mode =>
      if machine.mayCreate place then
        modifyMachine fun machine => machine.putFile place []
        add (.file place 0 mode)
      else return .error absent

def redirect (engine : Engine) (redirection : Redirection) : Exec (Option Octets) := do
  match redirection with
  | .file descriptor mode target =>
    let text ← textOf (capture engine) .front target
    match ← openPath mode text with
    | .ok stream =>
      modifyShell fun shell => shell.setDescriptor descriptor stream
      return none
    | .error reason =>
      let verb := if mode = .read then "cannot open " else "cannot create "
      return some (verb.toList ++ text ++ ": ".toList ++ reason.toList)
  | .duplicate descriptor source =>
    let text ← textOf (capture engine) .front source
    if text = ['-'] then
      modifyShell fun shell => shell.closeDescriptor descriptor
      return none
    else
      match Octets.toNat? text with
      | none => return some "Syntax error: Bad fd number".toList
      | some number =>
        match (← shell).descriptor? number with
        | none => return some (Octets.ofNat number ++ ": Bad file descriptor".toList)
        | some stream =>
          modifyShell fun shell => shell.setDescriptor descriptor stream
          return none
  | .document descriptor number =>
    let body := ((← shell).documents.lookup number).getD []
    let text ← textOf (capture engine) .none body
    let (stream, machine) := (← machine).addStream (.pipe text 0)
    modifyMachine fun _ => machine
    modifyShell fun shell => shell.setDescriptor descriptor stream
    return none

def redirectAll (engine : Engine) : List Redirection → Exec (Option Octets)
  | [] => return none
  | redirection :: rest => do
    match ← redirect engine redirection with
    | some reason => return some reason
    | none => redirectAll engine rest

def withDescriptors {α : Type} (body : Exec α) : Exec α := do
  let before := (← shell).descriptors
  let restore : Exec Unit := modifyShell fun shell => { shell with descriptors := before }
  let value ← tryCatch body (fun halt => do restore; throw halt)
  restore
  return value

end Exec

end CiPipeline.Shell
