import CiPipeline.Shell.Machine

/-! The state of a shell, and what may end the commands that it runs. -/
namespace CiPipeline.Shell

open Files

structure Variable where
  /-- Absent for a variable that has properties but no value. -/
  value : Option Octets
  isExported : Bool
  isReadOnly : Bool

structure Options where
  exitOnError : Bool
  failOnUnset : Bool
  trace : Bool
  noPatterns : Bool
  exportAll : Bool
  noCommands : Bool
  echoInput : Bool
  pipefail : Bool

/-- The two kinds of shells: a plain one, and one that calls itself `bash` and names lines. -/
inductive Dialect
  | plain
  | extended
deriving DecidableEq

structure Interpreter where
  dialect : Dialect
  name : Octets
  arguments : List Octets
  scope : List (Octets × Variable)
  functions : List (Octets × Command)
  documents : List (Nat × Word)
  nextDocument : Nat
  directory : Path
  descriptors : List (Nat × Nat)
  options : Options
  traps : List (String × Octets)
  status : Nat
  line : Nat
  /-- The number that `$$` stands for, which subshells share with their shell. -/
  process : Nat
  /-- The number of the process itself. -/
  own : Nat
  lastJob : Option Nat
  /-- Loops around the current command. -/
  loops : Nat
  /-- Functions and sourced files around the current command. -/
  calls : Nat
  /-- Values to give back to variables that are local to a function, innermost function first. -/
  locals : List (List (Octets × Option Variable))
  /-- Status of the last command substitution of the current command. -/
  substituted : Option Nat
  /-- Names of programs whose place is known because they were run before. -/
  remembered : List Octets
  /-- What messages name behind the line: the command of the shell that is being carried out. -/
  inside : Option Octets
  mask : Nat

structure State where
  machine : Machine
  shell : Interpreter

inductive Halt
  | leave (levels : Nat)
  | again (levels : Nat)
  | returned
  | exited
  /-- An error, which ends the shell unless the command that it arose in contains it. -/
  | broken
  | killed (signal : Nat)
  /-- Nothing will end the process in time. -/
  | stuck

abbrev Exec := ExceptT Halt (StateM State)

namespace Interpreter

def value? (shell : Interpreter) (name : Octets) : Option Octets :=
  (shell.scope.lookup name).bind (·.value)

def putVariable (shell : Interpreter) (name : Octets) (entry : Variable) : Interpreter :=
  { shell with
    scope := (name, entry) :: shell.scope.filter (·.1 != name)
    remembered := if name = "PATH".toList then [] else shell.remembered }

def setVariable (shell : Interpreter) (name value : Octets) : Interpreter :=
  match shell.scope.lookup name with
  | some entry => shell.putVariable name { entry with value := some value }
  | none => shell.putVariable name ⟨some value, shell.options.exportAll, false⟩

def exportVariable (shell : Interpreter) (name : Octets) : Interpreter :=
  match shell.scope.lookup name with
  | some entry => shell.putVariable name { entry with isExported := true }
  | none => shell.putVariable name ⟨none, true, false⟩

/-- Forgets a variable; of the search path it stays known that it was taken away. -/
def unsetVariable (shell : Interpreter) (name : Octets) : Interpreter :=
  if name = "PATH".toList then shell.putVariable name ⟨none, false, false⟩
  else { shell with scope := shell.scope.filter (·.1 != name) }

def isReadOnly (shell : Interpreter) (name : Octets) : Bool :=
  ((shell.scope.lookup name).map (·.isReadOnly)).getD false

def environment (shell : Interpreter) : List (Octets × Octets) :=
  shell.scope.reverse.filterMap fun entry =>
    match entry.2.value with
    | some value => if entry.2.isExported then some (entry.1, value) else none
    | none => none

def descriptor? (shell : Interpreter) (number : Nat) : Option Nat := shell.descriptors.lookup number

def setDescriptor (shell : Interpreter) (number stream : Nat) : Interpreter :=
  { shell with descriptors := (number, stream) :: shell.descriptors.filter (·.1 != number) }

def closeDescriptor (shell : Interpreter) (number : Nat) : Interpreter :=
  { shell with descriptors := shell.descriptors.filter (·.1 != number) }

end Interpreter

def State.look? (state : State) (text : Octets) : Option (Path × Node) :=
  state.machine.named? state.shell.directory text

namespace Exec

def shell : Exec Interpreter := do return (← get).shell

def machine : Exec Machine := do return (← get).machine

def modifyShell (f : Interpreter → Interpreter) : Exec Unit := modify fun state =>
  { state with shell := f state.shell }

def modifyMachine (f : Machine → Machine) : Exec Unit := modify fun state =>
  { state with machine := f state.machine }

def setStatus (status : Nat) : Exec Unit := modifyShell fun shell => { shell with status := status }

def write (descriptor : Nat) (text : Octets) : Exec Bool := do
  match (← shell).descriptor? descriptor with
  | none => return text.isEmpty
  | some stream =>
    let (done, machine) := (← machine).write stream text
    modify fun state => { state with machine := machine }
    return done

def say (text : Octets) : Exec Unit := discard (write 1 text)

def complain (text : Octets) : Exec Unit := discard (write 2 text)

/-- Moves the clock forward. What would end after the deadline does not end. -/
def waitUntil (time : Time) : Exec Unit := do
  let now := (← machine).now
  let later := max now time
  match (← machine).deadline with
  | some deadline =>
    if deadline < later then
      modifyMachine fun machine => { machine with now := deadline }
      throw .stuck
    else modifyMachine fun machine => { machine with now := later }
  | none => modifyMachine fun machine => { machine with now := later }

def readAll? (descriptor : Nat) : Exec (Option Octets) := do
  match (← shell).descriptor? descriptor with
  | none => return none
  | some stream =>
    match (← machine).readable stream with
    | .text content ready =>
      waitUntil ready
      modifyMachine fun machine => machine.skip stream content.length
      return some content
    | .zeros => throw .stuck
    | .refused => return none

def readSome? (descriptor count : Nat) : Exec (Option Octets) := do
  match (← shell).descriptor? descriptor with
  | none => return none
  | some stream =>
    match (← machine).readable stream with
    | .text content ready =>
      if content.length < count then waitUntil ready
      let content := content.take count
      modifyMachine fun machine => machine.skip stream content.length
      return some content
    | .zeros => return some (List.replicate count (Char.ofNat 0))
    | .refused => return none

def readLine? (descriptor : Nat) : Exec (Option Octets) := do
  match (← shell).descriptor? descriptor with
  | none => return none
  | some stream =>
    match (← machine).readable stream with
    | .text content ready =>
      let line := content.takeWhile (· != '\n')
      let line := content.take (line.length + 1)
      if line.getLast? != some '\n' then waitUntil ready
      modifyMachine fun machine => machine.skip stream line.length
      return some line
    | .zeros => throw .stuck
    | .refused => return none

/-- Carries something out and gives the state of the shell back; what happened to the machine stays. -/
def apart {α : Type} (body : Exec α) : Exec α := do
  let before := (← get).shell
  let result ← tryCatch (body.map Except.ok) (fun halt => return .error halt)
  modify fun state => { state with shell := before }
  match result with
  | .ok value => return value
  | .error halt => throw halt

end Exec

end CiPipeline.Shell
