import CiPipeline.Shell.Builtin.Condition
import CiPipeline.Shell.Builtin.Format
import CiPipeline.Shell.Process

/-! Commands that a shell carries out itself: those that write, that ask, and that change the place. -/
namespace CiPipeline.Shell.Builtin

open Files Exec

abbrev Action := Engine → List Octets → Exec Nat

def wrong (message : Octets) : Exec Nat := do
  report message
  return 2


def refuseOptions (known : Octets) : List Octets → Exec Unit
  | ('-' :: c :: letters) :: rest => do
    if c = '-' && letters.isEmpty then return
    match (c :: letters).find? fun letter => !known.contains letter with
    | some letter => fail ("Illegal option -".toList ++ [letter])
    | none => refuseOptions known rest
  | _ => return

def output (name : String) (text : Octets) : Exec Nat := do
  if ← write 1 text then return 0
  else
    report (name.toList ++ ": I/O error".toList)
    return 1

def succeed : Action := fun _ _ => return 0

def refuse : Action := fun _ _ => return 1

def echoOptions : Bool → Bool → List Octets → Bool × Bool × List Octets
  | lineFeed, escapes, ('-' :: c :: letters) :: rest =>
    if (c :: letters).all fun c => ['n', 'e', 'E'].contains c then
      let letters := c :: letters
      let escapes := letters.foldl
        (fun on c => if c = 'e' then true else if c = 'E' then false else on) escapes
      echoOptions (lineFeed && !letters.contains 'n') escapes rest
    else (lineFeed, escapes, ('-' :: c :: letters) :: rest)
  | lineFeed, escapes, arguments => (lineFeed, escapes, arguments)

/-- Writes arguments on a line. The plain kind of shells knows one option and always replaces escapes. -/
def echo : Action := fun _ arguments => do
  match (← shell).dialect with
  | .extended =>
    let (lineFeed, escapes, arguments) := echoOptions true false arguments
    output "echo" (Format.echoed escapes lineFeed arguments)
  | .plain =>
    match arguments with
    | ['-', 'n'] :: arguments => output "echo" (Format.echoed true false arguments)
    | arguments => output "echo" (Format.echoed true true arguments)

def printfUsage : Octets := "usage: printf format [arg ...]".toList

def printf : Action := fun _ arguments => do
  let arguments := if arguments.head? == some ['-', '-'] then arguments.drop 1 else arguments
  match arguments with
  | [] => wrong printfUsage
  | ('-' :: c :: _) :: _ => wrong ("Illegal option -".toList ++ [c])
  | format :: arguments =>
    let formatted := Format.write format arguments
    for complaint in formatted.complaints do
      report complaint
    discard (output "printf" formatted.text)
    return formatted.status

def probe (state : State) : Condition.Probe := fun operator text =>
  match state.look? text with
  | none => false
  | some (place, node) =>
    match operator, node with
    | "-d", .directory => true
    | "-f", .file _ | "-f", .program _ => true
    | "-s", .file content => !content.isEmpty
    | "-s", .directory | "-s", .program _ => true
    | "-x", .directory | "-x", .program _ => true
    | "-x", .file _ => state.machine.executables.contains place
    | "-c", .device _ => true
    | "-e", _ | "-r", _ | "-w", _ | "-O", _ | "-G", _ => true
    | _, _ => false

def test : Action := fun _ arguments => do
  match Condition.holds (probe (← get)) arguments with
  | .ok holds => return if holds then 0 else 1
  | .error message => wrong message

def bracket : Action := fun _ arguments => do
  if arguments.getLast? != some [']'] then wrong "missing ]".toList
  else
    match Condition.holds (probe (← get)) arguments.dropLast with
    | .ok holds => return if holds then 0 else 1
    | .error message => wrong message

def currentDirectory : Exec Octets := do return Octets.ofText (← shell).directory.text

def pwd : Action := fun _ _ => do output "pwd" ((← currentDirectory) ++ ['\n'])

def changeTo (text : Octets) (tell : Bool) : Exec Nat := do
  let machine ← machine
  let shell ← shell
  let found := if text.isEmpty then some shell.directory
    else machine.settle? (machine.locate shell.directory text)
  match found.filter machine.isDirectory with
  | none => wrong ("can't cd to ".toList ++ text)
  | some place =>
    let before := Octets.ofText shell.directory.text
    modifyShell fun shell => { shell with directory := place }
    for entry in [("OLDPWD", before), ("PWD", Octets.ofText place.text)] do
      let name := entry.1.toList
      modifyShell fun shell => (shell.setVariable name entry.2).exportVariable name
    if tell then output "cd" ((← currentDirectory) ++ ['\n']) else return 0

def cd : Action := fun _ arguments => do
  let arguments := arguments.filter fun text => text != ['-', 'P'] && text != ['-', 'L']
  let arguments := if arguments.head? == some ['-', '-'] then arguments.drop 1 else arguments
  let shell ← shell
  match arguments with
  | [] => changeTo ((shell.value? "HOME".toList).getD []) false
  | ['-'] :: _ =>
    changeTo ((shell.value? "OLDPWD".toList).getD (Octets.ofText shell.directory.text)) true
  | text :: _ => changeTo text false

end CiPipeline.Shell.Builtin
