import CiPipeline.Number.Reading
import CiPipeline.Shell.Builtin.Jobs
import CiPipeline.Shell.Lookup
import CiPipeline.Shell.Program.Options

/-! Programs that wait, that tell about the system, and that run other programs. -/
namespace CiPipeline.Shell.Program

open Exec Number

def duration? (text : Octets) : Option Time :=
  let (digits, factor) : Octets × Nat :=
    match text.reverse with
    | 's' :: rest => (rest.reverse, 1)
    | 'm' :: rest => (rest.reverse, 60)
    | 'h' :: rest => (rest.reverse, 3600)
    | 'd' :: rest => (rest.reverse, 86400)
    | _ => (text, 1)
  match readSigned? digits with
  | some (.finite false significand exponent) =>
    let ratio := Binary64.ratio significand exponent
    some (ratio.1 * factor * 1000000000 / ratio.2)
  | some (.infinite false) => some (Nat.pow 10 30)
  | _ => none

def sleep : Action := fun _ name arguments =>
  withOptions ⟨[], [], []⟩ name arguments 1 fun parsed => do
    if parsed.operands.isEmpty then missingOperand name
    else
      let bad := parsed.operands.filter fun text => (duration? text).isNone
      if bad.isEmpty then
        let total := (parsed.operands.filterMap duration?).foldl (· + ·) 0
        waitUntil ((← machine).now + total)
        return 0
      else
        for text in bad do
          complainAs name ("invalid time interval ".toList ++ quoteValue text)
        hint name
        return 1

def failedToRun : String := "failed to run command "

def runInPlace (engine : Engine) (name : Octets) (complaint : String) (words : List Octets) :
    Exec Nat := do
  match words with
  | [] => return 0
  | program :: _ =>
    match findProgram (← machine) (← shell) program with
    | .ok _ =>
      match ← engine.program words with
      | .status code => return code
      | .signal number => throw (.killed number)
    | .error reason =>
      let (message, status) : String × Nat :=
        if reason = .absent then (": No such file or directory", 127) else (": Permission denied", 126)
      complainAs name (complaint.toList ++ quoteValue program ++ message.toList)
      return status

def environmentText (shell : Interpreter) : Octets :=
  shell.environment.flatMap fun entry => entry.1 ++ '=' :: entry.2 ++ ['\n']

def splitBinding (text : Octets) : Octets × Octets :=
  let name := text.takeWhile (· != '=')
  (name, text.drop (name.length + 1))

def env : Action := fun engine name arguments => do
  let table : OptionTable :=
    ⟨['i', '0', 'v'], ['u', 'C', 'S'], [("ignore-environment", 'i'), ("unset", 'u'), ("chdir", 'C')]⟩
  let arguments := if arguments.head? == some ['-'] then ['-', 'i'] :: arguments.drop 1 else arguments
  match table.read false arguments with
  | .error message => misused name message 125
  | .ok parsed =>
    if parsed.has 'i' then modifyShell fun shell => { shell with scope := [] }
    for option in parsed.options do
      if option.1 = 'u' then modifyShell fun shell => shell.unsetVariable option.2
    let bindings := parsed.operands.takeWhile fun text => text.contains '='
    for text in bindings do
      let (key, value) := splitBinding text
      modifyShell fun shell => (shell.setVariable key value).exportVariable key
    match parsed.operands.drop bindings.length with
    | [] =>
      say (environmentText (← shell))
      return 0
    | words => runInPlace engine name "" words

def printenv : Action := fun _ name arguments =>
  withOptions ⟨['0'], [], []⟩ name arguments 2 fun parsed => do
    if parsed.operands.isEmpty then
      say (environmentText (← shell))
      return 0
    else
      let mut status := 0
      for operand in parsed.operands do
        match (← shell).environment.lookup operand with
        | some value => say (value ++ ['\n'])
        | none => status := 1
      return status

/-- Programs that change what is of no matter here and then run another program. -/
def passOn (flags valued : Octets) : Action := fun engine name arguments => do
  let table : OptionTable := ⟨flags, valued, []⟩
  match table.read false arguments with
  | .error message => misused name message 125
  | .ok parsed => runInPlace engine name "" parsed.operands

def timeout : Action := fun engine name arguments => do
  let table : OptionTable :=
    ⟨['v'], ['s', 'k'], [("signal", 's'), ("kill-after", 'k'), ("preserve-status", 'v')]⟩
  match table.read false arguments with
  | .error message => misused name message 125
  | .ok parsed =>
    match parsed.operands with
    | [] | [_] => misused name "missing operand".toList 125
    | text :: words =>
      match duration? text with
      | none => misused name ("invalid time interval ".toList ++ quoteValue text) 125
      | some span =>
        let before ← machine
        let limit := before.now + span
        let sooner := match before.deadline with
          | some deadline => decide (limit < deadline)
          | none => true
        if span = 0 || !sooner then runInPlace engine name failedToRun words
        else
          modifyMachine fun machine => { machine with deadline := some limit }
          let restore : Exec Unit :=
            modifyMachine fun machine => { machine with deadline := before.deadline }
          let status ← tryCatch (do return some (← runInPlace engine name failedToRun words))
            (fun halt =>
              match halt with
              | .stuck => return none
              | halt => do restore; throw halt)
          restore
          return status.getD 124

def id : Action := fun _ _ arguments => do
  match arguments with
  | [['-', 'u']] | [['-', 'g']] => say "0\n".toList
  | [['-', 'u', 'n']] | [['-', 'n', 'u']] => say "root\n".toList
  | _ => say "uid=0(root) gid=0(root) groups=0(root)\n".toList
  return 0

def uname : Action := fun _ _ arguments => do
  match arguments with
  | [['-', 'm']] => say "x86_64\n".toList
  | _ => say "Linux\n".toList
  return 0

def whoami : Action := fun _ _ _ => do
  say "root\n".toList
  return 0

def tty : Action := fun _ _ _ => do
  say "not a tty\n".toList
  return 1

def blankWords (text : Octets) : List Octets :=
  (split Interpreter.standardSeparators (text.map Glyph.given)).map markedText

def inGroups {α : Type} (size : Nat) : Nat → List α → List (List α)
  | 0, _ => []
  | _, [] => []
  | bound + 1, items => items.take size :: inGroups size bound (items.drop size)

def xargs : Action := fun engine name arguments => do
  let table : OptionTable := ⟨['r', 't', '0'], ['n', 'I', 'P', 'd'], []⟩
  match table.read false arguments with
  | .error message => misused name message 1
  | .ok parsed =>
    let input := (← readAll? 0).getD []
    let words := if parsed.operands.isEmpty then ["echo".toList] else parsed.operands
    let runs : List (List Octets) :=
      match parsed.value? 'I' with
      | some mark =>
        ((Octets.lines input).map fun line => line.filter (· != '\n')).map fun line =>
          words.map fun word => if word = mark then line else word
      | none =>
        let given := blankWords input
        match (parsed.value? 'n').bind Octets.toNat? with
        | some size => (inGroups (max 1 size) given.length given).map (words ++ ·)
        | none => if given.isEmpty && parsed.has 'r' then [] else [words ++ given]
    let mut status := 0
    for run in runs do
      match ← engine.program run with
      | .status 0 => pure ()
      | .status 127 => status := 127
      | .status _ | .signal _ => status := 123
    return status

end CiPipeline.Shell.Program
