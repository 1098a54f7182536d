import CiPipeline.Shell.Builtin.Control
import CiPipeline.Shell.Program.Table

/-! Carrying out commands. One layer carries out a command with the help of the layer below it, so that
there is a bound to how deep commands are nested; what goes beyond it counts as never ending. -/
namespace CiPipeline.Shell

open Files Exec

namespace Evaluation

def builtins : List (String × Builtin.Action) := [
  (".", Builtin.source), (":", Builtin.succeed), ("[", Builtin.bracket), ("break", Builtin.breakAction),
  ("cd", Builtin.cd), ("chdir", Builtin.cd), ("continue", Builtin.continueAction),
  ("echo", Builtin.echo), ("eval", Builtin.eval), ("exec", Builtin.execAction), ("exit", Builtin.exit),
  ("export", Builtin.exportAction), ("false", Builtin.refuse),
  ("fg", Builtin.moveJob), ("bg", Builtin.moveJob), ("hash", Builtin.hash),
  ("jobs", Builtin.succeed), ("kill", Builtin.kill), ("local", Builtin.localAction),
  ("printf", Builtin.printf), ("pwd", Builtin.pwd), ("read", Builtin.readAction),
  ("readonly", Builtin.readonlyAction), ("return", Builtin.returnAction), ("set", Builtin.setAction),
  ("shift", Builtin.shift), ("test", Builtin.test), ("times", Builtin.times), ("trap", Builtin.trap),
  ("true", Builtin.succeed), ("ulimit", Builtin.ulimit), ("umask", Builtin.umask),
  ("unset", Builtin.unsetAction), ("wait", Builtin.wait)]

def extraBuiltins : List (String × Builtin.Action) := [("source", Builtin.source)]

def builtin? (dialect : Dialect) (name : Octets) : Option Builtin.Action :=
  let name := String.ofList name
  match builtins.lookup name with
  | some action => some action
  | none => if dialect = .extended then extraBuiltins.lookup name else none

/-- Commands that tell what others are, and so are carried out apart from the others. -/
def tellingCommands : List String := ["command", "type"]

def isBuiltin (dialect : Dialect) (name : Octets) : Bool :=
  (builtin? dialect name).isSome || tellingCommands.contains (String.ofList name)

def describe (inWords : Bool) (name : Octets) : Exec (Option Octets) := do
  let shell ← shell
  let text := String.ofList name
  let tell (kind : String) (plain : Octets) : Option Octets :=
    some (if inWords then name ++ kind.toList else plain)
  if reservedWords.contains text then return tell " is a shell keyword" name
  else if (shell.functions.lookup name).isSome then return tell " is a shell function" name
  else if specialCommands.contains text && shell.dialect = .plain then
    return tell " is a special shell builtin" name
  else if isBuiltin shell.dialect name then return tell " is a shell builtin" name
  else
    match findProgram (← machine) shell name with
    | .ok (path, _) =>
      let known := shell.remembered.contains name
      let words : String :=
        match shell.dialect with
        | .plain => if known then " is a tracked alias for " else " is "
        | .extended => if known then " is hashed (" else " is "
      let closing := if known && shell.dialect = .extended then [')'] else []
      return some (if inWords then name ++ words.toList ++ path ++ closing else path)
    | .error _ => return none

def describeAll (inWords tellMissing : Bool) : List Octets → Exec Nat
  | [] => return 0
  | name :: rest => do
    let found ← describe inWords name
    match found with
    | some text => say (text ++ ['\n'])
    | none => if tellMissing then say (name ++ ": not found\n".toList)
    let status ← describeAll inWords tellMissing rest
    return if found.isSome then status else 127

def withVariables {α : Type} (names : List Octets) (body : Exec α) : Exec α := do
  let before := (← shell).scope
  let restore : Exec Unit := modifyShell fun shell =>
    names.foldl (fun shell name =>
      match before.lookup name with
      | some old => shell.putVariable name old
      | none => shell.unsetVariable name) shell
  let value ← tryCatch body (fun halt => do restore; throw halt)
  restore
  return value

def leaveFunction (arguments : List Octets) (calls : Nat) : Exec Unit := modifyShell fun shell =>
  let kept := shell.locals.head?.getD []
  let shell := kept.foldl (fun shell entry =>
    match entry.2 with
    | some old => shell.putVariable entry.1 old
    | none => shell.unsetVariable entry.1) shell
  { shell with arguments := arguments, calls := calls, locals := shell.locals.drop 1 }

def deepestCall : Nat := 1000

def callFunction (engine : Engine) (tested : Bool) (body : Command) (arguments : List Octets) :
    Exec Nat := do
  let before ← shell
  if deepestCall ≤ before.calls && before.dialect = .plain then
    fail ("Maximum function recursion depth (".toList ++ Octets.ofNat deepestCall ++
      ") reached".toList)
  modifyShell fun shell => { shell with
    arguments := arguments
    calls := shell.calls + 1
    locals := [] :: shell.locals }
  let halted ← halting (engine.command tested body)
  leaveFunction before.arguments before.calls
  match halted with
  | none | some .returned => return (← shell).status
  | some halt => throw halt

def interpreterOf (content : Octets) : List Octets :=
  match content with
  | '#' :: '!' :: rest =>
    let line := (rest.takeWhile (· != '\n')).dropWhile (· == ' ')
    let program := line.takeWhile (· != ' ')
    let argument := (line.drop program.length).dropWhile (· == ' ')
    if program.isEmpty then ["/bin/sh".toList]
    else if argument.isEmpty then [program] else [program, argument]
  | _ => ["/bin/sh".toList]

def freshShell (dialect : Dialect) (name : Octets) (before : Interpreter) : Interpreter :=
  let exported := before.scope.filter (·.2.isExported)
  let plain (name value : String) : Octets × Variable :=
    (name.toList, ⟨some value.toList, false, false⟩)
  let above := if before.own = before.process then before.process - 1 else before.process
  let search := if exported.any (·.1 = "PATH".toList) then []
    else [("PATH".toList, (⟨some standardSearch, false, false⟩ : Variable))]
  let own := [plain "IFS" " \t\n", plain "OPTIND" "1"] ++ search ++
    [("PPID".toList, ⟨some (Octets.ofNat above), false, false⟩), plain "PS1" "# ", plain "PS2" "> ",
      plain "PS4" "+ "] ++
    (if dialect = .extended then [plain "BASH_VERSION" "5.2.21(1)-release", plain "BASH" "/bin/bash"]
      else [])
  let kept := exported.filter fun entry => !(own.map (·.1)).contains entry.1
  let directory := Octets.ofText before.directory.text
  { before with
    dialect := dialect
    name := name
    arguments := []
    scope := ("PWD".toList, ⟨some directory, true, false⟩) ::
      (own ++ kept.filter (·.1 != "PWD".toList))
    functions := []
    documents := []
    nextDocument := 0
    options := ⟨false, false, false, false, false, false, false, false⟩
    traps := before.traps.filter (·.2.isEmpty)
    status := 0
    line := 0
    process := before.own
    lastJob := none
    loops := 0
    calls := 0
    locals := []
    substituted := none
    remembered := []
    inside := none }

def refuseText (refusal : Refusal) : Exec Unit := do
  modifyShell fun shell => { shell with line := refusal.line }
  fail refusal.message.toList

def runLines (engine : Engine) : Nat → Reader → Exec Unit
  | 0, _ => return
  | bound + 1, reader => do
    match Parse.line.run reader with
    | .error refusal => refuseText refusal
    | .ok (none, _) => return
    | .ok (some command, reader) =>
      modifyShell fun shell => { shell with
        documents := reader.documents ++ shell.documents
        nextDocument := reader.nextDocument }
      if !(← shell).options.noCommands then engine.command false command
      runLines engine bound { reader with documents := [] }

def runText (engine : Engine) (text : Octets) : Exec Unit := do
  runLines engine (text.length + 1) (.start text (← shell).nextDocument)

structure Invocation where
  options : Options
  isCommand : Bool
  operands : List Octets

def readInvocation (dialect : Dialect) : Nat → Options → Bool → List Octets →
    Except Octets Invocation
  | 0, options, isCommand, operands => .ok ⟨options, isCommand, operands⟩
  | _, options, isCommand, [] => .ok ⟨options, isCommand, []⟩
  | bound + 1, options, isCommand, argument :: rest =>
    match argument with
    | ['-', '-'] | ['-'] => .ok ⟨options, isCommand, rest⟩
    | sign :: letters =>
      if (sign != '-' && sign != '+') || letters.isEmpty then
        .ok ⟨options, isCommand, argument :: rest⟩
      else if letters.head? == some '-' then
        if dialect = .extended then readInvocation dialect bound options isCommand rest
        else .error "Illegal option --".toList
      else
        let on := sign = '-'
        let others := letters.filter fun c => c != 'c' && c != 'o'
        let isCommand := isCommand || letters.contains 'c'
        match others.foldlM (fun options c => Builtin.switchLetter options on c) options with
        | none =>
          let bad := others.find? fun c => (Builtin.switchLetter options on c).isNone
          .error ("Illegal option ".toList ++ Builtin.signOf on ++ bad.toList)
        | some options =>
          if letters.contains 'o' then
            match rest with
            | [] => .ok ⟨options, isCommand, []⟩
            | name :: rest =>
              match Builtin.switchName dialect options on (String.ofList name) with
              | some options => readInvocation dialect bound options isCommand rest
              | none => .error ("Illegal option ".toList ++ Builtin.signOf on ++ "o ".toList ++ name)
          else readInvocation dialect bound options isCommand rest
    | [] => .ok ⟨options, isCommand, argument :: rest⟩

def runShell (engine : Engine) (invocation : Invocation) (name : Octets) (arguments : List Octets)
    (text : Octets) : Exec Nat := do
  modifyShell fun shell => { shell with
    name := name, arguments := arguments, options := invocation.options }
  toTheEnd engine (runText engine text)
  return (← shell).status

def shellProgram (dialect : Dialect) : Program.Action := fun engine name arguments => do
  modifyShell (freshShell dialect name)
  let refuse (message : Octets) : Exec Nat := do
    report message
    return 2
  match readInvocation dialect (arguments.length + 1) (← shell).options false arguments with
  | .error message => refuse message
  | .ok invocation =>
    match invocation.isCommand, invocation.operands with
    | true, [] =>
      if dialect = .extended then
        complain (name ++ ": -c: option requires an argument\n".toList)
        return 2
      else refuse "-c requires an argument".toList
    | true, text :: rest =>
      runShell engine invocation (rest.head?.getD name) (rest.drop 1) text
    | false, [] => runShell engine invocation name [] ((← readAll? 0).getD [])
    | false, file :: rest =>
      match (← get).look? file with
      | some (_, .file content) => runShell engine invocation file rest content
      | some (_, .device _) => runShell engine invocation file rest []
      | _ =>
        if dialect = .extended then
          complain (name ++ ": ".toList ++ file ++ ": No such file or directory\n".toList)
          return 127
        else refuse ("cannot open ".toList ++ file ++ ": No such file".toList)

def programAction? (name : String) : Option Program.Action :=
  match Program.shells.lookup name with
  | some dialect => some (shellProgram dialect)
  | none => Program.table.lookup name

def runInstalled (engine : Engine) (program : String) (name : Octets) (arguments : List Octets) :
    Exec Nat := do
  match programAction? program with
  | some action => action engine name arguments
  | none => return 0

def tellUnusable (name : Octets) (reason : Unusable) : Exec Nat := do
  let state ← get
  let message : String :=
    match state.shell.dialect, reason with
    | .plain, .absent => ": not found"
    | .plain, .forbidden => ": Permission denied"
    | .extended, .absent =>
      if name.contains '/' then ": No such file or directory" else ": command not found"
    | .extended, .forbidden =>
      match state.look? name with
      | some (_, .directory) => ": Is a directory"
      | _ => ": Permission denied"
  report (name ++ message.toList)
  return if reason = .absent then 127 else 126

def runWords (engine : Engine) (words : List Octets) : Exec Ended := do
  match words with
  | [] => return .status 0
  | name :: arguments =>
    match findProgram (← machine) (← shell) name with
    | .error reason => return .status (← tellUnusable name reason)
    | .ok (text, .written _ content) =>
      engine.program (interpreterOf content ++ text :: arguments)
    | .ok (_, .installed program) =>
      process (do setStatus (← runInstalled engine program name arguments))

def checkFailure (tested : Bool) : Exec Unit := do
  let shell ← shell
  if shell.options.exitOnError && !tested && shell.status != 0 then throw .exited

def declaringCommands : List String := ["export", "readonly", "local"]

def commandFields (engine : Engine) (words : List Word) : Exec (List Octets) := do
  let capture := capture engine
  match words with
  | [] => return []
  | first :: rest =>
    let declares := (Word.plainText? first).any fun text =>
      declaringCommands.contains (String.ofList text)
    if declares then
      let mut texts := [(Word.plainText? first).getD []]
      for word in rest do
        match Parse.assignment? word with
        | some (name, value) =>
          texts := texts ++ [name ++ '=' :: (← textOf capture .path value)]
        | none => texts := texts ++ (← fields capture [word])
      return texts
    else fields capture words

def assign (engine : Engine) : List (Octets × Word) → Exec (List (Octets × Octets))
  | [] => return []
  | (name, value) :: rest => do
    let text ← textOf (capture engine) .path value
    if (← shell).isReadOnly name then fail (name ++ ": is read only".toList)
    modifyShell fun shell => shell.setVariable name text
    return (name, text) :: (← assign engine rest)

def trace (assignments : List (Octets × Octets)) (words : List Octets) : Exec Unit := do
  let shell ← shell
  if shell.options.trace then
    let texts := (assignments.map fun entry => entry.1 ++ '=' :: entry.2) ++ words
    complain ((shell.value? "PS4".toList).getD [] ++ [' '].intercalate texts ++ ['\n'])

def knownOptions : List (String × String) := [
  (".", ""), ("cd", "LP"), ("chdir", "LP"), ("export", "p"), ("hash", "rv"), ("jobs", "lp"),
  ("local", ""), ("pwd", "LP"), ("readonly", "p"), ("trap", ""), ("umask", "S"), ("unset", "vf"),
  ("wait", "")]

/-- Carries out a command of the shell, which messages name while it lasts. An error in it breaks off no
more than the command itself, unless the command is special. -/
def carryOutBuiltin (engine : Engine) (isSpecial : Bool) (name : Octets) (action : Builtin.Action)
    (arguments : List Octets) : Exec Nat := do
  let before ← shell
  let restore : Exec Unit := modifyShell fun shell => { shell with inside := before.inside }
  modifyShell fun shell => { shell with inside := some name }
  let body : Exec Nat := do
    match knownOptions.lookup (String.ofList name) with
    | some known =>
      if before.dialect = .plain then Builtin.refuseOptions known.toList arguments
    | none => pure ()
    action engine arguments
  let status ← tryCatch body (fun halt => do
    restore
    match halt with
    | .broken =>
      if isSpecial && before.dialect = .plain then throw .broken else return (← shell).status
    | halt => throw halt)
  restore
  return status

def passedOn (arguments : List Octets) : List Octets :=
  arguments.dropWhile fun text => text = ['-', 'p'] || text = ['-', '-']

def carryOut (engine : Engine) (isSpecial : Bool) (words : List Octets) : Exec Nat := do
  match words with
  | [] => return 0
  | name :: arguments =>
    match builtin? (← shell).dialect name with
    | some action => carryOutBuiltin engine isSpecial name action arguments
    | none =>
      if name = "type".toList then describeAll true true arguments
      else
        if (findProgram (← machine) (← shell) name).isOk && !name.contains '/' then
          modifyShell fun shell => { shell with remembered := name :: shell.remembered }
        statusOf (← engine.program words)

/-- The names that `command` tells of: the plain kind of shells looks at the first one only. -/
def namesAskedFor (dialect : Dialect) (names : List Octets) : List Octets :=
  if dialect = .plain then names.take 1 else names

def carryOutPassed (engine : Engine) (arguments : List Octets) : Exec Nat := do
  match passedOn arguments with
  | ['-', 'v'] :: names => describeAll false false (namesAskedFor (← shell).dialect names)
  | ['-', 'V'] :: names => describeAll true true (namesAskedFor (← shell).dialect names)
  | words => carryOut engine false words

def named (engine : Engine) (tested : Bool) (words : List Octets) : Exec Nat := do
  match words with
  | [] => return 0
  | name :: arguments =>
    let shell ← shell
    let special := specialCommands.contains (String.ofList name)
    match (if special then none else shell.functions.lookup name) with
    | some body => callFunction engine tested body arguments
    | none =>
      if name = "command".toList then carryOutPassed engine arguments
      else carryOut engine special words

/-- Refuses a redirection, which a special command does not survive. -/
def refuseRedirection (reason : Octets) (isSpecial : Bool) : Exec Unit := do
  report reason
  setStatus 2
  if isSpecial then throw .exited

def simple (engine : Engine) (tested : Bool) (line : Nat) (assignments : List (Octets × Word))
    (words : List Word) (redirections : List Redirection) : Exec Unit := do
  modifyShell fun shell => { shell with line := line, substituted := none }
  let words ← commandFields engine words
  let isSpecial := (words.head?).any fun name => specialCommands.contains (String.ofList name)
  let body : Exec Unit := do
    match ← redirectAll engine redirections with
    | some reason => refuseRedirection reason isSpecial
    | none =>
      if words.isEmpty || isSpecial then
        trace (← assign engine assignments) words
        if words.isEmpty then setStatus ((← shell).substituted.getD 0)
        else setStatus (← named engine tested words)
      else
        let names := assignments.map (·.1)
        setStatus (← withVariables names do
          trace (← assign engine assignments) words
          modifyShell fun shell => names.foldl Interpreter.exportVariable shell
          named engine tested words)
  if words == ["exec".toList] then body else withDescriptors body
  checkFailure tested

def iteration (body : Exec Unit) : Exec Bool := do
  match ← halting body with
  | none | some (.again 1) | some (.again 0) => return true
  | some (.leave 1) | some (.leave 0) => return false
  | some (.again levels) => throw (.again (levels - 1))
  | some (.leave levels) => throw (.leave (levels - 1))
  | some halt => throw halt

def repeatLoop (engine : Engine) (tested untilTrue : Bool) (condition body : Command) :
    Nat → Nat → Exec Unit
  | 0, _ => throw .stuck
  | bound + 1, status => do
    let mut goesOn := false
    let mut again := false
    match ← halting (engine.command true condition) with
    | none => goesOn := ((← shell).status = 0) != untilTrue
    | some halt => again ← iteration (throw halt)
    if goesOn then
      if ← iteration (engine.command tested body) then
        repeatLoop engine tested untilTrue condition body bound (← shell).status
    else if again then repeatLoop engine tested untilTrue condition body bound status
    else setStatus status

/-- How often a loop is carried out before it counts as never ending. -/
def loopBound : Nat := 100000

def insideLoop (body : Exec Unit) : Exec Unit := do
  modifyShell fun shell => { shell with loops := shell.loops + 1 }
  let halted ← halting body
  modifyShell fun shell => { shell with loops := shell.loops - 1 }
  match halted with
  | none => return
  | some halt => throw halt

def forEach (engine : Engine) (tested : Bool) (name : Octets) (body : Command) :
    List Octets → Exec Unit
  | [] => return
  | value :: rest => do
    if (← shell).isReadOnly name then fail (name ++ ": is read only".toList)
    modifyShell fun shell => shell.setVariable name value
    if ← iteration (engine.command tested body) then forEach engine tested name body rest

def branchMatches (engine : Engine) (subject : Octets) : List Word → Exec Bool
  | [] => return false
  | word :: rest => do
    if Pattern.accepts (← patternOf (capture engine) word) subject then return true
    else branchMatches engine subject rest

def select (engine : Engine) (tested : Bool) (subject : Octets) :
    List (List Word × Command) → Exec Unit
  | [] => setStatus 0
  | (patterns, body) :: rest => do
    if ← branchMatches engine subject patterns then
      match body with
      | .nothing => setStatus 0
      | body => engine.command tested body
    else select engine tested subject rest

/-- Carries out the stages of a pipeline from the same moment on, each with the output of the one before
as its input. -/
def stages (engine : Engine) (started : Time) :
    Option Nat → List Command → Exec (List Nat × Time × Bool)
  | _, [] => return ([], started, false)
  | input, stage :: rest => do
    modifyMachine fun machine => { machine with now := started }
    let output ←
      if rest.isEmpty then pure none
      else do
        let (stream, machine) := (← machine).addStream (.pipe [] 0)
        modifyMachine fun _ => machine
        pure (some stream)
    let body : Exec Unit := do
      modifyShell fun shell =>
        let shell := (input.map fun stream => shell.setDescriptor 0 stream).getD shell
        (output.map fun stream => shell.setDescriptor 1 stream).getD shell
      engine.command false stage
    let ended ← tryCatch (do return some (← subshell engine body))
      (fun halt =>
        match halt with
        | .stuck => return none
        | halt => throw halt)
    let status ← match ended with
      | some ended => statusOf ended
      | none => pure 0
    let now := (← machine).now
    match output with
    | some stream => modifyMachine fun machine =>
        match machine.stream stream with
        | .pipe content _ => machine.setStream stream (.pipe content now)
        | _ => machine
    | none => pure ()
    let (statuses, latest, stuck) ← stages engine started output rest
    return (status :: statuses, max now latest, stuck || ended.isNone)

def pipeline (engine : Engine) (commands : List Command) : Exec Unit := do
  let started := (← machine).now
  let (statuses, latest, stuck) ← stages engine started none commands
  modifyMachine fun machine => { machine with now := max machine.now latest }
  if stuck then throw .stuck
  let failures := statuses.filter (· != 0)
  let failed := if (← shell).options.pipefail then failures.getLast? else none
  setStatus (failed.getD (statuses.getLastD 0))

/-- Carries a command out in the background: at once, but with a clock of its own. -/
def background (engine : Engine) (body : Command) : Exec Unit := do
  let before ← machine
  let number := before.nextProcess
  modifyMachine fun machine => { machine with written := [], now := machine.now + 1 }
  let (input, machine) := (← machine).addStream .nowhere
  modifyMachine fun _ => machine
  let ended ← tryCatch (do
      return some (← subshell engine do
        modifyShell fun shell => shell.setDescriptor 0 input
        engine.command false body))
    (fun halt =>
      match halt with
      | .stuck => return none
      | halt => throw halt)
  let after ← Exec.machine
  let status := match ended with
    | some (.status code) => code
    | some (.signal signal) => Signal.status signal
    | none => 0
  let job : BackgroundJob :=
    ⟨number, before.now, ended.map fun _ => after.now + 1, status, after.written⟩
  modifyMachine fun machine => { machine with
    written := before.written, now := before.now, jobs := machine.jobs ++ [job] }
  modifyShell fun shell => { shell with lastJob := some number, status := 0 }

def evaluate (engine : Engine) (tested : Bool) (command : Command) : Exec Unit := do
  match command with
  | .nothing => return
  | .simple line assignments words redirections =>
    simple engine tested line assignments words redirections
  | .pipeline commands =>
    pipeline engine commands
    checkFailure tested
  | .negated body =>
    engine.command true body
    setStatus (if (← shell).status = 0 then 1 else 0)
  | .both first second =>
    engine.command true first
    if (← shell).status = 0 then engine.command tested second
  | .either first second =>
    engine.command true first
    if (← shell).status != 0 then engine.command tested second
  | .sequence first second =>
    (first.inOrder (second.inOrder [])).forM (engine.command tested)
  | .background body => background engine body
  | .subshell body =>
    setStatus (← statusOf (← subshell engine (engine.command tested body)))
    checkFailure tested
  | .redirected line body redirections =>
    modifyShell fun shell => { shell with line := line }
    withDescriptors do
      match ← redirectAll engine redirections with
      | some reason => refuseRedirection reason false
      | none => engine.command tested body
  | .choice condition yes no =>
    engine.command true condition
    if (← shell).status = 0 then engine.command tested yes
    else
      setStatus 0
      engine.command tested no
  | .loop untilTrue condition body =>
    insideLoop (repeatLoop engine tested untilTrue condition body loopBound 0)
  | .forEach name values body =>
    let texts ← fields (capture engine) values
    setStatus 0
    insideLoop (forEach engine tested name body texts)
  | .select subject branches =>
    select engine tested (← textOf (capture engine) .front subject) branches
  | .define name body =>
    modifyShell fun shell => { shell with
      functions := (name, body) :: shell.functions.filter (·.1 != name) }
    setStatus 0

def engine : Nat → Engine
  | 0 => ⟨fun _ _ => throw .stuck, fun _ => throw .stuck, fun _ => throw .stuck⟩
  | depth + 1 =>
    { command := fun tested command => evaluate (engine depth) tested command
      program := fun words => runWords (engine depth) words
      script := fun text => runText (engine depth) text }

end Evaluation

end CiPipeline.Shell
