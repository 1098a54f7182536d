import CiPipeline.Shell.Builtin.Basic

/-! Commands on variables and on the options of a shell. -/
namespace CiPipeline.Shell.Builtin

open Exec

def quoted (text : Octets) : Octets :=
  let parts := text.splitOn '\''
  let pieces := parts.map fun part => '\'' :: part ++ ['\'']
  match pieces with
  | [one] => one
  | pieces => ("\"'\"".toList).intercalate pieces

def binding (argument : Octets) : Octets × Option Octets :=
  let name := argument.takeWhile (· != '=')
  (name, match argument.drop name.length with
    | _ :: value => some value
    | [] => none)

def sortedVariables (shell : Interpreter) : List (Octets × Variable) :=
  shell.scope.mergeSort fun a b => !(b.1 < a.1)

def listing (verb : String) (entries : List (Octets × Variable)) : Octets :=
  entries.flatMap fun entry =>
    verb.toList ++ entry.1 ++
      (match entry.2.value with
      | some value => '=' :: quoted value
      | none => []) ++ ['\n']

def bindAll (change : Interpreter → Octets → Interpreter) (arguments : List Octets) :
    Exec Nat := do
  for argument in arguments do
    let (name, value) := binding argument
    if !isName name then fail (name ++ ": bad variable name".toList)
    if value.isSome && (← shell).isReadOnly name then fail (name ++ ": is read only".toList)
    match value with
    | some value => modifyShell fun shell => shell.setVariable name value
    | none => pure ()
    modifyShell fun shell => change shell name
  return 0

def exportAction : Action := fun _ arguments => do
  let arguments := arguments.filter fun text => text != ['-', 'p'] && text != ['-', '-']
  if arguments.isEmpty then
    output "export" (listing "export " ((sortedVariables (← shell)).filter (·.2.isExported)))
  else bindAll Interpreter.exportVariable arguments

def makeReadOnly (shell : Interpreter) (name : Octets) : Interpreter :=
  match shell.scope.lookup name with
  | some entry => shell.putVariable name { entry with isReadOnly := true }
  | none => shell.putVariable name ⟨none, false, true⟩

def readonlyAction : Action := fun _ arguments => do
  let arguments := arguments.filter fun text => text != ['-', 'p'] && text != ['-', '-']
  if arguments.isEmpty then
    output "readonly" (listing "readonly " ((sortedVariables (← shell)).filter (·.2.isReadOnly)))
  else bindAll makeReadOnly arguments

def keepLocal (name : Octets) : Exec Unit := modifyShell fun shell =>
  match shell.locals with
  | [] => shell
  | kept :: others =>
    if kept.any (·.1 == name) then shell
    else { shell with locals := ((name, shell.scope.lookup name) :: kept) :: others }

def localAction : Action := fun _ arguments => do
  if (← shell).locals.isEmpty then fail "not in a function".toList
  for argument in arguments do
    let (name, value) := binding argument
    if !isName name then fail (name ++ ": bad variable name".toList)
    if value.isSome && (← shell).isReadOnly name then fail (name ++ ": is read only".toList)
    keepLocal name
    match value with
    | some value => modifyShell fun shell => shell.setVariable name value
    | none => pure ()
  return 0

def unsetAction : Action := fun _ arguments => do
  let functions := arguments.head? == some ['-', 'f']
  let names := arguments.filter fun text => text != ['-', 'f'] && text != ['-', 'v']
  for name in names do
    if functions then
      modifyShell fun shell => { shell with functions := shell.functions.filter (·.1 != name) }
    else
      if !isName name then fail (name ++ ": bad variable name".toList)
      if (← shell).isReadOnly name then fail (name ++ ": is read only".toList)
      modifyShell fun shell => shell.unsetVariable name
  return 0

def switchLetter (options : Options) (on : Bool) (letter : Char) : Option Options :=
  match letter with
  | 'e' => some { options with exitOnError := on }
  | 'u' => some { options with failOnUnset := on }
  | 'x' => some { options with trace := on }
  | 'f' => some { options with noPatterns := on }
  | 'a' => some { options with exportAll := on }
  | 'n' => some { options with noCommands := on }
  | 'v' => some { options with echoInput := on }
  | 'm' | 'b' | 'C' | 'I' | 'i' | 's' | 'V' | 'E' | 'h' | 'l' => some options
  | _ => none

def optionNames : List (String × Char) :=
  [("errexit", 'e'), ("nounset", 'u'), ("xtrace", 'x'), ("noglob", 'f'), ("allexport", 'a'),
    ("noexec", 'n'), ("verbose", 'v'), ("monitor", 'm'), ("notify", 'b'), ("noclobber", 'C'),
    ("ignoreeof", 'I'), ("interactive", 'i'), ("stdin", 's'), ("vi", 'V'), ("emacs", 'E')]

def switchName (dialect : Dialect) (options : Options) (on : Bool) (name : String) :
    Option Options :=
  if name = "pipefail" && dialect = .extended then some { options with pipefail := on }
  else
    match optionNames.lookup name with
    | some letter => switchLetter options on letter
    | none => none

def signOf (on : Bool) : Octets := if on then ['-'] else ['+']

def switchOptions (dialect : Dialect) :
    Nat → Options → List Octets → Except Octets (Options × Option (List Octets))
  | 0, options, _ => .ok (options, none)
  | _, options, [] => .ok (options, none)
  | bound + 1, options, argument :: rest =>
    match argument with
    | ['-', '-'] => .ok (options, some rest)
    | ['-'] | ['+'] => .ok (options, if rest.isEmpty then none else some rest)
    | sign :: letters =>
      if sign != '-' && sign != '+' then .ok (options, some (argument :: rest))
      else
        let on := sign = '-'
        if letters = ['o'] then
          match rest with
          | [] => .ok (options, none)
          | name :: rest =>
            match switchName dialect options on (String.ofList name) with
            | some options => switchOptions dialect bound options rest
            | none => .error ("Illegal option ".toList ++ signOf on ++ "o ".toList ++ name)
        else
          let switched := letters.foldlM (fun options c => switchLetter options on c) options
          match switched with
          | some options => switchOptions dialect bound options rest
          | none =>
            let bad := letters.find? fun c => (switchLetter options on c).isNone
            .error ("Illegal option ".toList ++ signOf on ++ bad.toList)
    | [] => .ok (options, some (argument :: rest))

def setAction : Action := fun _ arguments => do
  let shell ← shell
  if arguments.isEmpty then
    output "set" (listing "" ((sortedVariables shell).filter (·.2.value.isSome)))
  else
    match switchOptions shell.dialect (arguments.length + 1) shell.options arguments with
    | .error message => fail message
    | .ok (options, positional) =>
      modifyShell fun shell => { shell with
        options := options
        arguments := positional.getD shell.arguments }
      return 0

def shift : Action := fun _ arguments => do
  let shell ← shell
  match arguments.head?.map Octets.toNat? with
  | some none => fail ("Illegal number: ".toList ++ arguments.head?.getD [])
  | count =>
    let count := (count.getD (some 1)).getD 1
    if shell.arguments.length < count then fail "can't shift that many".toList
    modifyShell fun shell => { shell with arguments := shell.arguments.drop count }
    return 0

/-- A line whose backslashes take the meaning from the next character; one at its end joins the next
line to it. -/
def escapedLine : Nat → Exec (List Marked × Bool)
  | 0 => return ([], false)
  | bound + 1 => do
    let line := (← readLine? 0).getD []
    let complete := line.getLast? == some '\n'
    let text := if complete then line.dropLast else line
    let (marks, isOpen) := go text
    if isOpen && complete then
      let (others, complete) ← escapedLine bound
      return (marks ++ others, complete)
    else return (marks, complete)
where
  go : Octets → List Marked × Bool
    | [] => ([], false)
    | ['\\'] => ([], true)
    | '\\' :: c :: rest =>
      let (marks, isOpen) := go rest
      (⟨c, true⟩ :: marks, isOpen)
    | c :: rest =>
      let (marks, isOpen) := go rest
      (⟨c, false⟩ :: marks, isOpen)

def rawLine : Exec (List Marked × Bool) := do
  let line := (← readLine? 0).getD []
  let complete := line.getLast? == some '\n'
  let text := if complete then line.dropLast else line
  return (text.map fun c => ⟨c, false⟩, complete)

def isSeparator (separators : Octets) (marked : Marked) : Bool :=
  !marked.isLiteral && separators.contains marked.char

def isBlankMark (separators : Octets) (marked : Marked) : Bool :=
  isSeparator separators marked && isBlankSeparator marked.char

def dropBlanks (separators : Octets) (line : List Marked) : List Marked :=
  line.dropWhile (isBlankMark separators)

def firstField (separators : Octets) (line : List Marked) : Octets × List Marked :=
  let field := line.takeWhile fun marked => !isSeparator separators marked
  let rest := dropBlanks separators (line.drop field.length)
  let border := line.drop field.length
  match border with
  | marked :: _ =>
    if isBlankMark separators marked then
      match rest with
      | next :: others =>
        if isSeparator separators next then (markedText field, dropBlanks separators others)
        else (markedText field, rest)
      | [] => (markedText field, [])
    else (markedText field, dropBlanks separators (border.drop 1))
  | [] => (markedText field, [])

/-- Pairs variables with the fields of a line; the last one takes all that is left. -/
def assignFields (separators : Octets) : List Octets → List Marked → List (Octets × Octets)
  | [], _ => []
  | [name], line =>
    let (field, rest) := firstField separators line
    if rest.isEmpty then [(name, field)]
    else
      [(name, markedText (line.reverse.dropWhile (isBlankMark separators)).reverse)]
  | name :: others, line =>
    let (field, rest) := firstField separators line
    (name, field) :: assignFields separators others rest

def readOptions : Bool → List Octets → Bool × List Octets
  | _, ['-', 'r'] :: rest => readOptions true rest
  | raw, ['-', 'p'] :: _ :: rest => readOptions raw rest
  | raw, names => (raw, names)

def readAction : Action := fun _ arguments => do
  let (raw, names) := readOptions false arguments
  let shell ← shell
  let names := if names.isEmpty && shell.dialect = .extended then ["REPLY".toList] else names
  if names.isEmpty then wrong "arg count".toList
  else
    match names.find? fun name => !isName name with
    | some name => fail (name ++ ": bad variable name".toList)
    | none =>
      let (line, complete) ← if raw then rawLine else escapedLine 10000
      let separators := shell.separators
      for entry in assignFields separators names (dropBlanks separators line) do
        if (← Exec.shell).isReadOnly entry.1 then fail (entry.1 ++ ": is read only".toList)
        modifyShell fun shell => shell.setVariable entry.1 entry.2
      return if complete then 0 else 1

end CiPipeline.Shell.Builtin
