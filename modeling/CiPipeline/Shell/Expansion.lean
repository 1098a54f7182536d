import CiPipeline.Shell.Arithmetic
import CiPipeline.Shell.Fields

/-! Expanding words: parameters, substitutions of commands, and arithmetic. Commands inside of words are
carried out by whoever asks for the expansion. -/
namespace CiPipeline.Shell

namespace Interpreter

def mention (shell : Interpreter) : Octets :=
  let line := Octets.ofNat shell.line
  match shell.dialect with
  | .plain =>
    let inside := (shell.inside.map (· ++ ": ".toList)).getD []
    shell.name ++ ": ".toList ++ line ++ ": ".toList ++ inside
  | .extended =>
    let inside := (shell.inside.map (· ++ ": ".toList)).getD []
    shell.name ++ ": line ".toList ++ line ++ ": ".toList ++ inside

def optionLetters (shell : Interpreter) : Octets :=
  let options := shell.options
  [('e', options.exitOnError), ('f', options.noPatterns), ('n', options.noCommands),
    ('u', options.failOnUnset), ('v', options.echoInput), ('x', options.trace),
    ('a', options.exportAll)].filterMap fun entry => if entry.2 then some entry.1 else none

def parameter? (shell : Interpreter) (name : Octets) : Option Octets :=
  match name with
  | ['?'] => some (Octets.ofNat shell.status)
  | ['#'] => some (Octets.ofNat shell.arguments.length)
  | ['$'] => some (Octets.ofNat shell.process)
  | ['!'] => shell.lastJob.map Octets.ofNat
  | ['-'] => some shell.optionLetters
  | ['0'] => some shell.name
  | name =>
    match Octets.toNat? name with
    | some 0 => some shell.name
    | some position => shell.arguments[position - 1]?
    | none =>
      if name = "LINENO".toList && shell.dialect = .extended then some (Octets.ofNat shell.line)
      else shell.value? name

def standardSeparators : Octets := [' ', '\t', '\n']

def separators (shell : Interpreter) : Octets :=
  (shell.value? "IFS".toList).getD standardSeparators

end Interpreter

namespace Exec

def report (message : Octets) : Exec Unit := do
  complain ((← shell).mention ++ message ++ ['\n'])

def fail {α : Type} (message : Octets) : Exec α := do
  report message
  setStatus 2
  throw .broken

end Exec

abbrev Capture := Command → Exec Octets

def isSet (value : Option Octets) (emptyToo : Bool) : Bool :=
  match value with
  | none => false
  | some text => !(emptyToo && text.isEmpty)

def arithmeticSurface : Formula.Surface Exec where
  get name := do
    match (← Exec.shell).parameter? name with
    | none => return 0
    | some text =>
      if text.isEmpty then return 0
      else
        match Formula.read text with
        | .ok (.number value) => return value
        | .ok (.unary operator (.number value)) => return Formula.Unary.result operator value
        | _ => Exec.fail ("Illegal number: ".toList ++ text)
  set name value := do
    if (← Exec.shell).isReadOnly name then Exec.fail (name ++ ": is read only".toList)
    Exec.modifyShell fun shell => shell.setVariable name (Octets.ofInt value)
  divisionByZero := Exec.fail "arithmetic expression: division by zero".toList

def evaluateText (text : Octets) : Exec Int := do
  match Formula.read text with
  | .ok formula =>
    formula.evaluate { arithmeticSurface with
      divisionByZero := Exec.fail
        ("arithmetic expression: division by zero: \"".toList ++ text ++ ['"']) }
  | .error message =>
    Exec.fail ("arithmetic expression: ".toList ++ message.toList ++ ": \"".toList ++ text ++ ['"'])

def positionalGlyphs (shell : Interpreter) (underQuotes joined : Bool) : List Glyph :=
  if shell.arguments.isEmpty then (if joined then [] else [.absent])
  else if underQuotes && joined then
    let separator := match shell.separators with
      | [] => []
      | c :: _ => [c]
    Glyph.ownText (separator.intercalate shell.arguments) true
  else
    let one (text : Octets) : List Glyph :=
      if underQuotes then .quotes :: Glyph.ownText text true else text.map .given
    [Glyph.border].intercalate (shell.arguments.map one)

def homeOf (shell : Interpreter) (user : Octets) : Option Octets :=
  if user.isEmpty then shell.value? "HOME".toList
  else if user = "root".toList then some "/root".toList
  else none

def expandTilde (shell : Interpreter) (isLast : Bool) (text : Octets) : List Glyph :=
  match text with
  | '~' :: rest =>
    let user := rest.takeWhile fun c => c != '/' && c != ':'
    let others := rest.drop user.length
    if others.isEmpty && !isLast then Glyph.ownText text false
    else
      match homeOf shell user with
      | some home => Glyph.ownText home true ++ Glyph.ownText others false
      | none => Glyph.ownText text false
  | text => Glyph.ownText text false

inductive Tildes
  | none
  | front
  | path
deriving DecidableEq

def colonPieces (text : Octets) : List Octets :=
  match text with
  | [] => [[]]
  | c :: rest =>
    match colonPieces rest with
    | [] => [[c]]
    | piece :: others => if c = ':' then [] :: (c :: piece) :: others else (c :: piece) :: others

def expandTildes (shell : Interpreter) (tildes : Tildes) (isFirst isLast : Bool) (text : Octets) :
    List Glyph :=
  match tildes with
  | .none => Glyph.ownText text false
  | .front =>
    if isFirst then expandTilde shell isLast text else Glyph.ownText text false
  | .path =>
    match colonPieces text with
    | [] => []
    | first :: others =>
      (if isFirst then expandTilde shell (isLast || !others.isEmpty) first
        else Glyph.ownText first false) ++
        others.flatMap fun piece =>
          .own ':' false :: expandTilde shell isLast (piece.drop 1)

/-- What a parameter with its modifier expands to; the word behind the modifier is expanded where it is
needed. -/
def parameterGlyphs (underQuotes : Bool) (name : Octets) (modifier : Modifier)
    (word : Exec (List Glyph)) : Exec (List Glyph) := do
  let shell ← Exec.shell
  let isAll := name = ['@'] || name = ['*']
  let value := if isAll then
      (if shell.arguments.isEmpty then none else some ([' '].intercalate shell.arguments))
    else shell.parameter? name
  let whole : List Glyph :=
    if isAll then positionalGlyphs shell underQuotes (name = ['*'])
    else Glyph.result underQuotes (value.getD [])
  let needed : Exec Unit := do
    if value.isNone && shell.options.failOnUnset && !isAll then
      Exec.fail (name ++ ": parameter not set".toList)
  let inside : Exec (List Glyph) := do
    let glyphs ← word
    return if underQuotes then glyphs else glyphs.map Glyph.asGiven
  match modifier with
  | .value =>
    needed
    return whole
  | .length =>
    needed
    if isAll then return Glyph.result underQuotes (Octets.ofNat shell.arguments.length)
    else return Glyph.result underQuotes (Octets.ofNat (value.getD []).length)
  | .orElse emptyToo => if isSet value emptyToo then return whole else inside
  | .instead emptyToo => if isSet value emptyToo then inside else return []
  | .assign emptyToo =>
    if isSet value emptyToo then return whole
    else if !isName name then Exec.fail (name ++ ": bad variable name".toList)
    else
      let text := Glyph.text (← inside)
      if shell.isReadOnly name then Exec.fail (name ++ ": is read only".toList)
      Exec.modifyShell fun shell => shell.setVariable name text
      return Glyph.result underQuotes text
  | .demand emptyToo =>
    if isSet value emptyToo then return whole
    else
      let text := Glyph.text (← inside)
      let reason :=
        if !text.isEmpty then text
        else if emptyToo then "parameter not set or null".toList
        else "parameter not set".toList
      Exec.fail (name ++ ": ".toList ++ reason)
  | .dropEnd longest =>
    needed
    let pattern := Pattern.read (Glyph.marks (← word))
    return Glyph.result underQuotes (Pattern.dropEnd pattern longest (value.getD []))
  | .dropStart longest =>
    needed
    let pattern := Pattern.read (Glyph.marks (← word))
    return Glyph.result underQuotes (Pattern.dropFront pattern longest (value.getD []))
  | .malformed => Exec.fail "Bad substitution".toList

mutual

def glyphsOf (capture : Capture) (tildes : Tildes) (isFirst : Bool) :
    List Segment → Exec (List Glyph)
  | [] => return []
  | segment :: rest => do
    let front ← glyphsOfSegment capture tildes isFirst rest.isEmpty segment
    return front ++ (← glyphsOf capture tildes false rest)

def glyphsOfSegment (capture : Capture) (tildes : Tildes) (isFirst isLast : Bool) :
    Segment → Exec (List Glyph)
  | .plain text => do return expandTildes (← Exec.shell) tildes isFirst isLast text
  | .quoted text => return .quotes :: Glyph.ownText text true
  | .parameter underQuotes name modifier word =>
    parameterGlyphs underQuotes name modifier (glyphsOf capture .none false word)
  | .substitution underQuotes body => do return Glyph.result underQuotes (← capture body)
  | .arithmetic underQuotes expression => do
    let text := Glyph.text (← glyphsOf capture .none false expression)
    return Glyph.result underQuotes (Octets.ofInt (← evaluateText text))

end

namespace Exec

def fields (capture : Capture) : List Word → Exec (List Octets)
  | [] => return []
  | word :: rest => do
    let glyphs ← glyphsOf capture .front true word
    let shell ← shell
    let machine ← machine
    let found := split shell.separators glyphs
    let texts := if shell.options.noPatterns then found.map markedText
      else found.flatMap (matchFiles machine shell.directory)
    return texts ++ (← fields capture rest)

def textOf (capture : Capture) (tildes : Tildes) (word : Word) : Exec Octets := do
  return Glyph.text (← glyphsOf capture tildes true word)

def patternOf (capture : Capture) (word : Word) : Exec (List Pattern) := do
  return Pattern.read (Glyph.marks (← glyphsOf capture .front true word))

end Exec

end CiPipeline.Shell
