import CiPipeline.Failure
import CiPipeline.Text.Likeness
import CiPipeline.Text.Quoted

/-! Arguments of a command line. An option has one or more spellings, some of them for switching it off;
a long spelling may carry its value behind an equals sign, a short one directly behind it. Two
hyphens end the options. -/
namespace CiPipeline.CommandLine

inductive Usage
  | noSuchOption (spelling : String) (similar : List String)
  | noSuchCommand (name : String) (similar : List String)
  | missingCommand
  | missingArgument (name : String)
  | needsValue (spelling : String)
  | takesNoValue (spelling : String)
  | badValue (place message : String)
  | unexpected (arguments : List String)
  | broken (crash : Crash)
  | noArguments
  | help
deriving DecidableEq, Repr

def similarWords : List String → String
  | [] => ""
  | [word] => " Did you mean " ++ Text.quoted word ++ "?"
  | many => " (Did you mean one of: " ++ ", ".intercalate (many.map Text.quoted) ++ "?)"

def Usage.message : Usage → String
  | noSuchOption spelling similar =>
    "No such option " ++ Text.quoted spelling ++ "." ++ similarWords similar
  | noSuchCommand name similar =>
    "No such command " ++ Text.quoted name ++ "." ++ similarWords similar
  | missingCommand => "Missing command."
  | missingArgument name => "Missing argument '" ++ name ++ "'."
  | needsValue spelling => "Option " ++ Text.quoted spelling ++ " requires an argument."
  | takesNoValue spelling => "Option " ++ Text.quoted spelling ++ " does not take a value."
  | badValue place message => "Invalid value for " ++ place ++ ": " ++ message
  | unexpected [one] => "Got unexpected extra argument (" ++ one ++ ")"
  | unexpected many => "Got unexpected extra arguments (" ++ " ".intercalate many ++ ")"
  | broken _ | noArguments | help => ""

inductive Reading
  | valued
  | switch (value : Bool)
deriving DecidableEq, Repr

structure Spelling where
  text : String
  option : String
  reading : Reading

inductive Setting
  | value (text : String)
  | switch (value : Bool)
deriving DecidableEq, Repr

/-- What is known once the options are read: the options in the order in which they were given, and the
other arguments. -/
structure Parsed where
  given : List (String × Setting)
  others : List String
deriving DecidableEq, Repr

def isShort (text : String) : Bool := text.length == 2

def find? (spellings : List Spelling) (short : Bool) (text : String) : Option Spelling :=
  spellings.find? fun spelling => spelling.text == text && isShort spelling.text == short

/-- Letters behind a single hyphen: options one after the other, the first one with a value taking the
rest of the letters or the next argument. -/
def readLetters (spellings : List Spelling) (rest : List String) :
    List Char → Except Usage (List (String × Setting) × List String)
  | [] => .ok ([], rest)
  | c :: letters =>
    let text := String.ofList ['-', c]
    match find? spellings true text with
    | none => .error (.noSuchOption text [])
    | some spelling =>
      match spelling.reading with
      | .switch value => do
        let (others, rest) ← readLetters spellings rest letters
        return ((spelling.option, .switch value) :: others, rest)
      | .valued =>
        match letters, rest with
        | [], [] => .error (.needsValue text)
        | [], value :: rest => .ok ([(spelling.option, .value value)], rest)
        | letters, rest => .ok ([(spelling.option, .value (String.ofList letters))], rest)

def splitValue (text : String) : String × Option String :=
  let cs := text.toList
  (String.ofList (cs.takeWhile (· != '=')),
    match cs.dropWhile (· != '=') with
    | [] => none
    | _ :: value => some (String.ofList value))

def closeSpellings (spellings : List Spelling) (text : String) : List String :=
  Text.closest text
    ((spellings.filter fun spelling => !isShort spelling.text).map Spelling.text)

def readOption (spellings : List Spelling) (argument : String) (rest : List String) :
    Except Usage (List (String × Setting) × List String) :=
  let (text, value) := splitValue argument
  match find? spellings false text with
  | none =>
    if argument.startsWith "--" then
      .error (.noSuchOption text (closeSpellings spellings text))
    else readLetters spellings rest (argument.toList.drop 1)
  | some spelling =>
    match spelling.reading, value, rest with
    | .switch _, some _, _ => .error (.takesNoValue text)
    | .switch on, none, rest => .ok ([(spelling.option, .switch on)], rest)
    | .valued, some value, rest => .ok ([(spelling.option, .value value)], rest)
    | .valued, none, [] => .error (.needsValue text)
    | .valued, none, value :: rest => .ok ([(spelling.option, .value value)], rest)

/-- Reads arguments, at most as many as the bound. Options may stand behind other arguments only if
they are `mixed`. -/
def readUpTo (spellings : List Spelling) (mixed : Bool) :
    Nat → List String → Except Usage Parsed
  | 0, _ => .ok ⟨[], []⟩
  | _ + 1, [] => .ok ⟨[], []⟩
  | bound + 1, argument :: rest =>
    if argument = "--" then .ok ⟨[], rest⟩
    else if argument.startsWith "-" && 1 < argument.length then do
      let (given, rest) ← readOption spellings argument rest
      let later ← readUpTo spellings mixed bound rest
      return ⟨given ++ later.given, later.others⟩
    else if mixed then do
      let later ← readUpTo spellings mixed bound rest
      return ⟨later.given, argument :: later.others⟩
    else .ok ⟨[], argument :: rest⟩

def read (spellings : List Spelling) (mixed : Bool) (arguments : List String) :
    Except Usage Parsed :=
  readUpTo spellings mixed (arguments.length + 1) arguments

namespace Parsed

def value? (parsed : Parsed) (option : String) : Option String :=
  parsed.given.reverse.findSome? fun entry =>
    match entry with
    | (name, .value text) => if name = option then some text else none
    | _ => none

def values (parsed : Parsed) (option : String) : List String :=
  parsed.given.filterMap fun entry =>
    match entry with
    | (name, .value text) => if name = option then some text else none
    | _ => none

def isOn (parsed : Parsed) (option : String) : Bool :=
  (parsed.given.reverse.findSome? fun entry =>
    match entry with
    | (name, .switch value) => if name = option then some value else none
    | _ => none).getD false

def order (parsed : Parsed) : List String :=
  parsed.given.foldl
    (fun found entry => if found.contains entry.1 then found else found ++ [entry.1]) []

end Parsed

end CiPipeline.CommandLine
