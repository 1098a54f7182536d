import CiPipeline.Shell.Program.Files
import CiPipeline.Shell.Program.System
import CiPipeline.Shell.Program.Text

/-! The programs of the system by name, apart from the shells. -/
namespace CiPipeline.Shell.Program

open Exec

def echo : Action := fun _ _ arguments => do
  let (lineFeed, escapes, arguments) := Builtin.echoOptions true false arguments
  say (Format.echoed escapes lineFeed arguments)
  return 0

def printf : Action := fun _ name arguments => do
  let arguments := if arguments.head? == some ['-', '-'] then arguments.drop 1 else arguments
  match arguments with
  | [] => missingOperand name
  | format :: arguments =>
    let formatted := Format.write format arguments
    for complaint in formatted.complaints do complainAs name complaint
    say formatted.text
    match formatted.rest with
    | [] => return formatted.status
    | extra :: _ =>
      if !formatted.asked && !formatted.stopped then
        complainAs name ("warning: ignoring excess arguments, starting with ".toList ++
          quoteValue extra)
      return formatted.status

def ofBuiltin (action : Builtin.Action) : Action := fun engine _ arguments =>
  action engine arguments

def pwd : Action := fun _ name arguments =>
  withOptions ⟨['L', 'P'], [], []⟩ name arguments 1 fun _ => do
    say ((← Builtin.currentDirectory) ++ ['\n'])
    return 0

def table : List (String × Action) := [
  ("[", ofBuiltin Builtin.bracket), ("basename", basename), ("cat", cat), ("chmod", chmod),
  ("cp", transfer false), ("cut", cut), ("dirname", dirname), ("echo", echo), ("env", env),
  ("false", ofBuiltin Builtin.refuse), ("head", writeEnds true), ("id", id), ("ls", ls),
  ("mkdir", mkdir), ("mv", transfer true), ("nice", passOn [] ['n']), ("nl", nl),
  ("nohup", passOn [] []), ("printenv", printenv), ("printf", printf), ("pwd", pwd), ("rev", rev),
  ("rm", rm), ("rmdir", rmdir), ("seq", seq), ("setsid", passOn ['w', 'f', 'c'] []),
  ("sleep", sleep), ("sort", sort), ("stdbuf", passOn [] ['i', 'o', 'e']), ("tac", tac),
  ("tail", writeEnds false), ("tee", tee), ("test", ofBuiltin Builtin.test), ("timeout", timeout),
  ("touch", touch), ("tr", tr), ("true", ofBuiltin Builtin.succeed), ("tty", tty),
  ("uname", uname), ("uniq", uniq), ("wc", wc), ("whoami", whoami), ("xargs", xargs), ("yes", yes)]

def shells : List (String × Dialect) :=
  [("bash", .extended), ("dash", .plain), ("sh", .plain)]

theorem installed_are_known :
    programNames.all (fun name =>
      (table.map (·.1)).contains name || (shells.map (·.1)).contains name) = true := by
  decide +kernel

end CiPipeline.Shell.Program
