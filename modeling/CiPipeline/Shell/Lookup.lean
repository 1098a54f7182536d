import CiPipeline.Shell.Process

/-! Finding what a command name stands for: a word of the language, a function, a command of the shell, or
a program in one of the directories that are searched. -/
namespace CiPipeline.Shell

open Files

inductive Executable
  /-- A program of the system. -/
  | installed (name : String)
  /-- A file of commands. -/
  | written (path : Path) (content : Octets)

inductive Unusable
  | absent
  | forbidden
deriving DecidableEq

def executableAt (machine : Machine) (path : Path) : Except Unusable Executable :=
  match machine.look? path with
  | some (_, .program name) => .ok (.installed name)
  | some (place, .file content) =>
    if machine.executables.contains place then .ok (.written place content)
    else .error .forbidden
  | some _ => .error .forbidden
  | none => .error .absent

def standardSearch : Octets :=
  "/usr/local/sbin:/usr/local/bin:/usr/sbin:/usr/bin:/sbin:/bin".toList

def searchDirectories (shell : Interpreter) : List Octets :=
  match shell.scope.lookup "PATH".toList with
  | some entry => (entry.value.getD []).splitOn ':'
  | none => standardSearch.splitOn ':'

/-- The first program of a name in the directories, with the text of its path. A file that may not be
run counts only if there is no better one. -/
def searchFrom (machine : Machine) (directory : Path) (name : Octets) :
    Unusable → List Octets → Except Unusable (Octets × Executable)
  | worst, [] => .error worst
  | worst, place :: rest =>
    let text := if place.isEmpty then name else place ++ '/' :: name
    match executableAt machine (machine.locate directory text) with
    | .ok found => .ok (text, found)
    | .error .absent => searchFrom machine directory name worst rest
    | .error .forbidden => searchFrom machine directory name .forbidden rest

def findProgram (machine : Machine) (shell : Interpreter) (name : Octets) :
    Except Unusable (Octets × Executable) :=
  if name.isEmpty then .error .absent
  else if name.contains '/' then
    (executableAt machine (machine.locate shell.directory name)).map fun found => (name, found)
  else
    let candidates := (searchDirectories shell).filter fun place =>
      match machine.look? (machine.locate shell.directory
        (if place.isEmpty then name else place ++ '/' :: name)) with
      | some (_, .directory) => false
      | _ => true
    searchFrom machine shell.directory name .absent candidates

end CiPipeline.Shell
