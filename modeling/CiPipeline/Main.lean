import CiPipeline.CommandLine.Basic
import CiPipeline.Run.Execution

/-! The program as it is started. The files that the command line names are read into a tree, steps work
on a machine that finds these files and no others, and the notices are printed in their order. -/
namespace CiPipeline.CommandLine

open Files

def knownVariables : List String :=
  ["PATH", "HOME", "USER", "LANG", "TINYCI_STEP_TIMEOUT", "TINYCI_MAX_WORKERS",
    "TINYCI_BACKEND_AXIS", "TINYCI_TAIL_LINES"]

def readEnvironment : IO Env :=
  knownVariables.foldlM (fun environ name => do
    return match ← IO.getEnv name with
      | some value => environ.put name value
      | none => environ) []

def gather (home : Path) (tree : Tree) (text : String) : IO Tree := do
  try
    let content ← IO.FS.readBinFile text
    return tree.place (home.resolve (Path.ofText text)) (.bytes content.toList)
  catch _ => return tree

def printLine (line : Line) : IO Unit :=
  match line.channel with
  | .out => IO.println line.text
  | .err => IO.eprintln line.text

def perform (settings : Settings) (environ : Env) (arguments : List String) : IO UInt32 := do
  let home := Path.ofText ((← IO.getEnv "PWD").getD "/")
  let scratch := Path.ofText "/tmp/ci-run"
  let tree ← arguments.foldlM (gather home) ((Tree.root home).makeDirectories home)
  let host : Run.Host := ⟨⟨tree, [], []⟩, scratch, 0, 1⟩
  let exit := execute ⟨tree, home, scratch, environ, settings, .ordered []⟩ arguments
    (Run.hostExecutor .whole settings.stepTimeout) ⟨[], host⟩
  exit.world.lines.forM printLine
  exit.failure.forM fun failure => IO.eprintln (Console.failureLine failure)
  return exit.code.toUInt32

end CiPipeline.CommandLine

open CiPipeline CommandLine in
/-- Settings that cannot be read end the program before it starts. -/
def main (arguments : List String) : IO UInt32 := do
  let environ ← readEnvironment
  match Settings.ofEnviron environ with
  | .error crash =>
    IO.eprintln crash.line
    return Settings.exitFailure.toUInt32
  | .ok settings => perform settings environ arguments
