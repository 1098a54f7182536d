import CiPipeline.Shell.Evaluation

/-! Launching a program from outside of any shell, with an environment and a directory, and seeing how it
ends. What it writes to its output and to its errors goes to one place, and it has nothing to read. -/
namespace CiPipeline.Shell

open Files

structure Disk where
  tree : Tree
  anchors : List String
  executables : List Path

structure Launch where
  words : List Octets
  environ : List (Octets × Octets)
  directory : Path
  deadline : Option Time

inductive LaunchError
  | absent
  | forbidden
  | tooLong
  | noFormat
deriving DecidableEq, Repr

def LaunchError.text : LaunchError → String
  | absent => "[Errno 2] No such file or directory"
  | forbidden => "[Errno 13] Permission denied"
  | tooLong => "[Errno 7] Argument list too long"
  | noFormat => "[Errno 8] Exec format error"

/-- What became of a program: how it ended, unless it was still running at the deadline, and what it
wrote. -/
structure Finished where
  ended : Option Ended
  output : Octets
  disk : Disk

namespace Launch

def machine (disk : Disk) (launch : Launch) : Machine where
  tree := disk.tree
  anchors := disk.anchors
  executables := disk.executables
  streams := [(0, .nowhere), (1, .output)]
  nextStream := 2
  nextProcess := 1001
  now := 0
  deadline := launch.deadline
  written := []
  jobs := []
  doomed := []

def shell (launch : Launch) : Interpreter where
  dialect := .plain
  name := []
  arguments := []
  scope := launch.environ.reverse.map fun entry => (entry.1, ⟨some entry.2, true, false⟩)
  functions := []
  documents := []
  nextDocument := 0
  directory := launch.directory
  descriptors := [(0, 0), (1, 1), (2, 1)]
  options := ⟨false, false, false, false, false, false, false, false⟩
  traps := []
  status := 0
  line := 0
  process := 1000
  own := 1000
  lastJob := none
  loops := 0
  calls := 0
  locals := []
  substituted := none
  remembered := []
  inside := none
  mask := 18

def longestArgument : Nat := 131071

def check (disk : Disk) (launch : Launch) : Except LaunchError Unit := do
  if launch.words.any fun word => longestArgument < word.length then throw .tooLong
  match findProgram (launch.machine disk) launch.shell (launch.words.head?.getD []) with
  | .error .absent => throw .absent
  | .error .forbidden => throw .forbidden
  | .ok (_, .installed _) => return
  | .ok (_, .written _ content) =>
    if ['#', '!'].isPrefixOf content then return else throw .noFormat

def depth : Nat := 6000

/-- How long output is still taken from what a program leaves running. -/
def patience : Time := 5000000000

def run (disk : Disk) (launch : Launch) : Finished :=
  let start : State := ⟨launch.machine disk, launch.shell⟩
  let (ended, state) := ((Evaluation.engine depth).program launch.words).run.run start
  let machine := state.machine
  let disk : Disk := { disk with tree := machine.tree, executables := machine.executables }
  match ended with
  | .ok ended => ⟨some ended, machine.outputUntil (some (machine.now + patience)), disk⟩
  | .error (.killed signal) =>
    ⟨some (.signal signal), machine.outputUntil (some (machine.now + patience)), disk⟩
  | .error _ => ⟨none, machine.outputUntil launch.deadline, disk⟩

end Launch

end CiPipeline.Shell
