import CiPipeline.Files.Tree
import CiPipeline.Shell.Syntax

/-! The machine on which commands run: its files, its clock, and the streams that processes read and
write. Processes run one after the other; a process in the background has the clock set back to its
start, and what reaches the output keeps its time, so that outputs can be brought into order. -/
namespace CiPipeline.Shell

open Files

abbrev Time := Nat

inductive Stream
  /-- The output of the whole run. -/
  | output
  | nowhere
  | zeros
  /-- What was written and not yet read, and when the last writer ended. -/
  | pipe (content : Octets) (closed : Time)
  | file (path : Path) (offset : Nat) (mode : OpenMode)

/-- A process in the background that has ended at a certain time, or never will. -/
structure BackgroundJob where
  process : Nat
  started : Time
  ended : Option Time
  status : Nat
  written : List (Time × Octets)

structure Machine where
  tree : Tree
  /-- Anchors of paths that do not start at the system's root. -/
  anchors : List String
  executables : List Path
  streams : List (Nat × Stream)
  nextStream : Nat
  nextProcess : Nat
  now : Time
  deadline : Option Time
  written : List (Time × Octets)
  jobs : List BackgroundJob
  /-- Processes that were sent a signal by one of their children, and will find it when that one is done. -/
  doomed : List (Nat × Nat)

inductive Node
  | directory
  | file (content : Octets)
  | program (name : String)
  | device (stream : Stream)

def programDirectories : List String := ["/bin", "/usr/bin"]

def systemDirectories : List String :=
  ["/", "/bin", "/boot", "/dev", "/etc", "/home", "/lib", "/media", "/mnt", "/opt", "/proc", "/root",
    "/run", "/sbin", "/srv", "/sys", "/tmp", "/usr", "/usr/bin", "/usr/lib", "/usr/local",
    "/usr/local/bin", "/usr/sbin", "/usr/share", "/var", "/var/tmp"]

def programNames : List String :=
  ["[", "basename", "bash", "cat", "chmod", "cp", "cut", "dash", "dirname", "echo", "env", "false",
    "head", "id", "ls", "mkdir", "mv", "nice", "nl", "nohup", "printenv", "printf", "pwd", "rev", "rm",
    "rmdir", "seq", "setsid", "sh", "sleep", "sort", "stdbuf", "tac", "tail", "tee", "test", "timeout",
    "touch", "tr", "true", "tty", "uname", "uniq", "wc", "whoami", "xargs", "yes"]

namespace Machine

def startsAt (text anchor : String) : Bool := text == anchor || text.startsWith (anchor ++ "/")

def locate (machine : Machine) (directory : Path) (text : Octets) : Path :=
  let text := text.toText
  match machine.anchors.find? (startsAt text) with
  | some anchor => ⟨anchor, (Path.ofText (String.ofList (text.toList.drop anchor.length))).names⟩
  | none => directory.join (Path.ofText text)

def systemNode? (path : Path) : Option Node :=
  let text := path.text
  if systemDirectories.contains text then some .directory
  else if text = "/dev/null" then some (.device .nowhere)
  else if text = "/dev/zero" then some (.device .zeros)
  else
    let above : Path := ⟨path.anchor, path.names.dropLast⟩
    if programDirectories.contains above.text && programNames.contains path.name then
      some (.program path.name)
    else none

def nodeOfEntry : Entry → Node
  | .directory => .directory
  | .bytes content => .file (Octets.ofBytes content)
  | .workflow _ => .file []

def nodeAt? (machine : Machine) (path : Path) : Option Node :=
  match (machine.tree.find? path).map nodeOfEntry with
  | some node => some node
  | none => if path.anchor = "/" then systemNode? path else none

def isDirectory (machine : Machine) (path : Path) : Bool :=
  match machine.nodeAt? path with
  | some .directory => true
  | _ => false

/-- Follows names one by one, as far as directories go; the last one need not exist. -/
def follow? (machine : Machine) : Path → List String → Option Path
  | place, [] => some place
  | place, name :: rest =>
    if machine.isDirectory place then
      if name = ".." then machine.follow? ⟨place.anchor, place.names.dropLast⟩ rest
      else machine.follow? ⟨place.anchor, place.names ++ [name]⟩ rest
    else none

def settle? (machine : Machine) (path : Path) : Option Path :=
  machine.follow? ⟨path.anchor, []⟩ path.names

def look? (machine : Machine) (path : Path) : Option (Path × Node) := do
  let place ← machine.settle? path
  let node ← machine.nodeAt? place
  return (place, node)

/-- What a text names, seen from a directory. The empty text names nothing, and a text that ends in a
slash only names a directory. -/
def named? (machine : Machine) (directory : Path) (text : Octets) : Option (Path × Node) :=
  if text.isEmpty then none
  else
    match machine.look? (machine.locate directory text) with
    | some (place, node) =>
      if text.getLast? == some '/' && !machine.isDirectory place then none else some (place, node)
    | none => none

def isBlocked (machine : Machine) : Path → List String → Bool
  | _, [] => false
  | place, name :: rest =>
    (machine.nodeAt? place).isSome && !machine.isDirectory place ||
      machine.isBlocked ⟨place.anchor, place.names ++ [name]⟩ rest

def contentOf (machine : Machine) (path : Path) : Octets :=
  match machine.nodeAt? path with
  | some (.file content) => content
  | _ => []

def putFile (machine : Machine) (path : Path) (content : Octets) : Machine :=
  { machine with tree := machine.tree.set path (.bytes content.toBytes) }

def mayCreate (machine : Machine) (path : Path) : Bool :=
  machine.isDirectory ⟨path.anchor, path.names.dropLast⟩ && !path.names.isEmpty

def stream (machine : Machine) (number : Nat) : Stream :=
  (machine.streams.lookup number).getD .nowhere

def setStream (machine : Machine) (number : Nat) (stream : Stream) : Machine :=
  { machine with streams := (number, stream) :: machine.streams.filter (·.1 != number) }

def addStream (machine : Machine) (stream : Stream) : Nat × Machine :=
  (machine.nextStream, { machine with
    streams := (machine.nextStream, stream) :: machine.streams
    nextStream := machine.nextStream + 1 })

def overwrite (content : Octets) (offset : Nat) (text : Octets) : Octets :=
  let before := content.take offset
  let gap := List.replicate (offset - content.length) (Char.ofNat 0)
  before ++ gap ++ text ++ content.drop (offset + text.length)

def write (machine : Machine) (number : Nat) (text : Octets) : Bool × Machine :=
  match machine.stream number with
  | .output =>
    (true, if text.isEmpty then machine
      else { machine with written := (machine.now, text) :: machine.written })
  | .nowhere | .zeros => (true, machine)
  | .pipe content closed => (true, machine.setStream number (.pipe (content ++ text) closed))
  | .file path offset mode =>
    match mode with
    | .read => (false, machine)
    | .append => (true, machine.putFile path (machine.contentOf path ++ text))
    | .write | .both =>
      (true, (machine.putFile path (overwrite (machine.contentOf path) offset text)).setStream
        number (.file path (offset + text.length) mode))

inductive Readable
  | text (content : Octets) (ready : Time)
  | zeros
  | refused

def readable (machine : Machine) (number : Nat) : Readable :=
  match machine.stream number with
  | .output | .nowhere => .text [] machine.now
  | .zeros => .zeros
  | .pipe content closed => .text content closed
  | .file path offset mode =>
    match mode with
    | .read | .both => .text ((machine.contentOf path).drop offset) machine.now
    | .write | .append => .refused

def skip (machine : Machine) (number count : Nat) : Machine :=
  match machine.stream number with
  | .pipe content closed => machine.setStream number (.pipe (content.drop count) closed)
  | .file path offset mode => machine.setStream number (.file path (offset + count) mode)
  | _ => machine

def outputUntil (machine : Machine) (limit : Option Time) : Octets :=
  let written := machine.written.reverse ++ machine.jobs.flatMap fun job => job.written.reverse
  let reached := written.filter fun chunk =>
    match limit with
    | some limit => chunk.1 ≤ limit
    | none => true
  (reached.mergeSort fun a b => a.1 ≤ b.1).flatMap (·.2)

end Machine

end CiPipeline.Shell
