import CiPipeline.Files.Path
import CiPipeline.Workflow

/-! A tree of files: directories, files with bytes in them, and workflow files, which are given by what
they define. Every path in the tree is anchored and free of double dots. -/
namespace CiPipeline.Files

inductive Entry
  | directory
  | bytes (content : List UInt8)
  | workflow (definitions : Workflow)

structure Tree where
  entries : List (Path × Entry)

namespace Tree

def find? (tree : Tree) (path : Path) : Option Entry := List.lookup path tree.entries

def isDirectory (tree : Tree) (path : Path) : Bool :=
  match tree.find? path with
  | some .directory => true
  | _ => false

/-- Follows names one by one; only a directory has anything below it, and every step through a name
has to exist before a double dot takes it back. -/
def follow? (tree : Tree) : Path → List String → Option (Path × Entry)
  | place, [] => (tree.find? place).map fun entry => (place, entry)
  | place, name :: rest =>
    if tree.isDirectory place then
      if name = ".." then tree.follow? ⟨place.anchor, place.names.dropLast⟩ rest
      else tree.follow? ⟨place.anchor, place.names ++ [name]⟩ rest
    else none

def look? (tree : Tree) (base path : Path) : Option (Path × Entry) :=
  let joined := base.join path
  tree.follow? ⟨joined.anchor, []⟩ joined.names

def entryAt? (tree : Tree) (base path : Path) : Option Entry :=
  (tree.look? base path).map (·.2)

def meetsLongName (tree : Tree) : Path → List String → Bool
  | _, [] => false
  | place, name :: rest =>
    if tree.isDirectory place then
      if Path.isLongName name then true
      else if name = ".." then tree.meetsLongName ⟨place.anchor, place.names.dropLast⟩ rest
      else tree.meetsLongName ⟨place.anchor, place.names ++ [name]⟩ rest
    else false

def refuses (tree : Tree) (base path : Path) : Bool :=
  let joined := base.join path
  path.isLong || tree.meetsLongName ⟨joined.anchor, []⟩ joined.names

def set (tree : Tree) (path : Path) (entry : Entry) : Tree :=
  ⟨(tree.entries.filter fun other => other.1 ≠ path) ++ [(path, entry)]⟩

def withParents (path : Path) : List Path :=
  (List.range (path.names.length + 1)).map fun count => ⟨path.anchor, path.names.take count⟩

def makeDirectories (tree : Tree) (path : Path) : Tree :=
  (withParents path).foldl
    (fun tree place => if (tree.find? place).isSome then tree else tree.set place .directory) tree

def parent (path : Path) : Path := ⟨path.anchor, path.names.dropLast⟩

def place (tree : Tree) (path : Path) (entry : Entry) : Tree :=
  (tree.makeDirectories (parent path)).set path entry

def remove (tree : Tree) (path : Path) : Tree :=
  ⟨tree.entries.filter fun entry =>
    !(entry.1.anchor == path.anchor && path.names.isPrefixOf entry.1.names)⟩

def children (tree : Tree) (path : Path) : List String :=
  tree.entries.filterMap fun entry =>
    let other := entry.1
    if other.anchor == path.anchor && other.names.dropLast == path.names && !other.names.isEmpty
    then other.names.getLast? else none

def root (path : Path) : Tree := ⟨[(path, .directory)]⟩

end Tree

end CiPipeline.Files
