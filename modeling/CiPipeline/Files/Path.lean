/-! Paths as text and as parts. A path starts at an anchor, which is empty where the path is relative,
and goes on with names. Doubled slashes and single dots have no meaning; double dots are kept until
a path is resolved. -/
namespace CiPipeline.Files

structure Path where
  anchor : String
  names : List String
deriving DecidableEq, Repr, Inhabited

namespace Path

/-- Two slashes in front, and no more, make an anchor of their own. -/
def anchorOf (cs : List Char) : String :=
  match cs.takeWhile (· == '/') with
  | [] => ""
  | ['/', '/'] => "//"
  | _ => "/"

def isName (part : String) : Bool := part != "" && part != "."

def ofText (text : String) : Path :=
  let cs := text.toList
  ⟨anchorOf cs, ((cs.splitOn '/').map String.ofList).filter isName⟩

def isRelative (path : Path) : Bool := path.anchor == ""

def text (path : Path) : String :=
  let names := "/".intercalate path.names
  if path.isRelative then (if path.names.isEmpty then "." else names)
  else if path.names.isEmpty then path.anchor
  else if path.anchor.endsWith "/" then path.anchor ++ names
  else path.anchor ++ "/" ++ names

def join (base path : Path) : Path :=
  if path.isRelative then ⟨base.anchor, base.names ++ path.names⟩ else path

/-- Names without double dots; each of these takes back the name before it, if there is one. -/
def climb (names : List String) : List String :=
  (names.foldl (fun done name => if name = ".." then done.tail else name :: done) []).reverse

def resolve (base path : Path) : Path :=
  let joined := base.join path
  ⟨joined.anchor, climb joined.names⟩

def name (path : Path) : String := path.names.getLastD ""

/-- Stem and suffix of a name. The suffix starts at the last dot, unless that is the first or the
last character. -/
def splitName (name : String) : String × String :=
  let cs := name.toList
  let behind := (cs.reverse.takeWhile (· != '.')).reverse
  let stem := cs.take (cs.length - behind.length - 1)
  if behind.isEmpty || stem.isEmpty || behind.length = cs.length then (name, "")
  else (String.ofList stem, "." ++ String.ofList behind)

def suffix (path : Path) : String := (splitName path.name).2

def stem (path : Path) : String := (splitName path.name).1

def longestName : Nat := 255

def longestPath : Nat := 4095

def isLongName (name : String) : Bool := longestName < name.utf8ByteSize

def isLong (path : Path) : Bool := longestPath < path.text.utf8ByteSize

end Path

end CiPipeline.Files
