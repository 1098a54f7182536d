import CiPipeline.Calendar
import CiPipeline.Number.Reading
import CiPipeline.Text.Quoted

/-! Values of a description before anything is known about them: what a document holds, what a
workflow binds to a name, and what an error reports in its details. A collection may stand inside
itself. It is then a knot with a name, and inside it the name stands for the whole. -/
namespace CiPipeline

open Number

inductive Form
  | list
  | tuple
  | map
deriving DecidableEq, Repr

namespace Form

def kind : Form → String
  | list => "list"
  | tuple => "tuple"
  | map => "dict"

def ellipsis : Form → String
  | list => "[...]"
  | tuple => "(...)"
  | map => "\x7b...\x7d"

end Form

/-- Name of a collection that stands inside itself: the number of its node, and its position if it is
a pair among others. -/
structure KnotName where
  node : Nat
  position : Option Nat
deriving DecidableEq, Repr, Inhabited

inductive Document
  | null
  | bool (value : Bool)
  | int (value : Int)
  | float (value : Binary64)
  | text (value : String)
  | bytes (value : List UInt8)
  | date (value : Calendar.Date)
  | moment (value : Calendar.Moment)
  | list (items : List Document)
  | tuple (items : List Document)
  | set (items : List Document)
  | map (entries : List (Document × Document))
  /-- A collection in which its name may stand for the collection itself. -/
  | knot (name : KnotName) (inner : Document)
  | again (name : KnotName) (form : Form)
deriving Inhabited

namespace Document

def kind : Document → String
  | null => "NoneType"
  | bool _ => "bool"
  | int _ => "int"
  | float _ => "float"
  | text _ => "str"
  | bytes _ => "bytes"
  | date _ => "date"
  | moment _ => "datetime"
  | list _ => "list"
  | tuple _ => "tuple"
  | set _ => "set"
  | map _ => "dict"
  | knot _ inner => inner.kind
  | again _ form => form.kind

def longKind (value : Document) : String :=
  match value with
  | date _ | moment _ => "datetime." ++ value.kind
  | _ => value.kind

/-- Whether the value counts as given: neither empty, nor zero, nor false. -/
def isGiven : Document → Bool
  | null => false
  | bool value => value
  | int value => value != 0
  | float value => !value.isZero
  | text value => value != ""
  | bytes value => !value.isEmpty
  | date _ | moment _ => true
  | list items | tuple items | set items => !items.isEmpty
  | map entries => !entries.isEmpty
  | knot _ inner => inner.isGiven
  | again .. => true

def boolText (value : Bool) : String := if value then "True" else "False"

def floatText (value : Binary64) : String := String.ofList (writeBinary64 value)

/-- A single item needs a comma to read as a tuple. -/
def tupleText : List String → String
  | [item] => "(" ++ item ++ ",)"
  | items => "(" ++ ", ".intercalate items ++ ")"

def setText : List String → String
  | [] => "set()"
  | items => "\x7b" ++ ", ".intercalate items ++ "\x7d"

def mapText (entries : List String) : String :=
  "\x7b" ++ ", ".intercalate entries ++ "\x7d"

def ellipsis : Document → String
  | tuple _ => Form.tuple.ellipsis
  | map _ => Form.map.ellipsis
  | _ => Form.list.ellipsis

mutual

def displayIn (shown : List KnotName) : Document → String
  | null => "None"
  | bool value => boolText value
  | int value => Calendar.intText value
  | float value => floatText value
  | text value => Text.quoted value
  | bytes value => Text.quotedBytes value
  | date value => value.display
  | moment value => value.display
  | list items => "[" ++ ", ".intercalate (displayItems shown items) ++ "]"
  | tuple items => tupleText (displayItems shown items)
  | set items => setText (displayItems shown items)
  | map entries => mapText (displayEntries shown entries)
  | knot name inner =>
    if shown.contains name then inner.ellipsis else displayIn (name :: shown) inner
  | again _ form => form.ellipsis

def displayItems (shown : List KnotName) : List Document → List String
  | [] => []
  | item :: rest => item.displayIn shown :: displayItems shown rest

def displayEntries (shown : List KnotName) : List (Document × Document) → List String
  | [] => []
  | (key, value) :: rest =>
    (key.displayIn shown ++ ": " ++ value.displayIn shown) :: displayEntries shown rest

end

/-- A value as it stands inside a message, texts in quotes. A collection inside itself is shown as
dots in its brackets. -/
def display (value : Document) : String := value.displayIn []

/-- A value as a text of its own: a text is itself, and dates have their calendar form. -/
def render : Document → String
  | text value => value
  | date value => value.iso
  | moment value => value.isoWith " "
  | other => other.display

mutual

def hasLongNumber : Document → Bool
  | int value => isLong value
  | list items | tuple items | set items => anyLongNumber items
  | map entries => anyLongEntry entries
  | knot _ inner => hasLongNumber inner
  | _ => false

def anyLongNumber : List Document → Bool
  | [] => false
  | item :: rest => hasLongNumber item || anyLongNumber rest

def anyLongEntry : List (Document × Document) → Bool
  | [] => false
  | (key, value) :: rest => hasLongNumber key || hasLongNumber value || anyLongEntry rest

end

mutual

def tie (name : KnotName) (whole : Document) : Document → Document
  | list items => list (tieItems name whole items)
  | tuple items => tuple (tieItems name whole items)
  | set items => set (tieItems name whole items)
  | map entries => map (tieEntries name whole entries)
  | knot other inner =>
    if other = name then knot other inner else knot other (tie name whole inner)
  | again other form => if other = name then whole else again other form
  | plain => plain

def tieItems (name : KnotName) (whole : Document) : List Document → List Document
  | [] => []
  | item :: rest => tie name whole item :: tieItems name whole rest

def tieEntries (name : KnotName) (whole : Document) :
    List (Document × Document) → List (Document × Document)
  | [] => []
  | (key, value) :: rest =>
    (tie name whole key, tie name whole value) :: tieEntries name whole rest

end

/-- The collection of a knot, its parts being whole values again; any other value as it is. -/
def opened : Document → Document
  | knot name inner => tie name (knot name inner) inner
  | other => other

def wholeNumber? : Document → Option Int
  | bool value => some (if value then 1 else 0)
  | int value => some value
  | float value => value.toInt?
  | _ => none

mutual

/-- Equality of keys: numbers and truth values are compared by value. -/
def sameKey : Document → Document → Bool
  | null, null => true
  | text a, text b => a == b
  | bytes a, bytes b => a == b
  | date a, date b => a == b
  | moment a, moment b => a.same b
  | tuple a, tuple b => sameKeys a b
  | list a, list b => sameKeys a b
  | set a, set b => sameKeys a b
  | float a, float b => a.numEq b || a == b
  | a, b =>
    match a.wholeNumber?, b.wholeNumber? with
    | some m, some n => m == n
    | _, _ => false

def sameKeys : List Document → List Document → Bool
  | [], [] => true
  | a :: as, b :: bs => a.sameKey b && sameKeys as bs
  | _, _ => false

end

def sorted (items : List Document) : List Document :=
  items.mergeSort fun a b => !(b.display < a.display)

mutual

def refusedKey? : Document → Option Document
  | list items => some (list items)
  | set items => some (set items)
  | map entries => some (map entries)
  | tuple items => refusedKeyIn? items
  | knot _ inner => refusedKey? inner
  | again name form => some (again name form)
  | _ => none

def refusedKeyIn? : List Document → Option Document
  | [] => none
  | item :: rest =>
    match refusedKey? item with
    | some part => some part
    | none => refusedKeyIn? rest

end

end Document

/-- Entries in order, the keys pairwise different. -/
abbrev Entries := List (Document × Document)

namespace Entries

def get? (entries : Entries) (key : Document) : Option Document :=
  (entries.find? fun entry => entry.1.sameKey key).map (·.2)

def contains (entries : Entries) (key : Document) : Bool :=
  entries.any fun entry => entry.1.sameKey key

/-- A known key keeps its place and its spelling and takes the new value; an unknown one goes to the
end. -/
def put (key value : Document) : Entries → Entries
  | [] => [(key, value)]
  | entry :: rest =>
    if entry.1.sameKey key then (entry.1, value) :: rest else entry :: put key value rest

def ofPairs (pairs : List (Document × Document)) : Entries :=
  pairs.foldl (fun entries pair => put pair.1 pair.2 entries) []

def erase (entries : Entries) (key : Document) : Entries :=
  entries.filter fun entry => !entry.1.sameKey key

def field? (entries : Entries) (name : String) : Option Document :=
  entries.get? (.text name)

end Entries

end CiPipeline
