import CiPipeline.Schema.Checked
import CiPipeline.Scalar
import CiPipeline.Number.Reading

/-! Fields of a description. Each reader says which values it takes and what it says of the others.
Bytes that are UTF-8 count as a text, and lists may be written as tuples or sets. -/
namespace CiPipeline.Schema

open Number Text

def notText : String := "Input should be a valid string"

def notUtf8 : String := notText ++ ", unable to parse raw data as a unicode string"

def notNumber : String := "Input should be a valid number"

def notNumeral : String := notNumber ++ ", unable to parse string as a number"

def notInteger : String := "Input should be a valid integer"

def notTruth : String := "Input should be a valid boolean"

def notMap : String := "Input should be a valid dictionary"

def notList : String := "Input should be a valid list"

def readText : Document → Checked String
  | .text value => .valid value
  | .bytes value =>
    match decodeStrict? value with
    | some cs => .valid (String.ofList cs)
    | none => .refuse notUtf8
  | _ => .refuse notText

def hasDoubled (c : Char) : List Char → Bool
  | first :: second :: rest => (first == c && second == c) || hasDoubled c (second :: rest)
  | _ => false

/-- Underscores removed, unless one of them stands at an end or beside another one. -/
def joinGroups? (cs : List Char) : Option (List Char) :=
  if cs.head? == some '_' || cs.getLast? == some '_' || hasDoubled '_' cs then none
  else some (cs.filter (· != '_'))

def readNumeral (cs : List Char) : Checked Binary64 :=
  match (readSigned? (trimChars isWhiteSpace cs)).or ((joinGroups? cs).bind readSigned?) with
  | some x => .valid x
  | none => .refuse notNumeral

def readNumber : Document → Checked Binary64
  | .text value => readNumeral value.toList
  | .bytes value =>
    match decodeStrict? value with
    | some cs => readNumeral cs
    | none => .refuse notNumeral
  | value =>
    match value.scalar?.bind Scalar.toBinary64? with
    | some x => .valid x
    | none => .refuse notNumber

def readPositive (value : Document) : Checked Binary64 :=
  (readNumber value).andThen fun x =>
    if x.isPositive then .valid x else .refuse "Input should be greater than 0"

def readOptional {α : Type} (read : Document → Checked α) : Document → Checked (Option α)
  | .null => .valid none
  | value => (read value).map some

def keyPlace : Document → String
  | .text value => value
  | .bool value => if value then "1" else "0"
  | key =>
    if key.hasLongNumber then "<unprintable " ++ key.kind ++ " object>" else key.display

def readKey (key : Document) : Checked String :=
  ((readText key).under "[key]").under (keyPlace key)

/-- A mapping whose keys are texts; of two keys with the same text the later value stays. -/
def readMap {α : Type} (read : Document → Checked α) (value : Document) : Checked (Keyed α) :=
  match value.opened with
  | .map entries =>
    (Checked.all (entries.map fun entry =>
      Checked.both (readKey entry.1) ((read entry.2).under (keyPlace entry.1)))).map Keyed.ofPairs
  | _ => .refuse notMap

def readOpenMap : Document → Checked (Keyed Document) := readMap .valid

/-- The value of a variable: a text, a number or a truth value. Anything else fails in four ways. -/
def readScalar (value : Document) : Checked Scalar :=
  match value with
  | .bytes bytes =>
    match decodeStrict? bytes with
    | some cs => .valid (.text (String.ofList cs))
    | none => .invalid
      [⟨["str"], notUtf8⟩, ⟨["int"], notInteger ++ ", unable to parse string as an integer"⟩,
        ⟨["float"], notNumeral⟩, ⟨["bool"], notTruth ++ ", unable to interpret input"⟩]
  | _ =>
    match value.scalar? with
    | some scalar => .valid scalar
    | none => .invalid
      [⟨["str"], notText⟩, ⟨["int"], notInteger⟩, ⟨["float"], notNumber⟩, ⟨["bool"], notTruth⟩]

def readItems {α : Type} (read : Document → Checked α) (items : List Document) :
    Checked (List α) :=
  Checked.all (items.mapIdx fun position item =>
    (read item).under (Calendar.natText position))

def readList {α : Type} (read : Document → Checked α) (value : Document) : Checked (List α) :=
  match value.opened with
  | .list items | .tuple items | .set items => readItems read items
  | _ => .refuse notList

/-- A field of a mapping: the name under which it stands, its own name or the alias, which wins, and
its value. -/
def findField (fields : Entries) (alias? : Option String) (name : String) :
    Option (String × Document) :=
  match alias?.bind fun other => (fields.field? other).map fun value => (other, value) with
  | some found => some found
  | none => (fields.field? name).map fun value => (name, value)

def readField {α : Type} (fields : Entries) (alias? : Option String) (name : String) (absent : α)
    (read : Document → Checked α) : Checked α :=
  match findField fields alias? name with
  | some (key, value) => (read value).under key
  | none => .valid absent

def readRequired {α : Type} (fields : Entries) (name : String) (read : Document → Checked α) :
    Checked α :=
  match fields.field? name with
  | some value => (read value).under name
  | none => (Checked.refuse "Field required").under name

end CiPipeline.Schema
