import CiPipeline.Yaml.Object

/-! The value of a text: the tree of what its nodes become. Where a collection stands inside itself, the
tree has a name in its place. -/
namespace CiPipeline.Yaml

abbrev Known := Array (Option Document)

structure Unfolded where
  value : Document
  hasNames : Bool

namespace Unfolded

def knot (name : KnotName) (unfolded : Unfolded) : Unfolded :=
  if unfolded.hasNames then { unfolded with value := .knot name unfolded.value } else unfolded

def collect (values : List Unfolded) (form : List Document → Document) : Unfolded :=
  ⟨form (values.map (·.value)), values.any (·.hasNames)⟩

def ofPair (name : KnotName) (parts : List Unfolded) : Unfolded :=
  (collect parts .tuple).knot name

def ofEntries (entries : List (Unfolded × Unfolded)) : Unfolded :=
  ⟨.map (Entries.ofPairs (entries.map fun entry => (entry.1.value, entry.2.value))),
    entries.any (·.2.hasNames)⟩

def setOf (items : List Document) : Document :=
  .set (Document.sorted ((Entries.ofPairs (items.map fun item => (item, .null))).map (·.1)))

end Unfolded

def Object.form : Object → Form
  | .map _ => .map
  | _ => .list

def Object.assemble (id : NodeId) (unfold : NodeId → StateM Known Unfolded) :
    Object → StateM Known Unfolded
  | .plain value => pure ⟨value, false⟩
  | .list items => return .collect (← items.mapM unfold) .list
  | .set items => return .collect (← items.mapM unfold) Unfolded.setOf
  | .pairs items => do
    let tuples ← items.zipIdx.mapM fun item =>
      return .ofPair ⟨id, some item.2⟩ [← unfold item.1.1, ← unfold item.1.2]
    return .collect tuples .list
  | .map entries => do
    let entries ← entries.mapM fun entry => return (← unfold entry.1, ← unfold entry.2)
    return .ofEntries entries

/-- The value of a node inside the collections of a path. No path is longer than there are nodes. -/
def Objects.unfold (objects : Objects) : Nat → List NodeId → NodeId → StateM Known Unfolded
  | 0, _, _ => pure ⟨.null, false⟩
  | fuel + 1, path, id => do
    match (← get).getD id none, objects.getD id none with
    | some value, _ => pure ⟨value, false⟩
    | none, none => pure ⟨.null, false⟩
    | none, some object =>
      if path.contains id then pure ⟨.again ⟨id, none⟩ object.form, true⟩
      else
        let unfolded ← object.assemble id (objects.unfold fuel (id :: path))
        if !unfolded.hasNames then
          modify fun known => known.setIfInBounds id (some unfolded.value)
        pure (unfolded.knot ⟨id, none⟩)

def Composition.value (composition : Composition) : Except ValueFault Document :=
  composition.objects.map fun objects =>
    ((objects.unfold (objects.size + 1) [] composition.root).run
      (Array.replicate objects.size none)).1.value

def Fault.toValueFault : Fault → ValueFault
  | malformed => .invalid
  | beyondLastChar => .beyondLastChar
  | beyondWord => .beyondWord
  | longNumber count => .badInt 10 "" (.tooManyDigits count)
  | tooDeep => .tooDeep

/-- The value of a text with one document; a text without any has the value null. -/
def read (text : String) : Except ValueFault Document :=
  match Composition.read text with
  | .error fault => .error fault.toValueFault
  | .ok none => .ok .null
  | .ok (some composition) => composition.value

end CiPipeline.Yaml
