import CiPipeline.Yaml.Node
import CiPipeline.Yaml.ScalarValue

/-! What nodes become: values without parts, and collections of what other nodes become. Collections
are built from the outside in, all those of one depth before any deeper one, and every node once. So
of several faults the least deep is reported, and among those of one depth the first. -/
namespace CiPipeline.Yaml

inductive Object
  | plain (value : Document)
  | list (items : List NodeId)
  | pairs (items : List (NodeId × NodeId))
  | set (items : List NodeId)
  | map (entries : List (NodeId × NodeId))

abbrev Objects := Array (Option Object)

namespace Tag

def isCollection : Tag → Bool
  | sequence | mapping | set | orderedMap | pairs => true
  | _ => false

def isScalar : Tag → Bool
  | null | bool | int | float | binary | timestamp | text => true
  | _ => false

end Tag

namespace Nodes

def entries (nodes : Nodes) (id : NodeId) : List (NodeId × NodeId) :=
  match nodes.content id with
  | .mapping entries => entries
  | _ => []

def isMapping (nodes : Nodes) (id : NodeId) : Bool :=
  match nodes.content id with
  | .mapping _ => true
  | _ => false

/-- The text of a scalar, or of what a mapping holds under its default key. The way from mapping to
mapping is endless if it is longer than there are nodes. -/
def textOf (nodes : Nodes) : Nat → NodeId → Except ValueFault String
  | 0, _ => .error .tooDeep
  | fuel + 1, id =>
    match nodes.content id with
    | .scalar text => .ok text
    | .sequence _ => .error .invalid
    | .mapping entries =>
      match entries.find? fun entry => nodes.tag entry.1 = .valueKey with
      | some entry => textOf nodes fuel entry.2
      | none => .error .invalid

def scalarValue (nodes : Nodes) (id : NodeId) : Except ValueFault Document := do
  let tag := nodes.tag id
  if !tag.isScalar then throw .invalid
  let text ← nodes.textOf (nodes.size + 1) id
  if tag = .timestamp && nodes.isMapping id then throw .timestampOfEntries
  readScalar tag text

end Nodes

/-- What is known while nodes become objects: the nodes, which change where mappings are merged, and
the collections whose parts are still to be built, the last one first. -/
structure Builder where
  nodes : Nodes
  objects : Objects
  waiting : List NodeId

abbrev Build := StateT Builder (Except ValueFault)

namespace Build

def nodes : Build Nodes := do return (← get).nodes

def modifyNodes (change : Nodes → Nodes) : Build Unit :=
  modify fun builder => { builder with nodes := change builder.nodes }

def setObject (id : NodeId) (object : Object) : Build Unit :=
  modify fun builder => { builder with objects := builder.objects.setIfInBounds id (some object) }

def takeMerge? (id : NodeId) : Build (Option NodeId) := do
  let nodes ← nodes
  let entries := nodes.entries id
  match entries.findIdx? fun entry => nodes.tag entry.1 = .merge with
  | none => pure none
  | some index =>
    modifyNodes (·.withContent id (.mapping (entries.eraseIdx index)))
    pure (entries[index]?.map (·.2))

def mergeSources (id : NodeId) : Build (List NodeId) := do
  let nodes ← nodes
  match nodes.content id with
  | .mapping _ => pure [id]
  | .sequence items => if items.all nodes.isMapping then pure items else throw .invalid
  | .scalar _ => throw .invalid

def asText (nodes : Nodes) (key : NodeId) : Nodes :=
  if nodes.tag key = .valueKey then nodes.withTag key .text else nodes

/-- Puts the entries that merge keys bring in before the entries of the mapping itself. Each round
takes one merge key away for good, so there are at most as many rounds within each other as there
are entries. -/
def flatten : Nat → NodeId → Build Unit
  | 0, _ => throw .invalid
  | fuel + 1, id => do
    match ← takeMerge? id with
    | none =>
      modifyNodes fun nodes => (nodes.entries id).foldl (fun nodes entry => asText nodes entry.1) nodes
    | some merged =>
      let sources ← mergeSources merged
      sources.forM (flatten fuel)
      let brought := sources.reverse.flatMap (← nodes).entries
      flatten fuel id
      modifyNodes fun nodes => nodes.withContent id (.mapping (brought ++ nodes.entries id))

/-- Builds a node unless it is built; the parts of a collection have to wait. -/
def reach (id : NodeId) : Build Unit := do
  let builder ← get
  if (builder.objects.getD id none).isNone then
    if (builder.nodes.tag id).isCollection then
      setObject id (.list [])
      modify fun builder => { builder with waiting := id :: builder.waiting }
    else
      let value ← builder.nodes.scalarValue id
      setObject id (.plain value)

def reachKey (id : NodeId) : Build Unit := do
  reach id
  if ((← nodes).tag id).isCollection then throw .invalid

def pairOf (item : NodeId) : Build (NodeId × NodeId) := do
  match (← nodes).content item with
  | .mapping [entry] =>
    reach entry.1
    reach entry.2
    pure entry
  | _ => throw .invalid

def entriesOf (fuel : Nat) (id : NodeId) : Build (List (NodeId × NodeId)) := do
  flatten fuel id
  let entries := (← nodes).entries id
  entries.forM fun entry => do
    reachKey entry.1
    reach entry.2
  pure entries

def collection (fuel : Nat) (id : NodeId) : Build Object := do
  let node := (← nodes).node id
  match node.tag, node.content with
  | .sequence, .sequence items =>
    items.forM reach
    pure (.list items)
  | .orderedMap, .sequence items | .pairs, .sequence items => .pairs <$> items.mapM pairOf
  | .mapping, .mapping _ => .map <$> entriesOf fuel id
  | .set, .mapping _ => (fun entries => .set (entries.map (·.1))) <$> entriesOf fuel id
  | _, _ => throw .invalid

def rounds (entryCount : Nat) : Nat → Build Unit
  | 0 => pure ()
  | depth + 1 => do
    let round := (← get).waiting.reverse
    if !round.isEmpty then
      modify fun builder => { builder with waiting := [] }
      round.forM fun id => do setObject id (← collection entryCount id)
      rounds entryCount depth

end Build

def Nodes.entryCount (nodes : Nodes) : Nat :=
  nodes.foldl
    (fun count node =>
      match node.content with
      | .mapping entries => count + entries.length
      | _ => count)
    0

def Composition.objects (composition : Composition) : Except ValueFault Objects :=
  let nodes := composition.nodes
  let start : Builder := ⟨nodes, Array.replicate nodes.size none, []⟩
  let all : Build Unit := do
    Build.reach composition.root
    Build.rounds (nodes.entryCount + 1) (nodes.size + 1)
  (all.run start).map (·.2.objects)

end CiPipeline.Yaml
