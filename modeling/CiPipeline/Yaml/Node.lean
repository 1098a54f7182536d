import CiPipeline.Yaml.Lexer
import CiPipeline.Yaml.Tag

/-! The nodes that the tokens of one document describe. Nodes are numbered, so that an alias can stand
for a node that is not complete: a collection may contain itself. -/
namespace CiPipeline.Yaml

abbrev NodeId := Nat

inductive Content
  | scalar (text : String)
  | sequence (items : List NodeId)
  | mapping (entries : List (NodeId × NodeId))

structure Node where
  tag : Tag
  content : Content

def Node.empty : Node := ⟨.null, .scalar ""⟩

abbrev Nodes := Array Node

namespace Nodes

def node (nodes : Nodes) (id : NodeId) : Node := nodes.getD id .empty

def tag (nodes : Nodes) (id : NodeId) : Tag := (nodes.node id).tag

def content (nodes : Nodes) (id : NodeId) : Content := (nodes.node id).content

def withTag (nodes : Nodes) (id : NodeId) (tag : Tag) : Nodes :=
  nodes.modify id fun node => { node with tag := tag }

def withContent (nodes : Nodes) (id : NodeId) (content : Content) : Nodes :=
  nodes.modify id fun node => { node with content := content }

end Nodes

structure Composer where
  tokens : List Token
  fault : Option Fault
  handles : List (String × String)
  nodes : Nodes
  anchors : List (String × NodeId)
  /-- How many collections are being read inside each other. -/
  depth : Nat

abbrev Compose := StateT Composer (Except Fault)

namespace Compose

def standardHandles : List (String × String) := [("!", "!"), ("!!", Tag.standard)]

def fail {α : Type} : Compose α := throw .malformed

def peek : Compose Token := do
  let state ← get
  match state.tokens with
  | token :: _ => pure token
  | [] => throw (state.fault.getD .malformed)

def next : Compose Token := do
  let token ← peek
  modify fun state => { state with tokens := state.tokens.tail }
  pure token

def isNext (choices : List Token) : Compose Bool := do
  let token ← peek
  pure (choices.contains token)

structure Properties where
  anchor : Option String
  tag : Option String

def address (handle : Option String) (suffix : String) : Compose String := do
  match handle with
  | none => pure suffix
  | some handle =>
    match (← get).handles.lookup handle with
    | some start => pure (start ++ suffix)
    | none => fail

def properties : Compose Properties := do
  match ← peek with
  | .anchor name =>
    let _ ← next
    match ← peek with
    | .tag handle suffix =>
      let _ ← next
      pure ⟨some name, some (← address handle suffix)⟩
    | _ => pure ⟨some name, none⟩
  | .tag handle suffix =>
    let _ ← next
    match ← peek with
    | .anchor name =>
      let _ ← next
      pure ⟨some name, some (← address handle suffix)⟩
    | _ => pure ⟨none, some (← address handle suffix)⟩
  | _ => pure ⟨none, none⟩

def Properties.explicitTag? (properties : Properties) : Option Tag :=
  match properties.tag with
  | none => none
  | some "!" => none
  | some address => some (Tag.ofAddress address)

def Properties.scalarTag (properties : Properties) (plain : Bool) (text : String) : Tag :=
  match properties.tag with
  | some "!" => Tag.ofPlain text
  | some address => Tag.ofAddress address
  | none => if plain then Tag.ofPlain text else .text

def add (anchor : Option String) (node : Node) : Compose NodeId := do
  let state ← get
  let id := state.nodes.size
  match anchor with
  | none => set { state with nodes := state.nodes.push node }
  | some name =>
    if (state.anchors.lookup name).isSome then fail
    else set { state with nodes := state.nodes.push node, anchors := (name, id) :: state.anchors }
  pure id

def addEmpty : Compose NodeId := add none .empty

def fill (id : NodeId) (content : Content) : Compose NodeId := do
  modify fun state => { state with nodes := state.nodes.withContent id content }
  pure id

def depthLimit : Nat := 490

def within {α : Type} (parts : Compose α) : Compose α := do
  let depth := (← get).depth
  if depthLimit ≤ depth then throw .tooDeep
  modify fun state => { state with depth := depth + 1 }
  let read ← parts
  modify fun state => { state with depth := depth }
  pure read

def sequence (anchor : Option String) (tag : Tag) (items : Compose (List NodeId)) :
    Compose NodeId := do
  let id ← add anchor ⟨tag, .sequence []⟩
  fill id (.sequence (← within items))

def mapping (anchor : Option String) (tag : Tag) (entries : Compose (List (NodeId × NodeId))) :
    Compose NodeId := do
  let id ← add anchor ⟨tag, .mapping []⟩
  fill id (.mapping (← within entries))

def aliased (name : String) : Compose NodeId := do
  match (← get).anchors.lookup name with
  | some id => pure id
  | none => fail

/-- Where a node stands decides which collections may begin there. -/
inductive Place
  | flow
  | block
  | blockOrDashes
deriving DecidableEq

def Place.allowsBlock (place : Place) : Bool := place != .flow

mutual

def node : Nat → Place → Compose NodeId
  | 0, _ => fail
  | fuel + 1, place => do
    match ← peek with
    | .alias name =>
      let _ ← next
      aliased name
    | _ =>
      let properties ← properties
      let anchor := properties.anchor
      let sequenceTag := properties.explicitTag?.getD .sequence
      let mappingTag := properties.explicitTag?.getD .mapping
      let token ← peek
      if place = .blockOrDashes && token == .blockEntry then
        sequence anchor sequenceTag (dashes fuel)
      else
        match token with
        | .scalar text plain =>
          let _ ← next
          add anchor ⟨properties.scalarTag plain text, .scalar text⟩
        | .flowSequenceStart =>
          let _ ← next
          sequence anchor sequenceTag (flowItems fuel true)
        | .flowMappingStart =>
          let _ ← next
          mapping anchor mappingTag (flowEntries fuel true)
        | .blockSequenceStart =>
          if !place.allowsBlock then bare properties
          else
            let _ ← next
            sequence anchor sequenceTag (blockItems fuel)
        | .blockMappingStart =>
          if !place.allowsBlock then bare properties
          else
            let _ ← next
            mapping anchor mappingTag (blockEntries fuel)
        | _ => bare properties

def bare (properties : Properties) : Compose NodeId := do
  if properties.anchor.isNone && properties.tag.isNone then fail
  else
    let implicit := properties.tag.isNone || properties.tag == some "!"
    add properties.anchor ⟨properties.scalarTag implicit "", .scalar ""⟩

def nodeUnless : Nat → Place → List Token → Compose NodeId
  | 0, _, _ => fail
  | fuel + 1, place, stops => do
    if ← isNext stops then addEmpty else node fuel place

def blockItems : Nat → Compose (List NodeId)
  | 0 => fail
  | fuel + 1 => do
    match ← next with
    | .blockEntry =>
      let item ← nodeUnless fuel .block [.blockEntry, .blockEnd]
      let rest ← blockItems fuel
      pure (item :: rest)
    | .blockEnd => pure []
    | _ => fail

def dashes : Nat → Compose (List NodeId)
  | 0 => fail
  | fuel + 1 => do
    match ← peek with
    | .blockEntry =>
      let _ ← next
      let item ← nodeUnless fuel .block [.blockEntry, .key, .value, .blockEnd]
      let rest ← dashes fuel
      pure (item :: rest)
    | _ => pure []

def blockEntries : Nat → Compose (List (NodeId × NodeId))
  | 0 => fail
  | fuel + 1 => do
    match ← peek with
    | .key =>
      let _ ← next
      let key ← nodeUnless fuel .blockOrDashes [.key, .value, .blockEnd]
      let value ← blockValue fuel
      let rest ← blockEntries fuel
      pure ((key, value) :: rest)
    | .blockEnd =>
      let _ ← next
      pure []
    | _ => fail

def blockValue : Nat → Compose NodeId
  | 0 => fail
  | fuel + 1 => do
    if ← isNext [.value] then
      let _ ← next
      nodeUnless fuel .blockOrDashes [.key, .value, .blockEnd]
    else addEmpty

def flowItems : Nat → Bool → Compose (List NodeId)
  | 0, _ => fail
  | fuel + 1, first => do
    match ← peek with
    | .flowSequenceEnd =>
      let _ ← next
      pure []
    | token =>
      if !first then
        if token == .flowEntry then
          let _ ← next
        else fail
      match ← peek with
      | .key =>
        let _ ← next
        let item ← mapping none .mapping do
          let key ← nodeUnless fuel .flow [.value, .flowEntry, .flowSequenceEnd]
          let value ← flowValue fuel .flowSequenceEnd
          pure [(key, value)]
        let rest ← flowItems fuel false
        pure (item :: rest)
      | .flowSequenceEnd =>
        let _ ← next
        pure []
      | _ =>
        let item ← node fuel .flow
        let rest ← flowItems fuel false
        pure (item :: rest)

def flowEntries : Nat → Bool → Compose (List (NodeId × NodeId))
  | 0, _ => fail
  | fuel + 1, first => do
    match ← peek with
    | .flowMappingEnd =>
      let _ ← next
      pure []
    | token =>
      if !first then
        if token == .flowEntry then
          let _ ← next
        else fail
      match ← peek with
      | .key =>
        let _ ← next
        let key ← nodeUnless fuel .flow [.value, .flowEntry, .flowMappingEnd]
        let value ← flowValue fuel .flowMappingEnd
        let rest ← flowEntries fuel false
        pure ((key, value) :: rest)
      | .flowMappingEnd =>
        let _ ← next
        pure []
      | _ =>
        let key ← node fuel .flow
        let value ← addEmpty
        let rest ← flowEntries fuel false
        pure ((key, value) :: rest)

def flowValue : Nat → Token → Compose NodeId
  | 0, _ => fail
  | fuel + 1, closing => do
    if ← isNext [.value] then
      let _ ← next
      nodeUnless fuel .flow [.flowEntry, closing]
    else addEmpty

end

def directives : Nat → Bool → List (String × String) → Compose (List (String × String))
  | 0, _, _ => fail
  | fuel + 1, versioned, handles => do
    match ← peek with
    | .directive content =>
      let _ ← next
      match content with
      | .version major _ =>
        if versioned || major != 1 then fail else directives fuel true handles
      | .tagHandle handle start =>
        if (handles.lookup handle).isSome then fail
        else directives fuel versioned ((handle, start) :: handles)
      | .reserved _ => directives fuel versioned handles
    | _ => pure handles

def skipDocumentEnds : Nat → Compose Unit
  | 0 => pure ()
  | fuel + 1 => do
    if ← isNext [.documentEnd] then
      let _ ← next
      skipDocumentEnds fuel

/-- What may come before a document that is not announced. -/
def announces : Token → Bool
  | .directive _ | .documentStart | .streamEnd => true
  | _ => false

def endsContent (token : Token) : Bool :=
  announces token || token == .documentEnd

def announcement (fuel : Nat) : Compose Unit := do
  let handles ← directives fuel false []
  if !(← isNext [.documentStart]) then fail
  let _ ← next
  modify fun state => { state with handles := handles ++ standardHandles }

/-- The root of the only document of the text, if it has one. What comes behind it is read up to
where a second document starts, which must not be there. -/
def document (fuel : Nat) : Compose (Option NodeId) := do
  let root ←
    if !announces (← peek) then some <$> node fuel .block
    else do
      skipDocumentEnds fuel
      if ← isNext [.streamEnd] then pure none
      else
        announcement fuel
        if endsContent (← peek) then some <$> addEmpty else some <$> node fuel .block
  skipDocumentEnds fuel
  if ← isNext [.streamEnd] then pure root
  else
    announcement fuel
    fail

end Compose

structure Composition where
  nodes : Nodes
  root : NodeId

def Composition.read (text : String) : Except Fault (Option Composition) :=
  let read := tokens text.toList
  let composer : Composer := ⟨read.1, read.2, Compose.standardHandles, #[], [], 0⟩
  ((Compose.document (4 * read.1.length + 8)).run composer).map fun done =>
    done.1.map (⟨done.2.nodes, ·⟩)

end CiPipeline.Yaml
