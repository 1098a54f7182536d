import CiPipeline.Failure
import CiPipeline.Graph.Jobs

/-! Levels of a graph. Names that wait for nothing make the first level; every further level holds the
names whose last prerequisite lies in the level before. What is left over waits in a cycle. -/
namespace CiPipeline.Levels

/-- Where names stand in a level: by their rank if there is one for them, else alphabetically. -/
abbrev Ranks := Option (Keyed Int)

def rank? (ranks : Ranks) (name : String) : Except Failure Int :=
  match ranks with
  | none => .ok 0
  | some ranks =>
    match ranks.get? name with
    | some rank => .ok rank
    | none => .error (.crash (.missingKey (.text name)))

def before (ranks : Ranks) (a b : String × Int) : Bool :=
  match ranks with
  | none => !(b.1 < a.1)
  | some _ => a.2 ≤ b.2

def arrange (ranks : Ranks) (names : List String) : Except Failure (List String) := do
  let ranked ← names.mapM fun name => (rank? ranks name).map fun rank => (name, rank)
  return (ranked.mergeSort (before ranks)).map (·.1)

/-- How many prerequisites each name still waits for, and the names that became free. -/
structure State where
  waiting : Keyed Int
  free : List String

def State.release (state : State) (name : String) : Except Failure State :=
  match state.waiting.get? name with
  | none => .error (.crash (.missingKey (.text name)))
  | some count =>
    let waiting := state.waiting.put name (count - 1)
    .ok ⟨waiting, if count = 1 then state.free ++ [name] else state.free⟩

def State.finish (dependents : Keyed (List String)) (state : State) (level : List String) :
    Except Failure State :=
  (level.flatMap fun name => JobGraph.distinct ((dependents.get? name).getD [])).foldlM
    State.release state

def levelsFrom (dependents : Keyed (List String)) (ranks : Ranks) :
    Nat → State → Except Failure (List (List String) × State)
  | 0, state => .ok ([], state)
  | bound + 1, state => do
    if state.free.isEmpty then return ([], state)
    let level ← arrange ranks state.free
    let next ← State.finish dependents ⟨state.waiting, []⟩ level
    let (levels, last) ← levelsFrom dependents ranks bound next
    return (level :: levels, last)

def of (dependents : Keyed (List String)) (needCount : Keyed Int) (ranks : Ranks) :
    Except Failure (List (List String)) := do
  let free := Keyed.names (needCount.filter fun entry => entry.2 == 0)
  let first ← arrange ranks free
  let (levels, last) ← levelsFrom dependents ranks (needCount.length + 1) ⟨needCount, first⟩
  if levels.flatten.length = needCount.length then return levels
  else
    let stuck ← arrange ranks (Keyed.names (last.waiting.filter fun entry => 0 < entry.2))
    throw (.problem (.cycle stuck))

end CiPipeline.Levels
