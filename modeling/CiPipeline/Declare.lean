import CiPipeline.Failure
import CiPipeline.Pipeline.Basic

/-! Declaring steps and jobs directly, without a document. What is handed over may be any value; it is
taken as it comes, so a declared job is a draft and its parts may be of any kind. Lists are read from
whatever can be walked through. -/
namespace CiPipeline.Declare

abbrev DraftEnv := List (Document × String)

structure StepDraft where
  name : String
  run : String
  cwd : Document
  timeout : Document
  env : DraftEnv
  shell : Document

structure JobDraft where
  name : String
  steps : List StepDraft
  needs : List Document
  matrix : List (Document × List Document)
  env : DraftEnv
  title : Option String
  runsOn : Option String

def JobDraft.displayName (job : JobDraft) : String := (givenText job.title).getD job.name

def StepDraft.ofStep (step : Step) : StepDraft where
  name := step.name
  run := step.run
  cwd := (step.cwd.map .text).getD .null
  timeout := (step.timeout.map Scalar.toDocument).getD .null
  env := step.env.map fun entry => (.text entry.1, entry.2)
  shell := (step.shell.map .text).getD .null

/-- The items of a value: characters of a text, numbers of bytes, keys of a mapping. -/
def items : Document → Except Crash (List Document)
  | .list values | .tuple values | .set values => .ok values
  | .text value => .ok (value.toList.map fun c => .text (String.singleton c))
  | .bytes value => .ok (value.map fun byte => .int byte.toNat)
  | .map entries => .ok (entries.map (·.1))
  | value => .error (.notIterable value)

def entries (value : Document) : Except Crash Entries :=
  match value with
  | .map entries => .ok entries
  | _ => if value.isGiven then .error (.noAttribute value "items") else .ok []

def givenItems (value : Document) : Except Crash (List Document) :=
  if value.isGiven then items value else .ok []

/-- The plain spelling of values under their keys, unless a number among them is too long to be written out. -/
def spellPlainly {κ : Type} (entries : List (κ × Document)) : Except Crash (List (κ × String)) :=
  if entries.any fun entry => entry.2.hasLongNumber then .error .longNumber
  else .ok (entries.map fun entry => (entry.1, entry.2.render))

def env (value : Document) : Except Crash DraftEnv := (entries value).bind spellPlainly

def step (name run : String) (cwd timeout environ shell : Document) : Except Crash StepDraft := do
  return ⟨name, run, cwd, timeout, ← env environ, shell⟩

abbrev Axes := List (Document × List Document)

def putAxis (key : Document) (values : List Document) : Axes → Axes
  | [] => [(key, values)]
  | axis :: rest =>
    if axis.1.sameKey key then (axis.1, values) :: rest else axis :: putAxis key values rest

def addAxis (axes : Axes) (key values : Document) : Except Crash Axes := do
  let values ← items values
  match key.refusedKey? with
  | some part => throw (.notAKey part)
  | none => return putAxis key values axes

def axesOf (pairs : List (Document × Document)) : Except Crash Axes :=
  pairs.foldlM (fun axes pair => addAxis axes pair.1 pair.2) []

def axes (value : Document) : Except Crash Axes := (entries value).bind axesOf

structure JobParts where
  needs : Document
  env : Document
  title : Option String
  runsOn : Option String
  /-- Working directory of the steps that name none. -/
  cwd : Option String

def withCwd (cwd : Option String) (step : StepDraft) : StepDraft :=
  match step.cwd, cwd with
  | .null, some cwd => { step with cwd := .text cwd }
  | _, _ => step

def jobWithoutSteps (name : String) : Crash :=
  .badValue ("job(" ++ Text.quoted name ++ ") must have at least one step")

/-- A job with axes that are read after its steps are known to be there. -/
def job (name : String) (steps : List StepDraft) (matrix : Except Crash Axes) (parts : JobParts) :
    Except Crash JobDraft := do
  if steps.isEmpty then throw (jobWithoutSteps name)
  let matrix ← matrix
  let needs ← givenItems parts.needs
  let environ ← env parts.env
  return ⟨name, steps.map (withCwd parts.cwd), needs, matrix, environ, parts.title, parts.runsOn⟩

structure Builder where
  name : String
  needs : List Document
  steps : List StepDraft
  env : Keyed String
  matrix : Axes
  title : Option String
  runsOn : Option String

namespace Builder

def start (name : String) : Builder := ⟨name, [], [], [], [], none, none⟩

def dependsOn (builder : Builder) (names : List Document) : Builder :=
  { builder with needs := builder.needs ++ names }

def defineStep (builder : Builder) (name run : String) (cwd timeout : Document) : Builder :=
  { builder with steps := builder.steps ++ [⟨name, run, cwd, timeout, [], .null⟩] }

def withEnv (builder : Builder) (environ : Keyed Document) : Except Crash Builder :=
  (spellPlainly environ).map fun env => { builder with env := builder.env.putAll env }

def withMatrix (builder : Builder) (axis values : Document) : Except Crash Builder :=
  (addAxis builder.matrix axis values).map fun matrix => { builder with matrix := matrix }

def titled (builder : Builder) (title : String) : Builder :=
  { builder with title := some title }

def on (builder : Builder) (runsOn : String) : Builder :=
  { builder with runsOn := some runsOn }

def draftEnv (builder : Builder) : DraftEnv :=
  builder.env.map fun entry => (.text entry.1, entry.2)

def build (builder : Builder) : Except Crash JobDraft :=
  if builder.steps.isEmpty then
    .error (.badValue ("Job '" ++ builder.name ++ "' has no steps"))
  else
    .ok ⟨builder.name, builder.steps, builder.needs, builder.matrix, builder.draftEnv,
      builder.title, builder.runsOn⟩

end Builder

end CiPipeline.Declare
