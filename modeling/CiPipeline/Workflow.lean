import CiPipeline.Failure
import CiPipeline.Files.Path
import CiPipeline.Pipeline.Basic

/-! Workflows. A workflow file is a program; what counts here is what it leaves behind: the values it
binds to the names of the pipeline, its environment and its jobs, the routine that builds the jobs,
and how it failed if it did. -/
namespace CiPipeline

/-- What is bound or returned as the jobs: a list, whose items may be no jobs, or no list at all. -/
inductive Listing
  | items (entries : List (Option Job))
  | other

inductive Routine
  | value
  | returns (listing : Listing)
  | raises (failure : Failure)

structure Workflow where
  name : Option Document
  env : Option Document
  jobs : Option Listing
  routine : Option Routine
  failure : Option Failure

namespace Workflow

def empty : Workflow := ⟨none, none, none, none, none⟩

/-- Problems and interrupts pass through; any other failure becomes a problem of its own. -/
def guarded (wrap : String → Problem) (failure : Failure) : Failure :=
  match failure with
  | .problem _ => failure
  | .crash crash =>
    if crash.isInterrupt then failure else .problem (wrap crash.labelled)

def listing (path : String) (workflow : Workflow) : Except Failure (Option Listing) :=
  match workflow.failure with
  | some failure => .error (guarded (.workflowBroken path) failure)
  | none =>
    match workflow.routine with
    | some (.returns listing) => .ok (some listing)
    | some (.raises failure) => .error (guarded (.workflowFailed path) failure)
    | _ => .ok workflow.jobs

def jobsOf? : Option Listing → Option (List Job)
  | some (.items entries) => entries.mapM id
  | _ => none

/-- A value as the name of the pipeline; without one it is named after the file. -/
def nameOf (path : Files.Path) (name : Option Document) : Except Crash String :=
  match name with
  | none => .ok path.stem
  | some value => if value.hasLongNumber then .error .longNumber else .ok value.render

def envOf (env : Option Document) : Except Crash Env :=
  match env with
  | none => .ok []
  | some value =>
    match value.opened with
    | .map entries =>
      if Document.anyLongEntry entries then .error .longNumber
      else .ok (Keyed.ofPairs (entries.map fun entry => (entry.1.render, entry.2.spelled)))
    | _ => if value.isGiven then .error (.noAttribute value "items") else .ok []

def toPipeline (path : Files.Path) (workflow : Workflow) : Except Failure Pipeline := do
  let listing ← workflow.listing path.text
  match jobsOf? listing with
  | none => throw (.problem (.workflowWithoutJobs path.text))
  | some jobs =>
    let name ← (nameOf path workflow.name).mapError .crash
    let env ← (envOf workflow.env).mapError .crash
    return ⟨name, jobs, env, []⟩

end Workflow

end CiPipeline
