import CiPipeline.Console
import CiPipeline.Schedule.Cascade

/-! The schedule of a run. An instance is submitted as soon as all its prerequisites succeeded, and of
the submitted ones a few run at the same time. Each time one of them has ended, its result is
stored; a success may free other instances, and anything else cancels all that wait for it. Whose
result is stored next is left to a policy: the others behind it may have started and ended meanwhile. -/
namespace CiPipeline.Schedule

structure Runner (ω : Type) where
  run : Instance → ω → Except Failure JobResult × ω
  tell : List Line → ω → ω

/-- The position of the instance whose result is stored next, given how many run at the same time, which
have a result so far, and which are submitted. A position beyond the end means the first one. -/
abbrev Policy := Nat → List String → List String → Nat

/-- As many as run at the same time are taken from the front. Of these the earliest of an order is next, or
the one that was submitted first where none of them is in it. -/
def Policy.ordered (order : List String) : Policy := fun workers _ submitted =>
  match order.find? (submitted.take workers).contains with
  | some id => submitted.idxOf id
  | none => 0

structure Plan where
  instances : Keyed Instance
  graph : InstanceGraph
  workers : Nat

namespace Plan

def ofGraph (instances : List Instance) (graph : InstanceGraph) (workers : Nat) : Plan :=
  ⟨Keyed.ofPairs (instances.map fun inst => (inst.id, inst)), graph, workers⟩

def inst (plan : Plan) (id : String) : Instance :=
  (plan.instances.get? id).getD (Instance.bare id [])

/-- A name without an instance has none; a schedule asks for the names of instances only. -/
def dependents (plan : Plan) (id : String) : List String :=
  (plan.graph.dependents.get? id).getD []

end Plan

structure State (ω : Type) where
  /-- How many prerequisites of each instance have not succeeded yet. -/
  pending : Keyed Int
  /-- Free instances with their numbers, in this order. -/
  ready : List (Nat × String)
  /-- Submitted instances that have not ended, in the order of their submission. -/
  running : List String
  /-- Results in the order in which they came. -/
  results : Keyed JobResult
  world : ω

def enqueue (entry : Nat × String) : List (Nat × String) → List (Nat × String)
  | [] => [entry]
  | other :: rest =>
    if entry.1 < other.1 ∨ entry.1 = other.1 ∧ entry.2 < other.2 then entry :: other :: rest
    else other :: enqueue entry rest

variable {ω : Type}

namespace State

def start (plan : Plan) (world : ω) : State ω :=
  let pending := plan.graph.prereqs.mapValues fun prereqs => (prereqs.length : Int)
  let free := pending.filter fun entry => entry.2 == 0
  { pending := pending
    ready := free.foldl (fun ready entry => enqueue ((plan.inst entry.1).index, entry.1) ready) []
    running := []
    results := []
    world := world }

def submit (state : State ω) : State ω :=
  { state with ready := [], running := state.running ++ state.ready.map (·.2) }

def next? (policy : Policy) (workers : Nat) (state : State ω) : Option (String × State ω) :=
  match state.running with
  | [] => none
  | first :: _ =>
    let wanted := policy workers state.results.names state.running
    let position := if wanted < state.running.length then wanted else 0
    some (state.running.getD position first,
      { state with running := state.running.eraseIdx position })

/-- One prerequisite of an instance succeeded; the last one frees it, unless it has a result. -/
def unlock (plan : Plan) (state : State ω) (id : String) : State ω :=
  let left := (state.pending.get? id).getD 0 - 1
  let state := { state with pending := state.pending.put id left }
  if left = 0 ∧ (state.results.get? id).isNone then
    { state with ready := enqueue ((plan.inst id).index, id) state.ready }
  else state

def store (state : State ω) (result : JobResult) : State ω :=
  { state with results := (record state.results result).getD state.results }

def say (runner : Runner ω) (lines : List Line) (state : State ω) : State ω :=
  { state with world := runner.tell lines state.world }

def settle (plan : Plan) (runner : Runner ω) (id : String) (result : JobResult)
    (state : State ω) : State ω :=
  let state := state.store result
  if result.ok then (plan.dependents id).foldl (unlock plan) state
  else
    let cancelled :=
      cascade plan.instances plan.graph.dependents id state.results (plan.dependents id)
    say runner
      (cancelled.1.flatMap fun result =>
        Console.jobCancelled result.inst.id (result.reason.getD ""))
      { state with results := cancelled.2 }

end State

def brokenOff (inst : Instance) (failure : Failure) : JobResult :=
  ⟨inst, .failed, [], some ("runner error: " ++ failure.labelled)⟩

/-- One instance runs to its end. An interrupt ends the schedule. -/
def complete (plan : Plan) (console : Console) (runner : Runner ω) (id : String)
    (state : State ω) : State ω × Option Failure :=
  let inst := plan.inst id
  let ended := runner.run inst state.world
  let state := { state with world := ended.2 }
  match ended.1 with
  | .ok result => (state.settle plan runner id result, none)
  | .error failure =>
    if failure.isInterrupt then (state, some failure)
    else
      ((state.say runner (console.failure failure)).settle plan runner id
        (brokenOff inst failure), none)

def runAll (plan : Plan) (console : Console) (policy : Policy) (runner : Runner ω) :
    Nat → State ω → State ω × Option Failure
  | 0, state => (state, none)
  | bound + 1, state =>
    match state.submit.next? policy plan.workers with
    | none => (state.submit, none)
    | some (id, state) =>
      match complete plan console runner id state with
      | (state, none) => runAll plan console policy runner bound state
      | (state, some failure) => (state, some failure)

structure Ended (ω : Type) where
  results : Keyed JobResult
  failure : Option Failure
  world : ω

/-- How many instances run at the same time: all of them, unless a limit is given. -/
def workersFor (limit : Option Int) (instances : List Instance) : Int :=
  match limit.filter (· != 0) with
  | some limit => limit
  | none => max 1 instances.length

def announcement (console : Console) (workers : Int) (instances : List Instance) : List Line :=
  console.detail ("scheduling " ++ Calendar.natText instances.length ++ " instance(s) on " ++
    Calendar.intText workers ++ " worker(s)")

/-- Runs all instances of a list of jobs. The graph is checked before anything is submitted. -/
def run (jobs : List Job) (instances : List Instance) (limit : Option Int) (console : Console)
    (policy : Policy) (runner : Runner ω) (world : ω) : Ended ω :=
  match InstanceGraph.ofInstances jobs instances with
  | .error failure => ⟨[], some failure, world⟩
  | .ok graph =>
    let workers := workersFor limit instances
    let world := runner.tell (announcement console workers instances) world
    if workers < 0 then
      ⟨[], some (.crash (.badValue "max_workers must be greater than 0")), world⟩
    else
      let plan := Plan.ofGraph instances graph workers.toNat
      let ended := runAll plan console policy runner (graph.prereqs.length + 1)
        (State.start plan world)
      ⟨ended.1.results, ended.2, ended.1.world⟩

end CiPipeline.Schedule
