import CiPipeline.Proofs.Schedule.Cascade
import CiPipeline.Proofs.Schedule.Loop

/-! What holds of every result of a schedule. A result is the answer of the runner, or it says that an instance broke
off or was cancelled; so what is true of these three is true of all results, however the schedule ends. -/
namespace CiPipeline.Schedule

variable {ω : Type} {plan : Plan} {console : Console} {runner : Runner ω} {holds : JobResult → Prop}

structure Runner.Grants (runner : Runner ω) (plan : Plan) (holds : JobResult → Prop) : Prop where
  answered : ∀ id world result, (runner.run (plan.inst id) world).1 = .ok result → holds result
  broken : ∀ id failure, holds (brokenOff (plan.inst id) failure)
  cancelled : ∀ id inst culprit, plan.instances.get? id = some inst → holds (.cancelled inst culprit)

def Everywhere (holds : JobResult → Prop) (results : Keyed JobResult) : Prop := ∀ entry ∈ results, holds entry.2

theorem Everywhere.put {results : Keyed JobResult} (everywhere : Everywhere holds results) {result : JobResult}
    (new : holds result) (name : String) : Everywhere holds (results.put name result) := by
  intro entry member
  rcases Keyed.mem_or_eq_of_mem_put member with old | rfl
  · exact everywhere entry old
  · exact new

theorem Everywhere.store {state : State ω} (everywhere : Everywhere holds state.results) {result : JobResult}
    (new : holds result) : Everywhere holds (state.store result).results := by
  rw [State.store]
  dsimp only
  cases stored : record state.results result with
  | none => exact everywhere
  | some later =>
    obtain ⟨_, rfl⟩ := record_eq_some_iff.1 stored
    exact everywhere.put new _

theorem Everywhere.cascade {instances : Keyed Instance} {dependents : Keyed (List String)} {culprit : String}
    (cancelled : ∀ id inst, instances.get? id = some inst → holds (.cancelled inst culprit))
    {results : Keyed JobResult} (everywhere : Everywhere holds results) (stack : List String) :
    Everywhere holds (Schedule.cascade instances dependents culprit results stack).2 := by
  fun_induction Schedule.cascade instances dependents culprit results stack with
  | case1 results => exact everywhere
  | case2 results id rest missing ih => exact ih everywhere
  | case3 results id rest inst found stored ih => exact ih everywhere
  | case4 results id rest inst found later stored below ih =>
    obtain ⟨_, rfl⟩ := record_eq_some_iff.1 stored
    exact ih (everywhere.put (cancelled id inst found) _)

variable (grants : runner.Grants plan holds)
include grants

theorem Everywhere.settle {state : State ω} (everywhere : Everywhere holds state.results) {result : JobResult}
    (new : holds result) (id : String) : Everywhere holds (state.settle plan runner id result).results := by
  rw [State.settle]
  dsimp only
  split
  · rw [(frame_foldl_unlock _ _).1]
    exact everywhere.store new
  · exact (everywhere.store new).cascade (fun id inst found => grants.cancelled id inst _ found) _

theorem Everywhere.complete {state : State ω} (everywhere : Everywhere holds state.results) (id : String) :
    Everywhere holds (complete plan console runner id state).1.results := by
  rw [Schedule.complete]
  cases ran : (runner.run (plan.inst id) state.world).1 with
  | ok result =>
    dsimp only
    refine Everywhere.settle grants ?_ (grants.answered id state.world result ran) id
    exact everywhere
  | error failure =>
    dsimp only
    split
    · exact everywhere
    · refine Everywhere.settle grants ?_ (grants.broken id failure) id
      exact everywhere

theorem Everywhere.runAll (policy : Policy) (bound : Nat) {state : State ω}
    (everywhere : Everywhere holds state.results) :
    Everywhere holds (runAll plan console policy runner bound state).1.results := by
  induction bound generalizing state with
  | zero => exact everywhere
  | succ bound ih =>
    rw [Schedule.runAll]
    cases chosen : state.submit.next? policy plan.workers with
    | none => exact everywhere
    | some next =>
      obtain ⟨id, taken⟩ := next
      obtain ⟨position, _, rfl⟩ := next?_eq_some chosen
      dsimp only
      have before : Everywhere holds (state.takeOut position).results := everywhere
      have kept : Everywhere holds (Schedule.complete plan console runner id (state.takeOut position)).1.results :=
        before.complete grants id
      cases completed : Schedule.complete plan console runner id (state.takeOut position) with
      | mk later failure =>
        rw [completed] at kept
        cases failure with
        | none => exact ih kept
        | some failure => exact kept

omit grants in
theorem Everywhere.run {instances : List Instance}
    (grants : ∀ graph workers, runner.Grants (Plan.ofGraph instances graph workers) holds) (jobs : List Job)
    (limit : Option Int) (policy : Policy) (world : ω) :
    Everywhere holds (run jobs instances limit console policy runner world).results := by
  have nothing : Everywhere holds [] := fun _ member => absurd member List.not_mem_nil
  rw [Schedule.run]
  split
  · exact nothing
  · dsimp only
    split
    · exact nothing
    · exact Everywhere.runAll (grants _ _) policy _ nothing

end CiPipeline.Schedule
