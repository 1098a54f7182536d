import CiPipeline.Schedule.Basic

/-! Schedules in two worlds. Where one world is the image of another and two runners agree about it, whole
schedules agree as well; so a world may be made larger, for example by a list of what was run, without
changing anything else. -/
namespace CiPipeline.Schedule

variable {ω ω' : Type} {f : ω → ω'} {runner : Runner ω} {image : Runner ω'}

structure Runner.Maps (f : ω → ω') (runner : Runner ω) (image : Runner ω') : Prop where
  run : ∀ inst world,
    image.run inst (f world) = ((runner.run inst world).1, f (runner.run inst world).2)
  tell : ∀ lines world, image.tell lines (f world) = f (runner.tell lines world)

def State.map (f : ω → ω') (state : State ω) : State ω' :=
  ⟨state.pending, state.ready, state.running, state.results, f state.world⟩

def Ended.map (f : ω → ω') (ended : Ended ω) : Ended ω' :=
  ⟨ended.results, ended.failure, f ended.world⟩

theorem next?_map (policy : Policy) (workers : Nat) (state : State ω) :
    (state.map f).next? policy workers =
      (state.next? policy workers).map fun next => (next.1, next.2.map f) := by
  obtain ⟨pending, ready, running, results, world⟩ := state
  cases running with
  | nil => rfl
  | cons first rest => rfl

theorem unlock_map (plan : Plan) (state : State ω) (id : String) :
    (state.map f).unlock plan id = (state.unlock plan id).map f := by
  by_cases last : (state.pending.get? id).getD 0 - 1 = 0 ∧ (state.results.get? id).isNone
  · simp only [State.unlock, State.map, last, and_self, if_true]
  · simp only [State.unlock, State.map, last, if_false]

theorem foldl_unlock_map (plan : Plan) (ids : List String) (state : State ω) :
    ids.foldl (State.unlock plan) (state.map f) = (ids.foldl (State.unlock plan) state).map f := by
  induction ids generalizing state with
  | nil => rfl
  | cons id rest ih => rw [List.foldl_cons, List.foldl_cons, unlock_map, ih]

theorem say_map (maps : runner.Maps f image) (lines : List Line) (state : State ω) :
    State.say image lines (state.map f) = (State.say runner lines state).map f := by
  simp only [State.say, State.map, maps.tell]

theorem settle_map (maps : runner.Maps f image) (plan : Plan) (id : String) (result : JobResult)
    (state : State ω) :
    (state.map f).settle plan image id result = (state.settle plan runner id result).map f := by
  have store : (state.map f).store result = (state.store result).map f := rfl
  rw [State.settle, State.settle, store]
  split
  · exact foldl_unlock_map plan _ _
  · dsimp only
    rw [← say_map maps]
    rfl

theorem complete_map (maps : runner.Maps f image) (plan : Plan) (console : Console) (id : String)
    (state : State ω) :
    complete plan console image id (state.map f) =
      ((complete plan console runner id state).1.map f,
        (complete plan console runner id state).2) := by
  have ran := maps.run (plan.inst id) state.world
  rw [complete, complete]
  dsimp only [State.map] at ran ⊢
  rw [ran]
  cases answer : (runner.run (plan.inst id) state.world).1 with
  | ok result =>
    exact congrArg (·, none) (settle_map maps plan id result
      { state with world := (runner.run (plan.inst id) state.world).2 })
  | error failure =>
    dsimp only
    split
    · rfl
    · have said := say_map maps (console.failure failure)
        { state with world := (runner.run (plan.inst id) state.world).2 }
      refine congrArg (·, none) (Eq.trans ?_ (settle_map maps plan id _ _))
      exact congrArg _ said

theorem runAll_map (maps : runner.Maps f image) (plan : Plan) (console : Console)
    (policy : Policy) (bound : Nat) (state : State ω) :
    runAll plan console policy image bound (state.map f) =
      ((runAll plan console policy runner bound state).1.map f,
        (runAll plan console policy runner bound state).2) := by
  induction bound generalizing state with
  | zero => rfl
  | succ bound ih =>
    have submit : (state.map f).submit = state.submit.map f := rfl
    rw [runAll, runAll, submit, next?_map]
    cases state.submit.next? policy plan.workers with
    | none => rfl
    | some next =>
      obtain ⟨id, taken⟩ := next
      dsimp only [Option.map_some]
      rw [complete_map maps]
      cases complete plan console runner id taken with
      | mk later failure =>
        cases failure with
        | none => exact ih later
        | some failure => rfl

theorem run_map (maps : runner.Maps f image) (jobs : List Job) (instances : List Instance)
    (limit : Option Int) (console : Console) (policy : Policy) (world : ω) :
    run jobs instances limit console policy image (f world) =
      (run jobs instances limit console policy runner world).map f := by
  rw [run, run]
  cases InstanceGraph.ofInstances jobs instances with
  | error failure => rfl
  | ok graph =>
    dsimp only
    rw [maps.tell]
    split
    · rfl
    · have start (plan : Plan) (world : ω) :
          State.start plan (f world) = (State.start plan world).map f := rfl
      rw [start, runAll_map maps]
      rfl

def Runner.logged (runner : Runner ω) : Runner (ω × List String) where
  run inst world :=
    let ended := runner.run inst world.1
    (ended.1, (ended.2, world.2 ++ [inst.id]))
  tell lines world := (runner.tell lines world.1, world.2)

theorem maps_logged (runner : Runner ω) : runner.logged.Maps Prod.fst runner :=
  ⟨fun _ _ => rfl, fun _ _ => rfl⟩

end CiPipeline.Schedule
