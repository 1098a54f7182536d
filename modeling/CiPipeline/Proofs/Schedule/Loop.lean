import CiPipeline.Proofs.Schedule.Settle

/-! The loop of a schedule as a relation between the turns taken and the state at the head of the next one.
Which of the submitted instances ends in a turn is left open, so that every order of completion and
every number of workers is among the runs of the relation. -/
namespace CiPipeline.Schedule

variable {ω : Type} {plan : Plan} {console : Console} {runner : Runner ω}

/-- One turn of the loop: what was submitted in it, and which instance ended in it. -/
structure Turn where
  batch : List String
  ended : String

def submittedIn (turns : List Turn) : List String := turns.flatMap Turn.batch

def endedIn (turns : List Turn) : List String := turns.map Turn.ended

def State.takeOut (state : State ω) (position : Nat) : State ω :=
  { state.submit with running := state.submit.running.eraseIdx position }

/-- The states at the head of the loop, with the turns that led there. -/
inductive Reaches (plan : Plan) (console : Console) (runner : Runner ω) (start : State ω) :
    List Turn → State ω → Prop
  | start : Reaches plan console runner start [] start
  | turn {turns state position id later} (reached : Reaches plan console runner start turns state)
    (ends : state.submit.running[position]? = some id)
    (completed : complete plan console runner id (state.takeOut position) = (later, none)) :
    Reaches plan console runner start (turns ++ [⟨state.ready.map (·.2), id⟩]) later

def answerOf (inst : Instance) : Except Failure JobResult → JobResult
  | .ok result => result
  | .error failure => brokenOff inst failure

/-- A runner gives an instance no result of another one. Counters go by the instance that was run and results
by the instance that they name, so that nothing could be said about a runner that mixes them up. -/
def Runner.Own (runner : Runner ω) : Prop :=
  ∀ inst world result, (runner.run inst world).1 = .ok result → result.inst.id = inst.id

theorem Runner.Own.answer (own : runner.Own) (inst : Instance) (world : ω) :
    (answerOf inst (runner.run inst world).1).inst.id = inst.id := by
  cases ran : (runner.run inst world).1 with
  | ok result => exact own inst world result ran
  | error failure => rfl

theorem exists_settle {id : String} {state later : State ω}
    (completed : complete plan console runner id state = (later, none)) :
    ∃ world, later = State.settle plan runner id
      (answerOf (plan.inst id) (runner.run (plan.inst id) state.world).1)
      { state with world := world } := by
  rw [complete] at completed
  cases ran : (runner.run (plan.inst id) state.world).1 with
  | ok result =>
    rw [ran] at completed
    exact ⟨_, (Prod.mk.inj completed).1.symm⟩
  | error failure =>
    rw [ran] at completed
    dsimp only at completed
    split at completed
    · cases (Prod.mk.inj completed).2
    · exact ⟨_, (Prod.mk.inj completed).1.symm⟩

theorem frame_foldl_unlock (ids : List String) (state : State ω) :
    (ids.foldl (State.unlock plan) state).results = state.results ∧
      (ids.foldl (State.unlock plan) state).world = state.world := by
  induction ids generalizing state with
  | nil => exact ⟨rfl, rfl⟩
  | cons id rest ih =>
    have one : (state.unlock plan id).results = state.results ∧
        (state.unlock plan id).world = state.world := by
      rw [State.unlock]
      dsimp only
      split <;> exact ⟨rfl, rfl⟩
    obtain ⟨results, world⟩ := ih (state.unlock plan id)
    exact ⟨results.trans one.1, world.trans one.2⟩

theorem observe_complete {α : Type} {observe : ω → α}
    (quiet : ∀ lines world, observe (runner.tell lines world) = observe world)
    {id : String} {state later : State ω}
    (completed : complete plan console runner id state = (later, none)) :
    observe later.world = observe (runner.run (plan.inst id) state.world).2 := by
  have settle_world (result : JobResult) (state : State ω) :
      observe (state.settle plan runner id result).world = observe state.world := by
    rw [State.settle]
    split
    · rw [(frame_foldl_unlock _ _).2]
      rfl
    · exact quiet _ _
  rw [complete] at completed
  cases ran : (runner.run (plan.inst id) state.world).1 with
  | ok result =>
    rw [ran] at completed
    rw [← (Prod.mk.inj completed).1]
    exact settle_world result _
  | error failure =>
    rw [ran] at completed
    dsimp only at completed
    split at completed
    · cases (Prod.mk.inj completed).2
    · rw [← (Prod.mk.inj completed).1]
      exact (settle_world _ _).trans (quiet _ _)

theorem store_results {state : State ω} {result : JobResult}
    (missing : state.results.get? result.inst.id = none) :
    state.store result = { state with results := state.results.put result.inst.id result } := by
  rw [State.store, record, missing]
  rfl

theorem settle_keeps (sound : plan.Sound) {state : State ω} {id : String} {result : JobResult}
    (own : result.inst.id = id) (missing : state.results.get? id = none) {other : String}
    {stored : JobResult} (found : (state.results.put id result).get? other = some stored) :
    (state.settle plan runner id result).results.get? other = some stored := by
  rw [State.settle, store_results (by rw [own, missing]), own]
  split
  · rw [(frame_foldl_unlock _ _).1]
    exact found
  · exact (cascaded_cascade sound.own).kept found

theorem results_turn (sound : plan.Sound) (own : runner.Own) {submitted ended : List String}
    {state later : State ω} {position : Nat} {id : String}
    (orderly : Orderly plan submitted ended state)
    (ends : state.submit.running[position]? = some id)
    (completed : complete plan console runner id (state.takeOut position) = (later, none)) :
    later.results.get? id =
        some (answerOf (plan.inst id) (runner.run (plan.inst id) state.world).1) ∧
      ∀ {other stored}, state.results.get? other = some stored →
        later.results.get? other = some stored := by
  have submitted := orderly_submit orderly
  have running := List.mem_of_getElem? ends
  have here := submitted.known_of_running running
  have missing : state.results.get? id = none := submitted.running_open running
  obtain ⟨world, rfl⟩ := exists_settle completed
  have result_own := own.answer (plan.inst id) state.world
  rw [sound.id_inst here] at result_own
  have settled : ({ state.takeOut position with world := world } : State ω).results.get? id = none :=
    missing
  refine ⟨settle_keeps sound result_own settled ?_, fun {other stored} found =>
    settle_keeps sound result_own settled ?_⟩
  · rw [Keyed.get?_put, if_pos rfl]
  · rw [Keyed.get?_put, if_neg]
    · exact found
    · rintro rfl
      rw [missing] at found
      cases found

theorem orderly_turn (sound : plan.Sound) (own : runner.Own) {submitted ended : List String}
    {state later : State ω} {position : Nat} {id : String}
    (orderly : Orderly plan submitted ended state)
    (ends : state.submit.running[position]? = some id)
    (completed : complete plan console runner id (state.takeOut position) = (later, none)) :
    Orderly plan (submitted ++ state.ready.map (·.2)) (ended ++ [id]) later := by
  obtain ⟨inside, here⟩ := List.getElem?_eq_some_iff.1 ends
  have running : state.submit.running.Perm (id :: state.submit.running.eraseIdx position) :=
    here ▸ (List.getElem_cons_eraseIdx_perm inside).symm
  have taken : Taken plan (submitted ++ state.ready.map (·.2)) ended state.submit id
      (state.submit.running.eraseIdx position) := ⟨orderly_submit orderly, rfl, running⟩
  have known := (taken.orderly.submitted_free taken.mem_submitted).1
  obtain ⟨world, rfl⟩ := exists_settle completed
  have result_own := own.answer (plan.inst id) (state.takeOut position).world
  rw [sound.id_inst known] at result_own
  generalize answerOf (plan.inst id) (runner.run (plan.inst id) (state.takeOut position).world).1 =
    result at result_own
  have stored : ({ state.takeOut position with world := world } : State ω).store result =
      { state.submit with
        running := state.submit.running.eraseIdx position
        results := state.submit.results.put id result
        world := world } := by
    rw [store_results (by rw [result_own]; exact taken.missing), result_own]
    rfl
  rw [State.settle]
  dsimp only
  rw [stored]
  split
  · rename_i good
    refine orderly_succeeded sound taken result_own good (unlocked_foldl (sound.dependents_nodup id) ?_)
    intro other waiting
    rw [taken.orderly.pending (sound.known (sound.mem_dependents.1 waiting)).2]
    rfl
  · rename_i bad
    refine orderly_spoiled sound taken result_own (Bool.not_eq_true _ ▸ bad)
      (cascaded_cascade sound.own) rfl rfl rfl

theorem orderly_of_reaches (sound : plan.Sound) (own : runner.Own) {world : ω}
    {turns : List Turn} {state : State ω}
    (reached : Reaches plan console runner (State.start plan world) turns state) :
    Orderly plan (submittedIn turns) (endedIn turns) state := by
  induction reached with
  | start => exact orderly_start sound world
  | turn _ ends completed ih =>
    have later := orderly_turn sound own ih ends completed
    simpa [submittedIn, endedIn] using later

theorem next?_eq_none {policy : Policy} {workers : Nat} {state : State ω}
    (idle : state.next? policy workers = none) : state.running = [] := by
  rw [State.next?] at idle
  split at idle
  · assumption
  · cases idle

theorem next?_eq_some {policy : Policy} {workers : Nat} {state taken : State ω} {id : String}
    (chosen : state.submit.next? policy workers = some (id, taken)) :
    ∃ position, state.submit.running[position]? = some id ∧ taken = state.takeOut position := by
  rw [State.next?] at chosen
  split at chosen
  · cases chosen
  · rename_i first rest running
    dsimp only at chosen
    obtain ⟨here, rfl⟩ := Prod.mk.inj (Option.some.inj chosen)
    refine ⟨_, ?_, rfl⟩
    rw [← here, List.getD_eq_getElem?_getD]
    split
    · rename_i wanted
      rw [List.getElem?_eq_getElem wanted, Option.getD_some]
    · rw [running, List.getElem?_cons_zero, Option.getD_some]

/-- However the instances that end are chosen, the loop stays within the relation; it goes on until its
bound is used up or nothing is left. -/
theorem reaches_runAll {policy : Policy} {bound : Nat} {start state final : State ω}
    {turns : List Turn} (reached : Reaches plan console runner start turns state)
    (ran : runAll plan console policy runner bound state = (final, none)) :
    ∃ more, Reaches plan console runner start (turns ++ more) final ∧
      (more.length = bound ∨ final.ready = [] ∧ final.running = []) := by
  induction bound generalizing turns state with
  | zero =>
    obtain rfl := (Prod.mk.inj ran).1
    exact ⟨[], by simpa using reached, .inl rfl⟩
  | succ bound ih =>
    rw [runAll] at ran
    cases chosen : state.submit.next? policy plan.workers with
    | none =>
      rw [chosen] at ran
      obtain rfl := (Prod.mk.inj ran).1
      have idle := next?_eq_none chosen
      obtain ⟨none_running, none_ready⟩ := List.append_eq_nil_iff.1 idle
      have same : state.submit = state := by
        rw [State.submit, none_ready, List.append_nil, ← List.map_eq_nil_iff.1 none_ready]
      rw [same]
      exact ⟨[], by simpa using reached, .inr ⟨List.map_eq_nil_iff.1 none_ready, none_running⟩⟩
    | some next =>
      obtain ⟨id, taken⟩ := next
      obtain ⟨position, ends, rfl⟩ := next?_eq_some chosen
      rw [chosen] at ran
      dsimp only at ran
      cases completed : complete plan console runner id (state.takeOut position) with
      | mk later failure =>
        rw [completed] at ran
        cases failure with
        | some failure => cases (Prod.mk.inj ran).2
        | none =>
          obtain ⟨more, reached_final, why⟩ := ih (.turn reached ends completed) ran
          refine ⟨_ :: more, by simpa using reached_final, why.imp_left fun same => ?_⟩
          rw [List.length_cons, same]

def Runner.Calm (runner : Runner ω) : Prop :=
  ∀ inst world failure, (runner.run inst world).1 = .error failure → failure.isInterrupt = false

theorem complete_broken_iff {id : String} {state : State ω} {failure : Failure} :
    (complete plan console runner id state).2 = some failure ↔
      (runner.run (plan.inst id) state.world).1 = .error failure ∧ failure.isInterrupt = true := by
  rw [complete]
  cases (runner.run (plan.inst id) state.world).1 with
  | ok result => simp
  | error other =>
    dsimp only
    rw [Except.error.injEq]
    split
    · rename_i interrupt
      exact ⟨fun same => by rw [← Option.some.inj same]; exact ⟨rfl, interrupt⟩,
        fun both => congrArg some both.1⟩
    · rename_i calm
      exact iff_of_false (by simp) fun both => calm (both.1 ▸ both.2)

theorem unbroken_of_complete {id : String} {state later : State ω}
    (completed : complete plan console runner id state = (later, none)) {failure : Failure}
    (raised : (runner.run (plan.inst id) state.world).1 = .error failure) :
    failure.isInterrupt = false := by
  refine Bool.eq_false_iff.2 fun interrupt => ?_
  have broken : (complete plan console runner id state).2 = some failure :=
    complete_broken_iff.2 ⟨raised, interrupt⟩
  rw [completed] at broken
  cases broken

theorem exists_broken {policy : Policy} {bound : Nat} {start state : State ω} {failure : Failure}
    {turns : List Turn} (reached : Reaches plan console runner start turns state)
    (broken : (runAll plan console policy runner bound state).2 = some failure) :
    ∃ (turns : List Turn) (head : State ω) (position : Nat) (id : String),
      Reaches plan console runner start turns head ∧
      head.submit.running[position]? = some id ∧
      (runner.run (plan.inst id) head.world).1 = .error failure ∧ failure.isInterrupt = true := by
  induction bound generalizing turns state with
  | zero => cases broken
  | succ bound ih =>
    rw [runAll] at broken
    cases chosen : state.submit.next? policy plan.workers with
    | none =>
      rw [chosen] at broken
      cases broken
    | some next =>
      obtain ⟨id, taken⟩ := next
      obtain ⟨position, ends, rfl⟩ := next?_eq_some chosen
      rw [chosen] at broken
      dsimp only at broken
      cases completed : complete plan console runner id (state.takeOut position) with
      | mk later outcome =>
        rw [completed] at broken
        cases outcome with
        | none => exact ih (.turn reached ends completed) broken
        | some other =>
          obtain rfl := Option.some.inj broken
          have answered := complete_broken_iff.1 (congrArg Prod.snd completed)
          exact ⟨turns, state, position, id, reached, ends, answered⟩

theorem complete_calm (calm : runner.Calm) (id : String) (state : State ω) :
    (complete plan console runner id state).2 = none := by
  by_contra broken
  obtain ⟨failure, raised⟩ := Option.ne_none_iff_exists'.1 broken
  obtain ⟨answered, interrupt⟩ := complete_broken_iff.1 raised
  rw [calm _ _ _ answered] at interrupt
  cases interrupt

theorem runAll_calm (calm : runner.Calm) (bound : Nat) (state : State ω) :
    (runAll plan console policy runner bound state).2 = none := by
  induction bound generalizing state with
  | zero => rfl
  | succ bound ih =>
    rw [runAll]
    cases state.submit.next? policy plan.workers with
    | none => rfl
    | some next =>
      dsimp only
      cases completed : complete plan console runner next.1 next.2 with
      | mk later failure =>
        have unbroken : failure = none := by
          rw [← complete_calm calm next.1 next.2, completed]
        subst unbroken
        exact ih later

end CiPipeline.Schedule
