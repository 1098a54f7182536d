import CiPipeline.Proofs.Schedule.Outcome

/-! Two schedules of one graph. Whatever order their instances end in and however many of them run at the same
time, both run the same instances. Where their runners agree up to times, so do all results, apart from which
prerequisite a cancellation names. -/
namespace CiPipeline

def StepResult.timeless (result : StepResult) : StepResult :=
  { result with started := none, finished := none }

namespace JobResult

def timeless (result : JobResult) : JobResult :=
  { result with steps := result.steps.map StepResult.timeless }

def settled (result : JobResult) : JobResult :=
  { result.timeless with
    reason := if result.outcome = .cancelled then none else result.reason }

theorem settled_timeless (result : JobResult) : result.timeless.settled = result.settled := by
  have twice : result.timeless.timeless = result.timeless := by
    simp [timeless, Function.comp_def, StepResult.timeless]
  rw [settled, twice]
  rfl

end JobResult

namespace Schedule

variable {ω ω' : Type} {plan : Plan} {answers : Instance → Except Failure JobResult}

def Runner.Steady (runner : Runner ω) (plan : Plan) (answers : Instance → Except Failure JobResult) :
    Prop :=
  ∀ id ∈ plan.ids, ∀ world,
    (runner.run (plan.inst id) world).1.map JobResult.timeless = answers (plan.inst id)

def Expected (plan : Plan) (answers : Instance → Except Failure JobResult) (ended : List String)
    (results : Keyed JobResult) : Prop :=
  ∀ id ∈ ended,
    (results.get? id).map JobResult.timeless =
        some (answerOf (plan.inst id) (answers (plan.inst id))) ∧
      ∀ failure, answers (plan.inst id) = .error failure → failure.isInterrupt = false

theorem Runner.Steady.error_iff {runner : Runner ω} (steady : runner.Steady plan answers) {id : String}
    (here : id ∈ plan.ids) {world : ω} {failure : Failure} :
    (runner.run (plan.inst id) world).1 = .error failure ↔
      answers (plan.inst id) = .error failure := by
  rw [← steady id here world, Success.map_error_iff]

theorem Runner.Steady.answer {runner : Runner ω} (steady : runner.Steady plan answers) {id : String}
    (here : id ∈ plan.ids) (world : ω) :
    (answerOf (plan.inst id) (runner.run (plan.inst id) world).1).timeless =
      answerOf (plan.inst id) (answers (plan.inst id)) := by
  rw [← steady id here world]
  cases (runner.run (plan.inst id) world).1 <;> rfl

theorem expected_of_reaches {console : Console} {runner : Runner ω} (sound : plan.Sound)
    (own : runner.Own) (steady : runner.Steady plan answers) {world : ω} {turns : List Turn}
    {state : State ω} (reached : Reaches plan console runner (State.start plan world) turns state) :
    Expected plan answers (endedIn turns) state.results := by
  induction reached with
  | start => simp [endedIn, Expected]
  | @turn turns state position id later before ends completed ih =>
    have orderly := orderly_of_reaches sound own before
    have here := (orderly_submit orderly).known_of_running (List.mem_of_getElem? ends)
    obtain ⟨new, kept⟩ := results_turn sound own orderly ends completed
    intro other member
    rw [endedIn, List.map_append, List.mem_append, List.map_singleton, List.mem_singleton] at member
    rcases member with old | rfl
    · obtain ⟨answered, unbroken⟩ := ih other old
      obtain ⟨stored, found, same⟩ := Option.map_eq_some_iff.1 answered
      exact ⟨by rw [kept found, Option.map_some, same], unbroken⟩
    · refine ⟨by rw [new, Option.map_some, steady.answer here], fun failure broken => ?_⟩
      exact unbroken_of_complete completed ((steady.error_iff here).2 broken)

theorem Expected.hasSucceeded_eq {ended : List String} {results : Keyed JobResult}
    (expected : Expected plan answers ended results) {id : String} (member : id ∈ ended) :
    hasSucceeded results id = (answerOf (plan.inst id) (answers (plan.inst id))).ok := by
  obtain ⟨stored, found, same⟩ := Option.map_eq_some_iff.1 (expected id member).1
  rw [hasSucceeded_of_get? found, ← same]
  rfl

def Plan.resize (plan : Plan) (workers : Nat) : Plan := { plan with workers := workers }

theorem Plan.Sound.resize (sound : plan.Sound) (workers : Nat) : (plan.resize workers).Sound :=
  ⟨sound.nodup, sound.found, sound.own, sound.prereqs_get?, sound.prereqs_nodup,
    sound.dependents_nodup, sound.mem_dependents, sound.known, sound.acyclic⟩

theorem Orderly.resize {workers : Nat} {submitted ended : List String} {state : State ω}
    (orderly : Orderly (plan.resize workers) submitted ended state) :
    Orderly plan submitted ended state :=
  ⟨⟨orderly.pending, orderly.ready_index, orderly.ready_sorted, orderly.ready_nodup, orderly.mem_ready⟩,
    ⟨orderly.submitted_free, orderly.ended_settled, orderly.known, orderly.spared, orderly.closed,
      orderly.names_nodup⟩,
    orderly.submitted_nodup, orderly.partition, orderly.running_open⟩

section

variable {submitted ended submitted' ended' : List String} {state : State ω} {head : State ω'}
  (sound : plan.Sound)
  (orderly : Orderly plan submitted ended state) (expected : Expected plan answers ended state.results)
  (orderly' : Orderly plan submitted' ended' head)
  (expected' : Expected plan answers ended' head.results)
  (ready : head.ready = []) (running : head.running = [])

include sound orderly expected orderly' expected' ready running

/-- What has been submitted at any time in one schedule has been run when the other one rests. -/
theorem ended_of_submitted : ∀ id ∈ plan.ids, id ∈ submitted → id ∈ ended' := by
  -- Along the needs: what an instance waits for has succeeded in one schedule, hence in the other one.
  refine sound.induction fun id here below old => ?_
  refine (orderly'.mem_ended_iff ready running).2 ⟨here, openNeeds_eq_nil_iff.2 fun need waited => ?_⟩
  obtain ⟨ran, good⟩ := orderly.succeeded_behind (.single waited) old
  have ran' := below need waited (orderly.partition.mem_iff.2 (List.mem_append_left _ ran))
  rw [expected'.hasSucceeded_eq ran', ← expected.hasSucceeded_eq ran]
  exact good

theorem settled_eq (ready' : state.ready = []) (running' : state.running = []) {id : String}
    (here : id ∈ plan.ids) :
    (state.results.get? id).map JobResult.settled = (head.results.get? id).map JobResult.settled := by
  have all : id ∈ submitted ↔ id ∈ ended := by
    rw [orderly.partition.mem_iff, running', List.append_nil]
  have all' : id ∈ submitted' ↔ id ∈ ended' := by
    rw [orderly'.partition.mem_iff, running, List.append_nil]
  have same : id ∈ ended ↔ id ∈ ended' :=
    ⟨fun ran => ended_of_submitted sound orderly expected orderly' expected' ready running id here
        (all.2 ran),
      fun ran => ended_of_submitted sound orderly' expected' orderly expected ready' running' id here
        (all'.2 ran)⟩
  obtain ⟨result, found⟩ := Option.isSome_iff_exists.1 (orderly.settled sound ready' running' id here)
  obtain ⟨result', found'⟩ := Option.isSome_iff_exists.1 (orderly'.settled sound ready running id here)
  rw [found, found', Option.map_some, Option.map_some, Option.some.injEq]
  -- What was run has the expected result in both schedules, and what was not is cancelled in both.
  by_cases ran : id ∈ ended
  · have answered := (expected id ran).1
    have answered' := (expected' id (same.1 ran)).1
    rw [found, Option.map_some, ← answered', found', Option.map_some, Option.some.injEq] at answered
    rw [← result.settled_timeless, answered, result'.settled_timeless]
  · obtain ⟨⟨culprit, rfl⟩, _⟩ := orderly.spared found (mt all.1 ran)
    obtain ⟨⟨culprit', rfl⟩, _⟩ := orderly'.spared found' (mt all'.1 (mt same.2 ran))
    rfl

end

section

variable {runner : Runner ω} (own : runner.Own) (steady : runner.Steady plan answers)
  (sound : plan.Sound)

include own steady sound

theorem exists_interrupt {console : Console} {policy : Policy} {world : ω} {bound : Nat}
    {failure : Failure}
    (broken : (runAll plan console policy runner bound (State.start plan world)).2 = some failure) :
    ∃ (turns : List Turn) (state : State ω) (id : String),
      Reaches plan console runner (State.start plan world) turns state ∧
      id ∈ state.submit.running ∧ id ∈ plan.ids ∧
      answers (plan.inst id) = .error failure ∧ failure.isInterrupt = true := by
  obtain ⟨turns, state, position, id, reached, ends, answered, interrupt⟩ := exists_broken .start broken
  have running := List.mem_of_getElem? ends
  have here := (orderly_submit (orderly_of_reaches sound own reached)).known_of_running running
  exact ⟨turns, state, id, reached, running, here, (steady.error_iff here).1 answered, interrupt⟩

theorem not_broken (calm : ∀ id ∈ plan.ids, ∀ failure, answers (plan.inst id) = .error failure →
    failure.isInterrupt = false) (console : Console) (policy : Policy) (world : ω) (bound : Nat) :
    (runAll plan console policy runner bound (State.start plan world)).2 = none := by
  by_contra broken
  obtain ⟨failure, raised⟩ := Option.ne_none_iff_exists'.1 broken
  obtain ⟨_, _, id, _, _, here, answered, interrupt⟩ := exists_interrupt own steady sound raised
  rw [calm id here failure answered] at interrupt
  cases interrupt

theorem exists_agreeing {runner' : Runner ω'} (own' : runner'.Own) {workers : Nat}
    (steady' : runner'.Steady (plan.resize workers) answers) {console console' : Console}
    {policy policy' : Policy} {world : ω} (world' : ω') {head : State ω}
    (ran : runAll plan console policy runner (plan.ids.length + 1) (State.start plan world) =
      (head, none)) :
    ∃ head', runAll (plan.resize workers) console' policy' runner' (plan.ids.length + 1)
        (State.start (plan.resize workers) world') = (head', none) ∧
      ∀ id ∈ plan.ids, (head.results.get? id).map JobResult.settled =
        (head'.results.get? id).map JobResult.settled := by
  have sound' : (plan.resize workers).Sound := sound.resize workers
  obtain ⟨turns, reached, ready, running⟩ := exists_reaches_idle sound ran
  have orderly := orderly_of_reaches sound own reached
  have expected := expected_of_reaches sound own steady reached
  have unbroken : (runAll (plan.resize workers) console' policy' runner' (plan.ids.length + 1)
      (State.start (plan.resize workers) world')).2 = none := by
    by_contra broken
    obtain ⟨failure, raised⟩ := Option.ne_none_iff_exists'.1 broken
    obtain ⟨turns', state, id, reached', running', here, answered, interrupt⟩ :=
      exists_interrupt own' steady' sound' raised
    have submitted := orderly_submit (orderly_of_reaches sound' own' reached')
    have expected' := expected_of_reaches sound' own' steady' reached'
    -- The instance that is interrupted has been run in the other schedule as well.
    have ran' := ended_of_submitted sound submitted.resize expected' orderly expected ready running
      id here (submitted.partition.mem_iff.2 (List.mem_append_right _ running'))
    have calm := (expected id ran').2 failure answered
    rw [interrupt] at calm
    cases calm
  refine ⟨_, Prod.ext rfl unbroken, fun id here => ?_⟩
  obtain ⟨turns', reached', ready', running'⟩ :=
    exists_reaches_idle sound' (Prod.ext rfl unbroken)
  exact settled_eq sound orderly expected (orderly_of_reaches sound' own' reached').resize
    (expected_of_reaches sound' own' steady' reached') ready' running' ready running here

end

end Schedule

end CiPipeline
