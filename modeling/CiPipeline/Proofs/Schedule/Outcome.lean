import CiPipeline.Proofs.Schedule.Gating
import CiPipeline.Proofs.Schedule.Worlds

/-! How a schedule ends. It stops by itself, every instance has one result then, and what was run and with
which result depends on the needs of the jobs and the answers of the runner alone. -/
namespace CiPipeline.Schedule

variable {ω : Type} {plan : Plan} {console : Console} {policy : Policy} {runner : Runner ω}

/-- A turn takes an instance out for good, so there are at most as many turns as instances. -/
theorem length_le_of_reaches (sound : plan.Sound) {world : ω}
    {turns : List Turn} {state : State ω}
    (reached : Reaches plan console runner (State.start plan world) turns state) :
    turns.length ≤ plan.ids.length := by
  obtain ⟨done, counted⟩ := counted_of_reaches sound reached
  have inside : submittedIn turns ⊆ plan.ids := fun id member => (counted.submitted_free member).1
  have most := (List.subperm_of_subset counted.submitted_nodup inside).length_le
  have parts := counted.partition.length_eq
  rw [List.length_append, endedIn, List.length_map] at parts
  omega

theorem runAll_idle {head : State ω} (ready : head.ready = []) (running : head.running = [])
    (bound : Nat) : runAll plan console policy runner bound head = (head, none) := by
  have same : head.submit = head := by
    rw [State.submit, ready, List.map_nil, List.append_nil, ← ready]
  cases bound with
  | zero => rfl
  | succ bound =>
    rw [runAll, same, State.next?, running]

theorem runAll_add {head : State ω} (ready : head.ready = []) (running : head.running = [])
    {bound : Nat} {state : State ω}
    (ran : runAll plan console policy runner bound state = (head, none)) (extra : Nat) :
    runAll plan console policy runner (bound + extra) state = (head, none) := by
  induction bound generalizing state with
  | zero =>
    obtain rfl := (Prod.mk.inj ran).1
    exact runAll_idle ready running _
  | succ bound ih =>
    rw [Nat.succ_add, runAll]
    rw [runAll] at ran
    cases chosen : state.submit.next? policy plan.workers with
    | none => rwa [chosen] at ran
    | some next =>
      rw [chosen] at ran
      dsimp only at ran ⊢
      cases completed : complete plan console runner next.1 next.2 with
      | mk later failure =>
        rw [completed] at ran
        cases failure with
        | some failure => cases (Prod.mk.inj ran).2
        | none => exact ih ran

theorem exists_reaches_idle (sound : plan.Sound) {world : ω} {head : State ω}
    (ran : runAll plan console policy runner (plan.ids.length + 1) (State.start plan world) =
      (head, none)) :
    ∃ turns, Reaches plan console runner (State.start plan world) turns head ∧
      head.ready = [] ∧ head.running = [] := by
  obtain ⟨turns, reached, why⟩ := reaches_runAll .start ran
  have few := length_le_of_reaches sound reached
  rw [List.nil_append] at reached few
  exact ⟨turns, reached, why.resolve_left (by omega)⟩

/-- The loop comes to rest by itself: every bound that exceeds the number of instances leads to the same
state, in which nothing is free and nothing runs. -/
theorem exists_idle (sound : plan.Sound) (calm : runner.Calm)
    (console : Console) (policy : Policy) (world : ω) :
    ∃ turns head, Reaches plan console runner (State.start plan world) turns head ∧
      head.ready = [] ∧ head.running = [] ∧ ∀ bound, plan.ids.length < bound →
        runAll plan console policy runner bound (State.start plan world) = (head, none) := by
  have ran : runAll plan console policy runner (plan.ids.length + 1) (State.start plan world) =
      ((runAll plan console policy runner (plan.ids.length + 1) (State.start plan world)).1, none) :=
    Prod.ext rfl (runAll_calm calm _ _)
  obtain ⟨turns, reached, ready, running⟩ := exists_reaches_idle sound ran
  refine ⟨turns, _, reached, ready, running, fun bound enough => ?_⟩
  have more := runAll_add ready running ran (bound - (plan.ids.length + 1))
  rwa [Nat.add_sub_cancel' enough] at more

namespace Orderly

variable {submitted ended : List String} {state : State ω}

theorem ended_of_succeeded (orderly : Orderly plan submitted ended state) {id : String}
    (good : hasSucceeded state.results id = true) : id ∈ ended := by
  cases found : state.results.get? id with
  | none =>
    rw [hasSucceeded_of_none found] at good
    cases good
  | some result =>
    rw [hasSucceeded_of_get? found] at good
    have old : id ∈ submitted := by
      by_contra fresh
      obtain ⟨⟨culprit, rfl⟩, _⟩ := orderly.spared found fresh
      cases good
    refine (List.mem_append.1 (orderly.partition.mem_iff.1 old)).resolve_right fun running => ?_
    rw [orderly.running_open running] at found
    cases found

theorem succeeded_behind (orderly : Orderly plan submitted ended state) {need id : String}
    (precedes : plan.Precedes need id) (old : id ∈ submitted) :
    need ∈ ended ∧ hasSucceeded state.results need = true := by
  have direct {need id : String} (waited : need ∈ plan.prereqs id) (old : id ∈ submitted) :
      need ∈ ended ∧ hasSucceeded state.results need = true := by
    have good := openNeeds_eq_nil_iff.1 (orderly.submitted_free old).2 need waited
    exact ⟨orderly.ended_of_succeeded good, good⟩
  induction precedes using Relation.TransGen.head_induction_on with
  | single edge => exact direct edge old
  | head edge _ ih =>
    exact direct edge (orderly.partition.mem_iff.2 (List.mem_append_left _ ih.1))

theorem ended_nodup (orderly : Orderly plan submitted ended state) : ended.Nodup :=
  (orderly.partition.nodup_iff.1 orderly.submitted_nodup).of_append_left

theorem mem_ended_iff (orderly : Orderly plan submitted ended state) (ready : state.ready = [])
    (running : state.running = []) {id : String} :
    id ∈ ended ↔ id ∈ plan.ids ∧ openNeeds plan state.results id = [] := by
  have all : id ∈ submitted ↔ id ∈ ended := by
    rw [orderly.partition.mem_iff, running, List.append_nil]
  rw [← all]
  refine ⟨orderly.submitted_free, fun ⟨here, empty⟩ => ?_⟩
  by_contra fresh
  have free := orderly.mem_ready.2 ⟨here, fresh, empty⟩
  rw [ready] at free
  cases free

theorem settled (sound : plan.Sound) (orderly : Orderly plan submitted ended state)
    (ready : state.ready = []) (running : state.running = []) :
    ∀ id ∈ plan.ids, (state.results.get? id).isSome := by
  refine sound.induction fun id here below => ?_
  -- Either a prerequisite spoiled the instance, or all of them succeeded and it was run.
  by_cases bad : ∃ need ∈ plan.prereqs id, Spoiled state.results need
  · obtain ⟨need, waited, spoiled⟩ := bad
    exact orderly.closed waited spoiled
  · refine orderly.ended_settled ((orderly.mem_ended_iff ready running).2 ⟨here, ?_⟩)
    refine openNeeds_eq_nil_iff.2 fun need waited => ?_
    obtain ⟨result, found⟩ := Option.isSome_iff_exists.1 (below need waited)
    rw [hasSucceeded_of_get? found]
    by_contra worse
    exact bad ⟨need, waited, result, found, Bool.not_eq_true _ ▸ worse⟩

theorem names_perm (sound : plan.Sound) (orderly : Orderly plan submitted ended state)
    (ready : state.ready = []) (running : state.running = []) :
    state.results.names.Perm plan.ids := by
  rw [List.perm_ext_iff_of_nodup orderly.names_nodup sound.nodup]
  intro id
  rw [← Keyed.isSome_get?_iff]
  refine ⟨fun stored => ?_, orderly.settled sound ready running id⟩
  obtain ⟨result, found⟩ := Option.isSome_iff_exists.1 stored
  exact (orderly.known found).1

end Orderly

theorem answered_of_reaches (sound : plan.Sound) (own : runner.Own)
    {answers : Instance → Except Failure JobResult}
    (steady : ∀ inst world, (runner.run inst world).1 = answers inst) {world : ω}
    {turns : List Turn} {state : State ω}
    (reached : Reaches plan console runner (State.start plan world) turns state) :
    ∀ id ∈ endedIn turns,
      state.results.get? id = some (answerOf (plan.inst id) (answers (plan.inst id))) := by
  induction reached with
  | start => simp [endedIn]
  | @turn turns state position id later before ends completed ih =>
    obtain ⟨new, kept⟩ := results_turn sound own (orderly_of_reaches sound own before) ends completed
    rw [steady] at new
    intro other member
    rw [endedIn, List.map_append, List.mem_append, List.map_singleton, List.mem_singleton] at member
    rcases member with old | rfl
    · exact kept (ih other old)
    · exact new

theorem log_of_reaches (sound : plan.Sound) (own : runner.Own) {world : ω × List String}
    {turns : List Turn} {state : State (ω × List String)}
    (reached : Reaches plan console runner.logged (State.start plan world) turns state) :
    state.world.2 = world.2 ++ endedIn turns := by
  have own_logged : runner.logged.Own := fun inst world => own inst world.1
  induction reached with
  | start => simp [endedIn, State.start]
  | @turn turns state position id later before ends completed ih =>
    have submitted := orderly_submit (orderly_of_reaches sound own_logged before)
    have here := submitted.known_of_running (List.mem_of_getElem? ends)
    have quiet (lines : List Line) (world : ω × List String) :
        (runner.logged.tell lines world).2 = world.2 := rfl
    have logged : later.world.2 = (state.takeOut position).world.2 ++ [(plan.inst id).id] :=
      observe_complete quiet completed
    have same : (state.takeOut position).world = state.world := rfl
    rw [logged, same, ih, sound.id_inst here, List.append_assoc, endedIn, endedIn, List.map_append]
    rfl

/-- A runner whose answer about an instance depends on nothing else and is neither a cancellation nor an
interrupt. -/
structure Runner.Answers (runner : Runner ω) (answers : Instance → Except Failure JobResult) :
    Prop where
  steady : ∀ inst world, (runner.run inst world).1 = answers inst
  fair : ∀ inst result, answers inst = .ok result → result.inst = inst ∧ result.outcome ≠ .cancelled
  calm : ∀ inst failure, answers inst = .error failure → failure.isInterrupt = false

theorem Runner.Answers.own {answers : Instance → Except Failure JobResult}
    (answering : runner.Answers answers) : runner.Own := by
  intro inst world result ran
  rw [answering.steady] at ran
  rw [(answering.fair inst result ran).1]

theorem Runner.Answers.is_calm {answers : Instance → Except Failure JobResult}
    (answering : runner.Answers answers) : runner.Calm := by
  intro inst world failure ran
  rw [answering.steady] at ran
  exact answering.calm inst failure ran

theorem Runner.Answers.outcome_ne {answers : Instance → Except Failure JobResult}
    (answering : runner.Answers answers) (inst : Instance) :
    (answerOf inst (answers inst)).outcome ≠ .cancelled := by
  cases answer : answers inst with
  | ok result => exact (answering.fair inst result answer).2
  | error failure => simp [answerOf, brokenOff]

/-- What is left of a schedule in terms of the needs of jobs and the answers of a runner: which instances
were run, and the result of each instance. -/
structure Exact (jobs : List Job) (instances : List Instance)
    (answers : Instance → Except Failure JobResult) (executed : List String)
    (results : Keyed JobResult) : Prop where
  executed_nodup : executed.Nodup
  executed_known : executed ⊆ instances.map Instance.id
  complete : results.names.Perm (instances.map Instance.id)
  executed_iff : ∀ inst ∈ instances, inst.id ∈ executed ↔
    ∀ need ∈ instances, need.Precedes jobs instances inst →
      need.id ∈ executed ∧ hasSucceeded results need.id = true
  answered : ∀ inst ∈ instances, inst.id ∈ executed →
    results.get? inst.id = some (answerOf inst (answers inst)) ∧
      (answerOf inst (answers inst)).outcome ≠ .cancelled
  cancelled : ∀ inst ∈ instances, inst.id ∉ executed →
    ∃ culprit, results.get? inst.id = some (.cancelled inst culprit)

section

variable {jobs : List Job} {instances : List Instance} {workers : Nat}

theorem exact_of_idle (sound : JobGraph.Sound jobs) (distinct : (instances.map Instance.id).Nodup)
    (planned : (Plan.ofJobs jobs instances workers).Sound)
    {answers : Instance → Except Failure JobResult} (answering : runner.Answers answers) {world : ω}
    {turns : List Turn} {head : State ω}
    (reached : Reaches (Plan.ofJobs jobs instances workers) console runner
      (State.start (Plan.ofJobs jobs instances workers) world) turns head)
    (ready : head.ready = []) (running : head.running = []) :
    Exact jobs instances answers (endedIn turns) head.results := by
  have orderly := orderly_of_reaches planned answering.own reached
  have known {id : String} : id ∈ (Plan.ofJobs jobs instances workers).ids ↔
      ∃ inst ∈ instances, inst.id = id := Plan.mem_ids_ofJobs sound distinct
  have ended_iff {inst : Instance} (member : inst ∈ instances) : inst.id ∈ endedIn turns ↔
      ∀ need ∈ instances, inst.WaitsFor jobs need → hasSucceeded head.results need.id = true := by
    rw [orderly.mem_ended_iff ready running, and_iff_right (known.2 ⟨inst, member, rfl⟩),
      openNeeds_ofJobs_eq_nil_iff sound distinct member]
  have names : (Plan.ofJobs jobs instances workers).ids.Perm (instances.map Instance.id) :=
    Plan.ids_perm_ofJobs sound distinct
  have parts := orderly.partition
  rw [running, List.append_nil] at parts
  refine ⟨orderly.ended_nodup, fun id member => ?_,
    (orderly.names_perm planned ready running).trans names, fun inst member => ?_,
    fun inst member ran => ⟨?_, answering.outcome_ne inst⟩, fun inst member fresh => ?_⟩
  · exact names.mem_iff.1 (orderly.submitted_free (parts.mem_iff.2 member)).1
  · refine ⟨fun ran need _ precedes => orderly.succeeded_behind
      (Plan.precedes_ofJobs sound distinct precedes) (parts.mem_iff.2 ran), fun all => ?_⟩
    refine (ended_iff member).2 fun need here waits => ?_
    exact (all need here (.single ⟨here, member, waits⟩)).2
  · have answered := answered_of_reaches planned answering.own answering.steady reached _ ran
    rwa [Plan.inst_ofGraph distinct member] at answered
  · obtain ⟨result, found⟩ := Option.isSome_iff_exists.1
      (orderly.settled planned ready running _ (known.2 ⟨inst, member, rfl⟩))
    have unsubmitted : inst.id ∉ submittedIn turns := fun old => fresh (parts.mem_iff.1 old)
    obtain ⟨⟨culprit, rfl⟩, _⟩ := orderly.spared found unsubmitted
    rw [Plan.inst_ofGraph distinct member] at found
    exact ⟨culprit, found⟩

theorem workersFor_nonneg_iff {limit : Option Int} (instances : List Instance) :
    0 ≤ workersFor limit instances ↔ ∀ count ∈ limit, 0 ≤ count := by
  constructor
  · intro enough count given
    by_cases unlimited : count = 0
    · exact unlimited ▸ Int.le_refl 0
    · have kept : limit.filter (· != 0) = some count := by
        rw [Option.mem_def.1 given]
        simp [unlimited]
      rwa [workersFor, kept] at enough
  · intro allowed
    rw [workersFor]
    cases kept : limit.filter (· != 0) with
    | none => exact Int.le_trans (by decide) (Int.le_max_left 1 _)
    | some count => exact allowed count (Option.mem_filter_iff.1 kept).1

theorem run_eq {graph : InstanceGraph} (accepted : InstanceGraph.ofInstances jobs instances = .ok graph)
    {limit : Option Int} (allowed : ∀ count ∈ limit, 0 ≤ count) (console : Console)
    (policy : Policy) (runner : Runner ω) (world : ω) :
    run jobs instances limit console policy runner world =
      let workers := workersFor limit instances
      let plan := Plan.ofGraph instances graph workers.toNat
      let ended := runAll plan console policy runner (plan.ids.length + 1)
        (State.start plan (runner.tell (announcement console workers instances) world))
      ⟨ended.1.results, ended.2, ended.1.world⟩ := by
  have bound (workers : Nat) :
      (Plan.ofGraph instances graph workers).ids.length = graph.prereqs.length := List.length_map _
  rw [run, accepted]
  dsimp only
  rw [if_neg (Int.not_lt.2 ((workersFor_nonneg_iff instances).2 allowed)), bound]

end

theorem answers_sampleRunner : sampleRunner.Answers sampleAnswers := by
  refine ⟨fun _ _ => rfl, fun inst result answer => ?_, calm_sampleAnswers⟩
  rw [sampleAnswers_ok answer]
  exact ⟨rfl, JobOutcome.noConfusion⟩

end CiPipeline.Schedule
