import CiPipeline.Proofs.Run.Calls

/-! What the verdict of a run says about the steps that were handed to executors, and in which order steps
of different instances are handed over. -/
namespace CiPipeline

open Schedule

variable {σ : Type}

theorem callsOf_append (id : String) (front back : List Call) :
    callsOf id (front ++ back) = callsOf id front ++ callsOf id back :=
  List.filter_append _ _

theorem callsOf_self {id : String} {made : List Call} (own : ∀ call ∈ made, call.job = id) :
    callsOf id made = made :=
  List.filter_eq_self.2 fun call member => beq_iff_eq.2 (own call member)

theorem callsOf_eq_nil {id : String} {made : List Call} (apart : ∀ call ∈ made, call.job ≠ id) :
    callsOf id made = [] :=
  List.filter_eq_nil_iff.2 fun call member same => apart call member (beq_iff_eq.1 same)

theorem callsOf_append_apart {id : String} {calls made : List Call}
    (apart : ∀ call ∈ made, call.job ≠ id) : callsOf id (calls ++ made) = callsOf id calls := by
  rw [callsOf_append, callsOf_eq_nil apart, List.append_nil]

theorem callsOf_append_own {id : String} {calls made : List Call}
    (fresh : ∀ call ∈ calls, call.job ≠ id) (own : ∀ call ∈ made, call.job = id) :
    callsOf id (calls ++ made) = made := by
  rw [callsOf_append, callsOf_eq_nil fresh, callsOf_self own, List.nil_append]

namespace Run

/-- The notes at the head of a turn. Every instance that ended has been handed over in order, and it passed
exactly if it is recorded as a success; whatever an instance waits for passed before its first step. -/
structure Noted (plan : Plan) (turns : List Turn) (results : Keyed JobResult) (calls : List Call) :
    Prop where
  ended : ∀ call ∈ calls, call.job ∈ endedIn turns
  in_order : ∀ id ∈ endedIn turns, (callsOf id calls).map Call.step <+: (plan.inst id).steps
  passed : ∀ id ∈ endedIn turns,
    (plan.inst id).Passed calls ↔ hasSucceeded results id = true
  behind : ∀ position call, calls[position]? = some call → ∀ need, plan.Precedes need call.job →
    (plan.inst need).Passed (calls.take position)

variable {plan : Plan} {console : Console}

section

variable {turns : List Turn} {results later : Keyed JobResult} {calls made : List Call} {turn : Turn}

theorem callsOf_before (fresh : turn.ended ∉ endedIn turns)
    (own : ∀ call ∈ made, call.job = turn.ended) {id : String} (old : id ∈ endedIn turns)
    {some_made : List Call} (inside : some_made ⊆ made) :
    callsOf id (calls ++ some_made) = callsOf id calls := by
  refine callsOf_append_apart fun call member same => fresh ?_
  rw [← own call (inside member), same]
  exact old

variable (noted : Noted plan turns results calls) (fresh : turn.ended ∉ endedIn turns)

include noted fresh

theorem Noted.callsOf_ended (own : ∀ call ∈ made, call.job = turn.ended) :
    callsOf turn.ended (calls ++ made) = made :=
  callsOf_append_own (fun call member same => fresh (same ▸ noted.ended call member)) own

theorem Noted.behind_append (own : ∀ call ∈ made, call.job = turn.ended) (sound : plan.Sound)
    (known : endedIn turns ⊆ plan.ids)
    (behind : ∀ need, plan.Precedes need turn.ended →
      need ∈ endedIn turns ∧ hasSucceeded results need = true)
    {position : Nat} {call : Call} (found : (calls ++ made)[position]? = some call) {need : String}
    (precedes : plan.Precedes need call.job) :
    (plan.inst need).Passed ((calls ++ made).take position) := by
  by_cases early : position < calls.length
  · rw [List.getElem?_append_left early] at found
    rw [List.take_append_of_le_length (Nat.le_of_lt early)]
    exact noted.behind position call found need precedes
  · have late : calls.length ≤ position := Nat.le_of_not_lt early
    rw [List.getElem?_append_right late] at found
    rw [own call (List.mem_of_getElem? found)] at precedes
    obtain ⟨old, good⟩ := behind need precedes
    have before := (noted.passed need old).2 good
    rw [List.take_append, List.take_of_length_le late]
    rw [Instance.Passed, sound.id_inst (known old)] at before ⊢
    rwa [callsOf_before fresh own old (List.take_subset _ _)]

theorem Noted.append (sound : plan.Sound) (here : turn.ended ∈ plan.ids)
    (known : endedIn turns ⊆ plan.ids)
    (behind : ∀ need, plan.Precedes need turn.ended →
      need ∈ endedIn turns ∧ hasSucceeded results need = true)
    (kept : ∀ id ∈ endedIn turns, hasSucceeded later id = hasSucceeded results id)
    (handed : Handed turn.ended (plan.inst turn.ended).steps
      (hasSucceeded later turn.ended = true) made) :
    Noted plan (turns ++ [turn]) later (calls ++ made) := by
  have new := noted.callsOf_ended fresh handed.own
  have apart {id : String} (old : id ∈ endedIn turns) :
      callsOf id (calls ++ made) = callsOf id calls :=
    callsOf_before fresh handed.own old (List.Subset.refl _)
  have names {id : String} :
      id ∈ endedIn (turns ++ [turn]) ↔ id ∈ endedIn turns ∨ id = turn.ended := by
    simp [endedIn]
  refine ⟨fun call member => ?_, fun id member => ?_, fun id member => ?_,
    fun position call found need precedes =>
      noted.behind_append fresh handed.own sound known behind found precedes⟩
  · rcases List.mem_append.1 member with old | added
    · exact names.2 (.inl (noted.ended call old))
    · exact names.2 (.inr (handed.own call added))
  · rcases names.1 member with old | rfl
    · rw [apart old]
      exact noted.in_order id old
    · rw [new]
      exact handed.in_order
  · rcases names.1 member with old | rfl
    · rw [kept id old, ← noted.passed id old, Instance.Passed, Instance.Passed,
        sound.id_inst (known old), apart old]
    · rw [handed.well_iff, Instance.Passed, sound.id_inst here, new]

end

section

variable {context : Context} {options : Options}
  {executorFor : Option String → Executor (World σ)}

theorem noted_of_reaches (sound : plan.Sound)
    (startable : ∀ id ∈ plan.ids, Startable context (plan.inst id))
    {world : World (σ × List Call)} (blank : world.calls = []) {turns : List Turn}
    {state : State (World (σ × List Call))}
    (reached : Reaches plan options.console
      (runner context options fun backend => (executorFor backend).noting)
      (State.start plan world) turns state) :
    Noted plan turns state.results state.world.calls := by
  have own : (runner context options fun backend => (executorFor backend).noting).Own :=
    own_runner context options _
  induction reached with
  | start =>
    have empty : (State.start plan world).world.calls = [] := blank
    rw [empty]
    exact ⟨by simp, by simp [endedIn], by simp [endedIn], by simp⟩
  | @turn turns state position id later before ends completed ih =>
    have orderly := orderly_of_reaches sound own before
    have submitted := orderly_submit orderly
    have running := List.mem_of_getElem? ends
    have here := submitted.known_of_running running
    have old : id ∈ submittedIn turns ++ state.ready.map (·.2) :=
      submitted.partition.mem_iff.2 (List.mem_append_right _ running)
    obtain ⟨new, kept⟩ := results_turn sound own orderly ends completed
    obtain ⟨made, noted, handed⟩ := calls_runJob context options.console options.tailLines
      executorFor (startable id here) state.world
    rw [sound.id_inst here] at handed
    have quiet (lines : List Line) (world : World (σ × List Call)) :
        ((runner context options fun backend => (executorFor backend).noting).tell lines
          world).calls = world.calls := rfl
    have calls : later.world.calls = state.world.calls ++ made :=
      (observe_complete quiet completed).trans noted
    have fresh : id ∉ endedIn turns := fun old => by
      have ended := (orderly_turn sound own orderly ends completed).ended_nodup
      exact (List.nodup_append.1 ended).2.2 id old id (List.mem_singleton_self id) rfl
    rw [calls]
    refine ih.append fresh sound here
      (fun id member => (submitted.submitted_free (submitted.partition.mem_iff.2
        (List.mem_append_left _ member))).1)
      (fun need precedes => submitted.succeeded_behind precedes old) (fun other member => ?_)
      (handed.congr ?_)
    · obtain ⟨stored, found⟩ := Option.isSome_iff_exists.1 (orderly.ended_settled member)
      rw [hasSucceeded_of_get? found, hasSucceeded_of_get? (kept found)]
    · rw [hasSucceeded_of_get? new]
      exact Iff.rfl

theorem Noted.succeeded_iff {turns : List Turn} {state : State (World (σ × List Call))}
    (noted : Noted plan turns state.results state.world.calls) (sound : plan.Sound)
    (orderly : Orderly plan (submittedIn turns) (endedIn turns) state) (ready : state.ready = [])
    (running : state.running = []) :
    (∀ id ∈ plan.ids, hasSucceeded state.results id = true) ↔
      ∀ id ∈ plan.ids, (plan.inst id).Passed state.world.calls := by
  constructor
  · intro all id here
    have good := all id here
    exact (noted.passed id (orderly.ended_of_succeeded good)).2 good
  · intro all
    -- An instance without steps passes without having been run, so that it is not enough to look at it alone.
    refine sound.induction fun id here below => ?_
    have free : openNeeds plan state.results id = [] := openNeeds_eq_nil_iff.2 below
    have ran := (orderly.mem_ended_iff ready running).2 ⟨here, free⟩
    exact (noted.passed id ran).1 (all id here)

end

theorem runPipeline_noting (pipeline : Pipeline) (context : Context) (options : Options)
    (executorFor : Option String → Executor (World σ)) (world : World (σ × List Call)) :
    runPipeline pipeline context options executorFor world.bare =
      ((runPipeline pipeline context options (fun backend => (executorFor backend).noting) world).1,
        (runPipeline pipeline context options (fun backend => (executorFor backend).noting)
          world).2.bare) := by
  rw [runPipeline, runPipeline]
  cases pipeline.instances with
  | error problem => rfl
  | ok instances =>
    have image := run_map (maps_noting context options executorFor) pipeline.jobs instances
      options.workers options.console options.policy world
    dsimp only [schedule]
    rw [image]
    dsimp only [Ended.map]
    split <;> rfl

end Run

theorem Report.succeeded_eq (results : Keyed JobResult) (inst : Instance) :
    Report.succeeded results inst = hasSucceeded results inst.id := by
  rw [Report.succeeded, hasSucceeded]
  cases results.get? inst.id <;> rfl

theorem Report.verdict_build (name : String) (instances : List Instance)
    (results : Keyed JobResult) : (Report.build name instances results).verdict = .success ↔
      ∀ inst ∈ instances, hasSucceeded results inst.id = true := by
  have perm : (inOrder instances).Perm instances := List.mergeSort_perm _ _
  have all : (inOrder instances).all (Report.succeeded results) = true ↔
      ∀ inst ∈ instances, hasSucceeded results inst.id = true := by
    simp only [List.all_eq_true, perm.mem_iff, succeeded_eq]
  rw [Report.build]
  dsimp only
  rw [Report.verdictOf, ← all]
  split
  · rename_i good
    exact iff_of_true rfl good
  · rename_i bad
    exact iff_of_false (by decide) bad

namespace Run

/-- How the calls of a run lie: those of an instance follow its steps and never repeat one, and what the
instance waits for has passed before the first of them. -/
structure Ordered (jobs : List Job) (instances : List Instance) (calls : List Call) : Prop where
  in_order : ∀ inst ∈ instances, (callsOf inst.id calls).map Call.step <+: inst.steps
  behind : ∀ position call, calls[position]? = some call → ∃ inst ∈ instances, call.job = inst.id ∧
    ∀ need ∈ instances, need.Precedes jobs instances inst → need.Passed (calls.take position)

section

variable {jobs : List Job} {instances : List Instance} {workers : Nat} {context : Context}
  {options : Options} {executorFor : Option String → Executor (World σ)}
  {world : World (σ × List Call)} {turns : List Turn} {head : State (World (σ × List Call))}
  (sound : JobGraph.Sound jobs) (distinct : (instances.map Instance.id).Nodup)
  (planned : (Plan.ofJobs jobs instances workers).Sound)
  (startable : ∀ inst ∈ instances, Startable context inst)
  (blank : world.calls = [])
  (reached : Reaches (Plan.ofJobs jobs instances workers) options.console
    (runner context options fun backend => (executorFor backend).noting)
    (State.start (Plan.ofJobs jobs instances workers) world) turns head)

include planned reached

theorem orderly_head : Orderly (Plan.ofJobs jobs instances workers) (submittedIn turns) (endedIn turns)
    head :=
  orderly_of_reaches planned (own_runner context options _) reached

include sound distinct startable blank

theorem noted_head : Noted (Plan.ofJobs jobs instances workers) turns head.results head.world.calls := by
  refine noted_of_reaches planned (fun id here => ?_) blank reached
  obtain ⟨inst, member, rfl⟩ := (Plan.mem_ids_ofJobs sound distinct).1 here
  rw [Plan.inst_ofGraph distinct member]
  exact startable inst member

theorem ordered_head : Ordered jobs instances head.world.calls := by
  have noted := noted_head sound distinct planned startable blank reached
  have orderly := orderly_head planned reached
  refine ⟨fun inst member => ?_, fun position call found => ?_⟩
  · by_cases ended : inst.id ∈ endedIn turns
    · have steps := noted.in_order _ ended
      rwa [Plan.inst_ofGraph distinct member] at steps
    · rw [callsOf_eq_nil]
      · exact List.nil_prefix
      · intro call there same
        exact ended (same ▸ noted.ended call there)
  · have ended := noted.ended call (List.mem_of_getElem? found)
    obtain ⟨inst, member, same⟩ := (Plan.mem_ids_ofJobs sound distinct).1
      (orderly.submitted_free (orderly.partition.mem_iff.2 (List.mem_append_left _ ended))).1
    refine ⟨inst, member, same.symm, fun need there precedes => ?_⟩
    have passed := noted.behind position call found need.id
      (same ▸ Plan.precedes_ofJobs sound distinct precedes)
    rwa [Plan.inst_ofGraph distinct there] at passed

theorem passed_behind_head {inst need : Instance} (there : need ∈ instances)
    (submitted : inst.id ∈ submittedIn turns ++ head.ready.map (·.2))
    (precedes : need.Precedes jobs instances inst) : need.Passed head.world.calls := by
  have orderly := orderly_submit (orderly_head planned reached)
  obtain ⟨ended, good⟩ := orderly.succeeded_behind
    (Plan.precedes_ofJobs sound distinct precedes) submitted
  have passed := ((noted_head sound distinct planned startable blank reached).passed _ ended).2 good
  rwa [Plan.inst_ofGraph distinct there] at passed

theorem succeeded_iff_passed (ready : head.ready = []) (running : head.running = []) :
    (∀ inst ∈ instances, hasSucceeded head.results inst.id = true) ↔
      ∀ inst ∈ instances, inst.Passed head.world.calls := by
  have known {id : String} : id ∈ (Plan.ofJobs jobs instances workers).ids ↔
      ∃ inst ∈ instances, inst.id = id := Plan.mem_ids_ofJobs sound distinct
  have over_ids (p : String → Prop) : (∀ id ∈ (Plan.ofJobs jobs instances workers).ids, p id) ↔
      ∀ inst ∈ instances, p inst.id :=
    ⟨fun all inst member => all _ (known.2 ⟨inst, member, rfl⟩), fun all id here => by
      obtain ⟨inst, member, rfl⟩ := known.1 here
      exact all inst member⟩
  rw [← over_ids fun id => hasSucceeded head.results id = true,
    (noted_head sound distinct planned startable blank reached).succeeded_iff planned
      (orderly_head planned reached) ready running, over_ids]
  refine forall₂_congr fun inst member => ?_
  rw [Plan.inst_ofGraph distinct member]

end

/-- The verdict is a success exactly if every step of every instance was handed to an executor once and in
its order, and succeeded. No step of an instance is handed over, and no instance is even submitted, before
everything that it waits for has passed. -/
theorem verdict_iff_passed {pipeline : Pipeline} {instances : List Instance} {graph : InstanceGraph}
    (expanded : pipeline.instances = .ok instances)
    (distinct : (instances.map Instance.id).Nodup)
    (accepted : InstanceGraph.ofInstances pipeline.jobs instances = .ok graph)
    {context : Context} (creatable : ∀ inst ∈ instances, ∃ path, context.workdirFor inst = .ok path)
    {options : Options} (allowed : ∀ count ∈ options.workers, 0 ≤ count)
    {executorFor : Option String → Executor (World σ)} (calm : ∀ backend, (executorFor backend).Calm)
    (world : World σ) :
    ∃ report last calls,
      runPipeline pipeline context options executorFor world = (.ok report, last) ∧
      runPipeline pipeline context options (fun backend => (executorFor backend).noting)
        (world.noting []) = (.ok report, last.noting calls) ∧
      (report.verdict = .success ↔ ∀ inst ∈ instances, inst.Passed calls) ∧
      Ordered pipeline.jobs instances calls ∧
      (let workers := workersFor options.workers instances
        let plan := Plan.ofGraph instances graph workers.toNat
        let told := (world.noting []).tell (announcement options.console workers instances)
        ∀ turns head, Reaches plan options.console
            (runner context options fun backend => (executorFor backend).noting)
            (State.start plan told) turns head →
          Ordered pipeline.jobs instances head.world.calls ∧
          ∀ inst ∈ instances, inst.id ∈ submittedIn turns ++ head.ready.map (·.2) →
            ∀ need ∈ instances, need.Precedes pipeline.jobs instances inst →
              need.Passed head.world.calls) := by
  obtain ⟨sound, rfl, depth, grows⟩ := InstanceGraph.ofInstances_ok accepted
  have planned : (Plan.ofJobs pipeline.jobs instances
      (workersFor options.workers instances).toNat).Sound := Plan.sound_ofJobs sound distinct grows
  have unbroken : (runner context options fun backend => (executorFor backend).noting).Calm :=
    calm_runner context options _ fun backend _ _ _ _ _ raised => calm backend _ _ _ _ _ raised
  have own := own_runner context options fun backend => (executorFor backend).noting
  have startable := startable_of_expanded expanded creatable
  have blank : ((world.noting []).tell (announcement options.console
      (workersFor options.workers instances) instances)).calls = [] := rfl
  obtain ⟨turns, head, reached, ready, running, rests⟩ := exists_idle planned unbroken
    options.console options.policy ((world.noting []).tell (announcement options.console
      (workersFor options.workers instances) instances))
  have noted : runPipeline pipeline context options (fun backend => (executorFor backend).noting)
      (world.noting []) = (.ok (Report.build pipeline.name instances head.results), head.world) := by
    rw [runPipeline, expanded]
    dsimp only [schedule]
    rw [run_eq accepted allowed]
    dsimp only [runner] at rests ⊢
    rw [rests _ (Nat.lt_succ_self _)]
  have plain := runPipeline_noting pipeline context options executorFor (world.noting [])
  rw [noted] at plain
  refine ⟨_, head.world.bare, head.world.calls, plain, noted, ?_,
    ordered_head sound distinct planned startable blank reached, fun turns head reached =>
      ⟨ordered_head sound distinct planned startable blank reached, fun inst _ submitted need there =>
        passed_behind_head sound distinct planned startable blank reached there submitted⟩⟩
  rw [Report.verdict_build]
  exact succeeded_iff_passed sound distinct planned startable blank reached ready running

def sampleContext : Context where
  pipelineEnv := []
  environ := []
  workspace := Files.Path.ofText "."
  scratch := Files.Path.ofText "."
  isolate := false
  backends := []
  backendAxis := "os"
  defaultTimeout := none

def sampleOptions : Options := ⟨⟨false, false⟩, 30, some 2, fun _ _ _ => 1⟩

def sampleExecutor : Executor (World Nat) := fun step _ _ world =>
  (if world.inner = 0 then .finished ⟨step.name, .succeeded, some 0, [], none, none, none, none⟩
    else .raised (.crash ⟨"RuntimeError", "no disk"⟩), ⟨world.lines, world.inner + 1⟩)

theorem calm_sampleExecutor : sampleExecutor.Calm := by
  intro step environment onLine world failure raised
  dsimp only [sampleExecutor] at raised
  split at raised
  · cases raised
  · rw [← Attempt.raised.inj raised]
    decide

theorem verdict_iff_passed_sample : ∃ report last calls,
    runPipeline sample sampleContext sampleOptions (fun _ => sampleExecutor.noting)
      (World.noting [] ⟨[], 0⟩) = (.ok report, World.noting calls last) ∧
    (report.verdict = .success ↔ ∀ inst ∈ sampleInstances, inst.Passed calls) ∧
    Ordered sample.jobs sampleInstances calls := by
  have creatable : ∀ inst ∈ sampleInstances, ∃ path, sampleContext.workdirFor inst = .ok path :=
    fun _ _ => ⟨_, rfl⟩
  have allowed : ∀ count ∈ sampleOptions.workers, 0 ≤ count := by decide
  obtain ⟨report, last, calls, _, noted, verdict, ordered, _⟩ := verdict_iff_passed instances_sample
    (by decide) accepted_sample creatable allowed (fun _ => calm_sampleExecutor) ⟨[], 0⟩
  exact ⟨report, last, calls, noted, verdict, ordered⟩

end Run

end CiPipeline
