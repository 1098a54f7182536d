import CiPipeline.Proofs.Schedule.Loop

/-! Submissions, whatever a runner answers. A counter goes down when a prerequisite was run with a success, under
whatever name the result of this run is stored. So nothing is submitted twice, and nothing before all that it waits
for was run. -/
namespace CiPipeline.Schedule

variable {ω : Type} {plan : Plan} {console : Console} {runner : Runner ω} {submitted ended : List String}
  {done : String → Bool}

/-- Counters, queue and running instances fit together, where some of the instances that ended count as done. -/
structure Counted (plan : Plan) (submitted ended : List String) (done : String → Bool) (state : State ω) :
    Prop where
  pending : ∀ {id}, id ∈ plan.ids → state.pending.get? id = some ((awaited plan done id).length : Int)
  ready_index : ∀ {entry}, entry ∈ state.ready → entry = entryOf plan entry.2
  ready_sorted : Sorted state.ready
  ready_nodup : (state.ready.map (·.2)).Nodup
  ready_free : ∀ {id}, id ∈ state.ready.map (·.2) →
    id ∉ submitted ∧ id ∈ plan.ids ∧ awaited plan done id = []
  submitted_free : ∀ {id}, id ∈ submitted → id ∈ plan.ids ∧ awaited plan done id = []
  done_ended : ∀ {id}, done id = true → id ∈ ended
  submitted_nodup : submitted.Nodup
  partition : submitted.Perm (ended ++ state.running)

theorem counted_start (sound : plan.Sound) (world : ω) :
    Counted plan [] [] (fun _ => false) (State.start plan world) where
  pending := (queued_start sound world).pending
  ready_index := (queued_start sound world).ready_index
  ready_sorted := (queued_start sound world).ready_sorted
  ready_nodup := (queued_start sound world).ready_nodup
  ready_free ready := by
    obtain ⟨here, fresh, free⟩ := (queued_start sound world).mem_ready.1 ready
    exact ⟨fresh, here, free⟩
  submitted_free none := absurd none List.not_mem_nil
  done_ended none := by cases none
  submitted_nodup := List.nodup_nil
  partition := .refl _

namespace Counted

variable {state : State ω}

theorem submit (counted : Counted plan submitted ended done state) :
    Counted plan (submitted ++ state.ready.map (·.2)) ended done state.submit := by
  refine ⟨counted.pending, fun none => absurd none List.not_mem_nil, .nil, List.nodup_nil,
    fun none => absurd none List.not_mem_nil, fun {id} member => ?_, counted.done_ended,
    List.nodup_append.2 ⟨counted.submitted_nodup, counted.ready_nodup, ?_⟩, ?_⟩
  · rcases List.mem_append.1 member with old | new
    · exact counted.submitted_free old
    · exact (counted.ready_free new).2
  · rintro id old _ new rfl
    exact (counted.ready_free new).1 old
  · rw [State.submit, ← List.append_assoc]
    exact counted.partition.append_right _

theorem mem_submitted (counted : Counted plan submitted ended done state) {id : String}
    (running : id ∈ state.running) : id ∈ submitted :=
  counted.partition.mem_iff.2 (List.mem_append_right _ running)

theorem ended_nodup (counted : Counted plan submitted ended done state) : ended.Nodup :=
  (counted.partition.nodup_iff.1 counted.submitted_nodup).of_append_left

theorem not_done (counted : Counted plan submitted ended done state) {id : String}
    (running : id ∈ state.running) : done id = false := by
  have apart := List.disjoint_of_nodup_append (counted.partition.nodup_iff.1 counted.submitted_nodup)
  exact Bool.eq_false_iff.2 fun early => apart (counted.done_ended early) running

theorem ended_behind (counted : Counted plan submitted ended done state) {need id : String}
    (waited : need ∈ plan.prereqs id) (old : id ∈ submitted) : need ∈ ended :=
  counted.done_ended (awaited_eq_nil_iff.1 (counted.submitted_free old).2 need waited)

variable {later : State ω} {id : String} {rest : List String}

theorem partition_ended (counted : Counted plan submitted ended done state)
    (running : state.running.Perm (id :: rest)) : submitted.Perm (ended ++ [id] ++ rest) := by
  rw [List.append_assoc, List.singleton_append]
  exact counted.partition.trans (running.append_left _)

theorem spoiled (counted : Counted plan submitted ended done state) (running : state.running.Perm (id :: rest))
    (pending : later.pending = state.pending) (ready : later.ready = state.ready)
    (left : later.running = rest) : Counted plan submitted (ended ++ [id]) done later :=
  ⟨fun here => pending ▸ counted.pending here, fun member => counted.ready_index (ready ▸ member),
    ready ▸ counted.ready_sorted, ready ▸ counted.ready_nodup,
    fun member => counted.ready_free (ready ▸ member), counted.submitted_free,
    fun early => List.mem_append_left _ (counted.done_ended early), counted.submitted_nodup,
    left ▸ counted.partition_ended running⟩

theorem succeeded (sound : plan.Sound) (counted : Counted plan submitted ended done state)
    (running : state.running.Perm (id :: rest)) (middle : State ω)
    (pending : middle.pending = state.pending) (idle : middle.ready = []) (left : middle.running = rest)
    (unlocked : Unlocked plan (plan.dependents id) middle later) :
    Counted plan submitted (ended ++ [id]) (fun need => need == id || done need) later := by
  have open_yet : done id = false := counted.not_done (running.mem_iff.2 List.mem_cons_self)
  have counts (other : String) : (awaited plan done other).length =
      (awaited plan (fun need => need == id || done need) other).length +
        if other ∈ plan.dependents id then 1 else 0 :=
    length_awaited sound open_yet (by simp) (fun need different => by simp [different]) other
  have freed {other : String} (none : awaited plan done other = []) :
      awaited plan (fun need => need == id || done need) other = [] := by
    have count := counts other
    rw [none, List.length_nil] at count
    exact List.length_eq_zero_iff.1 (by omega)
  have names := unlocked.names_ready idle
  refine ⟨fun {other} here => unlocked.get?_pending (pending ▸ counted.pending here) (counts other),
    unlocked.ready_index idle, unlocked.sorted (idle ▸ List.Pairwise.nil),
    names.nodup_iff.2 ((sound.dependents_nodup id).filter _), fun {other} ready => ?_,
    fun old => ⟨(counted.submitted_free old).1, freed (counted.submitted_free old).2⟩,
    fun {other} early => ?_, counted.submitted_nodup, ?_⟩
  · obtain ⟨waiting, last⟩ := List.mem_filter.1 (names.mem_iff.1 ready)
    have here := (sound.known (sound.mem_dependents.1 waiting)).2
    have count := counts other
    rw [Bool.and_eq_true, decide_eq_true_eq, pending, counted.pending here, Option.some.injEq] at last
    rw [if_pos waiting] at count
    refine ⟨fun old => ?_, here, List.length_eq_zero_iff.1 (by omega)⟩
    rw [(counted.submitted_free old).2, List.length_nil] at count
    omega
  · rw [Bool.or_eq_true, beq_iff_eq] at early
    rcases early with rfl | old
    · exact List.mem_append_right _ (List.mem_singleton_self _)
    · exact List.mem_append_left _ (counted.done_ended old)
  · rw [unlocked.running, left]
    exact counted.partition_ended running

end Counted

theorem counted_turn (sound : plan.Sound) {state later : State ω} {position : Nat} {id : String}
    (counted : Counted plan submitted ended done state) (ends : state.submit.running[position]? = some id)
    (completed : complete plan console runner id (state.takeOut position) = (later, none)) :
    ∃ done', Counted plan (submitted ++ state.ready.map (·.2)) (ended ++ [id]) done' later := by
  obtain ⟨inside, here⟩ := List.getElem?_eq_some_iff.1 ends
  have running : state.submit.running.Perm (id :: state.submit.running.eraseIdx position) :=
    here ▸ (List.getElem_cons_eraseIdx_perm inside).symm
  obtain ⟨world, rfl⟩ := exists_settle completed
  generalize answerOf (plan.inst id) (runner.run (plan.inst id) (state.takeOut position).world).1 = result
  let middle := ({ state.takeOut position with world := world } : State ω).store result
  rw [State.settle]
  split
  · have unlocked : Unlocked plan (plan.dependents id) middle _ :=
      unlocked_foldl (sound.dependents_nodup id) fun other waiting =>
        Option.isSome_iff_exists.2 ⟨_, counted.pending (sound.known (sound.mem_dependents.1 waiting)).2⟩
    exact ⟨_, counted.submit.succeeded sound running middle rfl rfl rfl unlocked⟩
  · exact ⟨_, counted.submit.spoiled running rfl rfl rfl⟩

theorem counted_of_reaches (sound : plan.Sound) {world : ω} {turns : List Turn} {state : State ω}
    (reached : Reaches plan console runner (State.start plan world) turns state) :
    ∃ done, Counted plan (submittedIn turns) (endedIn turns) done state := by
  induction reached with
  | start => exact ⟨_, counted_start sound world⟩
  | turn _ ends completed ih =>
    obtain ⟨done, counted⟩ := ih
    obtain ⟨done', later⟩ := counted_turn sound counted ends completed
    exact ⟨done', by simpa [submittedIn, endedIn] using later⟩

end CiPipeline.Schedule
