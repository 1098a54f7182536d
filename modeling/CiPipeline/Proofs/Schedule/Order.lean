import CiPipeline.Proofs.Schedule.Cascade
import CiPipeline.Proofs.Schedule.Queue

/-! The order that a schedule keeps. Counters, queue, running instances and results fit together at the
head of every turn; submitting keeps that, and so does storing the result of an instance. -/
namespace CiPipeline.Schedule

variable {ω : Type} {plan : Plan} {submitted ended : List String}

def hasSucceeded (results : Keyed JobResult) (id : String) : Bool :=
  (results.get? id).any JobResult.ok

def Spoiled (results : Keyed JobResult) (id : String) : Prop :=
  ∃ result, results.get? id = some result ∧ result.ok = false

/-- The prerequisites of an instance that are not done yet, whatever this means. -/
def awaited (plan : Plan) (done : String → Bool) (id : String) : List String :=
  (plan.prereqs id).filter fun need => !done need

theorem awaited_eq_nil_iff {done : String → Bool} {id : String} :
    awaited plan done id = [] ↔ ∀ need ∈ plan.prereqs id, done need = true := by
  simp [awaited, List.filter_eq_nil_iff]

theorem length_awaited (sound : plan.Sound) {done later : String → Bool} {id : String} (before : done id = false)
    (after : later id = true) (elsewhere : ∀ need, need ≠ id → later need = done need) (other : String) :
    (awaited plan done other).length =
      (awaited plan later other).length + if other ∈ plan.dependents id then 1 else 0 := by
  have distinct : (awaited plan done other).Nodup := (sound.prereqs_nodup other).filter _
  have mem_awaited : id ∈ awaited plan done other ↔ other ∈ plan.dependents id := by
    rw [sound.mem_dependents, awaited, List.mem_filter, before]
    simp
  have erased : awaited plan later other = (awaited plan done other).erase id := by
    rw [distinct.erase_eq_filter, awaited, awaited, List.filter_filter]
    refine List.filter_congr fun need _ => ?_
    by_cases here : need = id
    · simp [here, after]
    · simp [here, elsewhere need here]
  rw [erased]
  split
  · rename_i waiting
    have here := mem_awaited.2 waiting
    rw [List.length_erase_of_mem here]
    have := List.length_pos_of_mem here
    omega
  · rename_i apart
    rw [List.erase_of_not_mem fun here => apart (mem_awaited.1 here)]
    rfl

def openNeeds (plan : Plan) (results : Keyed JobResult) (id : String) : List String :=
  (plan.prereqs id).filter fun need => !hasSucceeded results need

structure Queued (plan : Plan) (submitted : List String) (state : State ω) : Prop where
  pending : ∀ {id}, id ∈ plan.ids →
    state.pending.get? id = some ((openNeeds plan state.results id).length : Int)
  ready_index : ∀ {entry}, entry ∈ state.ready → entry = entryOf plan entry.2
  ready_sorted : Sorted state.ready
  ready_nodup : (state.ready.map (·.2)).Nodup
  mem_ready : ∀ {id}, id ∈ state.ready.map (·.2) ↔
    id ∈ plan.ids ∧ id ∉ submitted ∧ openNeeds plan state.results id = []

structure Recorded (plan : Plan) (submitted ended : List String) (results : Keyed JobResult) :
    Prop where
  submitted_free : ∀ {id}, id ∈ submitted → id ∈ plan.ids ∧ openNeeds plan results id = []
  ended_settled : ∀ {id}, id ∈ ended → (results.get? id).isSome
  known : ∀ {id result}, results.get? id = some result → id ∈ plan.ids ∧ result.inst.id = id
  /-- What was never submitted can only have been cancelled, and not without a cause. -/
  spared : ∀ {id result}, results.get? id = some result → id ∉ submitted →
    (∃ culprit, result = .cancelled (plan.inst id) culprit) ∧
      ∃ need ∈ plan.prereqs id, Spoiled results need
  closed : ∀ {need id}, need ∈ plan.prereqs id → Spoiled results need → (results.get? id).isSome
  names_nodup : results.names.Nodup

structure Orderly (plan : Plan) (submitted ended : List String) (state : State ω) : Prop
    extends Queued plan submitted state, Recorded plan submitted ended state.results where
  submitted_nodup : submitted.Nodup
  partition : submitted.Perm (ended ++ state.running)
  running_open : ∀ {id}, id ∈ state.running → state.results.get? id = none

theorem openNeeds_eq_nil_iff {results : Keyed JobResult} {id : String} :
    openNeeds plan results id = [] ↔ ∀ need ∈ plan.prereqs id, hasSucceeded results need = true :=
  awaited_eq_nil_iff

theorem hasSucceeded_of_get? {results : Keyed JobResult} {id : String} {result : JobResult}
    (found : results.get? id = some result) : hasSucceeded results id = result.ok := by
  rw [hasSucceeded, found, Option.any_some]

theorem hasSucceeded_of_none {results : Keyed JobResult} {id : String}
    (missing : results.get? id = none) : hasSucceeded results id = false := by
  rw [hasSucceeded, missing, Option.any_none]

theorem not_hasSucceeded_of_spoiled {results : Keyed JobResult} {id : String}
    (spoiled : Spoiled results id) : hasSucceeded results id = false := by
  obtain ⟨result, found, bad⟩ := spoiled
  rw [hasSucceeded_of_get? found, bad]

theorem openNeeds_ne_nil {results : Keyed JobResult} {need id : String}
    (waited : need ∈ plan.prereqs id) (bad : hasSucceeded results need = false) :
    openNeeds plan results id ≠ [] := by
  intro empty
  rw [openNeeds_eq_nil_iff.1 empty need waited] at bad
  cases bad

theorem names_of_length_zero {entries : Keyed (List String)} (distinct : entries.names.Nodup) :
    Keyed.names ((entries.mapValues fun pre => (pre.length : Int)).filter
        fun entry => entry.2 == 0) =
      entries.names.filter fun id => ((entries.get? id).getD []).isEmpty := by
  rw [Keyed.names, Keyed.mapValues, List.filter_map, List.map_map, Keyed.names, List.filter_map]
  refine congrArg _ (List.filter_congr fun entry member => ?_)
  rw [Function.comp_apply, Function.comp_apply, Keyed.get?_of_mem distinct member]
  cases entry.2 with
  | nil => rfl
  | cons need rest => simp; omega

theorem ready_start (nodup : plan.ids.Nodup) (world : ω) :
    (State.start plan world).ready =
      (plan.ids.filter fun id => (plan.prereqs id).isEmpty).foldl
        (fun ready id => enqueue (entryOf plan id) ready) [] := by
  have free : Keyed.names ((State.start plan world).pending.filter fun entry => entry.2 == 0) =
      plan.ids.filter fun id => (plan.prereqs id).isEmpty :=
    names_of_length_zero nodup
  rw [← free, Keyed.names, List.foldl_map]
  rfl

theorem openNeeds_nil (id : String) : openNeeds plan [] id = plan.prereqs id :=
  List.filter_eq_self.2 fun _ _ => rfl

theorem queued_start (sound : plan.Sound) (world : ω) :
    Queued plan [] (State.start plan world) := by
  have queue := foldl_enqueue plan (plan.ids.filter fun id => (plan.prereqs id).isEmpty)
    (List.Pairwise.nil : Sorted [])
  rw [← ready_start sound.nodup world, List.nil_append] at queue
  obtain ⟨entries, sorted⟩ := queue
  have names : ((State.start plan world).ready.map (·.2)).Perm
      (plan.ids.filter fun id => (plan.prereqs id).isEmpty) := by
    refine (entries.map _).trans ?_
    simp [entryOf, Function.comp_def]
  have none_done (id : String) :
      openNeeds plan (State.start plan world).results id = plan.prereqs id := openNeeds_nil id
  refine ⟨fun {id} here => ?_, fun {entry} member => ?_, sorted,
    names.nodup_iff.2 (sound.nodup.filter _), fun {id} => ?_⟩
  · rw [none_done, State.start, Keyed.get?_mapValues, sound.prereqs_get? here, Option.map_some]
  · obtain ⟨id, _, rfl⟩ := List.mem_map.1 (entries.mem_iff.1 member)
    rfl
  · rw [names.mem_iff, List.mem_filter, List.isEmpty_iff, none_done]
    exact and_congr_right fun _ => (and_iff_right List.not_mem_nil).symm

theorem recorded_nil : Recorded plan [] [] [] where
  submitted_free member := absurd member List.not_mem_nil
  ended_settled member := absurd member List.not_mem_nil
  known found := absurd found (Option.some_ne_none _).symm
  spared found := absurd found (Option.some_ne_none _).symm
  closed _ spoiled := by
    obtain ⟨result, found, _⟩ := spoiled
    cases found
  names_nodup := List.nodup_nil

theorem orderly_start (sound : plan.Sound) (world : ω) :
    Orderly plan [] [] (State.start plan world) where
  toQueued := queued_start sound world
  toRecorded := recorded_nil
  submitted_nodup := List.nodup_nil
  partition := .refl _
  running_open member := absurd member List.not_mem_nil

/-- A free instance has no result: were it cancelled, something would still be open. -/
theorem Orderly.ready_open {state : State ω} (orderly : Orderly plan submitted ended state)
    {id : String} (ready : id ∈ state.ready.map (·.2)) : state.results.get? id = none := by
  obtain ⟨_, fresh, empty⟩ := orderly.mem_ready.1 ready
  cases found : state.results.get? id with
  | none => rfl
  | some result =>
    obtain ⟨_, need, waited, spoiled⟩ := orderly.spared found fresh
    exact absurd empty (openNeeds_ne_nil waited (not_hasSucceeded_of_spoiled spoiled))

theorem Orderly.known_of_running {state : State ω} (orderly : Orderly plan submitted ended state)
    {id : String} (running : id ∈ state.running) : id ∈ plan.ids :=
  (orderly.submitted_free (orderly.partition.mem_iff.2 (List.mem_append_right _ running))).1

theorem orderly_submit {state : State ω} (orderly : Orderly plan submitted ended state) :
    Orderly plan (submitted ++ state.ready.map (·.2)) ended state.submit := by
  refine ⟨⟨orderly.pending, by simp [State.submit], List.Pairwise.nil, List.nodup_nil, fun {id} => ?_⟩,
    ⟨fun {id} member => ?_, orderly.ended_settled, orderly.known, fun found fresh => ?_,
      orderly.closed, orderly.names_nodup⟩, ?_, ?_, fun {id} member => ?_⟩
  · constructor
    · intro none
      cases none
    · rintro ⟨here, fresh, empty⟩
      rw [List.mem_append, not_or] at fresh
      exact absurd (orderly.mem_ready.2 ⟨here, fresh.1, empty⟩) fresh.2
  · rcases List.mem_append.1 member with old | new
    · exact orderly.submitted_free old
    · exact ⟨(orderly.mem_ready.1 new).1, (orderly.mem_ready.1 new).2.2⟩
  · rw [List.mem_append, not_or] at fresh
    exact orderly.spared found fresh.1
  · refine List.nodup_append.2 ⟨orderly.submitted_nodup, orderly.ready_nodup, ?_⟩
    rintro id old _ new rfl
    exact (orderly.mem_ready.1 new).2.1 old
  · rw [State.submit, ← List.append_assoc]
    exact orderly.partition.append_right _
  · rcases List.mem_append.1 member with old | new
    · exact orderly.running_open old
    · exact orderly.ready_open new

end CiPipeline.Schedule
