import CiPipeline.Proofs.Schedule.Plan
import Mathlib.Data.List.Perm.Basic

/-! The parts of a turn that only count and queue: putting free instances in their place, and taking one
prerequisite off each dependent of an instance that succeeded. -/
namespace CiPipeline.Schedule

variable {ω : Type} {plan : Plan}

def Sorted (ready : List (Nat × String)) : Prop := ready.Pairwise fun a b => a.1 ≤ b.1

theorem enqueue_perm (entry : Nat × String) (ready : List (Nat × String)) :
    (enqueue entry ready).Perm (entry :: ready) := by
  induction ready with
  | nil => exact .refl _
  | cons other rest ih =>
    rw [enqueue]
    split
    · exact .refl _
    · exact (ih.cons other).trans (.swap entry other rest)

theorem sorted_enqueue {ready : List (Nat × String)} (sorted : Sorted ready)
    (entry : Nat × String) : Sorted (enqueue entry ready) := by
  induction ready with
  | nil => exact List.pairwise_singleton _ _
  | cons other rest ih =>
    obtain ⟨least, sorted_rest⟩ := List.pairwise_cons.1 sorted
    rw [enqueue]
    split
    · rename_i early
      have first : entry.1 ≤ other.1 := by omega
      refine List.pairwise_cons.2 ⟨fun later member => ?_, sorted⟩
      rcases List.mem_cons.1 member with rfl | there
      · exact first
      · exact Nat.le_trans first (least later there)
    · rename_i late
      have first : other.1 ≤ entry.1 := by omega
      refine List.pairwise_cons.2 ⟨fun later member => ?_, ih sorted_rest⟩
      rcases List.mem_cons.1 ((enqueue_perm entry rest).mem_iff.1 member) with rfl | there
      · exact first
      · exact least later there

def entryOf (plan : Plan) (id : String) : Nat × String := ((plan.inst id).index, id)

theorem foldl_enqueue (plan : Plan) (ids : List String) {ready : List (Nat × String)}
    (sorted : Sorted ready) :
    (ids.foldl (fun ready id => enqueue (entryOf plan id) ready) ready).Perm
        (ready ++ ids.map (entryOf plan)) ∧
      Sorted (ids.foldl (fun ready id => enqueue (entryOf plan id) ready) ready) := by
  induction ids generalizing ready with
  | nil => simpa using sorted
  | cons id rest ih =>
    obtain ⟨perm, sorted_later⟩ := ih (sorted_enqueue sorted (entryOf plan id))
    refine ⟨?_, sorted_later⟩
    rw [List.foldl_cons, List.map_cons]
    exact perm.trans (((enqueue_perm _ ready).append_right _).trans List.perm_middle.symm)

structure Unlocked (plan : Plan) (names : List String) (state later : State ω) : Prop where
  pending : ∀ id, later.pending.get? id =
    if id ∈ names then (state.pending.get? id).map (· - 1) else state.pending.get? id
  ready : later.ready.Perm (state.ready ++ (names.filter fun id =>
    decide (state.pending.get? id = some 1) && (state.results.get? id).isNone).map (entryOf plan))
  sorted : Sorted state.ready → Sorted later.ready
  running : later.running = state.running
  results : later.results = state.results
  world : later.world = state.world

theorem unlocked_unlock {state : State ω} {id : String} {count : Int}
    (found : state.pending.get? id = some count) :
    Unlocked plan [id] state (state.unlock plan id) := by
  rw [State.unlock]
  by_cases last : count = 1 ∧ (state.results.get? id).isNone
  · simp only [found, Option.getD_some, last, Int.sub_self, and_self, if_true]
    refine ⟨fun other => ?_, ?_, fun sorted => sorted_enqueue sorted _, rfl, rfl, rfl⟩
    · rw [Keyed.get?_put]
      by_cases here : other = id
      · simp [here, found, last.1]
      · simp [here]
    · refine (enqueue_perm _ _).trans ?_
      simp only [List.filter_cons, found, last, decide_true, Bool.and_self, if_true,
        List.filter_nil, List.map_singleton]
      exact (List.perm_append_singleton _ _).symm
  · have kept : ¬(count - 1 = 0 ∧ (state.results.get? id).isNone) :=
      fun both => last ⟨by omega, both.2⟩
    simp only [found, Option.getD_some, kept, if_false]
    refine ⟨fun other => ?_, ?_, fun sorted => sorted, rfl, rfl, rfl⟩
    · rw [Keyed.get?_put]
      by_cases here : other = id
      · simp [here, found]
      · simp [here]
    · have none : (decide (state.pending.get? id = some 1) && (state.results.get? id).isNone) =
          false := by
        simp only [found, Option.some.injEq, Bool.and_eq_false_iff, decide_eq_false_iff_not]
        by_cases one : count = 1
        · exact Or.inr (Bool.eq_false_iff.2 fun free => last ⟨one, free⟩)
        · exact Or.inl one
      simp [none]

theorem unlocked_foldl {names : List String} {state : State ω} (distinct : names.Nodup)
    (known : ∀ id ∈ names, (state.pending.get? id).isSome) :
    Unlocked plan names state (names.foldl (State.unlock plan) state) := by
  induction names generalizing state with
  | nil => exact ⟨fun id => by simp, by simp, id, rfl, rfl, rfl⟩
  | cons id rest ih =>
    rw [List.nodup_cons] at distinct
    obtain ⟨count, found⟩ := Option.isSome_iff_exists.1 (known id (by simp))
    have first : Unlocked plan [id] state (state.unlock plan id) := unlocked_unlock found
    have elsewhere {other : String} (different : other ≠ id) :
        (state.unlock plan id).pending.get? other = state.pending.get? other := by
      rw [first.pending, if_neg (by simpa using different)]
    have apart {other : String} (member : other ∈ rest) : other ≠ id :=
      fun same => distinct.1 (same ▸ member)
    have rest_known : ∀ other ∈ rest, ((state.unlock plan id).pending.get? other).isSome := by
      intro other member
      rw [elsewhere (apart member)]
      exact known other (by simp [member])
    have later := ih distinct.2 rest_known
    refine ⟨fun other => ?_, ?_, fun sorted => later.sorted (first.sorted sorted),
      later.running.trans first.running, later.results.trans first.results,
      later.world.trans first.world⟩
    · rw [List.foldl_cons, later.pending, first.pending]
      by_cases here : other = id
      · simp [here, distinct.1]
      · simp [here]
    · have same : rest.filter (fun other =>
            decide ((state.unlock plan id).pending.get? other = some 1) &&
              ((state.unlock plan id).results.get? other).isNone) =
          rest.filter fun other => decide (state.pending.get? other = some 1) &&
              (state.results.get? other).isNone :=
        List.filter_congr fun other member => by rw [elsewhere (apart member), first.results]
      rw [List.foldl_cons]
      refine later.ready.trans ?_
      rw [same]
      refine (first.ready.append_right _).trans ?_
      rw [List.append_assoc, ← List.map_append, ← List.filter_append, List.singleton_append]

namespace Unlocked

variable {names : List String} {before after : State ω} (unlocked : Unlocked plan names before after)

include unlocked

theorem get?_pending {id : String} {count left : Nat} (counted : before.pending.get? id = some (count : Int))
    (drops : count = left + if id ∈ names then 1 else 0) : after.pending.get? id = some (left : Int) := by
  rw [unlocked.pending, counted]
  split
  · rename_i waiting
    rw [if_pos waiting] at drops
    rw [Option.map_some]
    congr 1
    omega
  · rename_i apart
    rw [if_neg apart] at drops
    congr 1
    omega

theorem names_ready (idle : before.ready = []) :
    (after.ready.map (·.2)).Perm (names.filter fun id =>
      decide (before.pending.get? id = some 1) && (before.results.get? id).isNone) := by
  have ready := unlocked.ready
  rw [idle, List.nil_append] at ready
  refine (ready.map _).trans ?_
  simp [entryOf, Function.comp_def]

theorem ready_index (idle : before.ready = []) {entry : Nat × String} (member : entry ∈ after.ready) :
    entry = entryOf plan entry.2 := by
  have new := unlocked.ready.mem_iff.1 member
  rw [idle, List.nil_append] at new
  obtain ⟨id, _, rfl⟩ := List.mem_map.1 new
  rfl

end Unlocked

end CiPipeline.Schedule
