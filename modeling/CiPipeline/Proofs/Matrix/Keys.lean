import CiPipeline.Proofs.Entries
import CiPipeline.Proofs.Matrix.Product

/-! When the instances of a job have different identities. The values of an axis are told apart by their spelling,
but identities are compared by value, where a truth value and a number of the same amount are equal. The instances
of a job have different identities exactly where no axis has two values that are equal in this sense. -/
namespace CiPipeline

open CiPipeline.Matrix

namespace Scalar

theorem same_refl (value : Scalar) : value.same value = true := by
  cases value <;> simp [same, toDocument, Document.sameKey, Document.wholeNumber?]

theorem same_iff_eq {one other : Scalar} (kind : one.toDocument.kind = other.toDocument.kind)
    (whole : one.toDocument.kind ≠ "float") : one.same other = true ↔ one = other := by
  cases one <;> cases other <;>
    simp_all [same, toDocument, Document.kind, Document.sameKey, Document.wholeNumber?]
  rename_i one other
  cases one <;> cases other <;> decide

end Scalar

namespace Instance

def assigned (inst : Instance) : Document :=
  .tuple (inst.assignment.map fun entry => .tuple [.text entry.1, entry.2.toDocument])

def identity (inst : Instance) : Document := .tuple [.text inst.key.1, inst.assigned]

end Instance

namespace Matrix

abbrev Coincide : Assignment → Assignment → Prop := Keyed.Alike fun value value' => value.same value' = true

theorem Coincide.refl (assignment : Assignment) : Coincide assignment assignment := by
  induction assignment with
  | nil => exact .nil
  | cons entry _ ih => exact .cons ⟨rfl, entry.2.same_refl⟩ ih

theorem coincide_cons {axis axis' : String} {value value' : Scalar} {later later' : Assignment} :
    Coincide ((axis, value) :: later) ((axis', value') :: later') ↔
      (axis' = axis ∧ value.same value' = true) ∧ Coincide later later' :=
  List.forall₂_cons

theorem assigned_sameKey_iff {one other : Instance} :
    one.assigned.sameKey other.assigned = true ↔ Coincide one.assignment other.assignment := by
  rw [Instance.assigned, Instance.assigned, Document.sameKey]
  generalize one.assignment = front
  generalize other.assignment = back
  induction front generalizing back with
  | nil => cases back <;> simp [Document.sameKeys]
  | cons entry rest ih =>
    cases back with
    | nil => simp [Document.sameKeys]
    | cons entry' rest' =>
      rw [coincide_cons, ← ih]
      simp only [List.map_cons, Document.sameKeys, Document.sameKey, Scalar.same, Bool.and_eq_true, beq_iff_eq,
        Bool.and_true]
      rw [eq_comm (a := entry.1)]

theorem identity_sameKey_iff {one other : Instance} :
    one.identity.sameKey other.identity = true ↔
      one.job = other.job ∧ Coincide one.assignment other.assignment := by
  rw [← assigned_sameKey_iff]
  simp only [Instance.identity, Instance.key, Document.sameKey, Document.sameKeys, Bool.and_eq_true, beq_iff_eq,
    Bool.and_true]

/-- No axis has two values that are equal as keys. -/
def ValuesApart (axes : Keyed (List Scalar)) : Prop :=
  ∀ axis ∈ axes, axis.2.Pairwise fun one other => one.same other = false

instance (axes : Keyed (List Scalar)) : Decidable (ValuesApart axes) :=
  inferInstanceAs (Decidable (∀ axis ∈ axes, axis.2.Pairwise fun one other => one.same other = false))

theorem combinations_apart_iff {axes : Keyed (List Scalar)} (checked : Checked axes) :
    ((combinations axes).Pairwise fun one other => ¬Coincide one other) ↔ ValuesApart axes := by
  induction axes with
  | nil => simp [combinations, ValuesApart]
  | cons axis rest ih =>
    have checked_rest : Checked rest := fun other member => checked other (List.mem_cons_of_mem _ member)
    obtain ⟨value, some_value⟩ := List.exists_mem_of_ne_nil _ (checked axis List.mem_cons_self).1
    obtain ⟨later, behind⟩ := List.exists_mem_of_ne_nil _ (combinations_ne_nil checked_rest)
    have tails (value : Scalar) : (((combinations rest).map ((axis.1, value) :: ·)).Pairwise
        fun one other => ¬Coincide one other) ↔ ValuesApart rest := by
      simp only [List.pairwise_map, coincide_cons, Scalar.same_refl, and_self, true_and]
      exact ih checked_rest
    rw [combinations, List.pairwise_flatMap, ValuesApart, List.forall_mem_cons, ← ValuesApart, and_comm]
    refine and_congr ⟨fun apart => apart.imp fun {one other} clear => ?_,
      fun apart => apart.imp fun {one other} clear => ?_⟩
      ⟨fun each => (tails value).1 (each value some_value), fun apart value _ => (tails value).2 apart⟩
    · -- Any combination of the later axes coincides with itself, so that the first values decide.
      refine Bool.eq_false_iff.2 fun same => ?_
      exact clear _ (List.mem_map_of_mem behind) _ (List.mem_map_of_mem behind)
        (coincide_cons.2 ⟨⟨rfl, same⟩, Coincide.refl later⟩)
    · simp only [List.forall_mem_map, coincide_cons]
      rintro _ _ _ _ ⟨⟨_, same⟩, _⟩
      rw [clear] at same
      cases same

theorem valuesApart_of_kinds {axes : Keyed (List Scalar)} (checked : Checked axes)
    (kinds : ∀ axis ∈ axes, ∃ kind ≠ "float", ∀ value ∈ axis.2, value.toDocument.kind = kind) :
    ValuesApart axes := by
  intro axis member
  obtain ⟨kind, whole, each⟩ := kinds axis member
  have distinct : axis.2.Nodup := (checked axis member).2.of_map _
  refine distinct.imp_of_mem fun {one other} here there apart => ?_
  have same := Scalar.same_iff_eq ((each one here).trans (each other there).symm) (each one here ▸ whole)
  exact Bool.eq_false_iff.2 fun equal => apart (same.1 equal)

def assignmentSet (instances : List Instance) : Entries :=
  Entries.ofPairs (instances.map fun inst => (inst.assigned, .null))

/-- The instances of axes have different keys, and their assignments make a set of full size. -/
structure KeysApart (axes : Keyed (List Scalar)) (instances : List Instance) : Prop where
  apart : instances.Pairwise fun one other => one.identity.sameKey other.identity = false
  size : (assignmentSet instances).length = combinationCount axes

theorem apart_iff_of_bound {job : Job} {start : Nat} {axes : Keyed (List Scalar)} {instances : List Instance}
    (checked : Checked axes) (bound : Bound job start (combinations axes) instances) :
    (instances.Pairwise fun one other => one.assigned.sameKey other.assigned = false) ↔ ValuesApart axes := by
  rw [← combinations_apart_iff checked, ← bound.assignments, List.pairwise_map]
  simp only [← Bool.not_eq_true, assigned_sameKey_iff]

theorem keysApart_iff_of_bound {job : Job} {start : Nat} {axes : Keyed (List Scalar)} {instances : List Instance}
    (checked : Checked axes) (bound : Bound job start (combinations axes) instances) :
    KeysApart axes instances ↔ ValuesApart axes := by
  have length : instances.length = combinationCount axes := by
    rw [← combinations_length, ← bound.assignments, List.length_map]
  have size : (assignmentSet instances).length = combinationCount axes ↔ ValuesApart axes := by
    have pairs : (instances.map fun inst => (inst.assigned, Document.null)).length = combinationCount axes := by
      rw [List.length_map, length]
    rw [← apart_iff_of_bound checked bound, assignmentSet, ← pairs, Entries.length_ofPairs_eq_iff,
      List.pairwise_map]
  refine ⟨fun keys => size.1 keys.size, fun values => ⟨?_, size.2 values⟩⟩
  have assigned := (apart_iff_of_bound checked bound).2 values
  refine assigned.imp fun {one other} apart => ?_
  rw [← Bool.not_eq_true, assigned_sameKey_iff] at apart
  rw [← Bool.not_eq_true, identity_sameKey_iff]
  exact fun same => apart same.2

end Matrix

/-- A job that is expanded has an instance for every combination of the values of its axes, and these are told
apart by the spelling of their values. Their keys are different exactly where no axis has two values that are
equal, and then their assignments make a set with as many members as there are combinations. -/
theorem Job.keysApart_iff {job : Job} {start : Nat} {instances : List Instance}
    (expanded : job.instancesFrom start = .ok instances) :
    ∃ axes, checkAxes job.name job.matrix = .ok axes ∧ instances.length = combinationCount axes ∧
      (instances.map fun inst => inst.spelledValues.values).Nodup ∧
      (KeysApart axes instances ↔ ValuesApart axes) := by
  obtain ⟨axes, checked, bound⟩ := instancesFrom_ok_iff.1 expanded
  have product := product_of_bound (checkAxes_ok checked) (bindJobs_ok bound)
  exact ⟨axes, checked, product.length, product.apart,
    keysApart_iff_of_bound (checkAxes_ok checked) (bindJobs_ok bound)⟩

theorem Job.keysApart_crossed : ∃ instances, crossedJob.instancesFrom 0 = .ok instances ∧
    KeysApart crossedAxes instances := by
  have checked : checkAxes crossedJob.name crossedJob.matrix = .ok crossedAxes := by
    with_unfolding_all rfl
  have declared : ∀ text ∈ crossedJob.texts, Declared crossedJob.matrix.names text := by
    decide +kernel
  obtain ⟨instances, expanded, _⟩ := Job.exists_product checked declared 0
  obtain ⟨axes, checked', _, _, keys⟩ := Job.keysApart_iff expanded
  obtain rfl := Except.ok.inj (checked.symm.trans checked')
  exact ⟨instances, expanded, keys.2 (by decide)⟩

def oneAndTrue : Job where
  name := "j"
  steps := [⟨"s", "x", none, none, [], none⟩]
  needs := []
  matrix := [("n", .list [.int 1, .bool true])]
  env := []
  title := none
  runsOn := none

/-- One and true are spelled differently, so that the job is expanded, into two instances with one key. -/
theorem Job.not_keysApart : ∃ one other, oneAndTrue.instancesFrom 0 = .ok [one, other] ∧
    one.id = "j (n=1)" ∧ other.id = "j (n=true)" ∧ one.identity.sameKey other.identity = true ∧
    (assignmentSet [one, other]).length = 1 := by
  refine ⟨⟨"j", [("n", .int 1)], oneAndTrue.steps, 0, [], none, none⟩,
    ⟨"j", [("n", .bool true)], oneAndTrue.steps, 1, [], none, none⟩, ?_, ?_, ?_, ?_, ?_⟩
  · have fits : Fits (.list [.int 1, .bool true]) [.int 1, .bool true] :=
      ⟨.inl rfl, List.cons_ne_nil _ _, ⟨by decide +kernel, by decide +kernel, by decide +kernel⟩⟩
    exact instancesFrom_ok_iff.2 ⟨[("n", [.int 1, .bool true])], checkAxes_ok_iff.2 (.cons ⟨rfl, fits⟩ .nil),
      by with_unfolding_all rfl⟩
  · decide +kernel
  · decide +kernel
  · decide +kernel
  · decide +kernel

end CiPipeline
