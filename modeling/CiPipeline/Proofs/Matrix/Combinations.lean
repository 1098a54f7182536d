import CiPipeline.Proofs.Matrix.Identity
import Mathlib.Data.List.Pairwise

/-! What holds of all combinations of the values of axes, said of the axes. The assignments of the instances of a
pipeline are such combinations, so that the same can be said of the instances and the jobs. -/
namespace CiPipeline

open CiPipeline.Matrix

namespace Matrix

theorem exists_mem_combinations_iff {axes : Keyed (List Scalar)} (checked : Checked axes)
    {entry : String × Scalar} : (∃ assignment ∈ combinations axes, entry ∈ assignment) ↔
      ∃ axis ∈ axes, entry.1 = axis.1 ∧ entry.2 ∈ axis.2 := by
  induction axes with
  | nil => simp [combinations]
  | cons axis rest ih =>
    have behind := ih fun other member => checked other (List.mem_cons_of_mem _ member)
    obtain ⟨later, others⟩ := List.exists_mem_of_ne_nil _
      (combinations_ne_nil fun other member => checked other (List.mem_cons_of_mem axis member))
    obtain ⟨value, some_value⟩ := List.exists_mem_of_ne_nil _ (checked axis List.mem_cons_self).1
    rw [List.exists_mem_cons_iff, ← behind]
    constructor
    · rintro ⟨assignment, combined, member⟩
      obtain ⟨value, here, later, there, rfl⟩ := mem_combinations_cons.1 combined
      rcases List.mem_cons.1 member with rfl | inside
      · exact .inl ⟨rfl, here⟩
      · exact .inr ⟨later, there, inside⟩
    · rintro (⟨name, here⟩ | ⟨later, there, inside⟩)
      · exact ⟨entry :: later,
          mem_combinations_cons.2 ⟨entry.2, here, later, others, by rw [← name]⟩, List.mem_cons_self⟩
      · exact ⟨(axis.1, value) :: later, mem_combinations_cons.2 ⟨value, some_value, later, there, rfl⟩,
          List.mem_cons_of_mem _ inside⟩

theorem forall_mem_combinations_iff {axes : Keyed (List Scalar)} (checked : Checked axes)
    (p : String × Scalar → Prop) : (∀ assignment ∈ combinations axes, ∀ entry ∈ assignment, p entry) ↔
      ∀ axis ∈ axes, ∀ value ∈ axis.2, p (axis.1, value) := by
  constructor
  · intro all axis member value inside
    obtain ⟨assignment, combined, there⟩ : ∃ assignment ∈ combinations axes, (axis.1, value) ∈ assignment :=
      (exists_mem_combinations_iff checked).2 ⟨axis, member, rfl, inside⟩
    exact all assignment combined _ there
  · intro all assignment combined entry there
    obtain ⟨axis, member, name, inside⟩ :=
      (exists_mem_combinations_iff checked).1 ⟨assignment, combined, there⟩
    have holds := all axis member entry.2 inside
    rwa [← name] at holds

theorem forall_combinations_pairwise {axes : Keyed (List Scalar)} (checked : Checked axes)
    (related : String × Scalar → String × Scalar → Prop) :
    (∀ assignment ∈ combinations axes, assignment.Pairwise related) ↔
      axes.Pairwise fun one other => ∀ value ∈ one.2, ∀ value' ∈ other.2,
        related (one.1, value) (other.1, value') := by
  induction axes with
  | nil => simp [combinations]
  | cons axis rest ih =>
    have checked_rest : Checked rest := fun other member => checked other (List.mem_cons_of_mem _ member)
    obtain ⟨value, some_value⟩ := List.exists_mem_of_ne_nil _ (checked axis List.mem_cons_self).1
    rw [List.pairwise_cons, ← ih checked_rest]
    constructor
    · intro all
      have each {value : Scalar} (here : value ∈ axis.2) {later : Assignment}
          (there : later ∈ combinations rest) :=
        List.pairwise_cons.1 (all _ (mem_combinations_cons.2 ⟨value, here, later, there, rfl⟩))
      refine ⟨fun other member value here value' there => ?_, fun later there => (each some_value there).2⟩
      obtain ⟨later, combined, inside⟩ : ∃ later ∈ combinations rest, (other.1, value') ∈ later :=
        (exists_mem_combinations_iff checked_rest).2 ⟨other, member, rfl, there⟩
      exact (each here combined).1 _ inside
    · rintro ⟨front, back⟩ assignment combined
      obtain ⟨value, here, later, there, rfl⟩ := mem_combinations_cons.1 combined
      refine List.pairwise_cons.2 ⟨fun entry inside => ?_, back later there⟩
      obtain ⟨other, member, name, value'⟩ :=
        (exists_mem_combinations_iff checked_rest).1 ⟨later, there, inside⟩
      have both := front other member value here entry.2 value'
      rwa [← name] at both

theorem short_of_mem_combinations {job : String} {matrix : Keyed Document} {axes : Keyed (List Scalar)}
    (checked : checkAxes job matrix = .ok axes) :
    ∀ assignment ∈ combinations axes, ∀ entry ∈ assignment, entry.2.isLong = false := by
  rw [forall_mem_combinations_iff (checkAxes_ok checked) fun entry => entry.2.isLong = false]
  intro axis member value there
  obtain ⟨_, _, _, fits⟩ := Success.exists_left (checkAxes_ok_iff.1 checked) member
  exact fits.apart.short value there

theorem forall_assignments_iff {start : Nat} {jobs : List Job} {groups : List (List Instance)}
    (grouped : Grouped start jobs groups) (p : Assignment → Prop) :
    (∀ inst ∈ groups.flatten, p inst.assignment) ↔
      ∀ job ∈ jobs, ∀ axes, checkAxes job.name job.matrix = .ok axes →
        ∀ assignment ∈ combinations axes, p assignment := by
  induction grouped with
  | nil => simp
  | @cons start job axes group jobs groups _ checked bound later ih =>
    rw [List.flatten_cons, List.forall_mem_append, List.forall_mem_cons, ih]
    refine and_congr_left fun _ => ?_
    rw [← List.forall_mem_map, bound.assignments]
    constructor
    · intro all axes' checked'
      obtain rfl := Except.ok.inj (checked.symm.trans checked')
      exact all
    · exact fun all => all axes checked

end Matrix

theorem Scalar.isLong_eq_false_iff {value : Scalar} :
    value.isLong = false ↔ ∀ n, value = .int n → Number.isLong n = false := by
  cases value with
  | int n =>
    constructor
    · rintro short _ ⟨⟩
      exact short
    · exact fun short => short n rfl
  | _ => exact iff_of_true rfl fun _ same => by cases same

theorem Instance.isNamed_iff {inst : Instance} :
    inst.isNamed = true ↔ ∀ entry ∈ inst.assignment, entry.2.isLong = false := by
  simp only [isNamed, List.all_eq_true, Bool.not_eq_true']

theorem Pipeline.isNamed_of_mem {pipeline : Pipeline} {instances : List Instance}
    (expanded : pipeline.instances = .ok instances) {inst : Instance} (member : inst ∈ instances) :
    inst.isNamed = true := by
  obtain ⟨groups, _, rfl, grouped, _⟩ := instancesOf_ok expanded
  refine Instance.isNamed_iff.2 ((forall_assignments_iff grouped
    fun assignment => ∀ entry ∈ assignment, entry.2.isLong = false).2 ?_ inst member)
  exact fun _ _ _ checked => short_of_mem_combinations checked

theorem Pipeline.nodup_assignment_names {pipeline : Pipeline} {instances : List Instance}
    (expanded : pipeline.instances = .ok instances) (named : ∀ job ∈ pipeline.jobs, job.matrix.names.Nodup) :
    ∀ inst ∈ instances, inst.assignment.names.Nodup := by
  obtain ⟨groups, _, rfl, grouped, _⟩ := instancesOf_ok expanded
  rw [forall_assignments_iff grouped fun assignment => assignment.names.Nodup]
  intro job member axes checked assignment combined
  rw [names_of_mem_combinations combined, (checkAxes_ok_iff.1 checked).names]
  exact named job member

end CiPipeline
