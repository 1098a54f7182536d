import CiPipeline.Proofs.Matrix.Axes
import CiPipeline.Proofs.Matrix.Expansion
import Mathlib.Data.List.Nodup

/-! When two instances have the same name. Names of instances of different jobs always differ. Within a
job the values of the axes are put together without any escape, so that a value may take over the text
of the axes behind it; this is the only way in which two instances come to share a name. -/
namespace CiPipeline

open CiPipeline.Matrix

namespace Matrix

def continued : Keyed String → List Char
  | [] => []
  | (axis, value) :: rest =>
    ", ".toList ++ axis.toList ++ "=".toList ++ value.toList ++ continued rest

def tail (assignment : Assignment) : List Char := continued (assignment.mapValues Scalar.spelled)

/-- A value of one of the axes extends another value of this axis, and what it adds can be taken over
from the axes behind it. -/
def Ambiguous : Keyed (List Scalar) → Prop
  | [] => False
  | (_, values) :: rest =>
    (∃ short ∈ values, ∃ long ∈ values, ∃ more ≠ [],
      long.spelled.toList = short.spelled.toList ++ more ∧
        ∃ one ∈ combinations rest, ∃ other ∈ combinations rest, tail one = more ++ tail other) ∨
      Ambiguous rest

/-- Axes with at least one value each, where no axis has two values of the same spelling. -/
def Checked (axes : Keyed (List Scalar)) : Prop :=
  ∀ axis ∈ axes, axis.2 ≠ [] ∧ (axis.2.map Scalar.spelled).Nodup

theorem checkAxes_ok {job : String} {matrix : Keyed Document} {axes : Keyed (List Scalar)}
    (checked : checkAxes job matrix = .ok axes) : Checked axes := by
  intro axis member
  obtain ⟨entry, _, _, fits⟩ := Success.exists_left (checkAxes_ok_iff.1 checked) member
  exact ⟨fits.some_value, fits.apart.nodup⟩

theorem mem_combinations_cons {axis : String} {values : List Scalar} {rest : Keyed (List Scalar)}
    {assignment : Assignment} : assignment ∈ combinations ((axis, values) :: rest) ↔
      ∃ value ∈ values, ∃ later ∈ combinations rest, assignment = (axis, value) :: later := by
  rw [combinations, List.mem_flatMap]
  simp only [List.mem_map, eq_comm]

theorem names_of_mem_combinations {axes : Keyed (List Scalar)} {assignment : Assignment}
    (member : assignment ∈ combinations axes) : assignment.names = axes.names := by
  induction axes generalizing assignment with
  | nil => rw [List.mem_singleton.1 member, Keyed.names_nil, Keyed.names_nil]
  | cons axis rest ih =>
    obtain ⟨value, _, later, behind, rfl⟩ := mem_combinations_cons.1 member
    rw [Keyed.names_cons, Keyed.names_cons, ih behind]

theorem names_of_bound {job : Job} {start : Nat} {axes : Keyed (List Scalar)}
    {group : List Instance} (bound : Bound job start (combinations axes) group) {inst : Instance}
    (member : inst ∈ group) : inst.assignment.names = axes.names := by
  refine names_of_mem_combinations ?_
  rw [← bound.assignments]
  exact List.mem_map_of_mem member

theorem combinations_ne_nil {axes : Keyed (List Scalar)} (checked : Checked axes) :
    combinations axes ≠ [] := by
  induction axes with
  | nil => exact List.cons_ne_nil _ _
  | cons axis rest ih =>
    obtain ⟨value, more, values⟩ := List.exists_cons_of_ne_nil (checked axis List.mem_cons_self).1
    obtain ⟨first, others, later⟩ := List.exists_cons_of_ne_nil
      (ih fun other member => checked other (List.mem_cons_of_mem _ member))
    have member : (axis.1, value) :: first ∈ combinations (axis :: rest) :=
      mem_combinations_cons.2 ⟨value, by simp [values], first, by simp [later], rfl⟩
    exact List.ne_nil_of_mem member

theorem nodup_spelled_combinations {axes : Keyed (List Scalar)} (checked : Checked axes) :
    ((combinations axes).map fun assignment => (assignment.mapValues Scalar.spelled).values).Nodup := by
  induction axes with
  | nil => exact List.nodup_singleton _
  | cons axis rest ih =>
    have later := ih fun other member => checked other (List.mem_cons_of_mem _ member)
    have values := List.pairwise_map.1 (checked axis List.mem_cons_self).2
    rw [combinations, List.map_flatMap, List.nodup_flatMap]
    refine ⟨fun value _ => ?_, values.imp fun {one other} apart => ?_⟩
    · rw [List.map_map]
      have behind := later.map (f := (value.spelled :: ·)) List.cons_injective
      rwa [List.map_map] at behind
    · rintro texts here there
      simp only [List.mem_map] at here there
      obtain ⟨_, ⟨_, _, rfl⟩, rfl⟩ := here
      obtain ⟨_, ⟨_, _, rfl⟩, same⟩ := there
      exact apart (List.cons.inj same).1.symm

theorem nodup_combinations {axes : Keyed (List Scalar)} (checked : Checked axes) :
    (combinations axes).Nodup :=
  (nodup_spelled_combinations checked).of_map _

theorem tail_cons (axis : String) (value : Scalar) (rest : Assignment) :
    tail ((axis, value) :: rest) =
      (", ".toList ++ axis.toList ++ "=".toList) ++ (value.spelled.toList ++ tail rest) := by
  rw [← List.append_assoc]
  rfl

theorem tail_cons_inj {axis : String} {one other : Scalar} {later later' : Assignment} :
    tail ((axis, one) :: later) = tail ((axis, other) :: later') ↔
      one.spelled.toList ++ tail later = other.spelled.toList ++ tail later' := by
  rw [tail_cons, tail_cons, List.append_cancel_left_eq]

theorem ambiguous_iff {axes : Keyed (List Scalar)} (checked : Checked axes) :
    Ambiguous axes ↔ ∃ one ∈ combinations axes, ∃ other ∈ combinations axes,
      one ≠ other ∧ tail one = tail other := by
  induction axes with
  | nil => simp [Ambiguous, combinations]
  | cons axis rest ih =>
    obtain ⟨axis, values⟩ := axis
    have rest_checked : Checked rest := fun other member =>
      checked other (List.mem_cons_of_mem _ member)
    obtain ⟨some_value, spelled⟩ := checked _ List.mem_cons_self
    have extended {short long : Scalar} {one other : Assignment} {more : List Char}
        (member : short ∈ values) (member' : long ∈ values) (here : one ∈ combinations rest)
        (there : other ∈ combinations rest) (apart : (axis, short) :: one ≠ (axis, long) :: other)
        (longer : long.spelled.toList = short.spelled.toList ++ more)
        (later : tail one = more ++ tail other) : Ambiguous ((axis, values) :: rest) := by
      by_cases none : more = []
      · rw [none, List.append_nil, String.toList_inj] at longer
        obtain rfl := List.inj_on_of_nodup_map spelled member' member longer
        rw [none, List.nil_append] at later
        exact .inr ((ih rest_checked).2
          ⟨one, here, other, there, fun equal => apart (equal ▸ rfl), later⟩)
      · exact .inl ⟨short, member, long, member', more, none, longer, one, here, other, there, later⟩
    constructor
    · rintro (⟨short, member, long, member', more, some_more, longer, one, here, other, there, same⟩ |
        ambiguous)
      · refine ⟨_, mem_combinations_cons.2 ⟨short, member, one, here, rfl⟩,
          _, mem_combinations_cons.2 ⟨long, member', other, there, rfl⟩, fun equal => ?_, ?_⟩
        · have values_eq : short = long := congrArg Prod.snd (List.cons.inj equal).1
          rw [values_eq, List.self_eq_append_right] at longer
          exact some_more longer
        · rw [tail_cons_inj, longer, same, List.append_assoc]
      · obtain ⟨one, here, other, there, apart, same⟩ := (ih rest_checked).1 ambiguous
        obtain ⟨value, member⟩ := List.exists_mem_of_ne_nil _ some_value
        refine ⟨_, mem_combinations_cons.2 ⟨value, member, one, here, rfl⟩,
          _, mem_combinations_cons.2 ⟨value, member, other, there, rfl⟩,
          fun equal => apart (List.cons.inj equal).2, ?_⟩
        rw [tail_cons_inj, same]
    · rintro ⟨_, chosen, _, chosen', apart, same⟩
      obtain ⟨first, member, one, here, rfl⟩ := mem_combinations_cons.1 chosen
      obtain ⟨second, member', other, there, rfl⟩ := mem_combinations_cons.1 chosen'
      rw [tail_cons_inj] at same
      rcases List.append_eq_append_iff.1 same with ⟨more, longer, later⟩ | ⟨more, longer, later⟩
      · exact extended member member' here there apart longer later
      · exact extended member' member there here apart.symm longer later

theorem intercalate_eq {values : Keyed String} (filled : values ≠ []) :
    ", ".toList ++ (", ".intercalate (values.map fun entry => entry.1 ++ "=" ++ entry.2)).toList =
      continued values := by
  induction values with
  | nil => exact absurd rfl filled
  | cons entry rest ih =>
    cases rest with
    | nil => simp [continued]
    | cons next others =>
      have later := ih (List.cons_ne_nil _ _)
      rw [List.map_cons] at later
      rw [List.map_cons, List.map_cons, String.intercalate_cons_cons]
      simp only [String.toList_append, List.append_assoc, later]
      simp [continued]

theorem idOf_inj {job : String} {one other : Keyed String} (alike : one = [] ↔ other = []) :
    Instance.idOf job one = Instance.idOf job other ↔ continued one = continued other := by
  by_cases empty : one = []
  · rw [empty, alike.1 empty]
    exact iff_of_true rfl rfl
  · have filled := mt alike.2 empty
    have named {values : Keyed String} (filled : values ≠ []) : Instance.idOf job values =
        job ++ " (" ++
          ", ".intercalate (values.map fun entry => entry.1 ++ "=" ++ entry.2) ++ ")" := by
      rw [Instance.idOf, if_neg (by rwa [List.isEmpty_iff])]
    rw [named empty, named filled, String.append_left_inj, String.append_right_inj,
      ← String.toList_inj, ← intercalate_eq empty, ← intercalate_eq filled,
      List.append_cancel_left_eq]

theorem eq_nil_iff_of_mem_combinations {axes : Keyed (List Scalar)} {assignment : Assignment}
    (member : assignment ∈ combinations axes) : assignment = [] ↔ axes = [] := by
  cases axes with
  | nil => exact iff_of_true (List.mem_singleton.1 member) rfl
  | cons axis rest =>
    obtain ⟨value, _, later, _, rfl⟩ := mem_combinations_cons.1 member
    exact iff_of_false (List.cons_ne_nil _ _) (List.cons_ne_nil _ _)

theorem nodup_ids_of_bound {job : Job} {start : Nat} {axes : Keyed (List Scalar)}
    {group : List Instance} (checked : Checked axes)
    (bound : Bound job start (combinations axes) group) :
    (group.map Instance.id).Nodup ↔ ¬Ambiguous axes := by
  have named : group.map Instance.id = (combinations axes).map fun assignment =>
      Instance.idOf job.name (assignment.mapValues Scalar.spelled) := by
    rw [← bound.assignments, List.map_map]
    refine List.map_congr_left fun inst member => ?_
    rw [Instance.id, bound.job inst member]
    rfl
  have told_apart {one other : Assignment} (here : one ∈ combinations axes)
      (there : other ∈ combinations axes) :
      Instance.idOf job.name (one.mapValues Scalar.spelled) =
        Instance.idOf job.name (other.mapValues Scalar.spelled) ↔ tail one = tail other := by
    refine idOf_inj ?_
    rw [Keyed.mapValues, Keyed.mapValues, List.map_eq_nil_iff, List.map_eq_nil_iff,
      eq_nil_iff_of_mem_combinations here, eq_nil_iff_of_mem_combinations there]
  rw [named, List.nodup_map_iff_inj_on (nodup_combinations checked), ambiguous_iff checked]
  constructor
  · rintro injective ⟨one, here, other, there, apart, same⟩
    exact apart (injective one here other there ((told_apart here there).2 same))
  · intro unambiguous one here other there same
    by_contra apart
    exact unambiguous ⟨one, here, other, there, apart, (told_apart here there).1 same⟩

theorem job_mem_of_grouped {start : Nat} {jobs : List Job} {groups : List (List Instance)}
    (grouped : Grouped start jobs groups) {inst : Instance} (member : inst ∈ groups.flatten) :
    inst.job ∈ jobs.map Job.name := by
  induction grouped with
  | nil => cases member
  | cons _ _ bound _ ih =>
    rw [List.flatten_cons, List.mem_append] at member
    rcases member with here | there
    · rw [bound.job inst here]
      exact List.mem_cons_self
    · exact List.mem_cons_of_mem _ (ih there)

theorem nodup_ids_of_grouped {start : Nat} {jobs : List Job} {groups : List (List Instance)}
    (grouped : Grouped start jobs groups) (distinct : (jobs.map Job.name).Nodup)
    (owned : ∀ one ∈ groups.flatten, ∀ other ∈ groups.flatten, one.id = other.id →
      one.job = other.job) :
    (groups.flatten.map Instance.id).Nodup ↔
      ∀ job ∈ jobs, ∀ axes, checkAxes job.name job.matrix = .ok axes → ¬Ambiguous axes := by
  induction grouped with
  | nil => simp
  | @cons start job axes group jobs groups _ checked bound later ih =>
    rw [List.map_cons, List.nodup_cons] at distinct
    have behind := ih distinct.2 fun one here other there =>
      owned one (List.mem_append_right _ here) other (List.mem_append_right _ there)
    have disjoint : ∀ a ∈ group.map Instance.id, ∀ b ∈ groups.flatten.map Instance.id, a ≠ b := by
      rintro _ here _ there same
      obtain ⟨one, member, rfl⟩ := List.mem_map.1 here
      obtain ⟨other, member', rfl⟩ := List.mem_map.1 there
      have same_job := owned one (List.mem_append_left _ member) other
        (List.mem_append_right _ member') same
      rw [bound.job one member] at same_job
      exact distinct.1 (same_job ▸ job_mem_of_grouped later member')
    have first : (∀ axes, checkAxes job.name job.matrix = .ok axes → ¬Ambiguous axes) ↔
        ¬Ambiguous axes := by
      rw [checked]
      exact ⟨fun all => all axes rfl, fun clear _ same => Except.ok.inj same ▸ clear⟩
    rw [List.flatten_cons, List.map_append, List.nodup_append, List.forall_mem_cons, first, ← behind,
      nodup_ids_of_bound (checkAxes_ok checked) bound, and_iff_left disjoint]

/-- A text that two combinations can take over from each other starts with a separator. -/
theorem separator_prefix_of_tail {axes : Keyed (List Scalar)} {one other : Assignment}
    (here : one ∈ combinations axes) (there : other ∈ combinations axes) {more : List Char}
    (some_more : more ≠ []) (same : tail one = more ++ tail other) : [',', ' '] <+: more := by
  cases axes with
  | nil =>
    rw [List.mem_singleton.1 here] at same
    exact absurd (List.append_eq_nil_iff.1 same.symm).1 some_more
  | cons axis rest =>
    have starts {assignment : Assignment} (member : assignment ∈ combinations (axis :: rest)) :
        ∃ text, tail assignment = ',' :: ' ' :: text := by
      obtain ⟨value, _, later, _, rfl⟩ := mem_combinations_cons.1 member
      exact ⟨_, by rw [tail_cons]; rfl⟩
    obtain ⟨text, first⟩ := starts here
    obtain ⟨text', second⟩ := starts there
    rw [first, second] at same
    cases more with
    | nil => exact absurd rfl some_more
    | cons comma more =>
      rw [List.cons_append, List.cons.injEq] at same
      obtain ⟨rfl, same⟩ := same
      cases more with
      | nil => exact absurd (List.cons.inj same).1 (by decide)
      | cons blank more =>
        rw [List.cons_append, List.cons.injEq] at same
        obtain ⟨rfl, _⟩ := same
        exact ⟨more, rfl⟩

theorem exists_separator_of_ambiguous {axes : Keyed (List Scalar)} (ambiguous : Ambiguous axes) :
    ∃ axis ∈ axes, ∃ value ∈ axis.2, [',', ' '] <:+: value.spelled.toList := by
  induction axes with
  | nil => cases ambiguous
  | cons axis rest ih =>
    rcases ambiguous with ⟨short, _, long, member, more, some_more, longer, one, here, other, there, same⟩ |
      later
    · refine ⟨axis, List.mem_cons_self, long, member, ?_⟩
      rw [longer]
      have starts := separator_prefix_of_tail here there some_more same
      exact starts.isInfix.trans (List.suffix_append _ _).isInfix
    · obtain ⟨other, there, value, member, found⟩ := ih later
      exact ⟨other, List.mem_cons_of_mem _ there, value, member, found⟩

end Matrix

/-- Names of instances of different jobs always differ. All names of instances differ exactly where the axes
of no job are ambiguous, so for example where no value has a comma and a blank in it. -/
theorem Pipeline.nodup_ids_iff {pipeline : Pipeline} {instances : List Instance}
    (distinct : (pipeline.jobs.map Job.name).Nodup) (expanded : pipeline.instances = .ok instances) :
    (∀ one ∈ instances, ∀ other ∈ instances, one.id = other.id → one.job = other.job) ∧
    ((instances.map Instance.id).Nodup ↔ ∀ job ∈ pipeline.jobs, ∀ axes,
      checkAxes job.name job.matrix = .ok axes → ¬Ambiguous axes) ∧
    ((∀ job ∈ pipeline.jobs, ∀ axes, checkAxes job.name job.matrix = .ok axes →
      ∀ axis ∈ axes, ∀ value ∈ axis.2, ¬[',', ' '] <:+: value.spelled.toList) →
        (instances.map Instance.id).Nodup) := by
  have owned : ∀ one ∈ instances, ∀ other ∈ instances, one.id = other.id → one.job = other.job :=
    fun one here other there => job_eq_of_id_eq expanded here there
  have exact : (instances.map Instance.id).Nodup ↔ ∀ job ∈ pipeline.jobs, ∀ axes,
      checkAxes job.name job.matrix = .ok axes → ¬Ambiguous axes := by
    obtain ⟨groups, _, rfl, grouped, _⟩ := instancesOf_ok expanded
    exact nodup_ids_of_grouped grouped distinct owned
  refine ⟨owned, exact, fun plain => exact.2 fun job member axes checked ambiguous => ?_⟩
  obtain ⟨axis, there, value, there', found⟩ := exists_separator_of_ambiguous ambiguous
  exact plain job member axes checked axis there value there' found

def clashingJob : Job where
  name := "j"
  steps := [⟨"make", "make", none, none, [], none⟩]
  needs := []
  matrix := [("a", .list [.text "1", .text "1, b=2"]), ("b", .list [.text "2, b=3", .text "3"])]
  env := []
  title := none
  runsOn := none

def clashing : Pipeline := ⟨"clashing", [clashingJob], [], []⟩

def clashingAxes : Keyed (List Scalar) :=
  [("a", [.text "1", .text "1, b=2"]), ("b", [.text "2, b=3", .text "3"])]

def clashingInstances : List Instance :=
  (combinations clashingAxes).zipIdx.map fun entry =>
    ⟨"j", entry.1, clashingJob.steps, entry.2, [], none, none⟩

theorem instances_clashing : clashing.instances = .ok clashingInstances := by
  with_unfolding_all rfl

theorem not_nodup_clashing : ¬(clashingInstances.map Instance.id).Nodup := by decide +kernel

/-- Two instances of an accepted pipeline share a name although all jobs have names of their own. -/
theorem Pipeline.not_nodup_ids :
    (clashing.jobs.map Job.name).Nodup ∧ clashing.instances = .ok clashingInstances ∧
      ¬(clashingInstances.map Instance.id).Nodup :=
  ⟨by decide, instances_clashing, not_nodup_clashing⟩

theorem Pipeline.ambiguous_clashing : Ambiguous clashingAxes := by
  obtain ⟨_, exact, _⟩ := nodup_ids_iff (by decide) instances_clashing
  by_contra clear
  refine not_nodup_clashing (exact.2 fun job member axes checked => ?_)
  obtain rfl : job = clashingJob := List.mem_singleton.1 member
  have read : checkAxes clashingJob.name clashingJob.matrix = .ok clashingAxes := by
    with_unfolding_all rfl
  rw [read] at checked
  rwa [← Except.ok.inj checked]

end CiPipeline
