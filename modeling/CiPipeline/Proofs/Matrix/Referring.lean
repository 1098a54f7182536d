import CiPipeline.Proofs.Matrix.Product

/-! Which axes can be referred to. A reference holds a name of plain characters, while an axis may have any name. A
name with other characters stands in no reference at all: what looks like a reference to it is kept as it is, and
the value of the axis makes no difference to any text. -/
namespace CiPipeline

open CiPipeline.Matrix

namespace Matrix

/-- A name that a reference can hold. -/
structure Referable (axis : String) : Prop where
  named : axis ≠ ""
  plain : ∀ c ∈ axis.toList, isAxisChar c = true

theorem referable_iff_all {axis : String} :
    Referable axis ↔ axis ≠ "" ∧ axis.toList.all isAxisChar = true := by
  rw [List.all_eq_true]
  exact ⟨fun ⟨named, plain⟩ => ⟨named, plain⟩, fun ⟨named, plain⟩ => ⟨named, plain⟩⟩

instance (axis : String) : Decidable (Referable axis) := decidable_of_iff _ referable_iff_all.symm

def referenceTo (axis : String) : String := "$\x7b\x7b matrix." ++ axis ++ " \x7d\x7d"

def spaced (axis : String) : Reference := ⟨[' '], axis.toList, [' ']⟩

theorem referenceTo_eq (axis : String) : referenceTo axis = String.ofList (spaced axis).source := by
  have front : "$\x7b\x7b matrix.".toList = opening ++ [' '] ++ marker := by decide +kernel
  have back : " \x7d\x7d".toList = [' '] ++ closing := by decide +kernel
  refine String.toList_inj.1 (.trans ?_ (String.toList_ofList (l := (spaced axis).source)).symm)
  rw [referenceTo, String.toList_append, String.toList_append, front, back, Reference.source]
  simp only [spaced, List.append_assoc]

theorem referable_iff {axis : String} : Referable axis ↔ (spaced axis).WellFormed := by
  have blank : ∀ c ∈ [' '], Text.isBlank c = true := List.forall_mem_singleton.2 rfl
  constructor
  · rintro ⟨named, plain⟩
    exact ⟨blank, fun none => named (String.toList_eq_nil_iff.1 none), plain, blank⟩
  · rintro ⟨_, named, plain, _⟩
    exact ⟨fun none => named (String.toList_eq_nil_iff.2 none), plain⟩

theorem refers_referenceTo {axis : String} (referable : Referable axis) : Refers (referenceTo axis) axis := by
  have written : (referenceTo axis).toList = (spaced axis).source := by
    rw [referenceTo_eq, String.toList_ofList]
  exact ⟨spaced axis, referable_iff.1 referable, written ▸ List.infix_rfl, String.ofList_toList⟩

theorem referable_of_refers {text axis : String} (refers : Refers text axis) : Referable axis := by
  obtain ⟨found, formed, _, rfl⟩ := refers
  refine ⟨fun none => formed.named ?_, ?_⟩
  · rw [← String.toList_ofList (l := found.axis), none]
    rfl
  · rw [String.toList_ofList]
    exact formed.axis

section

variable {job text : String} {values values' : Keyed Scalar}

theorem bindText_of_none (none : ∀ axis, ¬Refers text axis) :
    bindText job values text = .ok text := by
  have literal {piece : Piece} (member : piece ∈ pieces text.toList) : Replaced values piece piece.source := by
    cases piece with
    | literal c => exact .literal c
    | reference found => exact absurd (refers_iff.2 ⟨found, member, rfl⟩) (none _)
  refine bindText_ok_iff.2 ⟨(pieces text.toList).map Piece.source, ?_, ?_⟩
  · exact List.forall₂_map_right_iff.2 (List.forall₂_same.2 fun piece member => literal member)
  · rw [← List.flatMap_def, pieces_source, String.ofList_toList]

theorem bindText_of_agree {result : String}
    (agree : ∀ axis, Refers text axis → values'.get? axis = values.get? axis)
    (bound : bindText job values text = .ok result) :
    bindText job values' text = .ok result := by
  obtain ⟨parts, replaced, rfl⟩ := bindText_ok_iff.1 bound
  refine bindText_ok_iff.2 ⟨parts, ?_, rfl⟩
  have agree_pieces {found : Reference} (member : .reference found ∈ pieces text.toList) :
      values'.get? (String.ofList found.axis) = values.get? (String.ofList found.axis) :=
    agree _ (refers_iff.2 ⟨found, member, rfl⟩)
  clear bound agree
  generalize pieces text.toList = found at replaced agree_pieces
  induction replaced with
  | nil => exact .nil
  | cons first _ ih =>
    refine .cons ?_ (ih fun member => agree_pieces (List.mem_cons_of_mem _ member))
    cases first with
    | literal c => exact .literal c
    | reference known short => exact .reference ((agree_pieces List.mem_cons_self).trans known) short

theorem bindText_referenceTo {axis : String} {value : Scalar} (referable : Referable axis)
    (known : values.get? axis = some value) (short : value.isLong = false) :
    bindText job values (referenceTo axis) = .ok value.spelled := by
  have empty : bindText job values "" = .ok "" :=
    bindText_of_none fun other refers => by
      have nothing : referred "" = [] := by decide +kernel
      rw [refers_iff_mem, nothing] at refers
      cases refers
  have formed := referable_iff.1 referable
  have named : values.get? (String.ofList (spaced axis).axis) = some value := by
    rwa [spaced, String.ofList_toList]
  have bound : bindText job values ("" ++ String.ofList (spaced axis).source ++ "") =
      .ok ("" ++ value.spelled ++ "") := bindText_reference formed named short empty empty
  rwa [String.empty_append, String.append_empty, String.empty_append, String.append_empty,
    ← referenceTo_eq] at bound

end

section

variable {axes : Keyed (List Scalar)} {axis : String} {values : List Scalar}

theorem ne_of_mem_names {first : String × List Scalar} (fresh : first.1 ∉ axes.names)
    (declared : (axis, values) ∈ axes) : axis ≠ first.1 := by
  intro same
  exact fresh (List.mem_map.2 ⟨_, declared, same⟩)

theorem get?_of_mem_combinations {assignment : Assignment} (named : axes.names.Nodup)
    (declared : (axis, values) ∈ axes) (member : assignment ∈ combinations axes) :
    ∃ value ∈ values, assignment.get? axis = some value := by
  induction axes generalizing assignment with
  | nil => cases declared
  | cons first rest ih =>
    obtain ⟨fresh, named_rest⟩ := List.nodup_cons.1 named
    obtain ⟨value, here, later, there, rfl⟩ := mem_combinations_cons.1 member
    rw [Keyed.get?_cons]
    rcases List.mem_cons.1 declared with rfl | behind
    · exact ⟨value, here, if_pos rfl⟩
    · rw [if_neg (ne_of_mem_names fresh behind)]
      exact ih named_rest behind there

theorem put_mem_combinations {assignment : Assignment} {value : Scalar} (named : axes.names.Nodup)
    (declared : (axis, values) ∈ axes) (inside : value ∈ values) (member : assignment ∈ combinations axes) :
    assignment.put axis value ∈ combinations axes := by
  induction axes generalizing assignment with
  | nil => cases declared
  | cons first rest ih =>
    obtain ⟨fresh, named_rest⟩ := List.nodup_cons.1 named
    obtain ⟨other, here, later, there, rfl⟩ := mem_combinations_cons.1 member
    rcases List.mem_cons.1 declared with rfl | behind
    · rw [Keyed.put, if_pos rfl]
      exact mem_combinations_cons.2 ⟨value, inside, later, there, rfl⟩
    · rw [Keyed.put, if_neg (ne_of_mem_names fresh behind).symm]
      exact mem_combinations_cons.2 ⟨other, here, _, ih named_rest behind there, rfl⟩

/-- In each combination of the values of all axes a reference to an axis is bound to the value of this axis. -/
def Substitutes (job : String) (axes : Keyed (List Scalar)) (axis : String) : Prop :=
  ∀ assignment ∈ combinations axes, ∃ value, assignment.get? axis = some value ∧
    bindText job assignment (referenceTo axis) = .ok value.spelled

/-- An axis has a single value, and this is spelled like what becomes anyway of that which is written for it. -/
def Echoes (job : String) (axes : Keyed (List Scalar)) (axis : String) (values : List Scalar) : Prop :=
  ∃ value, values = [value] ∧ ∀ assignment ∈ combinations axes,
    bindText job assignment (referenceTo axis) = .ok value.spelled

theorem substitutes_of_referable (job : String) (named : axes.names.Nodup)
    (short : ∀ assignment ∈ combinations axes, ∀ entry ∈ assignment, entry.2.isLong = false)
    (declared : (axis, values) ∈ axes) (referable : Referable axis) : Substitutes job axes axis := by
  intro assignment member
  obtain ⟨value, _, known⟩ := get?_of_mem_combinations named declared member
  have written := short assignment member _ (Keyed.mem_of_get? known)
  exact ⟨value, known, bindText_referenceTo referable known written⟩

/-- Two values of an axis that no reference can hold would be spelled alike, since the text does not see them. -/
theorem spelled_eq_of_substitutes {job : String} (named : axes.names.Nodup) (declared : (axis, values) ∈ axes)
    (unreferable : ¬Referable axis) (substitutes : Substitutes job axes axis) {assignment : Assignment}
    (member : assignment ∈ combinations axes) {one other : Scalar} (here : one ∈ values) (there : other ∈ values) :
    one.spelled = other.spelled := by
  have bound {value : Scalar} (inside : value ∈ values) :
      bindText job (assignment.put axis value) (referenceTo axis) =
        .ok value.spelled := by
    obtain ⟨_, known, bound⟩ := substitutes _ (put_mem_combinations named declared inside member)
    rw [Keyed.get?_put_self] at known
    obtain rfl := Option.some.inj known
    exact bound
  -- Changing the value of the axis alone changes nothing that the text refers to.
  have unseen : ∀ axis', Refers (referenceTo axis) axis' →
      (assignment.put axis other).get? axis' = (assignment.put axis one).get? axis' := by
    intro axis' refers
    have apart : axis' ≠ axis := fun same => unreferable (same ▸ referable_of_refers refers)
    rw [Keyed.get?_put, Keyed.get?_put, if_neg apart, if_neg apart]
  exact Except.ok.inj ((bindText_of_agree unseen (bound here)).symm.trans (bound there))

theorem substitutes_iff (job : String) (checked : Checked axes) (named : axes.names.Nodup)
    (short : ∀ assignment ∈ combinations axes, ∀ entry ∈ assignment, entry.2.isLong = false)
    (declared : (axis, values) ∈ axes) :
    Substitutes job axes axis ↔ Referable axis ∨ Echoes job axes axis values := by
  constructor
  · intro substitutes
    refine or_iff_not_imp_left.2 fun unreferable => ?_
    obtain ⟨assignment, member⟩ := List.exists_mem_of_ne_nil _ (combinations_ne_nil checked)
    have alike {one other : Scalar} (here : one ∈ values) (there : other ∈ values) : one = other :=
      List.inj_on_of_nodup_map (checked _ declared).2 here there
        (spelled_eq_of_substitutes named declared unreferable substitutes member here there)
    obtain ⟨value, rest, split⟩ := List.exists_cons_of_ne_nil (checked _ declared).1
    obtain rfl : values = value :: rest := split
    have only : rest = [] := by
      refine List.eq_nil_iff_forall_not_mem.2 fun other there => ?_
      obtain rfl := alike (List.mem_cons_of_mem value there) List.mem_cons_self
      exact (List.nodup_cons.1 ((checked _ declared).2.of_map _)).1 there
    subst only
    refine ⟨value, rfl, fun assignment member => ?_⟩
    obtain ⟨other, known, bound⟩ := substitutes assignment member
    obtain ⟨_, inside, known'⟩ := get?_of_mem_combinations named declared member
    obtain rfl := Option.some.inj (known.symm.trans known')
    rwa [List.mem_singleton.1 inside] at bound
  · rintro (referable | ⟨value, rfl, echoed⟩)
    · exact substitutes_of_referable job named short declared referable
    · intro assignment member
      obtain ⟨other, inside, known⟩ := get?_of_mem_combinations named declared member
      obtain rfl := List.mem_singleton.1 inside
      exact ⟨other, known, echoed assignment member⟩

end

end Matrix

/-- The instances of a job whose axes are in order have the combinations of their values. In each of these the
references to all axes are bound to the values of the axes exactly where the names of the axes are plain, but for
axes with a single value of the right spelling. No text refers to an axis with any other name, and a text that
refers to no axis is kept as it is, with no problem. -/
theorem Job.axes_substituted_iff {job : Job} {axes : Keyed (List Scalar)}
    (checked : checkAxes job.name job.matrix = .ok axes) (named : job.matrix.names.Nodup) :
    (∀ start instances, job.instancesFrom start = .ok instances →
      instances.map Instance.assignment = combinations axes) ∧
    ((∀ axis ∈ axes.names, Substitutes job.name axes axis) ↔
      ∀ entry ∈ axes, Referable entry.1 ∨ Echoes job.name axes entry.1 entry.2) ∧
    (∀ axis, (∃ text, Refers text axis) ↔ Referable axis) ∧
    ∀ text, (∀ axis, ¬Refers text axis) → ∀ assignment ∈ combinations axes,
      bindText job.name assignment text = .ok text := by
  refine ⟨fun start instances expanded => ?_, ?_, fun axis => ?_, fun text none _ _ => bindText_of_none none⟩
  · obtain ⟨axes', checked', bound⟩ := instancesFrom_ok_iff.1 expanded
    obtain rfl := Except.ok.inj (checked.symm.trans checked')
    exact (bindJobs_ok bound).assignments
  · rw [Keyed.names, List.forall_mem_map]
    have distinct : axes.names.Nodup := (checkAxes_ok_iff.1 checked).names ▸ named
    exact forall₂_congr fun entry member =>
      substitutes_iff job.name (checkAxes_ok checked) distinct (short_of_mem_combinations checked) member
  · constructor
    · rintro ⟨_, refers⟩
      exact referable_of_refers refers
    · exact fun referable => ⟨_, refers_referenceTo referable⟩

theorem Job.axes_substituted_crossed : Substitutes "test" crossedAxes "os" ∧
    Substitutes "test" crossedAxes "level" ∧ Substitutes "test" crossedAxes "fast" := by
  have checked : checkAxes crossedJob.name crossedJob.matrix = .ok crossedAxes := by
    with_unfolding_all rfl
  have plain : ∀ entry ∈ crossedAxes, Referable entry.1 := by
    decide +kernel
  have all := (Job.axes_substituted_iff checked (by decide)).2.1.2 fun entry member => .inl (plain entry member)
  exact ⟨all "os" (by decide), all "level" (by decide), all "fast" (by decide)⟩

def dottedJob : Job where
  name := "j"
  steps := [⟨"s", "echo $\x7b\x7b matrix.py.version \x7d\x7d", none, none, [], none⟩]
  needs := []
  matrix := [("py.version", .list [.text "3.11"])]
  env := []
  title := none
  runsOn := none

/-- The axis is accepted, and the command of the only instance still has the reference in it. -/
theorem Job.axes_not_substituted : ∃ inst, dottedJob.instancesFrom 0 = .ok [inst] ∧
    inst.assignment = [("py.version", .text "3.11")] ∧
    inst.steps.map Step.run = ["echo $\x7b\x7b matrix.py.version \x7d\x7d"] ∧
    ¬Substitutes "j" [("py.version", [.text "3.11"])] "py.version" := by
  refine ⟨⟨"j", [("py.version", .text "3.11")], dottedJob.steps, 0, [], none, none⟩, ?_, rfl, rfl, ?_⟩
  · with_unfolding_all rfl
  · intro substitutes
    obtain ⟨value, known, bound⟩ := substitutes _ (List.mem_singleton.2 rfl)
    obtain rfl := Option.some.inj known
    have kept : bindText "j" [("py.version", .text "3.11")] (referenceTo "py.version") =
        .ok "$\x7b\x7b matrix.py.version \x7d\x7d" := by
      with_unfolding_all rfl
    have same := Except.ok.inj (kept.symm.trans bound)
    revert same
    decide

end CiPipeline
