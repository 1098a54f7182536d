import CiPipeline.Matrix.Expansion
import CiPipeline.Proofs.Keyed
import CiPipeline.Proofs.Success

/-! Which values an axis may have. The values of an axis are accepted when they are single values that are all
spelled differently and can all be written out; where they are not, the first one at fault decides on what is
told. -/
namespace CiPipeline

def Document.Lists (document : Document) (items : List Document) : Prop :=
  document.opened = .list items ∨ document.opened = .tuple items

theorem Document.Lists.unique {document : Document} {one other : List Document}
    (lists : document.Lists one) (lists' : document.Lists other) : one = other := by
  rcases lists with form | form <;> rcases lists' with form' | form' <;>
    cases form.symm.trans form' <;> rfl

theorem Document.scalar?_eq_some_iff {document : Document} {value : Scalar} :
    document.scalar? = some value ↔ document = value.toDocument := by
  constructor
  · intro single
    cases document with
    | bool | int | float | text =>
      obtain rfl := Option.some.inj single
      rfl
    | _ => cases single
  · rintro rfl
    exact scalar?_toDocument value

namespace Matrix

def Concerns (job : String) (problem : Problem) : Prop := problem.kind = .matrix ∧ problem.job = job

structure Apart (names : List String) (values : List Scalar) : Prop where
  short : ∀ value ∈ values, value.toDocument.hasLongNumber = false
  fresh : ∀ value ∈ values, value.spelled ∉ names
  nodup : (values.map Scalar.spelled).Nodup

theorem apart_cons_iff {names : List String} {value : Scalar} {rest : List Scalar} :
    Apart names (value :: rest) ↔
      (value.toDocument.hasLongNumber = false ∧ value.spelled ∉ names) ∧
        Apart (names ++ [value.spelled]) rest := by
  constructor
  · rintro ⟨short, fresh, nodup⟩
    rw [List.forall_mem_cons] at short fresh
    rw [List.map_cons, List.nodup_cons] at nodup
    refine ⟨⟨short.1, fresh.1⟩, short.2, fun other member => ?_, nodup.2⟩
    rw [List.mem_append, List.mem_singleton, not_or]
    exact ⟨fresh.2 other member, fun same => nodup.1 (same ▸ List.mem_map_of_mem member)⟩
  · rintro ⟨⟨short, fresh⟩, later⟩
    refine ⟨List.forall_mem_cons.2 ⟨short, later.short⟩,
      List.forall_mem_cons.2 ⟨fresh, fun other member => ?_⟩, ?_⟩
    · exact fun known => later.fresh other member (List.mem_append_left _ known)
    · rw [List.map_cons, List.nodup_cons]
      refine ⟨fun member => ?_, later.nodup⟩
      obtain ⟨other, there, same⟩ := List.mem_map.1 member
      exact later.fresh other there (List.mem_append_right _ (List.mem_singleton.2 same))

section

variable {job axis : String} {seen : Keyed Scalar}

theorem checkValues_value {value : Scalar} (short : value.toDocument.hasLongNumber = false)
    (fresh : value.spelled ∉ seen.names) (rest : List Document) :
    checkValues job axis seen (value.toDocument :: rest) =
      (checkValues job axis (seen ++ [(value.spelled, value)]) rest).map (value :: ·) := by
  rw [checkValues, short, Document.scalar?_toDocument]
  dsimp only
  rw [Keyed.get?_eq_none_iff.2 fresh]
  rfl

theorem checkValues_long {document : Document} (long : document.hasLongNumber = true)
    (rest : List Document) :
    checkValues job axis seen (document :: rest) = .error (.crash .longNumber) := by
  rw [checkValues, if_pos long]

theorem checkValues_append (job axis : String) {front : List Scalar} (apart : Apart seen.names front)
    (rest : List Document) :
    checkValues job axis seen (front.map Scalar.toDocument ++ rest) =
      (checkValues job axis (seen ++ front.map fun value => (value.spelled, value)) rest).map
        (front ++ ·) := by
  induction front generalizing seen with
  | nil =>
    rw [List.map_nil, List.map_nil, List.append_nil, List.nil_append]
    cases checkValues job axis seen rest <;> rfl
  | cons value others ih =>
    obtain ⟨⟨short, fresh⟩, later⟩ := apart_cons_iff.1 apart
    have names : (seen ++ [(value.spelled, value)]).names = seen.names ++ [value.spelled] :=
      Keyed.names_append _ _
    rw [List.map_cons, List.cons_append, checkValues_value short fresh, ih (names ▸ later),
      List.append_assoc, List.singleton_append, List.map_cons]
    generalize checkValues job axis _ rest = checked
    cases checked <;> rfl

theorem checkValues_cons (job axis : String) (seen : Keyed Scalar) (document : Document)
    (rest : List Document) :
    (document.hasLongNumber = true ∧
      checkValues job axis seen (document :: rest) = .error (.crash .longNumber)) ∨
    (∃ problem, checkValues job axis seen (document :: rest) = .error (.problem problem) ∧
      Concerns job problem) ∨
    ∃ value : Scalar, document = value.toDocument ∧ document.hasLongNumber = false ∧
      value.spelled ∉ seen.names ∧ checkValues job axis seen (document :: rest) =
        (checkValues job axis (seen ++ [(value.spelled, value)]) rest).map (value :: ·) := by
  cases long : document.hasLongNumber with
  | true => exact .inl ⟨rfl, checkValues_long long rest⟩
  | false =>
    cases single : document.scalar? with
    | none =>
      refine .inr (.inl ⟨.axisCollection job axis document, ?_, rfl, rfl⟩)
      rw [checkValues, long, single]
      rfl
    | some value =>
      obtain rfl := Document.scalar?_eq_some_iff.1 single
      cases known : seen.get? value.spelled with
      | some first =>
        refine .inr (.inl ⟨.axisRepeats job axis value.spelled first.toDocument value.toDocument,
          ?_, rfl, rfl⟩)
        rw [checkValues, long, single]
        dsimp only
        rw [known]
        rfl
      | none =>
        have fresh := Keyed.get?_eq_none_iff.1 known
        exact .inr (.inr ⟨value, rfl, rfl, fresh, checkValues_value long fresh rest⟩)

/-- How the check of values can end: with all of them, or at a number that is too long behind values that are
in order, or with a problem of the matrix. -/
theorem checkValues_ends (job axis : String) (seen : Keyed Scalar) (documents : List Document) :
    (∃ values, documents = values.map Scalar.toDocument ∧ Apart seen.names values ∧
      checkValues job axis seen documents = .ok values) ∨
    (∃ front document back, documents = front.map Scalar.toDocument ++ document :: back ∧
      Apart seen.names front ∧ document.hasLongNumber = true ∧
      checkValues job axis seen documents = .error (.crash .longNumber)) ∨
    ∃ problem, checkValues job axis seen documents = .error (.problem problem) ∧ Concerns job problem := by
  induction documents generalizing seen with
  | nil => exact .inl ⟨[], rfl, ⟨by simp, by simp, List.nodup_nil⟩, rfl⟩
  | cons document rest ih =>
    rcases checkValues_cons job axis seen document rest with ⟨long, broken⟩ | told |
      ⟨value, rfl, short, fresh, step⟩
    · exact .inr (.inl ⟨[], document, rest, rfl, ⟨by simp, by simp, List.nodup_nil⟩, long, broken⟩)
    · exact .inr (.inr told)
    · have apart {values : List Scalar}
          (later : Apart (seen ++ [(value.spelled, value)]).names values) :
          Apart seen.names (value :: values) := by
        rw [Keyed.names_append] at later
        exact apart_cons_iff.2 ⟨⟨short, fresh⟩, later⟩
      rw [step]
      rcases ih (seen ++ [(value.spelled, value)]) with ⟨values, rfl, later, checked⟩ |
        ⟨front, other, back, rfl, later, long, broken⟩ | ⟨problem, told, sort⟩
      · rw [checked]
        exact .inl ⟨value :: values, rfl, apart later, rfl⟩
      · rw [broken]
        exact .inr (.inl ⟨value :: front, other, back, rfl, apart later, long, rfl⟩)
      · rw [told]
        exact .inr (.inr ⟨problem, rfl, sort⟩)

theorem checkValues_ok_iff {documents : List Document} {values : List Scalar} :
    checkValues job axis seen documents = .ok values ↔
      documents = values.map Scalar.toDocument ∧ Apart seen.names values := by
  constructor
  · intro checked
    rcases checkValues_ends job axis seen documents with
      ⟨others, same, apart, checked'⟩ | ⟨_, _, _, _, _, _, broken⟩ | ⟨_, told, _⟩
    · obtain rfl := Except.ok.inj (checked'.symm.trans checked)
      exact ⟨same, apart⟩
    · rw [broken] at checked
      cases checked
    · rw [told] at checked
      cases checked
  · rintro ⟨rfl, apart⟩
    have whole := checkValues_append job axis apart []
    rw [List.append_nil] at whole
    rw [whole, checkValues]
    exact congrArg Except.ok (List.append_nil values)

theorem checkValues_crash_iff {documents : List Document} {crash : Crash} :
    checkValues job axis seen documents = .error (.crash crash) ↔ crash = .longNumber ∧
      ∃ front document back, documents = front.map Scalar.toDocument ++ document :: back ∧
        Apart seen.names front ∧ document.hasLongNumber = true := by
  constructor
  · intro broken
    rcases checkValues_ends job axis seen documents with
      ⟨_, _, _, checked⟩ | ⟨front, document, back, same, apart, long, broken'⟩ | ⟨_, told, _⟩
    · rw [checked] at broken
      cases broken
    · rw [broken'] at broken
      exact ⟨(Failure.crash.inj (Except.error.inj broken)).symm, front, document, back, same, apart, long⟩
    · rw [told] at broken
      cases broken
  · rintro ⟨rfl, front, document, back, rfl, apart, long⟩
    rw [checkValues_append job axis apart, checkValues_long long]
    rfl

end

/-- The document of an axis lists its values: at least one, all of them spelled differently and short enough to
be written out. -/
structure Fits (document : Document) (values : List Scalar) : Prop where
  lists : document.Lists (values.map Scalar.toDocument)
  some_value : values ≠ []
  apart : Apart [] values

/-- Among the items that the document of an axis lists is a number that is too long to be written out, and
nothing is wrong with the items in front of it. -/
def BreaksOff (document : Document) : Prop :=
  ∃ front item back, document.Lists (front.map Scalar.toDocument ++ item :: back) ∧
    Apart [] front ∧ item.hasLongNumber = true

section

variable {job axis : String} {document : Document}

theorem checkAxis_of_lists {items : List Document} (lists : document.Lists items)
    (some_item : items ≠ []) : checkAxis job axis document = checkValues job axis [] items := by
  obtain ⟨item, rest, rfl⟩ := List.exists_cons_of_ne_nil some_item
  rcases lists with form | form <;> rw [checkAxis, form]

theorem checkAxis_ends (job axis : String) (document : Document) : (∃ items, items ≠ [] ∧ document.Lists items) ∨
    ∃ problem, checkAxis job axis document = .error (.problem problem) ∧ Concerns job problem := by
  rw [checkAxis]
  split
  · exact .inr ⟨_, rfl, rfl, rfl⟩
  · exact .inr ⟨_, rfl, rfl, rfl⟩
  · rename_i items some_item form
    exact .inl ⟨items, some_item, .inl form⟩
  · rename_i items some_item form
    exact .inl ⟨items, some_item, .inr form⟩
  · exact .inr ⟨_, rfl, rfl, rfl⟩

theorem checkAxis_ok_iff {values : List Scalar} :
    checkAxis job axis document = .ok values ↔ Fits document values := by
  constructor
  · intro checked
    rcases checkAxis_ends job axis document with
      ⟨items, some_item, lists⟩ | ⟨problem, told, _⟩
    · rw [checkAxis_of_lists lists some_item, checkValues_ok_iff] at checked
      obtain ⟨rfl, apart⟩ := checked
      exact ⟨lists, fun none => some_item (none ▸ rfl), apart⟩
    · rw [told] at checked
      cases checked
  · rintro ⟨lists, some_value, apart⟩
    rw [checkAxis_of_lists lists (by simpa using some_value), checkValues_ok_iff]
    exact ⟨rfl, apart⟩

theorem checkAxis_crash_iff {crash : Crash} :
    checkAxis job axis document = .error (.crash crash) ↔
      crash = .longNumber ∧ BreaksOff document := by
  constructor
  · intro broken
    rcases checkAxis_ends job axis document with
      ⟨items, some_item, lists⟩ | ⟨problem, told, _⟩
    · rw [checkAxis_of_lists lists some_item, checkValues_crash_iff] at broken
      obtain ⟨rfl, front, item, back, rfl, apart, long⟩ := broken
      exact ⟨rfl, front, item, back, lists, apart, long⟩
    · rw [told] at broken
      cases broken
  · rintro ⟨rfl, front, item, back, lists, apart, long⟩
    rw [checkAxis_of_lists lists (by simp), checkValues_crash_iff]
    exact ⟨rfl, front, item, back, rfl, apart, long⟩

theorem checkAxis_problem {problem : Problem}
    (told : checkAxis job axis document = .error (.problem problem)) : Concerns job problem := by
  rcases checkAxis_ends job axis document with
    ⟨items, some_item, lists⟩ | ⟨other, told', sort⟩
  · rw [checkAxis_of_lists lists some_item] at told
    rcases checkValues_ends job axis [] items with
      ⟨_, _, _, checked⟩ | ⟨_, _, _, _, _, _, broken⟩ | ⟨other, told', sort⟩
    · rw [checked] at told
      cases told
    · rw [broken] at told
      cases told
    · rw [told'] at told
      exact Failure.problem.inj (Except.error.inj told) ▸ sort
  · rw [told'] at told
    exact Failure.problem.inj (Except.error.inj told) ▸ sort

variable {matrix : Keyed Document}

theorem checkAxes_eq_mapM : checkAxes job matrix =
    matrix.mapM fun entry => (checkAxis job entry.1 entry.2).map fun values => (entry.1, values) := by
  induction matrix with
  | nil => rfl
  | cons entry rest ih =>
    rw [List.mapM_cons, ← ih, checkAxes]
    cases checkAxis job entry.1 entry.2 <;> rfl

theorem checkAxes_ok_iff {axes : Keyed (List Scalar)} :
    checkAxes job matrix = .ok axes ↔ Keyed.Alike Fits matrix axes := by
  rw [checkAxes_eq_mapM, Success.mapM_iff]
  refine iff_of_eq (congrArg (fun related => List.Forall₂ related matrix axes) ?_)
  funext entry axis
  rw [Success.map_iff, eq_iff_iff]
  simp only [checkAxis_ok_iff]
  constructor
  · rintro ⟨values, fits, rfl⟩
    exact ⟨rfl, fits⟩
  · rintro ⟨name, fits⟩
    exact ⟨axis.2, fits, Prod.ext name.symm rfl⟩

theorem exists_checkAxes_iff : (∃ axes, checkAxes job matrix = .ok axes) ↔
    ∀ entry ∈ matrix, ∃ values, Fits entry.2 values := by
  have each (entry : String × Document) : Success.Decided (∃ values, Fits entry.2 values)
      (fun _ => True) ((checkAxis job entry.1 entry.2).map fun values => (entry.1, values)) := by
    refine Success.Decided.map ⟨?_, fun _ _ => trivial⟩ _
    simp only [checkAxis_ok_iff]
  rw [checkAxes_eq_mapM]
  exact (Success.Decided.mapM each matrix).ok_iff

theorem checkAxes_crash_iff {crash : Crash} :
    checkAxes job matrix = .error (.crash crash) ↔ crash = .longNumber ∧
      ∃ front entry back, matrix = front ++ entry :: back ∧
        (∀ earlier ∈ front, ∃ values, Fits earlier.2 values) ∧ BreaksOff entry.2 := by
  rw [checkAxes_eq_mapM, Success.mapM_error_iff]
  simp only [Success.map_iff, Success.map_error_iff, checkAxis_ok_iff, checkAxis_crash_iff]
  constructor
  · rintro ⟨front, entry, back, split, all, rfl, breaks⟩
    refine ⟨rfl, front, entry, back, split, fun earlier member => ?_, breaks⟩
    obtain ⟨_, values, fits, _⟩ := all earlier member
    exact ⟨values, fits⟩
  · rintro ⟨rfl, front, entry, back, split, all, breaks⟩
    refine ⟨front, entry, back, split, fun earlier member => ?_, rfl, breaks⟩
    obtain ⟨values, fits⟩ := all earlier member
    exact ⟨_, values, fits, rfl⟩

theorem checkAxes_problem {problem : Problem}
    (told : checkAxes job matrix = .error (.problem problem)) : Concerns job problem := by
  rw [checkAxes_eq_mapM, Success.mapM_error_iff] at told
  obtain ⟨_, entry, _, _, _, told⟩ := told
  exact checkAxis_problem (Success.map_error_iff.1 told)

end

end Matrix

end CiPipeline
