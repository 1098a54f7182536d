import CiPipeline.Proofs.Matrix.Reference

/-! What binding makes of a text. Either every reference in it names an axis with a value that can be written out,
and then each one is replaced by this value as it is spelled and all else is kept; or the first reference that does
not decides: an axis without a value is told as a problem, and a number that is too long breaks off. -/
namespace CiPipeline.Matrix

def Refers (text axis : String) : Prop :=
  ∃ found : Reference, found.WellFormed ∧ found.source <:+: text.toList ∧ String.ofList found.axis = axis

theorem refers_iff {text axis : String} : Refers text axis ↔
    ∃ found, Piece.reference found ∈ pieces text.toList ∧ String.ofList found.axis = axis := by
  simp only [Refers, reference_mem_pieces_iff, and_assoc]

def Piece.axis? : Piece → Option String
  | literal _ => none
  | reference found => some (String.ofList found.axis)

def referred (text : String) : List String := (pieces text.toList).filterMap Piece.axis?

theorem refers_iff_mem {text axis : String} : Refers text axis ↔ axis ∈ referred text := by
  rw [refers_iff, referred, List.mem_filterMap]
  constructor
  · rintro ⟨found, member, rfl⟩
    exact ⟨_, member, rfl⟩
  · rintro ⟨piece, member, same⟩
    cases piece with
    | literal c => cases same
    | reference found => exact ⟨found, member, Option.some.inj same⟩

example : referred "$\x7b\x7b $\x7b\x7b matrix.os \x7d\x7d$$\x7b\x7bmatrix.py\x7d\x7d" = ["os", "py"] := by
  decide +kernel

/-- What stands in the place of a piece: a character for itself, and for a reference the spelled value of its
axis, whatever this looks like. -/
inductive Replaced (values : Keyed Scalar) : Piece → List Char → Prop
  | literal (c : Char) : Replaced values (.literal c) [c]
  | reference {found : Reference} {value : Scalar}
      (known : values.get? (String.ofList found.axis) = some value) (short : value.isLong = false) :
      Replaced values (.reference found) value.spelled.toList

inductive Fault (job text : String) (values : Keyed Scalar) (axis : String) : Failure → Prop
  | unknown (missing : axis ∉ values.names) :
    Fault job text values axis (.problem (.unknownAxis job axis text (sortedNames values.names)))
  | long {value : Scalar} (known : values.get? axis = some value) (long : value.isLong = true) :
    Fault job text values axis (.crash .longNumber)

def Spellable (values : Keyed Scalar) (axis : String) : Prop :=
  ∃ value, values.get? axis = some value ∧ value.isLong = false

section

variable {job text : String} {values : Keyed Scalar}

theorem Spellable.known {axis : String} (spellable : Spellable values axis) : axis ∈ values.names := by
  obtain ⟨_, known, _⟩ := spellable
  exact Keyed.mem_names_of_get? known

theorem spellable_iff {axis : String} (short : ∀ value, values.get? axis = some value → value.isLong = false) :
    Spellable values axis ↔ axis ∈ values.names := by
  refine ⟨Spellable.known, fun member => ?_⟩
  obtain ⟨value, known⟩ := Keyed.exists_get?_of_mem member
  exact ⟨value, known, short value known⟩

theorem Replaced.bind_eq {piece : Piece} {part : List Char} (replaced : Replaced values piece part) :
    piece.bind job text values = .ok part := by
  cases replaced with
  | literal c => rfl
  | reference known short =>
    rw [Piece.bind, known]
    dsimp only
    rw [short]
    rfl

theorem Fault.bind_eq {found : Reference} {failure : Failure}
    (fault : Fault job text values (String.ofList found.axis) failure) :
    (Piece.reference found).bind job text values = .error failure := by
  rw [Piece.bind]
  cases fault with
  | unknown missing => rw [Keyed.get?_eq_none_iff.2 missing]
  | long known long =>
    rw [known]
    exact if_pos long

variable (job text values) in
theorem spellable_or_fault (axis : String) :
    Spellable values axis ∨ ∃ failure, Fault job text values axis failure := by
  cases known : values.get? axis with
  | none => exact .inr ⟨_, .unknown (Keyed.get?_eq_none_iff.1 known)⟩
  | some value =>
    cases long : value.isLong with
    | false => exact .inl ⟨value, known, long⟩
    | true => exact .inr ⟨_, .long known long⟩

theorem Fault.not_spellable {axis : String} {failure : Failure} (fault : Fault job text values axis failure) :
    ¬Spellable values axis := by
  rintro ⟨value, known, short⟩
  cases fault with
  | unknown missing => exact missing (Keyed.mem_names_of_get? known)
  | long known' long =>
    rw [known, Option.some.injEq] at known'
    rw [← known', short] at long
    cases long

theorem exists_replaced_iff {piece : Piece} : (∃ part, Replaced values piece part) ↔
    ∀ found, piece = .reference found → Spellable values (String.ofList found.axis) := by
  constructor
  · rintro ⟨_, ⟨⟩⟩ found same
    · cases same
    · rename_i value known short
      obtain rfl := Piece.reference.inj same
      exact ⟨value, known, short⟩
  · intro all
    cases piece with
    | literal c => exact ⟨_, .literal c⟩
    | reference found =>
      obtain ⟨value, known, short⟩ := all found rfl
      exact ⟨_, .reference known short⟩

variable (job text values) in
theorem replaced_or_fault (piece : Piece) : (∃ part, Replaced values piece part) ∨
    ∃ found failure, piece = .reference found ∧
      Fault job text values (String.ofList found.axis) failure := by
  cases piece with
  | literal c => exact .inl ⟨_, .literal c⟩
  | reference found =>
    rcases spellable_or_fault job text values (String.ofList found.axis) with
      ⟨value, known, short⟩ | ⟨failure, fault⟩
    · exact .inl ⟨_, .reference known short⟩
    · exact .inr ⟨found, failure, rfl, fault⟩

theorem bind_ok_iff {piece : Piece} {part : List Char} :
    piece.bind job text values = .ok part ↔ Replaced values piece part := by
  refine ⟨fun bound => ?_, Replaced.bind_eq⟩
  rcases replaced_or_fault job text values piece with ⟨other, replaced⟩ | ⟨found, failure, rfl, fault⟩
  · obtain rfl := Except.ok.inj (replaced.bind_eq.symm.trans bound)
    exact replaced
  · cases fault.bind_eq.symm.trans bound

theorem bind_error_iff {piece : Piece} {failure : Failure} :
    piece.bind job text values = .error failure ↔
      ∃ found, piece = .reference found ∧ Fault job text values (String.ofList found.axis) failure := by
  constructor
  · intro failed
    rcases replaced_or_fault job text values piece with ⟨part, replaced⟩ | ⟨found, other, rfl, fault⟩
    · cases replaced.bind_eq.symm.trans failed
    · obtain rfl := Except.error.inj (fault.bind_eq.symm.trans failed)
      exact ⟨found, rfl, fault⟩
  · rintro ⟨found, rfl, fault⟩
    exact fault.bind_eq

theorem bindText_ok_iff {result : String} :
    bindText job values text = .ok result ↔
      ∃ parts, List.Forall₂ (Replaced values) (pieces text.toList) parts ∧
        result = String.ofList parts.flatten := by
  simp only [bindText, Success.map_iff, Success.mapM_iff, bind_ok_iff, eq_comm (b := result)]

theorem bindText_reference {front back front' back' : String} {found : Reference} {value : Scalar}
    (formed : found.WellFormed) (known : values.get? (String.ofList found.axis) = some value)
    (short : value.isLong = false) (before : bindText job values front = .ok front')
    (after : bindText job values back = .ok back') :
    bindText job values (front ++ String.ofList found.source ++ back) =
      .ok (front' ++ value.spelled ++ back') := by
  obtain ⟨parts, replaced, rfl⟩ := bindText_ok_iff.1 before
  obtain ⟨parts', replaced', rfl⟩ := bindText_ok_iff.1 after
  have read : pieces (front ++ String.ofList found.source ++ back).toList =
      pieces front.toList ++ .reference found :: pieces back.toList := by
    rw [String.toList_append, String.toList_append, String.toList_ofList, List.append_assoc]
    exact pieces_append_reference front.toList formed back.toList
  refine bindText_ok_iff.2 ⟨parts ++ value.spelled.toList :: parts', ?_, ?_⟩
  · rw [read]
    exact List.rel_append replaced (.cons (.reference known short) replaced')
  · rw [List.flatten_append, List.flatten_cons, String.ofList_append, String.ofList_append,
      String.ofList_toList, String.append_assoc]

theorem bindText_error_iff {failure : Failure} :
    bindText job values text = .error failure ↔
      ∃ front found back, pieces text.toList = front ++ .reference found :: back ∧
        (∀ earlier, .reference earlier ∈ front → Spellable values (String.ofList earlier.axis)) ∧
        Fault job text values (String.ofList found.axis) failure := by
  simp only [bindText, Success.map_error_iff, Success.mapM_error_iff, bind_ok_iff, exists_replaced_iff,
    bind_error_iff]
  constructor
  · rintro ⟨front, _, back, split, all, found, rfl, fault⟩
    exact ⟨front, found, back, split, fun earlier member => all _ member earlier rfl, fault⟩
  · rintro ⟨front, found, back, split, all, fault⟩
    exact ⟨front, _, back, split, fun piece member earlier same => all earlier (same ▸ member),
      found, rfl, fault⟩

theorem exists_bindText_iff : (∃ result, bindText job values text = .ok result) ↔
    ∀ axis, Refers text axis → Spellable values axis := by
  simp only [refers_iff]
  constructor
  · rintro ⟨result, bound⟩ _ ⟨found, member, rfl⟩
    obtain ⟨parts, all, _⟩ := bindText_ok_iff.1 bound
    obtain ⟨part, _, replaced⟩ := Success.exists_right all member
    exact exists_replaced_iff.1 ⟨part, replaced⟩ found rfl
  · intro spellable
    cases outcome : bindText job values text with
    | ok result => exact ⟨result, rfl⟩
    | error failure =>
      obtain ⟨front, found, back, split, _, fault⟩ := bindText_error_iff.1 outcome
      exact absurd (spellable _ ⟨found, by simp [split], rfl⟩) fault.not_spellable

theorem exists_problem_iff
    (short : ∀ axis value, Refers text axis → values.get? axis = some value → value.isLong = false) :
    (∃ problem, bindText job values text = .error (.problem problem) ∧ problem.kind = .matrix) ↔
      ∃ axis, Refers text axis ∧ axis ∉ values.names := by
  constructor
  · rintro ⟨problem, failed, _⟩
    obtain ⟨front, found, back, split, _, ⟨missing⟩⟩ := bindText_error_iff.1 failed
    exact ⟨_, refers_iff.2 ⟨found, by simp [split], rfl⟩, missing⟩
  · rintro ⟨axis, refers, unknown⟩
    cases outcome : bindText job values text with
    | ok result => exact absurd (exists_bindText_iff.1 ⟨result, outcome⟩ axis refers).known unknown
    | error failure =>
      obtain ⟨front, found, back, split, _, ⟨missing⟩ | ⟨known, long⟩⟩ := bindText_error_iff.1 outcome
      · exact ⟨_, rfl, rfl⟩
      · rw [short _ _ (refers_iff.2 ⟨found, by simp [split], rfl⟩) known] at long
        cases long

end

/-- A text falls into characters and references in one way, and no reference in it is missed, whatever stands in
front of it. Binding fails at the first reference that cannot be replaced: one to an axis that has no value is told
as a problem, and one to a number that is too long to be written out breaks off. Where there is neither there is a
result, the text with every reference replaced by the spelled value of its axis and every other character kept,
the values themselves not being looked into. -/
theorem bindText_replaces (job text : String) (values : Keyed Scalar) :
    (∀ found, Decomposes text.toList found ↔ found = pieces text.toList) ∧
    (∀ front (found : Reference) rest, found.WellFormed → text.toList = front ++ (found.source ++ rest) →
      pieces text.toList = pieces front ++ .reference found :: pieces rest) ∧
    (∀ failure, bindText job values text = .error failure ↔
      ∃ front found back, pieces text.toList = front ++ .reference found :: back ∧
        (∀ earlier, .reference earlier ∈ front → Spellable values (String.ofList earlier.axis)) ∧
        Fault job text values (String.ofList found.axis) failure) ∧
    ((∀ axis value, Refers text axis → values.get? axis = some value → value.isLong = false) →
      ((∃ problem, bindText job values text = .error (.problem problem) ∧ problem.kind = .matrix) ↔
        ∃ axis, Refers text axis ∧ axis ∉ values.names)) ∧
    ((∃ result, bindText job values text = .ok result) ↔ ∀ axis, Refers text axis → Spellable values axis) ∧
    (∀ result, bindText job values text = .ok result ↔
      ∃ parts, List.Forall₂ (Replaced values) (pieces text.toList) parts ∧
        result = String.ofList parts.flatten) := by
  refine ⟨fun _ => decomposes_iff, fun front found rest formed same => ?_, fun _ => bindText_error_iff,
    exists_problem_iff, exists_bindText_iff, fun _ => bindText_ok_iff⟩
  rw [same]
  exact pieces_append_reference front formed rest

def numberText : String := "$\x7b\x7b matrix.n \x7d\x7d"

theorem bindText_numberText {n : Int} (long : Number.isLong n = true) :
    bindText "a" [("n", .int n)] numberText = .error (.crash .longNumber) := by
  have read : pieces numberText.toList = [.reference ⟨[' '], ['n'], [' ']⟩] := by decide +kernel
  exact bindText_error_iff.2 ⟨[], _, [], read, fun _ none => absurd none List.not_mem_nil, .long rfl long⟩

/-- The only axis that the text refers to has a value, and yet there is no result and no problem is told. -/
theorem neither_bound_nor_told :
    (∀ axis, Refers numberText axis → axis = "n") ∧
    (¬∃ result, bindText "a" [("n", .int (Nat.pow 10 Number.digitLimit))] numberText = .ok result) ∧
    ¬∃ problem, bindText "a" [("n", .int (Nat.pow 10 Number.digitLimit))] numberText =
      .error (.problem problem) := by
  have broken := bindText_numberText Number.isLong_pow
  refine ⟨fun axis refers => ?_, ?_, ?_⟩
  · have named : referred numberText = ["n"] := by decide +kernel
    rw [refers_iff_mem, named] at refers
    exact List.mem_singleton.1 refers
  · rintro ⟨_, bound⟩
    cases broken.symm.trans bound
  · rintro ⟨_, told⟩
    cases broken.symm.trans told

end CiPipeline.Matrix
