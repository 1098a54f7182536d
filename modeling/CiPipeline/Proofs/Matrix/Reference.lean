import CiPipeline.Matrix.Reference
import CiPipeline.Proofs.Keyed
import CiPipeline.Proofs.Success
import Mathlib.Data.List.TakeWhile

/-! What counts as a reference inside a text, said without reading the text. A text falls into pieces in one way
only, every reference that stands anywhere in it is one of the pieces, and binding puts the spelled value of an
axis in the place of each reference to it. -/
namespace CiPipeline.Matrix

open Text

structure Reference.WellFormed (reference : Reference) : Prop where
  before : ∀ c ∈ reference.before, isBlank c = true
  named : reference.axis ≠ []
  axis : ∀ c ∈ reference.axis, isAxisChar c = true
  after : ∀ c ∈ reference.after, isBlank c = true

/-- The pieces of a text: put together they are the text, every reference among them is well formed, and no
reference starts in the text where a piece is a single character. -/
structure Decomposes (cs : List Char) (found : List Piece) : Prop where
  source : found.flatMap Piece.source = cs
  wellFormed : ∀ reference, .reference reference ∈ found → reference.WellFormed
  leftmost : ∀ front c back, found = front ++ .literal c :: back → ∀ reference : Reference,
    reference.WellFormed → ¬reference.source <+: c :: back.flatMap Piece.source

section

variable {p : Char → Bool} {front : List Char}

theorem takeWhile_run (all : ∀ c ∈ front, p c = true) (back : List Char)
    (stops : ∀ c ∈ back.head?, p c = false) :
    (front ++ back).takeWhile p = front ∧ (front ++ back).dropWhile p = back := by
  have none : back.takeWhile p = [] ∧ back.dropWhile p = back := by
    cases back with
    | nil => exact ⟨rfl, rfl⟩
    | cons c rest =>
      have stop := stops c rfl
      exact ⟨by simp [stop], by simp [stop]⟩
  rw [List.takeWhile_append_of_pos all, List.dropWhile_append_of_pos all, none.1, none.2,
    List.append_nil]
  exact ⟨rfl, rfl⟩

end

theorem isAxisChar_of_isBlank {c : Char} (blank : isBlank c = true) : isAxisChar c = false := by
  have outside : c.toNat ≤ 32 ∨ 133 ≤ c.toNat := by
    simp only [isBlank, isWhiteSpace, Bool.or_eq_true, Bool.and_eq_true, decide_eq_true_eq,
      beq_iff_eq] at blank
    omega
  have between {first last : Char} (low : 45 ≤ first.toNat) (high : last.toNat ≤ 122)
      (range : first ≤ c ∧ c ≤ last) : 45 ≤ c.toNat ∧ c.toNat ≤ 122 :=
    ⟨low.trans (UInt32.le_iff_toNat_le.1 range.1), (UInt32.le_iff_toNat_le.1 range.2).trans high⟩
  rw [← Bool.not_eq_true]
  intro plain
  have inside : 45 ≤ c.toNat ∧ c.toNat ≤ 122 := by
    simp only [isAxisChar, isAsciiDigit, Bool.or_eq_true, Bool.and_eq_true, decide_eq_true_eq,
      beq_iff_eq] at plain
    rcases plain with (((upper | lower) | digit) | rfl) | rfl
    · exact between (by decide) (by decide) upper
    · exact between (by decide) (by decide) lower
    · exact between (by decide) (by decide) digit
    · decide
    · decide
  omega

namespace Reference

variable {found : Reference}

theorem WellFormed.reference?_append (formed : found.WellFormed) (rest : List Char) :
    reference? (found.source ++ rest) = some (found, rest) := by
  obtain ⟨before, axis, after⟩ := found
  have opened : strip? opening (opening ++ (before ++ (marker ++ (axis ++ (after ++ (closing ++ rest)))))) =
      some (before ++ (marker ++ (axis ++ (after ++ (closing ++ rest))))) :=
    strip?_eq_some_iff.2 rfl
  have blanks := takeWhile_run formed.before (marker ++ (axis ++ (after ++ (closing ++ rest))))
    fun c first => by
      obtain rfl := Option.some.inj first
      decide
  have marked : strip? marker (marker ++ (axis ++ (after ++ (closing ++ rest)))) =
      some (axis ++ (after ++ (closing ++ rest))) := strip?_eq_some_iff.2 rfl
  have name := takeWhile_run formed.axis (after ++ (closing ++ rest)) fun c first => by
    cases after with
    | nil =>
      obtain rfl := Option.some.inj first
      decide
    | cons blank more =>
      obtain rfl := Option.some.inj first
      exact isAxisChar_of_isBlank (formed.after _ List.mem_cons_self)
  have blanks' := takeWhile_run formed.after (closing ++ rest) fun c first => by
    obtain rfl := Option.some.inj first
    decide
  have closed : strip? closing (closing ++ rest) = some rest := strip?_eq_some_iff.2 rfl
  have named : axis.isEmpty = false := by simpa using formed.named
  simp only [reference?, source, List.append_assoc, opened, Option.bind_eq_bind, Option.bind_some,
    blanks, marked, name, blanks', closed, named]
  rfl

theorem wellFormed_of_reference? {cs rest : List Char} (matched : reference? cs = some (found, rest)) :
    found.WellFormed := by
  simp only [reference?, Option.bind_eq_bind, Option.bind_eq_some_iff] at matched
  obtain ⟨inside, _, named, _, after, _, ending⟩ := matched
  split at ending
  · cases ending
  · rename_i some_name
    obtain ⟨rfl, _⟩ := Prod.mk.inj (Option.some.inj ending)
    exact ⟨fun c => List.mem_takeWhile_imp, by simpa using some_name,
      fun c => List.mem_takeWhile_imp, fun c => List.mem_takeWhile_imp⟩

end Reference

theorem reference?_eq_some_iff {cs rest : List Char} {found : Reference} :
    reference? cs = some (found, rest) ↔ found.WellFormed ∧ cs = found.source ++ rest := by
  constructor
  · exact fun matched => ⟨Reference.wellFormed_of_reference? matched, reference?_source matched⟩
  · rintro ⟨formed, rfl⟩
    exact formed.reference?_append rest

theorem reference?_eq_none_iff {cs : List Char} :
    reference? cs = none ↔ ∀ found : Reference, found.WellFormed → ¬found.source <+: cs := by
  constructor
  · rintro none found formed ⟨rest, rfl⟩
    rw [formed.reference?_append rest] at none
    cases none
  · intro nowhere
    cases matched : reference? cs with
    | none => rfl
    | some result =>
      obtain ⟨formed, same⟩ := reference?_eq_some_iff.1 matched
      exact absurd ⟨result.2, same.symm⟩ (nowhere result.1 formed)

theorem pieces_of_reference {found : Reference} (formed : found.WellFormed) (rest : List Char) :
    pieces (found.source ++ rest) = .reference found :: pieces rest := by
  have matched := formed.reference?_append rest
  have unfolded : found.source ++ rest =
      '$' :: (found.source.tail ++ rest) := rfl
  rw [unfolded] at matched ⊢
  rw [pieces]
  split
  · rename_i read
    obtain ⟨rfl, rfl⟩ := Prod.mk.inj (Option.some.inj (matched.symm.trans read))
    rfl
  · rename_i unread
    rw [matched] at unread
    cases unread

theorem pieces_of_literal {c : Char} {rest : List Char} (none : reference? (c :: rest) = none) :
    pieces (c :: rest) = .literal c :: pieces rest := by
  rw [pieces]
  split
  · rename_i read
    rw [none] at read
    cases read
  · rfl

theorem wellFormed_of_mem_pieces {cs : List Char} {found : Reference}
    (member : .reference found ∈ pieces cs) : found.WellFormed := by
  fun_induction pieces cs with
  | case1 => cases member
  | case2 c tail first rest matched ih =>
    rcases member with _ | ⟨_, there⟩
    · exact (reference?_eq_some_iff.1 matched).1
    · exact ih there
  | case3 c tail unmatched ih =>
    rcases member with _ | ⟨_, there⟩
    exact ih there

theorem leftmost_pieces {cs : List Char} {front back : List Piece} {c : Char}
    (split : pieces cs = front ++ .literal c :: back) {found : Reference} (formed : found.WellFormed) :
    ¬found.source <+: c :: back.flatMap Piece.source := by
  fun_induction pieces cs generalizing front with
  | case1 => simp at split
  | case2 d tail first rest matched ih =>
    cases front with
    | nil => cases split
    | cons piece front => exact ih (List.cons.inj split).2
  | case3 d tail unmatched ih =>
    cases front with
    | nil =>
      obtain ⟨same, rfl⟩ := List.cons.inj split
      obtain rfl := Piece.literal.inj same
      rw [pieces_source]
      exact reference?_eq_none_iff.1 unmatched found formed
    | cons piece front => exact ih (List.cons.inj split).2

theorem decomposes_pieces (cs : List Char) : Decomposes cs (pieces cs) where
  source := pieces_source cs
  wellFormed := fun _ member => wellFormed_of_mem_pieces member
  leftmost := fun _ _ _ split _ formed => leftmost_pieces split formed

theorem Decomposes.eq_pieces {cs : List Char} {found : List Piece} (falls : Decomposes cs found) :
    found = pieces cs := by
  induction found generalizing cs with
  | nil =>
    obtain rfl : [] = cs := falls.source
    exact (pieces.eq_def []).symm
  | cons piece rest ih =>
    have later : Decomposes (rest.flatMap Piece.source) rest :=
      ⟨rfl, fun reference member => falls.wellFormed reference (List.mem_cons_of_mem _ member),
        fun front c back split => falls.leftmost (piece :: front) c back (congrArg _ split)⟩
    obtain rfl : piece.source ++ rest.flatMap Piece.source = cs := falls.source
    cases piece with
    | literal c =>
      have none := reference?_eq_none_iff.2 (falls.leftmost [] c rest rfl)
      exact (congrArg _ (ih later)).trans (pieces_of_literal none).symm
    | reference reference =>
      have formed := falls.wellFormed reference List.mem_cons_self
      exact (congrArg _ (ih later)).trans (pieces_of_reference formed _).symm

theorem decomposes_iff {cs : List Char} {found : List Piece} :
    Decomposes cs found ↔ found = pieces cs :=
  ⟨Decomposes.eq_pieces, fun same => same ▸ decomposes_pieces cs⟩

theorem Reference.WellFormed.dollar_not_mem {found : Reference} (formed : found.WellFormed) :
    '$' ∉ found.source.tail := by
  have before : '$' ∉ found.before := fun member => absurd (formed.before _ member) (by decide)
  have plain : '$' ∉ found.axis := fun member => absurd (formed.axis _ member) (by decide)
  have after : '$' ∉ found.after := fun member => absurd (formed.after _ member) (by decide)
  have unfolded : found.source.tail =
      opening.tail ++ (found.before ++ (marker ++ (found.axis ++ (found.after ++ closing)))) := by
    rw [source]
    simp only [List.append_assoc]
    rfl
  rw [unfolded]
  simp only [List.mem_append, not_or]
  exact ⟨by decide, before, by decide, plain, after, by decide⟩

/-- Whatever stands before a reference, be it the start of another one, the reference is found. -/
theorem pieces_append_reference (front : List Char) {found : Reference} (formed : found.WellFormed)
    (rest : List Char) :
    pieces (front ++ (found.source ++ rest)) = pieces front ++ .reference found :: pieces rest := by
  fun_induction pieces front with
  | case1 => exact pieces_of_reference formed rest
  | case2 c tail earlier behind matched ih =>
    obtain ⟨formed', same⟩ := reference?_eq_some_iff.1 matched
    rw [same, List.append_assoc, pieces_of_reference formed', ih, List.cons_append]
  | case3 c tail unmatched ih =>
    have none : reference? (c :: (tail ++ (found.source ++ rest))) = none := by
      rw [reference?_eq_none_iff] at unmatched ⊢
      rintro other formed' ⟨behind, same⟩
      -- It would have to reach into the other one and so have its dollar sign inside.
      rw [← List.cons_append, List.append_eq_append_iff] at same
      rcases same with ⟨more, longer, _⟩ | ⟨more, longer, inside⟩
      · exact unmatched other formed' ⟨more, longer.symm⟩
      · cases more with
        | nil => exact unmatched other formed' ⟨[], by simpa using longer⟩
        | cons d more =>
          have dollar : '$' = d := (List.cons.inj inside).1
          apply formed'.dollar_not_mem
          rw [longer, dollar]
          simp
    rw [List.cons_append, pieces_of_literal none, ih, List.cons_append]

theorem reference_mem_pieces_iff {cs : List Char} {found : Reference} :
    .reference found ∈ pieces cs ↔ found.WellFormed ∧ found.source <:+: cs := by
  constructor
  · intro member
    refine ⟨wellFormed_of_mem_pieces member, ?_⟩
    obtain ⟨front, back, split⟩ := List.append_of_mem member
    have whole := pieces_source cs
    rw [split, List.flatMap_append, List.flatMap_cons] at whole
    exact ⟨_, _, (List.append_assoc _ _ _).trans whole⟩
  · rintro ⟨formed, front, rest, rfl⟩
    rw [List.append_assoc, pieces_append_reference front formed]
    exact List.mem_append_right _ List.mem_cons_self

end CiPipeline.Matrix
