import CiPipeline.Text.Blank
import CiPipeline.Text.Lines
import Mathlib.Data.List.TakeWhile

/-! What trimming leaves of a text. It starts with a character that is not blank; and since every line
boundary is blank, the first line of what is left is never empty. -/
namespace CiPipeline.Text

theorem isBlank_of_isLineBoundary {c : Char} (boundary : isLineBoundary c = true) :
    isBlank c = true := by
  simp only [isLineBoundary, Bool.or_eq_true, Bool.and_eq_true, decide_eq_true_eq, beq_iff_eq] at boundary
  simp only [isBlank, isWhiteSpace, Bool.or_eq_true, Bool.and_eq_true, decide_eq_true_eq, beq_iff_eq]
  omega

theorem isBlankText_eq_false_iff {text : String} :
    isBlankText text = false ↔ ∃ c ∈ text.toList, isBlank c = false :=
  List.all_eq_false.trans (by simp only [Bool.not_eq_true])

theorem trimChars_eq_cons {blank : Char → Bool} {cs : List Char} (filled : ∃ c ∈ cs, blank c = false) :
    ∃ first rest, trimChars blank cs = first :: rest ∧ blank first = false := by
  obtain ⟨c, member, dark⟩ := filled
  have some_left : cs.dropWhile blank ≠ [] := by
    intro none
    rw [List.dropWhile_eq_nil_iff] at none
    rw [none c member] at dark
    cases dark
  obtain ⟨first, rest, left⟩ := List.exists_cons_of_ne_nil some_left
  have kept : blank first = false := by
    have head := List.head_dropWhile_not blank (l := cs) some_left
    simpa only [left, List.head_cons] using head
  refine ⟨first, (rest.reverse.dropWhile blank).reverse, ?_, kept⟩
  rw [trimChars, left, List.reverse_cons, List.dropWhile_append]
  split
  · rename_i gone
    rw [List.isEmpty_iff.1 gone, List.dropWhile_cons_of_neg (by rw [kept]; decide)]
    rfl
  · rw [List.reverse_append]
    rfl

theorem trim_ne_empty {text : String} (filled : isBlankText text = false) : trim text ≠ "" := by
  obtain ⟨first, rest, left, _⟩ := trimChars_eq_cons (isBlankText_eq_false_iff.1 filled)
  rw [trim, trimWith, left, Ne, String.ofList_eq_empty_iff]
  exact List.cons_ne_nil first rest

theorem firstLine_trim_ne_empty {text : String} (filled : isBlankText text = false) :
    firstLine (trim text) ≠ "" := by
  obtain ⟨first, rest, left, dark⟩ := trimChars_eq_cons (isBlankText_eq_false_iff.1 filled)
  have inside : isLineBoundary first = false := by
    refine Bool.eq_false_iff.2 fun boundary => ?_
    rw [isBlank_of_isLineBoundary boundary] at dark
    cases dark
  have starts : (firstLine (trim text)).toList =
      first :: rest.takeWhile fun c => !isLineBoundary c := by
    rw [firstLine, String.toList_ofList, trim, trimWith, String.toList_ofList, left,
      List.takeWhile_cons_of_pos (by rw [inside]; rfl)]
  intro empty
  rw [empty] at starts
  cases starts

end CiPipeline.Text
