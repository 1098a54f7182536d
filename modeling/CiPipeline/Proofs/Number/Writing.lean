import CiPipeline.Number.Reading
import CiPipeline.Proofs.Matrix.Reference

/-! Whole numbers that are written out are read back from their digits. Two of them are never written alike, and
one that stands in front of a blank in a text can be told from the text alone. -/
namespace CiPipeline.Number

theorem foldl_digitsBefore {bound n : Nat} (enough : n ≤ bound) (digits : List Nat) :
    (digitsBefore bound n digits).foldl (fun value digit => value * 10 + digit) 0 =
      digits.foldl (fun value digit => value * 10 + digit) n := by
  induction bound generalizing n digits with
  | zero =>
    obtain rfl := Nat.le_zero.1 enough
    rfl
  | succ bound ih =>
    rw [digitsBefore]
    split
    · rename_i none
      rw [none]
    · have shorter : n / 10 ≤ bound := by omega
      rw [ih shorter, List.foldl_cons, Nat.div_add_mod']

theorem natOfDigits_digitsOf (n : Nat) : natOfDigits (digitsOf n) = n :=
  foldl_digitsBefore (Nat.le_refl n) []

theorem lt_ten_of_mem_digitsBefore {bound n : Nat} {digits : List Nat}
    (small : ∀ digit ∈ digits, digit < 10) : ∀ digit ∈ digitsBefore bound n digits, digit < 10 := by
  induction bound generalizing n digits with
  | zero => exact small
  | succ bound ih =>
    rw [digitsBefore]
    split
    · exact small
    · exact ih (List.forall_mem_cons.2 ⟨Nat.mod_lt n (by decide), small⟩)

theorem toNat_digitChar {digit : Nat} (small : digit < 10) :
    (digitChar digit).toNat - '0'.toNat = digit := by
  have all : ∀ digit < 10, (digitChar digit).toNat - '0'.toNat = digit := by decide
  exact all digit small

theorem isDigitChar_digitChar (digit : Nat) : isDigitChar (digitChar digit) = true := by
  have all : ∀ digit < 10, isDigitChar (digitChar digit) = true := by decide
  rw [digitChar, ← Nat.mod_mod]
  exact all _ (Nat.mod_lt digit (by decide))

theorem digitsOfChars_writeDigits {digits : List Nat} (small : ∀ digit ∈ digits, digit < 10) :
    digitsOfChars (writeDigits digits) = digits := by
  rw [digitsOfChars, writeDigits, List.map_map]
  exact (List.map_congr_left fun digit member => toNat_digitChar (small digit member)).trans (List.map_id' _)

theorem natOfDigits_writeNat (n : Nat) : natOfDigits (digitsOfChars (writeNat n)) = n := by
  rw [writeNat]
  split
  · rename_i none
    rw [none]
    decide
  · have small : ∀ digit ∈ digitsOf n, digit < 10 := lt_ten_of_mem_digitsBefore (by simp)
    rw [digitsOfChars_writeDigits small, natOfDigits_digitsOf]

theorem isDigitChar_writeNat (n : Nat) : ∀ c ∈ writeNat n, isDigitChar c = true := by
  rw [writeNat]
  split
  · exact List.forall_mem_singleton.2 (by decide)
  · rw [writeDigits, List.forall_mem_map]
    exact fun digit _ => isDigitChar_digitChar digit

theorem writeNat_blank_inj {n m : Nat} {rest rest' : List Char}
    (same : writeNat n ++ ' ' :: rest = writeNat m ++ ' ' :: rest') : n = m ∧ rest = rest' := by
  have split (n : Nat) (rest : List Char) :=
    Matrix.takeWhile_run (isDigitChar_writeNat n) (' ' :: rest) (by simp [isDigitChar, Text.isAsciiDigit])
  have written : writeNat n = writeNat m := by
    rw [← (split n rest).1, same, (split m rest').1]
  refine ⟨?_, ?_⟩
  · rw [← natOfDigits_writeNat n, written, natOfDigits_writeNat]
  · rw [written] at same
    exact (List.cons.inj (List.append_cancel_left same)).2

end CiPipeline.Number
