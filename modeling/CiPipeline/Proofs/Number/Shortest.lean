import CiPipeline.Proofs.Number.Rounding
import CiPipeline.Proofs.Number.Writing
import Mathlib.Algebra.Order.Field.Power

/-! The shortest digits of a double read back as the double. Seventeen digits always do, since a unit of the
seventeenth digit is less than half the distance to the next double, and none are taken that do not. -/
namespace CiPipeline.Number

theorem natOfDigits_append (front back : List Nat) :
    natOfDigits (front ++ back) = natOfDigits front * 10 ^ back.length + natOfDigits back := by
  induction back using List.reverseRecOn with
  | nil => simp [natOfDigits]
  | append_singleton back digit ih =>
    have last (digits : List Nat) : natOfDigits (digits ++ [digit]) = natOfDigits digits * 10 + digit := by
      rw [natOfDigits, List.foldl_append]
      rfl
    rw [← List.append_assoc, last, ih, last, List.length_append, List.length_singleton, pow_succ]
    ring

theorem natOfDigits_zeros (count : Nat) : natOfDigits (List.replicate count 0) = 0 := by
  induction count with
  | zero => rfl
  | succ count ih =>
    rw [List.replicate_succ', natOfDigits_append, ih]
    rfl

theorem natOfDigits_zeros_append (count : Nat) (digits : List Nat) :
    natOfDigits (List.replicate count 0 ++ digits) = natOfDigits digits := by
  rw [natOfDigits_append, natOfDigits_zeros, Nat.zero_mul, Nat.zero_add]

theorem natOfDigits_append_zeros (digits : List Nat) (count : Nat) :
    natOfDigits (digits ++ List.replicate count 0) = natOfDigits digits * 10 ^ count := by
  rw [natOfDigits_append, natOfDigits_zeros, Nat.add_zero, List.length_replicate]

theorem exists_cons_digitsBefore {bound n : Nat} (enough : n ≤ bound) (filled : n ≠ 0) (digits : List Nat) :
    ∃ first rest, digitsBefore bound n digits = first :: rest ∧ first ≠ 0 := by
  induction bound generalizing n digits with
  | zero => exact absurd (Nat.le_zero.1 enough) filled
  | succ bound ih =>
    rw [digitsBefore, if_neg filled]
    by_cases last : n / 10 = 0
    · have ended : digitsBefore bound (n / 10) (n % 10 :: digits) = n % 10 :: digits := by
        rw [last]
        cases bound <;> simp [digitsBefore]
      exact ⟨n % 10, digits, ended, by omega⟩
    · exact ih (by omega) last _

theorem exists_cons_digitsOf {n : Nat} (filled : n ≠ 0) : ∃ first rest, digitsOf n = first :: rest ∧ first ≠ 0 :=
  exists_cons_digitsBefore (Nat.le_refl n) filled []

theorem lt_ten_of_mem_digitsOf {n : Nat} : ∀ digit ∈ digitsOf n, digit < 10 :=
  lt_ten_of_mem_digitsBefore fun _ member => absurd member List.not_mem_nil

theorem exists_zeros (digits : List Nat) :
    ∃ count, digits = dropTrailingZeros digits ++ List.replicate count 0 := by
  have zeros : digits.reverse.takeWhile (· == 0) =
      List.replicate (digits.reverse.takeWhile (· == 0)).length 0 :=
    List.eq_replicate_iff.2 ⟨rfl, fun digit member => beq_iff_eq.1 (List.mem_takeWhile_imp (p := (· == 0)) member)⟩
  refine ⟨(digits.reverse.takeWhile (· == 0)).length, ?_⟩
  have whole := congrArg List.reverse (List.takeWhile_append_dropWhile (p := (· == 0)) (l := digits.reverse))
  rw [List.reverse_append, List.reverse_reverse, zeros, List.reverse_replicate] at whole
  exact whole.symm

namespace Decimal

/-- The number that a decimal stands for. -/
def value (decimal : Decimal) : ℚ := natOfDigits decimal.digits * 10 ^ (decimal.point - decimal.digits.length)

structure WellFormed (decimal : Decimal) : Prop where
  first : ∃ first rest, decimal.digits = first :: rest ∧ first ≠ 0
  small : ∀ digit ∈ decimal.digits, digit < 10

end Decimal

def decimalOf (units : Nat) (power : Int) : Decimal :=
  ⟨dropTrailingZeros (digitsOf units), power + (digitsOf units).length⟩

theorem value_decimalOf (units : Nat) (power : Int) : (decimalOf units power).value = units * 10 ^ power := by
  obtain ⟨count, split⟩ := exists_zeros (digitsOf units)
  have number : natOfDigits (dropTrailingZeros (digitsOf units)) * 10 ^ count = units := by
    rw [← natOfDigits_append_zeros, ← split, natOfDigits_digitsOf]
  have length := congrArg List.length split
  rw [List.length_append, List.length_replicate] at length
  rw [Decimal.value, decimalOf]
  dsimp only
  have shift : power + ((digitsOf units).length : Int) - (dropTrailingZeros (digitsOf units)).length =
      count + power := by omega
  rw [shift, zpow_add₀ (by norm_num), zpow_natCast, ← mul_assoc]
  norm_cast
  rw [number]

theorem wellFormed_decimalOf {units : Nat} (filled : units ≠ 0) (power : Int) :
    (decimalOf units power).WellFormed := by
  obtain ⟨count, split⟩ := exists_zeros (digitsOf units)
  obtain ⟨first, rest, digits, nonzero⟩ := exists_cons_digitsOf filled
  constructor
  case first =>
    rw [decimalOf]
    cases kept : dropTrailingZeros (digitsOf units) with
    | nil =>
      rw [kept, List.nil_append] at split
      have member : first ∈ List.replicate count 0 := by
        rw [← split, digits]
        exact List.mem_cons_self
      exact absurd (List.eq_of_mem_replicate member) nonzero
    | cons other others =>
      rw [kept, digits, List.cons_append] at split
      exact ⟨other, others, rfl, (List.cons.inj split).1 ▸ nonzero⟩
  case small =>
    intro digit member
    have there : digit ∈ digitsOf units := by
      rw [split]
      exact List.mem_append_left _ member
    exact lt_ten_of_mem_digitsOf digit there

theorem ten_zpow_le_two_zpow {k j : Int} (large : 196 * k ≤ 59 * j) (small : 93 * k ≤ 28 * j) :
    (10 : ℚ) ^ k ≤ 2 ^ j := by
  rcases Int.le_total 0 k with natural | negative
  · have base : (10 : ℚ) ^ 59 ≤ 2 ^ 196 := by norm_num
    obtain ⟨n, rfl⟩ := Int.eq_ofNat_of_zero_le natural
    refine (pow_le_pow_iff_left₀ (by positivity) (by positivity) (by decide : 59 ≠ 0)).1 ?_
    calc ((10 : ℚ) ^ (n : Int)) ^ 59 = ((10 : ℚ) ^ 59) ^ n := by rw [zpow_natCast, ← pow_mul, ← pow_mul, Nat.mul_comm]
      _ ≤ (2 ^ 196) ^ n := pow_le_pow_left₀ (by positivity) base n
      _ = 2 ^ (196 * (n : Int)) := by rw [← pow_mul, ← zpow_natCast]; norm_cast
      _ ≤ 2 ^ (j * 59) := zpow_le_zpow_right₀ one_le_two (by omega)
      _ = ((2 : ℚ) ^ j) ^ 59 := by rw [zpow_mul]; norm_cast
  · have base : (2 : ℚ) ^ 93 ≤ 10 ^ 28 := by norm_num
    obtain ⟨n, rfl⟩ := Int.exists_eq_neg_ofNat negative
    refine (pow_le_pow_iff_left₀ (by positivity) (by positivity) (by decide : 28 ≠ 0)).1 ?_
    calc ((10 : ℚ) ^ (-(n : Int))) ^ 28 = (((10 : ℚ) ^ 28) ^ n)⁻¹ := by
          rw [zpow_neg, zpow_natCast, inv_pow, ← pow_mul, ← pow_mul, Nat.mul_comm]
      _ ≤ ((2 ^ 93) ^ n)⁻¹ := inv_anti₀ (by positivity) (pow_le_pow_left₀ (by positivity) base n)
      _ = 2 ^ (-(93 * (n : Int))) := by rw [zpow_neg, ← pow_mul, ← zpow_natCast]; norm_cast
      _ ≤ 2 ^ (j * 28) := zpow_le_zpow_right₀ one_le_two (by omega)
      _ = ((2 : ℚ) ^ j) ^ 28 := by rw [zpow_mul]; norm_cast

section

variable {num den : Nat} (above : 0 < num) (positive : 0 < den)
include positive

theorem tenthsDown_lt_iff (power : Int) :
    (tenthsDown num den power).1 < (tenthsDown num den power).2 ↔ (num : ℚ) / den < 10 ^ power := by
  have filled := Nat.cast_pos (α := ℚ).2 (tenthsDown_pos num positive power)
  rw [← div_lt_one (zpow_pos (by norm_num : (0 : ℚ) < 10) power), ← tenthsDown_eq, div_lt_one filled, Nat.cast_lt]

include above

/-- A quotient is not less than the power of ten before its decimal point, unless it is too large or too small by
far. -/
theorem ten_zpow_decimalPoint_le (low : -10000 ≤ (num.log2 : Int) - den.log2)
    (high : (num.log2 : Int) - den.log2 ≤ 10000) : (10 : ℚ) ^ (decimalPoint num den - 1) ≤ num / den := by
  have early : (10 : ℚ) ^ ((((num.log2 : Int) - den.log2) * 30103).fdiv 100000 - 1) ≤ num / den := by
    rw [Int.fdiv_eq_ediv_of_nonneg _ (by decide)]
    exact (ten_zpow_le_two_zpow (by omega) (by omega)).trans (Binary64.log2_bounds above positive).1.le
  have later {power : Int} (reached : ¬(tenthsDown num den power).1 < (tenthsDown num den power).2) :
      (10 : ℚ) ^ power ≤ num / den := le_of_not_gt ((tenthsDown_lt_iff positive power).not.1 reached)
  rw [decimalPoint]
  simp only [decide_eq_true_eq]
  split
  · rename_i exceeds
    exact absurd ((tenthsDown_lt_iff positive _).1 exceeds) (not_lt.2 early)
  · split
    · exact early
    · split
      · rename_i reached _
        rw [add_sub_cancel_right]
        exact later reached
      · rename_i reached
        have before (guess : Int) : guess + 2 - 1 = guess + 1 := by ring
        rw [before]
        exact later reached

end

namespace Binary64

theorem exists_ofUnits (units : Nat) (power : Int) : ∃ num den : Nat, 0 < den ∧
    (num : ℚ) / den = units * 10 ^ power ∧ ofUnits units power = ofRatio false num den := by
  cases power with
  | ofNat p =>
    refine ⟨_, 1, Nat.one_pos, ?_, rfl⟩
    rw [Nat.pow_eq, Nat.cast_mul, Nat.cast_pow, Nat.cast_one, div_one, Int.ofNat_eq_natCast, zpow_natCast]
    rfl
  | negSucc p =>
    refine ⟨units, _, Nat.pow_pos (by decide), ?_, rfl⟩
    rw [Nat.cast_pow, zpow_negSucc, div_eq_mul_inv]
    rfl

theorem ofUnits_congr {units units' : Nat} {power power' : Int}
    (same : (units : ℚ) * 10 ^ power = units' * 10 ^ power') : ofUnits units power = ofUnits units' power' := by
  obtain ⟨num, den, positive, value, read⟩ := exists_ofUnits units power
  obtain ⟨num', den', positive', value', read'⟩ := exists_ofUnits units' power'
  rw [read, read']
  exact ofRatio_congr false positive positive' (by rw [value, value', same])

section

variable {m : Nat} {e : Int} (formed : (finite false m e).WellFormed)
include formed

theorem ofUnits_of_near {units : Nat} (filled : units ≠ 0) {power : Int} (near : Near m e (units * 10 ^ power)) :
    ofUnits units power = finite false m e := by
  obtain ⟨num, den, positive, value, read⟩ := exists_ofUnits units power
  have above : 0 < num := by
    refine Nat.pos_of_ne_zero fun none => ?_
    rw [none, Nat.cast_zero, zero_div, eq_comm, mul_eq_zero] at value
    exact value.elim (fun zero => filled (by exact_mod_cast zero)) (zpow_ne_zero _ (by norm_num))
  rw [read]
  exact ofRatio_of_near above positive formed (value ▸ near)

/-- The nearest decimal with seventeen digits is near to the double: a unit of the last digit is at most the part of
the number that one is of 10 ^ 16. -/
theorem near_of_seventeen {point : Int} (least : (10 : ℚ) ^ (point - 1) ≤ m * 2 ^ e) {units : Nat}
    (nearest : |(units : ℚ) - m * 2 ^ e / 10 ^ (point - 17)| ≤ 1 / 2) :
    Near m e (units * 10 ^ (point - 17)) := by
  obtain ⟨_, _, short, _⟩ := formed
  have unit : (0 : ℚ) < 2 ^ e := zpow_pos two_pos e
  have place : (0 : ℚ) < 10 ^ (point - 17) := zpow_pos (by norm_num) _
  have digits : (10 : ℚ) ^ (point - 17) / 2 ^ e * 10 ^ 16 ≤ m := by
    have split : point - 1 = point - 17 + 16 := by ring
    rw [split, zpow_add₀ (by norm_num)] at least
    rw [div_mul_eq_mul_div, div_le_iff₀ unit]
    exact_mod_cast least
  have error : |(m : ℚ) - units * 10 ^ (point - 17) / 2 ^ e| ≤ 10 ^ (point - 17) / 2 ^ e / 2 := by
    have scaled : (m : ℚ) - units * 10 ^ (point - 17) / 2 ^ e =
        -((units - m * 2 ^ e / 10 ^ (point - 17)) * (10 ^ (point - 17) / 2 ^ e)) := by
      field_simp
      ring
    rw [scaled, abs_neg, abs_mul, abs_of_pos (div_pos place unit)]
    linarith [mul_le_mul_of_nonneg_right nearest (div_pos place unit).le]
  have short : (m : ℚ) < 2 ^ 53 := by exact_mod_cast short
  refine ⟨by linarith, fun edge _ => ?_⟩
  have edge : (m : ℚ) = 2 ^ 52 := by exact_mod_cast edge
  have := (abs_le.1 error).2
  linarith

end

theorem reads_of_first (reads : Nat → Bool) {first second units : Nat}
    (found : (if reads first then some first else if reads second then some second else none) = some units) :
    reads units = true := by
  split at found
  · rename_i here
    exact Option.some.inj found ▸ here
  · split at found
    · rename_i here
      exact Option.some.inj found ▸ here
    · cases found

theorem exists_of_nearestOnGrid? {value : Binary64} {num den : Nat} {point : Int} {count : Nat}
    {decimal : Decimal} (found : nearestOnGrid? value num den point count = some decimal) :
    ∃ units power, ofUnits units power = value ∧ decimalOf units power = decimal := by
  obtain ⟨units, taken, same⟩ := Option.map_eq_some_iff.1 found
  have reads : (ofUnits units (point - count) == value) = true :=
    reads_of_first (fun units => ofUnits units (point - count) == value) taken
  exact ⟨units, point - count, beq_iff_eq.1 reads, same⟩

section

variable {m : Nat} {e : Int} (formed : (finite false m e).WellFormed) (filled : m ≠ 0)

include filled in
theorem ratio_ne_zero : 0 < (ratio m e).1 := by
  cases e with
  | ofNat e => exact Nat.mul_pos (Nat.pos_of_ne_zero filled) (Nat.pow_pos (by decide))
  | negSucc e => exact Nat.pos_of_ne_zero filled

include formed filled

theorem log2_ratio_bounds : -10000 ≤ ((ratio m e).1.log2 : Int) - (ratio m e).2.log2 ∧
    ((ratio m e).1.log2 : Int) - (ratio m e).2.log2 ≤ 10000 := by
  obtain ⟨least, greatest, short, _⟩ := formed
  rw [leastExponent] at least
  rw [greatestExponent] at greatest
  obtain ⟨low, high⟩ := log2_bounds (ratio_ne_zero filled) (ratio_pos m e)
  rw [ratio_eq] at low high
  have unit : (0 : ℚ) < 2 ^ e := zpow_pos two_pos e
  have above : (2 : ℚ) ^ e ≤ m * 2 ^ e :=
    le_mul_of_one_le_left unit.le (by exact_mod_cast Nat.one_le_iff_ne_zero.2 filled)
  have below : (m : ℚ) * 2 ^ e < 2 ^ (53 + e) := by
    have short : (m : ℚ) < 2 ^ (53 : Int) := by exact_mod_cast short
    rw [zpow_add₀ two_ne_zero]
    exact mul_lt_mul_of_pos_right short unit
  have first := (zpow_lt_zpow_iff_right₀ one_lt_two).1 (above.trans_lt high)
  have second := (zpow_lt_zpow_iff_right₀ one_lt_two).1 (low.trans below)
  omega

/-- Seventeen digits are enough. -/
theorem isSome_nearestOnGrid? : (nearestOnGrid? (finite false m e) (ratio m e).1 (ratio m e).2
    (decimalPoint (ratio m e).1 (ratio m e).2) 17).isSome = true := by
  obtain ⟨low, high⟩ := log2_ratio_bounds formed filled
  have least := ten_zpow_decimalPoint_le (ratio_ne_zero filled) (ratio_pos m e) low high
  generalize decimalPoint (ratio m e).1 (ratio m e).2 = point at least ⊢
  have nearest := abs_roundHalfEven_sub_le (tenthsDown (ratio m e).1 (ratio m e).2 (point - 17)).1
    (tenthsDown_pos (ratio m e).1 (ratio_pos m e) (point - 17))
  rw [tenthsDown_eq, ratio_eq] at nearest
  rw [ratio_eq] at least
  have units : roundHalfEven (tenthsDown (ratio m e).1 (ratio m e).2 (point - 17)).1
      (tenthsDown (ratio m e).1 (ratio m e).2 (point - 17)).2 ≠ 0 := by
    intro none
    have digits : (10 : ℚ) ^ 16 ≤ m * 2 ^ e / 10 ^ (point - 17) := by
      have split : point - 1 = 16 + (point - 17) := by ring
      rw [split, zpow_add₀ (by norm_num)] at least
      rw [le_div_iff₀ (zpow_pos (by norm_num) _)]
      exact_mod_cast least
    rw [none, Nat.cast_zero, zero_sub, abs_neg] at nearest
    have := (le_abs_self _).trans nearest
    linarith
  have reads := ofUnits_of_near formed units (near_of_seventeen formed least nearest)
  rw [nearestOnGrid?, Option.isSome_map]
  dsimp only
  rw [if_pos]
  · rfl
  · exact beq_iff_eq.2 reads

theorem exists_shortest : ∃ units power, units ≠ 0 ∧ ofUnits units power = finite false m e ∧
    shortest m e = decimalOf units power := by
  rw [shortest]
  cases found : ((List.range 17).map (· + 1)).findSome? (nearestOnGrid? (finite false m e) (ratio m e).1
      (ratio m e).2 (decimalPoint (ratio m e).1 (ratio m e).2)) with
  | none =>
    have last := List.findSome?_eq_none_iff.1 found 17 (by decide)
    have some := isSome_nearestOnGrid? formed filled
    rw [last] at some
    cases some
  | some decimal =>
    obtain ⟨count, _, taken⟩ := List.exists_of_findSome?_eq_some found
    obtain ⟨units, power, reads, same⟩ := exists_of_nearestOnGrid? taken
    refine ⟨units, power, ?_, reads, same.symm⟩
    rintro rfl
    have zero : ofUnits 0 power = finite false 0 leastExponent := by
      cases power <;> simp [ofUnits, ofRatio]
    rw [zero] at reads
    exact filled (finite.inj reads).2.1.symm

end

end Binary64

end CiPipeline.Number
