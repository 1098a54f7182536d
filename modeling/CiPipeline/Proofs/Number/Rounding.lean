import CiPipeline.Number.Shortest
import Mathlib.Algebra.Order.Floor.Semifield
import Mathlib.Data.Int.Log
import Mathlib.Data.Rat.Floor
import Mathlib.Tactic.FieldSimp
import Mathlib.Tactic.Linarith
import Mathlib.Tactic.Positivity
import Mathlib.Tactic.Ring

/-! Rounding to doubles, seen in rational numbers. A quotient is rounded by its value alone, and every quotient that
is nearer to a double than half the way to its neighbours is rounded to this double. -/
namespace CiPipeline.Number

section

variable (num : Nat) {den : Nat} (positive : 0 < den)

theorem div_scale_down (num den base e : Nat) :
    (num : ℚ) / (den * Nat.pow base e : Nat) = num / den / base ^ (Int.ofNat e) := by
  rw [Nat.pow_eq, Nat.cast_mul, Nat.cast_pow, Int.ofNat_eq_natCast, zpow_natCast, div_div]

theorem div_scale_up (num den base e : Nat) :
    ((num * Nat.pow base (e + 1) : Nat) : ℚ) / den = num / den / base ^ (Int.negSucc e) := by
  rw [Nat.pow_eq, Nat.cast_mul, Nat.cast_pow, zpow_negSucc, div_inv_eq_mul, div_mul_eq_mul_div]

theorem tenthsDown_eq (num den : Nat) (power : Int) :
    ((tenthsDown num den power).1 : ℚ) / (tenthsDown num den power).2 = num / den / 10 ^ power := by
  cases power with
  | ofNat p => exact div_scale_down num den 10 p
  | negSucc p => exact div_scale_up num den 10 p

include positive

theorem tenthsDown_pos (power : Int) : 0 < (tenthsDown num den power).2 := by
  cases power with
  | ofNat p => exact Nat.mul_pos positive (Nat.pow_pos (by decide))
  | negSucc p => exact positive

theorem div_eq_add_remainder : (num : ℚ) / den = (num / den : Nat) + (num % den : Nat) / (den : ℚ) := by
  have filled : (den : ℚ) ≠ 0 := Nat.cast_ne_zero.2 positive.ne'
  have whole : (num : ℚ) = den * (num / den : Nat) + (num % den : Nat) := by
    exact_mod_cast (Nat.div_add_mod num den).symm
  rw [whole, add_div, mul_div_cancel_left₀ _ filled]

theorem abs_roundHalfEven_sub_le : |(roundHalfEven num den : ℚ) - num / den| ≤ 1 / 2 := by
  have above : (0 : ℚ) < den := Nat.cast_pos.2 positive
  have rest : ((num % den : Nat) : ℚ) / den < 1 :=
    (div_lt_one above).2 (Nat.cast_lt.2 (Nat.mod_lt num positive))
  have none : (0 : ℚ) ≤ ((num % den : Nat) : ℚ) / den := by positivity
  have low (small : 2 * (num % den) ≤ den) : ((num % den : Nat) : ℚ) / den ≤ 1 / 2 := by
    have small : (2 : ℚ) * (num % den : Nat) ≤ den := by exact_mod_cast small
    rw [div_le_iff₀ above]
    linarith
  have high (large : den ≤ 2 * (num % den)) : (1 / 2 : ℚ) ≤ ((num % den : Nat) : ℚ) / den := by
    have large : (den : ℚ) ≤ 2 * (num % den : Nat) := by exact_mod_cast large
    rw [le_div_iff₀ above]
    linarith
  rw [div_eq_add_remainder num positive, abs_le, roundHalfEven]
  split
  · rename_i small
    have := low small.le
    constructor <;> linarith
  · rename_i not_small
    have := high (Nat.le_of_not_lt not_small)
    split
    · push_cast
      constructor <;> linarith
    · rename_i not_large
      have := low (Nat.le_of_not_lt not_large)
      split <;> push_cast <;> constructor <;> linarith

variable {num} in
theorem roundHalfEven_eq {m : Nat} (near : |(m : ℚ) - num / den| < 1 / 2) : roundHalfEven num den = m := by
  have apart : |((roundHalfEven num den : Int) - (m : Int) : ℚ)| < 1 := by
    have error := abs_roundHalfEven_sub_le num positive
    rw [abs_le] at error
    rw [abs_lt] at near ⊢
    push_cast
    constructor <;> linarith
  have same : |((roundHalfEven num den : Int) - (m : Int))| < 1 := by exact_mod_cast apart
  have zero := Int.abs_lt_one_iff.1 same
  omega

end

theorem roundHalfEven_mul (num den : Nat) {k : Nat} (positive : 0 < k) :
    roundHalfEven (num * k) (den * k) = roundHalfEven num den := by
  have scaled : 2 * (num % den * k) = 2 * (num % den) * k := (Nat.mul_assoc ..).symm
  rw [roundHalfEven, roundHalfEven, Nat.mul_div_mul_right num den positive, Nat.mul_mod_mul_right, scaled]
  simp only [Nat.mul_lt_mul_right positive]

theorem roundHalfEven_congr {num den num' den' : Nat} (positive : 0 < den) (positive' : 0 < den')
    (same : (num : ℚ) / den = num' / den') : roundHalfEven num den = roundHalfEven num' den' := by
  have filled : (den : ℚ) ≠ 0 := Nat.cast_ne_zero.2 positive.ne'
  have filled' : (den' : ℚ) ≠ 0 := Nat.cast_ne_zero.2 positive'.ne'
  have crossed : num * den' = num' * den := by exact_mod_cast (div_eq_div_iff filled filled').1 same
  rw [← roundHalfEven_mul num den positive', crossed, Nat.mul_comm den, roundHalfEven_mul num' den' positive]

namespace Binary64

theorem scaleDown_eq (num den : Nat) (e : Int) :
    ((scaleDown num den e).1 : ℚ) / (scaleDown num den e).2 = num / den / 2 ^ e := by
  cases e with
  | ofNat e => exact div_scale_down num den 2 e
  | negSucc e => exact div_scale_up num den 2 e

theorem scaleDown_pos (num : Nat) {den : Nat} (positive : 0 < den) (e : Int) : 0 < (scaleDown num den e).2 := by
  cases e with
  | ofNat e => exact Nat.mul_pos positive (Nat.pow_pos (by decide))
  | negSucc e => exact positive

theorem ratio_eq (m : Nat) (e : Int) : ((ratio m e).1 : ℚ) / (ratio m e).2 = m * 2 ^ e := by
  cases e with
  | ofNat e =>
    rw [ratio, Nat.pow_eq, Nat.cast_mul, Nat.cast_pow, Nat.cast_one, div_one, Int.ofNat_eq_natCast, zpow_natCast]
    rfl
  | negSucc e =>
    rw [ratio, Nat.pow_eq, Nat.cast_pow, zpow_negSucc, div_eq_mul_inv]
    rfl

theorem ratio_pos (m : Nat) (e : Int) : 0 < (ratio m e).2 := by
  cases e with
  | ofNat e => exact Nat.one_pos
  | negSucc e => exact Nat.pow_pos (by decide)

theorem log_eq {y : ℚ} {e : Int} (positive : 0 < y) (least : 2 ^ e ≤ y) (greatest : y < 2 ^ (e + 1)) :
    Int.log 2 y = e := by
  have low := (Int.zpow_le_iff_le_log (b := 2) (by decide) positive).1 least
  have high := (Int.lt_zpow_iff_log_lt (b := 2) (by decide) positive).1 greatest
  omega

section

variable {num den : Nat} (above : 0 < num) (positive : 0 < den)
include above positive

theorem quotient_pos : (0 : ℚ) < (num : ℚ) / den :=
  div_pos (Nat.cast_pos.2 above) (Nat.cast_pos.2 positive)

theorem log2_bounds : (2 : ℚ) ^ ((num.log2 : Int) - den.log2 - 1) < num / den ∧
    (num : ℚ) / den < 2 ^ ((num.log2 : Int) - den.log2 + 1) := by
  have num_low : (2 : ℚ) ^ num.log2 ≤ num := by exact_mod_cast Nat.log2_self_le above.ne'
  have num_high : (num : ℚ) < 2 ^ (num.log2 + 1) := by exact_mod_cast Nat.lt_log2_self
  have den_low : (2 : ℚ) ^ den.log2 ≤ den := by exact_mod_cast Nat.log2_self_le positive.ne'
  have den_high : (den : ℚ) < 2 ^ (den.log2 + 1) := by exact_mod_cast Nat.lt_log2_self
  have filled : (0 : ℚ) < den := Nat.cast_pos.2 positive
  constructor
  · have exponent : ((num.log2 : Int) - den.log2 - 1) = num.log2 - (den.log2 + 1 : Nat) := by push_cast; ring
    rw [exponent, zpow_sub₀ two_ne_zero, zpow_natCast, zpow_natCast]
    exact div_lt_div₀' num_low den_high (by positivity) filled
  · have exponent : ((num.log2 : Int) - den.log2 + 1) = (num.log2 + 1 : Nat) - den.log2 := by push_cast; ring
    rw [exponent, zpow_sub₀ two_ne_zero, zpow_natCast, zpow_natCast]
    exact div_lt_div₀ num_high den_low (by positivity) (by positivity)

omit above in
variable (num) in
theorem scaleDown_lt_iff (e : Int) :
    (scaleDown num den e).1 < Nat.pow 2 52 * (scaleDown num den e).2 ↔ (num : ℚ) / den < 2 ^ (e + 52) := by
  have filled := Nat.cast_pos (α := ℚ).2 (scaleDown_pos num positive e)
  rw [zpow_add₀ two_ne_zero, mul_comm ((2 : ℚ) ^ e), ← div_lt_iff₀ (zpow_pos two_pos e), ← scaleDown_eq,
    div_lt_iff₀ filled]
  norm_cast

theorem exponentFor_eq : exponentFor num den = max leastExponent (Int.log 2 ((num : ℚ) / den) - 52) := by
  obtain ⟨low, high⟩ := log2_bounds above positive
  have exponent : (num.log2 : Int) - den.log2 - 52 + 52 = num.log2 - den.log2 := by ring
  have small_iff := scaleDown_lt_iff num positive ((num.log2 : Int) - den.log2 - 52)
  rw [exponent] at small_iff
  rw [exponentFor]
  congr 1
  split
  · rename_i small
    have below : (num : ℚ) / den < 2 ^ ((num.log2 : Int) - den.log2 - 1 + 1) := by
      rw [sub_add_cancel]
      exact small_iff.1 small
    rw [log_eq (quotient_pos above positive) low.le below]
    ring
  · rename_i large
    rw [log_eq (quotient_pos above positive) (le_of_not_gt (small_iff.not.1 large)) high]

end

def WellFormed : Binary64 → Prop
  | nan | infinite _ => True
  | finite _ m e => leastExponent ≤ e ∧ e ≤ greatestExponent ∧ m < 2 ^ 53 ∧ (2 ^ 52 ≤ m ∨ e = leastExponent)

theorem ofRatio_congr (negative : Bool) {num den num' den' : Nat} (positive : 0 < den) (positive' : 0 < den')
    (same : (num : ℚ) / den = num' / den') : ofRatio negative num den = ofRatio negative num' den' := by
  have filled : (den : ℚ) ≠ 0 := Nat.cast_ne_zero.2 positive.ne'
  have filled' : (den' : ℚ) ≠ 0 := Nat.cast_ne_zero.2 positive'.ne'
  by_cases zero : num = 0
  · have zero' : num' = 0 := by
      rw [zero, Nat.cast_zero, zero_div, eq_comm, div_eq_zero_iff, or_iff_left filled'] at same
      exact_mod_cast same
    rw [zero, zero', ofRatio, ofRatio, if_pos rfl, if_pos rfl]
  · have zero' : num' ≠ 0 := by
      rintro rfl
      rw [Nat.cast_zero, zero_div, div_eq_zero_iff, or_iff_left filled] at same
      exact zero (by exact_mod_cast same)
    have exponent : exponentFor num den = exponentFor num' den' := by
      rw [exponentFor_eq (Nat.pos_of_ne_zero zero) positive, exponentFor_eq (Nat.pos_of_ne_zero zero') positive',
        same]
    have significand : roundHalfEven (scaleDown num den (exponentFor num' den')).1
        (scaleDown num den (exponentFor num' den')).2 = roundHalfEven (scaleDown num' den' (exponentFor num' den')).1
          (scaleDown num' den' (exponentFor num' den')).2 :=
      roundHalfEven_congr (scaleDown_pos num positive _) (scaleDown_pos num' positive' _) (by
        rw [scaleDown_eq, scaleDown_eq, same])
    rw [ofRatio, ofRatio, if_neg zero, if_neg zero', exponent]
    dsimp only
    rw [significand]

/-- A quotient near a double: less than half a unit away, and below a double with the least significand less than a
quarter, since the neighbour is half as far there. -/
structure Near (m : Nat) (e : Int) (y : ℚ) : Prop where
  near : |(m : ℚ) - y / 2 ^ e| < 1 / 2
  edge : m = 2 ^ 52 → leastExponent < e → (m : ℚ) - 1 / 4 < y / 2 ^ e

section

variable {negative : Bool} {m : Nat} {e : Int} {num den : Nat} (above : 0 < num) (positive : 0 < den)
include above positive

omit above in
variable (num) in
theorem abs_significand_sub_le (e : Int) :
    |(roundHalfEven (scaleDown num den e).1 (scaleDown num den e).2 : ℚ) - num / den / 2 ^ e| ≤ 1 / 2 := by
  rw [← scaleDown_eq]
  exact abs_roundHalfEven_sub_le _ (scaleDown_pos num positive e)

omit above in
theorem significand_eq (near : |(m : ℚ) - num / den / 2 ^ e| < 1 / 2) :
    roundHalfEven (scaleDown num den e).1 (scaleDown num den e).2 = m := by
  rw [← scaleDown_eq] at near
  exact roundHalfEven_eq (scaleDown_pos num positive e) near

omit positive in
theorem ofRatio_eq {exponent : Int} {significand : Nat} (scaled : exponentFor num den = exponent)
    (rounded : roundHalfEven (scaleDown num den exponent).1 (scaleDown num den exponent).2 = significand) :
    ofRatio negative num den =
      if significand = 2 ^ 53 then
        if greatestExponent < exponent + 1 then infinite negative else finite negative (2 ^ 52) (exponent + 1)
      else if greatestExponent < exponent then infinite negative else finite negative significand exponent := by
  rw [ofRatio, if_neg above.ne', scaled]
  dsimp only
  rw [rounded]
  by_cases carried : significand = 2 ^ 53
  · simp only [Nat.pow_eq, if_pos carried]
  · simp only [Nat.pow_eq, if_neg carried]

theorem ofRatio_of_near (formed : (finite negative m e).WellFormed) (near : Near m e (num / den)) :
    ofRatio negative num den = finite negative m e := by
  obtain ⟨least, greatest, short, long⟩ := formed
  have value := quotient_pos above positive
  have unit : (0 : ℚ) < 2 ^ e := zpow_pos two_pos e
  obtain ⟨low, high⟩ := abs_lt.1 near.near
  have below : (num : ℚ) / den < 2 ^ (53 + e) := by
    have short : (m : ℚ) + 1 ≤ 2 ^ (53 : Int) := by exact_mod_cast short
    rw [zpow_add₀ two_ne_zero, ← div_lt_iff₀ unit]
    linarith
  by_cases inside : e = leastExponent ∨ (2 : ℚ) ^ (52 + e) ≤ num / den
  · -- The quotient has the exponent of the double.
    have scaled : exponentFor num den = e := by
      rw [exponentFor_eq above positive]
      rcases inside with rfl | large
      · have small := (Int.lt_zpow_iff_log_lt (b := 2) (by decide) value).1 below
        exact max_eq_left (by omega)
      · have next : 52 + e + 1 = 53 + e := by ring
        rw [log_eq value large (next ▸ below)]
        exact (max_eq_right (by omega)).trans (by ring)
    rw [ofRatio_eq above scaled (significand_eq positive near.near), if_neg short.ne, if_neg (not_lt.2 greatest)]
  · -- The quotient lies below the least significand, and is rounded up to it from the exponent before.
    obtain ⟨normal, small⟩ := not_or.1 inside
    rw [not_le, zpow_add₀ two_ne_zero, ← div_lt_iff₀ unit] at small
    have least_significand : m = 2 ^ 52 := by
      have most : (m : ℚ) < (2 ^ 52 : Nat) + 1 := by
        push_cast
        linarith
      have most : m < 2 ^ 52 + 1 := by exact_mod_cast most
      omega
    subst least_significand
    have edge := near.edge rfl (by omega)
    push_cast at edge
    have doubled : (num : ℚ) / den / 2 ^ (e - 1) = 2 * (num / den / 2 ^ e) := by
      rw [zpow_sub₀ two_ne_zero, zpow_one, div_div_eq_mul_div, mul_div_assoc, mul_comm]
      ring
    have scaled : exponentFor num den = e - 1 := by
      have large : (2 : ℚ) ^ (51 + e) ≤ num / den := by
        rw [zpow_add₀ two_ne_zero, ← le_div_iff₀ unit]
        linarith
      have next : 51 + e + 1 = 52 + e := by ring
      rw [exponentFor_eq above positive, log_eq value large (by
        rw [next, zpow_add₀ two_ne_zero, ← div_lt_iff₀ unit]
        exact small)]
      exact (max_eq_right (by omega)).trans (by ring)
    have near_next : |((2 ^ 53 : Nat) : ℚ) - num / den / 2 ^ (e - 1)| < 1 / 2 := by
      rw [doubled, abs_lt]
      push_cast
      constructor <;> linarith
    rw [ofRatio_eq above scaled (significand_eq positive near_next), if_pos rfl, sub_add_cancel,
      if_neg (not_lt.2 greatest)]

theorem scaled_bounds : (num : ℚ) / den / 2 ^ exponentFor num den < 2 ^ 53 ∧
    (exponentFor num den = leastExponent ∨ (2 : ℚ) ^ 52 ≤ num / den / 2 ^ exponentFor num den) := by
  have value := quotient_pos above positive
  have most := Int.lt_zpow_succ_log_self (b := 2) (by decide) ((num : ℚ) / den)
  have least := Int.zpow_log_le_self (b := 2) (by decide) value
  have exponent := exponentFor_eq above positive
  push_cast at most least
  constructor
  · have higher : Int.log 2 ((num : ℚ) / den) + 1 ≤ 53 + exponentFor num den := by omega
    rw [div_lt_iff₀ (zpow_pos two_pos _)]
    calc (num : ℚ) / den < 2 ^ (Int.log 2 ((num : ℚ) / den) + 1) := most
      _ ≤ 2 ^ (53 + exponentFor num den) := zpow_le_zpow_right₀ one_le_two higher
      _ = 2 ^ 53 * 2 ^ exponentFor num den := zpow_add₀ two_ne_zero _ _
  · refine or_iff_not_imp_left.2 fun normal => ?_
    have same : Int.log 2 ((num : ℚ) / den) = 52 + exponentFor num den := by omega
    rw [le_div_iff₀ (zpow_pos two_pos _)]
    calc (2 : ℚ) ^ 52 * 2 ^ exponentFor num den = 2 ^ (52 + exponentFor num den) :=
          (zpow_add₀ two_ne_zero _ _).symm
      _ ≤ num / den := same ▸ least

end

theorem wellFormed_ofRatio (negative : Bool) {num den : Nat} (positive : 0 < den) :
    (ofRatio negative num den).WellFormed := by
  rcases Nat.eq_zero_or_pos num with rfl | above
  · exact ⟨le_refl _, by decide, by decide, .inr rfl⟩
  obtain ⟨most, least⟩ := scaled_bounds above positive
  have low : leastExponent ≤ exponentFor num den := exponentFor_eq above positive ▸ le_max_left _ _
  obtain ⟨error_low, error_high⟩ := abs_le.1 (abs_significand_sub_le num positive (exponentFor num den))
  rw [ofRatio_eq above rfl rfl]
  generalize roundHalfEven _ _ = significand at error_low error_high ⊢
  generalize exponentFor num den = exponent at most least low error_low error_high ⊢
  have short : significand < 2 ^ 53 + 1 := by
    have short : (significand : ℚ) < (2 ^ 53 : Nat) + 1 := by
      push_cast
      linarith
    exact_mod_cast short
  split
  · split
    · trivial
    · exact ⟨by omega, by omega, by decide, .inl (le_refl _)⟩
  · split
    · trivial
    · refine ⟨low, by omega, by omega, least.symm.imp_left fun large => ?_⟩
      have large : ((2 ^ 52 : Nat) : ℚ) < significand + 1 := by
        push_cast
        linarith
      have large : 2 ^ 52 < significand + 1 := by exact_mod_cast large
      omega

theorem isFinite_ofRatio (negative : Bool) {num den : Nat} (positive : 0 < den)
    (small : (num : ℚ) / den < 2 ^ (1023 : Int)) : (ofRatio negative num den).isFinite = true := by
  rcases Nat.eq_zero_or_pos num with rfl | above
  · rfl
  have log := (Int.lt_zpow_iff_log_lt (b := 2) (by decide) (quotient_pos above positive)).1 small
  have exponent := exponentFor_eq above positive
  have most : exponentFor num den + 1 ≤ greatestExponent := by
    rw [exponent, leastExponent, greatestExponent]
    omega
  rw [ofRatio_eq above rfl rfl]
  split
  · rw [if_neg (not_lt.2 most)]
    rfl
  · rw [if_neg (by omega)]
    rfl

end Binary64

end CiPipeline.Number
