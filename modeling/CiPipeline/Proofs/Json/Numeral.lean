import CiPipeline.Json.Printer
import CiPipeline.Proofs.Number.Shortest

/-! How numbers of the data format are spelled. A spelling is read up to the first character that cannot go on with
it, and whatever is printed for a finite number is the spelling of this number. -/
namespace CiPipeline.Json

open Number

structure Exponent where
  capital : Bool
  negative : Option Bool
  digits : List Nat

/-- The parts of a spelling: a sign, whole digits, digits of a fraction and a power of ten. -/
structure Spelling where
  negative : Bool
  whole : List Nat
  fraction : Option (List Nat)
  exponent : Option Exponent

def IsDigits (digits : List Nat) : Prop := digits ≠ [] ∧ ∀ digit ∈ digits, digit < 10

namespace Exponent

def letter (capital : Bool) : Char := if capital then 'E' else 'e'

def sign (negative : Bool) : Char := if negative then '-' else '+'

def chars (exponent : Exponent) : List Char :=
  letter exponent.capital :: ((exponent.negative.map sign).toList ++ writeDigits exponent.digits)

def power (exponent : Exponent) : Int :=
  Binary64.signed (exponent.negative.getD false) (natOfDigits exponent.digits)

end Exponent

namespace Spelling

def fractionChars : Option (List Nat) → List Char
  | some digits => '.' :: writeDigits digits
  | none => []

def exponentChars : Option Exponent → List Char
  | some exponent => exponent.chars
  | none => []

def chars (spelling : Spelling) : List Char :=
  signText spelling.negative (writeDigits spelling.whole ++
    (fractionChars spelling.fraction ++ exponentChars spelling.exponent))

/-- Zeros in front are not allowed, and every part that is there has a digit. -/
structure WellFormed (spelling : Spelling) : Prop where
  whole : IsDigits spelling.whole
  first : spelling.whole = [0] ∨ ∃ first rest, spelling.whole = first :: rest ∧ first ≠ 0
  fraction : ∀ digits ∈ spelling.fraction, IsDigits digits
  exponent : ∀ exponent ∈ spelling.exponent, IsDigits exponent.digits

def units (spelling : Spelling) : Nat := natOfDigits (spelling.whole ++ spelling.fraction.getD [])

def power (spelling : Spelling) : Int :=
  (spelling.exponent.map Exponent.power).getD 0 - (spelling.fraction.getD []).length

def amount (spelling : Spelling) : Binary64 := Binary64.ofUnits spelling.units spelling.power

/-- A number is a whole one if it has neither a fraction nor a power of ten. -/
def value (spelling : Spelling) : Json :=
  if spelling.fraction.isNone && spelling.exponent.isNone then
    .int (Binary64.signed spelling.negative (natOfDigits spelling.whole))
  else .float (if spelling.negative then spelling.amount.neg else spelling.amount)

end Spelling

def isNumeralChar (c : Char) : Bool := isDigitChar c || c == '.' || c == 'e' || c == 'E'

/-- A text in front of which every number ends. -/
def Ends (rest : List Char) : Prop := ∀ c ∈ rest.head?, isNumeralChar c = false

def readDigits (cs : List Char) : List Nat × List Char :=
  (digitsOfChars (cs.takeWhile isDigitChar), cs.dropWhile isDigitChar)

def readFraction : List Char → Option (List Nat) × List Char
  | '.' :: cs => (some (readDigits cs).1, (readDigits cs).2)
  | cs => (none, cs)

def readSign : List Char → Option Bool × List Char
  | '-' :: cs => (some true, cs)
  | '+' :: cs => (some false, cs)
  | cs => (none, cs)

def readExponent : List Char → Option Exponent × List Char
  | [] => (none, [])
  | c :: cs =>
    if c = 'e' ∨ c = 'E' then
      let signed := readSign cs
      (some ⟨c = 'E', signed.1, (readDigits signed.2).1⟩, (readDigits signed.2).2)
    else (none, c :: cs)

def readUnsigned? (negative : Bool) (cs : List Char) : Option (Spelling × List Char) :=
  let whole := readDigits cs
  let fraction := readFraction whole.2
  let exponent := readExponent fraction.2
  if whole.1.isEmpty then none else some (⟨negative, whole.1, fraction.1, exponent.1⟩, exponent.2)

def readNumber? : List Char → Option (Spelling × List Char)
  | '-' :: cs => readUnsigned? true cs
  | cs => readUnsigned? false cs

section

variable {rest : List Char}

theorem readDigits_append {digits : List Nat} (small : ∀ digit ∈ digits, digit < 10)
    (stops : ∀ c ∈ rest.head?, isDigitChar c = false) : readDigits (writeDigits digits ++ rest) = (digits, rest) := by
  have all : ∀ c ∈ writeDigits digits, isDigitChar c = true :=
    List.forall_mem_map.2 fun digit _ => isDigitChar_digitChar digit
  obtain ⟨taken, left⟩ := Matrix.takeWhile_run all rest stops
  rw [readDigits, taken, left, digitsOfChars_writeDigits small]

theorem isDigitChar_head_writeDigits {digits : List Nat} (formed : IsDigits digits) (cs : List Char) :
    ∃ c tail, writeDigits digits ++ cs = c :: tail ∧ isDigitChar c = true := by
  cases digits with
  | nil => exact absurd rfl formed.1
  | cons digit digits => exact ⟨digitChar digit, _, rfl, isDigitChar_digitChar digit⟩

theorem Ends.not_digit (ends : Ends rest) : ∀ c ∈ rest.head?, isDigitChar c = false := by
  intro c first
  have none := ends c first
  simp only [isNumeralChar, Bool.or_eq_false_iff] at none
  exact none.1.1.1

theorem readSign_of_digit {c : Char} (digit : isDigitChar c = true) (cs : List Char) :
    readSign (c :: cs) = (none, c :: cs) := by
  have not_minus : c ≠ '-' := by
    rintro rfl
    exact absurd digit (by decide)
  have not_plus : c ≠ '+' := by
    rintro rfl
    exact absurd digit (by decide)
  rw [readSign]
  · rintro cs' same
    exact not_minus (List.cons.inj same).1
  · rintro cs' same
    exact not_plus (List.cons.inj same).1

theorem readSign_append (negative : Option Bool) {digits : List Nat} (formed : IsDigits digits) :
    readSign ((negative.map Exponent.sign).toList ++ (writeDigits digits ++ rest)) =
      (negative, writeDigits digits ++ rest) := by
  match negative with
  | some true => rfl
  | some false => rfl
  | none =>
    obtain ⟨c, tail, same, digit⟩ := isDigitChar_head_writeDigits formed rest
    rw [Option.map_none, Option.toList_none, List.nil_append, same, readSign_of_digit digit]

theorem readExponent_append (ends : Ends rest) {exponent : Option Exponent}
    (formed : ∀ found ∈ exponent, IsDigits found.digits) :
    readExponent (Spelling.exponentChars exponent ++ rest) = (exponent, rest) := by
  cases exponent with
  | none =>
    cases rest with
    | nil => rfl
    | cons c rest =>
      have other := ends c rfl
      simp only [isNumeralChar, Bool.or_eq_false_iff, beq_eq_false_iff_ne] at other
      rw [Spelling.exponentChars, List.nil_append, readExponent, if_neg]
      rintro (small | capital)
      · exact other.1.2 small
      · exact other.2 capital
  | some exponent =>
    obtain ⟨capital, negative, digits⟩ := exponent
    have digits_formed := formed _ rfl
    have digits_read := readDigits_append digits_formed.2 ends.not_digit
    rw [Spelling.exponentChars, Exponent.chars, List.cons_append, List.append_assoc, readExponent,
      readSign_append negative digits_formed]
    dsimp only
    rw [digits_read]
    cases capital <;> rfl

theorem exponentChars_head (ends : Ends rest) (exponent : Option Exponent) :
    ∀ c ∈ (Spelling.exponentChars exponent ++ rest).head?, isDigitChar c = false ∧ c ≠ '.' := by
  intro c first
  cases exponent with
  | none =>
    have other := ends c first
    simp only [isNumeralChar, Bool.or_eq_false_iff, beq_eq_false_iff_ne] at other
    exact ⟨other.1.1.1, other.1.1.2⟩
  | some exponent =>
    obtain rfl := Option.some.inj first
    have all : ∀ capital, isDigitChar (Exponent.letter capital) = false ∧ Exponent.letter capital ≠ '.' := by decide
    exact all exponent.capital

theorem readFraction_append {fraction : Option (List Nat)} (formed : ∀ digits ∈ fraction, IsDigits digits)
    (stops : ∀ c ∈ rest.head?, isDigitChar c = false ∧ c ≠ '.') :
    readFraction (Spelling.fractionChars fraction ++ rest) = (fraction, rest) := by
  cases fraction with
  | none =>
    rw [Spelling.fractionChars, List.nil_append, readFraction]
    rintro cs rfl
    exact (stops '.' rfl).2 rfl
  | some digits =>
    rw [Spelling.fractionChars, List.cons_append, readFraction,
      readDigits_append (formed _ rfl).2 fun c first => (stops c first).1]

theorem readUnsigned?_append (ends : Ends rest) {spelling : Spelling} (formed : spelling.WellFormed) :
    readUnsigned? spelling.negative (writeDigits spelling.whole ++ (Spelling.fractionChars spelling.fraction ++
      (Spelling.exponentChars spelling.exponent ++ rest))) = some (spelling, rest) := by
  have exponent_head := exponentChars_head ends spelling.exponent
  have fraction_head : ∀ c ∈ (Spelling.fractionChars spelling.fraction ++
      (Spelling.exponentChars spelling.exponent ++ rest)).head?, isDigitChar c = false := by
    intro c first
    cases fraction : spelling.fraction with
    | none =>
      rw [fraction] at first
      exact (exponent_head c first).1
    | some digits =>
      rw [fraction] at first
      obtain rfl := Option.some.inj first
      decide
  have filled : spelling.whole.isEmpty = false := by
    rw [List.isEmpty_eq_false_iff]
    exact formed.whole.1
  rw [readUnsigned?, readDigits_append formed.whole.2 fraction_head]
  dsimp only
  rw [readFraction_append formed.fraction exponent_head]
  dsimp only
  rw [readExponent_append ends formed.exponent, filled]
  rfl

theorem readNumber?_append (ends : Ends rest) {spelling : Spelling} (formed : spelling.WellFormed) :
    readNumber? (spelling.chars ++ rest) = some (spelling, rest) := by
  have read := readUnsigned?_append ends formed
  obtain ⟨negative, whole, fraction, exponent⟩ := spelling
  rw [Spelling.chars]
  dsimp only at read ⊢
  cases negative with
  | true =>
    rw [signText, if_pos rfl, List.cons_append, List.append_assoc, List.append_assoc, readNumber?]
    exact read
  | false =>
    obtain ⟨c, tail, same, digit⟩ := isDigitChar_head_writeDigits formed.whole
      (Spelling.fractionChars fraction ++ (Spelling.exponentChars exponent ++ rest))
    rw [signText, if_neg Bool.false_ne_true, List.append_assoc, List.append_assoc, same, readNumber?, ← same]
    · exact read
    · rintro cs same
      rw [(List.cons.inj same).1] at digit
      exact absurd digit (by decide)

end

theorem Spelling.WellFormed.head {spelling : Spelling} (formed : spelling.WellFormed) :
    ∃ c tail, spelling.chars = c :: tail ∧ (c = '-' ∨ isDigitChar c = true) := by
  rw [Spelling.chars]
  cases spelling.negative with
  | true => exact ⟨'-', _, rfl, .inl rfl⟩
  | false =>
    obtain ⟨c, tail, same, digit⟩ := isDigitChar_head_writeDigits formed.whole
      (Spelling.fractionChars spelling.fraction ++ Spelling.exponentChars spelling.exponent)
    exact ⟨c, tail, same, .inr digit⟩

def wholeDigits (n : Nat) : List Nat := if n = 0 then [0] else digitsOf n

theorem writeNat_eq (n : Nat) : writeNat n = writeDigits (wholeDigits n) := by
  rw [writeNat, wholeDigits]
  split <;> rfl

theorem natOfDigits_wholeDigits (n : Nat) : natOfDigits (wholeDigits n) = n := by
  rw [wholeDigits]
  split
  · rename_i none
    exact none.symm
  · exact natOfDigits_digitsOf n

theorem first_wholeDigits (n : Nat) :
    wholeDigits n = [0] ∨ ∃ first rest, wholeDigits n = first :: rest ∧ first ≠ 0 := by
  rw [wholeDigits]
  split
  · exact .inl rfl
  · rename_i filled
    exact .inr (exists_cons_digitsOf filled)

theorem isDigits_wholeDigits (n : Nat) : IsDigits (wholeDigits n) := by
  constructor
  · rcases first_wholeDigits n with zero | ⟨first, rest, digits, _⟩
    · rw [zero]
      exact List.cons_ne_nil _ _
    · rw [digits]
      exact List.cons_ne_nil _ _
  · rw [wholeDigits]
    split
    · exact List.forall_mem_singleton.2 (by decide)
    · exact lt_ten_of_mem_digitsOf

def spellInt (n : Int) : Spelling := ⟨n < 0, wholeDigits n.natAbs, none, none⟩

theorem wellFormed_spellInt (n : Int) : (spellInt n).WellFormed where
  whole := isDigits_wholeDigits n.natAbs
  first := first_wholeDigits n.natAbs
  fraction := fun _ found => by cases found
  exponent := fun _ found => by cases found

theorem chars_spellInt (n : Int) : (spellInt n).chars = writeInt n := by
  rw [Spelling.chars, spellInt, writeInt, writeNat_eq]
  by_cases negative : n < 0 <;> simp [negative, signText, Spelling.fractionChars, Spelling.exponentChars]

theorem value_spellInt (n : Int) : (spellInt n).value = .int n := by
  have amount : Binary64.signed (decide (n < 0)) (natOfDigits (wholeDigits n.natAbs)) = n := by
    rw [natOfDigits_wholeDigits, Binary64.signed]
    simp only [decide_eq_true_eq]
    split <;> omega
  rw [Spelling.value, spellInt]
  exact congrArg Json.int amount

theorem zeros_eq (count : Nat) : zeros count = writeDigits (List.replicate count 0) := by
  rw [zeros, writeDigits, List.map_replicate]
  rfl

theorem writeDigits_append (front back : List Nat) :
    writeDigits (front ++ back) = writeDigits front ++ writeDigits back := List.map_append

theorem small_zeros {count : Nat} : ∀ digit ∈ List.replicate count 0, digit < 10 := by
  intro digit member
  rw [List.eq_of_mem_replicate member]
  decide

structure Spelling.Shows (spelling : Spelling) (decimal : Decimal) : Prop where
  formed : spelling.WellFormed
  unsigned : spelling.negative = false
  broken : (spelling.fraction.isNone && spelling.exponent.isNone) = false
  chars : spelling.chars = writeDecimal generalForm decimal
  amount : (spelling.units : ℚ) * 10 ^ spelling.power = decimal.value

section

variable {decimal : Decimal}

theorem writeDecimal_near (low : -3 ≤ decimal.point) (high : decimal.point ≤ 16) {whole fraction : List Nat}
    (parts : splitAtPoint decimal = (writeDigits whole, writeDigits fraction)) :
    writeDecimal generalForm decimal =
      writeDigits whole ++ '.' :: writeDigits (fraction ++ List.replicate (1 - fraction.length) 0) := by
  have length : (writeDigits fraction).length = fraction.length := List.length_map ..
  rw [writeDecimal, if_pos ⟨low, high⟩, parts]
  dsimp only
  rw [length, zeros_eq, ← writeDigits_append]
  cases fraction with
  | nil => rfl
  | cons digit digits => rfl

theorem shows_near {whole fraction : List Nat} (formed : IsDigits whole)
    (first : whole = [0] ∨ ∃ first rest, whole = first :: rest ∧ first ≠ 0) (fraction_formed : IsDigits fraction)
    (written : writeDecimal generalForm decimal = writeDigits whole ++ '.' :: writeDigits fraction)
    (amount : (natOfDigits (whole ++ fraction) : ℚ) * 10 ^ (-(fraction.length : Int)) = decimal.value) :
    Spelling.Shows ⟨false, whole, some fraction, none⟩ decimal where
  formed := ⟨formed, first, fun digits found => Option.some.inj found ▸ fraction_formed, fun _ found => by cases found⟩
  unsigned := rfl
  broken := rfl
  chars := by
    rw [written, Spelling.chars, Spelling.exponentChars, List.append_nil]
    rfl
  amount := by
    rw [← amount, Spelling.power, Option.map_none, Option.getD_none, Option.getD_some, zero_sub]
    rfl

theorem exists_shows_small (formed : decimal.WellFormed) {count : Nat} (point : decimal.point = -(count : Int))
    (near : count ≤ 3) : ∃ spelling : Spelling, spelling.Shows decimal := by
  have filled : List.replicate count 0 ++ decimal.digits ≠ [] := by
    obtain ⟨first, rest, digits, _⟩ := formed.first
    rw [digits]
    exact List.append_ne_nil_of_right_ne_nil _ (List.cons_ne_nil first rest)
  have parts : splitAtPoint decimal = (writeDigits [0], writeDigits (List.replicate count 0 ++ decimal.digits)) := by
    rw [writeDigits_append, ← zeros_eq, splitAtPoint, point]
    cases count <;> rfl
  have written := writeDecimal_near (by omega) (by omega) parts
  rw [Nat.sub_eq_zero_of_le (List.length_pos_iff.2 filled), List.replicate_zero, List.append_nil] at written
  refine ⟨_, shows_near ⟨List.cons_ne_nil _ _, List.forall_mem_singleton.2 (by decide)⟩ (.inl rfl)
    ⟨filled, List.forall_mem_append.2 ⟨small_zeros, formed.small⟩⟩ written ?_⟩
  have power : -((List.replicate count 0 ++ decimal.digits).length : Int) = decimal.point - decimal.digits.length := by
    rw [List.length_append, List.length_replicate, point]
    push_cast
    ring
  rw [List.singleton_append, ← List.cons_append, ← List.replicate_succ, natOfDigits_zeros_append, power, Decimal.value]

def wholePart (count : Nat) (digits : List Nat) : List Nat :=
  digits.take count ++ List.replicate (count - digits.length) 0

def fractionPart (count : Nat) (digits : List Nat) : List Nat :=
  digits.drop count ++ List.replicate (1 - (digits.drop count).length) 0

theorem natOfDigits_parts (count : Nat) (digits : List Nat) :
    (natOfDigits (wholePart count digits ++ fractionPart count digits) : ℚ) *
      10 ^ (-((fractionPart count digits).length : Int)) =
        natOfDigits digits * 10 ^ ((count : Int) - digits.length) := by
  rw [wholePart, fractionPart]
  rcases Nat.lt_or_ge count digits.length with among | behind
  · have none : 1 - (digits.drop count).length = 0 := by
      rw [List.length_drop]
      omega
    rw [none, Nat.sub_eq_zero_of_le among.le, List.replicate_zero, List.append_nil, List.append_nil,
      List.take_append_drop, List.length_drop]
    congr 2
    omega
  · have power : (count : Int) - digits.length = (count - digits.length + 1 : Nat) + -1 := by omega
    rw [List.take_of_length_le behind, List.drop_eq_nil_of_le behind, List.nil_append, List.append_assoc,
      List.length_nil, ← List.replicate_add, natOfDigits_append_zeros, List.length_replicate, power,
      zpow_add₀ (by norm_num), zpow_natCast]
    push_cast
    ring

theorem isDigits_fractionPart {digits : List Nat} (small : ∀ digit ∈ digits, digit < 10) (count : Nat) :
    IsDigits (fractionPart count digits) := by
  rw [fractionPart]
  constructor
  · rw [← List.length_pos_iff, List.length_append, List.length_replicate]
    omega
  · exact List.forall_mem_append.2 ⟨fun digit member => small digit (List.mem_of_mem_drop member), small_zeros⟩

theorem exists_shows_large (formed : decimal.WellFormed) {count : Nat} (point : decimal.point = (count + 1 : Nat))
    (near : count < 16) : ∃ spelling : Spelling, spelling.Shows decimal := by
  obtain ⟨first, rest, digits, nonzero⟩ := formed.first
  have parts : splitAtPoint decimal =
      (writeDigits (wholePart (count + 1) decimal.digits), writeDigits (decimal.digits.drop (count + 1))) := by
    rw [wholePart, writeDigits_append, ← zeros_eq, splitAtPoint, point, writeDigits, writeDigits, writeDigits,
      List.map_take, List.map_drop, List.length_map]
    rfl
  have written := writeDecimal_near (by omega) (by omega) parts
  obtain ⟨others, starts⟩ : ∃ others, wholePart (count + 1) decimal.digits = first :: others := by
    rw [digits]
    exact ⟨_, rfl⟩
  have whole : IsDigits (wholePart (count + 1) decimal.digits) := by
    refine ⟨starts ▸ List.cons_ne_nil _ _, List.forall_mem_append.2 ⟨fun digit member => ?_, small_zeros⟩⟩
    exact formed.small digit (List.mem_of_mem_take member)
  have fraction := isDigits_fractionPart formed.small (count + 1)
  refine ⟨_, shows_near whole (.inr ⟨first, others, starts, nonzero⟩) fraction written ?_⟩
  rw [natOfDigits_parts, Decimal.value, point]

def exponentOf (power : Int) : Exponent :=
  ⟨false, some (power < 0), List.replicate (2 - (wholeDigits power.natAbs).length) 0 ++ wholeDigits power.natAbs⟩

theorem chars_exponentOf (power : Int) : (exponentOf power).chars = writeExponent power := by
  have length : (writeDigits (wholeDigits power.natAbs)).length = (wholeDigits power.natAbs).length :=
    List.length_map ..
  rw [writeExponent, Exponent.chars, exponentOf, writeNat_eq, length, writeDigits_append, zeros_eq]
  by_cases negative : power < 0 <;> simp [negative, Exponent.sign, Exponent.letter]

theorem power_exponentOf (power : Int) : (exponentOf power).power = power := by
  rw [exponentOf, Exponent.power, natOfDigits_zeros_append, natOfDigits_wholeDigits, Binary64.signed]
  simp only [Option.getD_some, decide_eq_true_eq]
  split <;> omega

theorem isDigits_exponentOf (power : Int) : IsDigits (exponentOf power).digits := by
  obtain ⟨filled, small⟩ := isDigits_wholeDigits power.natAbs
  exact ⟨List.append_ne_nil_of_right_ne_nil _ filled, List.forall_mem_append.2 ⟨small_zeros, small⟩⟩

theorem exists_shows_scientific (formed : decimal.WellFormed)
    (far : ¬(-3 ≤ decimal.point ∧ decimal.point ≤ 16)) : ∃ spelling : Spelling, spelling.Shows decimal := by
  obtain ⟨first, rest, digits, nonzero⟩ := formed.first
  have small := formed.small
  rw [digits, List.forall_mem_cons] at small
  have written : writeDecimal generalForm decimal = writeDigits [first] ++ (Spelling.fractionChars
      (if rest.isEmpty then none else some rest) ++ (exponentOf (decimal.point - 1)).chars) := by
    have scientific : writeDecimal generalForm decimal = writeScientific decimal := if_neg far
    rw [scientific, writeScientific, chars_exponentOf, digits]
    cases rest <;> simp [Spelling.fractionChars, writeDigits]
  refine ⟨⟨false, [first], if rest.isEmpty then none else some rest, some (exponentOf (decimal.point - 1))⟩,
    ?_, rfl, Bool.and_false _, written.symm, ?_⟩
  · refine ⟨⟨List.cons_ne_nil _ _, List.forall_mem_singleton.2 small.1⟩, .inr ⟨first, [], rfl, nonzero⟩, ?_, ?_⟩
    · cases rest with
      | nil =>
        rintro _ found
        cases found
      | cons digit others =>
        rintro _ found
        obtain rfl := Option.some.inj found
        exact ⟨List.cons_ne_nil _ _, small.2⟩
    · rintro _ found
      obtain rfl := Option.some.inj found
      exact isDigits_exponentOf _
  · have fraction : (if rest.isEmpty then none else some rest : Option (List Nat)).getD [] = rest := by
      cases rest <;> rfl
    rw [Spelling.units, Spelling.power, fraction, Option.map_some, Option.getD_some, power_exponentOf, Decimal.value,
      digits, List.length_cons, List.singleton_append]
    congr 2
    push_cast
    ring

theorem exists_shows (formed : decimal.WellFormed) : ∃ spelling : Spelling, spelling.Shows decimal := by
  by_cases near : -3 ≤ decimal.point ∧ decimal.point ≤ 16
  · rcases Int.le_total decimal.point 0 with low | high
    · obtain ⟨count, point⟩ := Int.exists_eq_neg_ofNat low
      exact exists_shows_small formed point (by omega)
    · obtain ⟨count, point⟩ := Int.eq_ofNat_of_zero_le high
      cases count with
      | zero =>
        have point : decimal.point = -((0 : Nat) : Int) := point
        exact exists_shows_small formed point (by decide)
      | succ count => exact exists_shows_large formed point (by omega)
  · exact exists_shows_scientific formed near

end

theorem shows_zero : Spelling.Shows ⟨false, [0], some [0], none⟩ ⟨[0], 1⟩ :=
  shows_near ⟨List.cons_ne_nil _ _, by decide⟩ (.inl rfl) ⟨List.cons_ne_nil _ _, by decide⟩ rfl (by
    have zero : natOfDigits ([0] ++ [0]) = 0 := rfl
    have zero' : natOfDigits [0] = 0 := rfl
    rw [Decimal.value, zero, zero', Nat.cast_zero, zero_mul, zero_mul])

theorem exists_shows_of_magnitude {m : Nat} {e : Int} (formed : (Binary64.finite false m e).WellFormed) :
    ∃ spelling : Spelling, spelling.Shows (if m = 0 then ⟨[0], 1⟩ else Binary64.shortest m e) ∧
      spelling.amount = .finite false m e := by
  split
  · rename_i zero
    subst zero
    obtain ⟨_, _, _, large | rfl⟩ := formed
    · exact absurd large (by decide)
    · exact ⟨_, shows_zero, rfl⟩
  · rename_i filled
    obtain ⟨units, power, nonzero, reads, shortest⟩ := Binary64.exists_shortest formed filled
    rw [shortest]
    obtain ⟨spelling, shows⟩ := exists_shows (wellFormed_decimalOf nonzero power)
    refine ⟨spelling, shows, ?_⟩
    rw [← reads, Spelling.amount]
    exact Binary64.ofUnits_congr (shows.amount.trans (value_decimalOf units power))

theorem exists_spelling {x : Binary64} (finite : x.isFinite = true) (formed : x.WellFormed) :
    ∃ spelling : Spelling, spelling.WellFormed ∧ spelling.chars = writeFloat x ∧ spelling.value = .float x := by
  cases x with
  | nan => cases finite
  | infinite negative => cases finite
  | finite negative m e =>
    have magnitude : (Binary64.finite false m e).WellFormed := formed
    obtain ⟨spelling, shows, amount⟩ := exists_shows_of_magnitude magnitude
    have body := shows.chars
    rw [Spelling.chars, shows.unsigned] at body
    refine ⟨{ spelling with negative := negative }, ?_, ?_, ?_⟩
    · exact ⟨shows.formed.whole, shows.formed.first, shows.formed.fraction, shows.formed.exponent⟩
    · rw [Spelling.chars]
      exact congrArg (signText negative) body
    · have signed : ({ spelling with negative := negative } : Spelling).value =
          .float (if negative then spelling.amount.neg else spelling.amount) :=
        if_neg (Bool.not_eq_true _ ▸ shows.broken)
      rw [signed, amount]
      cases negative <;> rfl

end CiPipeline.Json
