import CiPipeline.Proofs.Json.Grammar

/-! How texts are printed between quotes, and what comes back. Every character comes back as it is, with one exception:
where two characters stand for the halves of a third one, one directly behind the other, they come back as this third
one. -/
namespace CiPipeline.Json

open Text

def codeUnits (code : Nat) : List Nat :=
  if code < 0x10000 then [code] else [0xD800 + (code - 0x10000) / 0x400, 0xDC00 + (code - 0x10000) % 0x400]

def unitsOf (c : Char) : List Nat := codeUnits ((surrogate? c).getD c.toNat)

def areHalves (high low : Char) : Bool := (surrogate? high).any isHigh && (surrogate? low).any isLow

def joinedChars : List Char → List Char
  | high :: low :: rest =>
    if areHalves high low then
      Char.ofNat (joinUnits ((surrogate? high).getD 0) ((surrogate? low).getD 0)) :: joinedChars rest
    else high :: joinedChars (low :: rest)
  | cs => cs

def joinedText (text : String) : String := String.ofList (joinedChars text.toList)

def Unsplit (text : String) : Prop := text.toList.IsChain fun high low => areHalves high low = false

instance (text : String) : Decidable (Unsplit text) :=
  inferInstanceAs (Decidable (text.toList.IsChain fun high low => areHalves high low = false))

theorem hexValue_append (front : List Char) (digit : Char) :
    hexValue (front ++ [digit]) = hexValue front * 16 + (hexDigitValue? digit).getD 0 := by
  rw [hexValue, List.foldl_append]
  rfl

theorem hexDigitValue?_hexDigit {n : Nat} (small : n < 16) : hexDigitValue? (hexDigit n) = some n := by
  have all : ∀ n < 16, hexDigitValue? (hexDigit n) = some n := by decide
  exact all n small

theorem hexValue_hexDigits (width n : Nat) : hexValue (hexDigits width n) = n % 16 ^ width := by
  induction width generalizing n with
  | zero => exact (Nat.mod_one n).symm
  | succ width ih =>
    rw [hexDigits, hexValue_append, ih, hexDigitValue?_hexDigit (Nat.mod_lt n (by decide)), Option.getD_some, pow_succ',
      Nat.mod_mul]
    ring

theorem isSome_of_mem_hexDigits {width n : Nat} : ∀ digit ∈ hexDigits width n, (hexDigitValue? digit).isSome := by
  induction width generalizing n with
  | zero => exact fun _ member => absurd member List.not_mem_nil
  | succ width ih =>
    rw [hexDigits]
    intro digit member
    rcases List.mem_append.1 member with before | last
    · exact ih digit before
    · rw [List.mem_singleton.1 last, hexDigitValue?_hexDigit (Nat.mod_lt n (by decide))]
      rfl

theorem long_hexDigits {unit : Nat} (small : unit < 0x10000) :
    (Piece.long (hexDigits 4 unit)).Allowed ∧ (Piece.long (hexDigits 4 unit)).unit = unit := by
  refine ⟨⟨hexDigits_length 4 unit, isSome_of_mem_hexDigits⟩, ?_⟩
  rw [Piece.unit, hexValue_hexDigits]
  omega

theorem lt_of_mem_codeUnits {code : Nat} (valid : code < 0x110000) : ∀ unit ∈ codeUnits code, unit < 0x10000 := by
  rw [codeUnits]
  split
  · rename_i small
    exact List.forall_mem_singleton.2 small
  · intro unit member
    rcases List.mem_pair.1 member with same | same <;> omega

theorem escapeCode_eq (code : Nat) : escapeCode code = (codeUnits code).flatMap escapeUnit := by
  rw [escapeCode, codeUnits]
  split <;> simp

theorem toNat_lt (c : Char) : c.toNat < 0x110000 := by
  rcases c.valid with small | ⟨_, small⟩
  · exact small.trans (by decide)
  · exact small

structure Prints (pieces : List Piece) (c : Char) : Prop where
  allowed : ∀ piece ∈ pieces, piece.Allowed
  chars : pieces.flatMap Piece.chars = escapeChar c
  units : pieces.map Piece.unit = unitsOf c

theorem of_surrogate? {c : Char} {code : Nat} (found : surrogate? c = some code) :
    isSurrogate code = true ∧ c.toNat = code + surrogateDistance := by
  rw [surrogate?] at found
  split at found
  · rename_i both
    rw [Bool.and_eq_true, decide_eq_true_eq] at both
    obtain rfl := Option.some.inj found
    exact ⟨both.1, (Nat.sub_add_cancel both.2).symm⟩
  · cases found

theorem isSurrogate_iff {code : Nat} : isSurrogate code = true ↔ 0xD800 ≤ code ∧ code ≤ 0xDFFF := by
  rw [isSurrogate, Bool.and_eq_true, decide_eq_true_eq, decide_eq_true_eq, firstSurrogate, lastSurrogate]

theorem surrogate?_eq_none {c : Char} (small : c.toNat < surrogateDistance) : surrogate? c = none := by
  rw [surrogate?, if_neg]
  rw [Bool.and_eq_true, decide_eq_true_eq]
  exact fun both => absurd both.2 (Nat.not_le.2 small)

theorem unitsOf_small {c : Char} (small : c.toNat < 0x10000) : unitsOf c = [c.toNat] := by
  have near : c.toNat < surrogateDistance := by
    rw [surrogateDistance]
    omega
  rw [unitsOf, surrogate?_eq_none near, Option.getD_none, codeUnits, if_pos small]

theorem prints_short {c letter : Char} (known : shortEscapes.lookup letter = some c.toNat) (small : c.toNat < 0x80)
    (chars : escapeChar c = ['\\', letter]) : Prints [.short letter] c := by
  refine ⟨List.forall_mem_singleton.2 (Option.isSome_of_eq_some known), chars.symm, ?_⟩
  rw [unitsOf_small (by omega), List.map_singleton, Piece.unit, known, Option.getD_some]

theorem prints_plain {c : Char} (visible : 0x20 ≤ c.toNat ∧ c.toNat < 0x7F) (not_quote : c ≠ '"')
    (not_escape : c ≠ '\\') (chars : escapeChar c = [c]) : Prints [.plain c] c := by
  refine ⟨List.forall_mem_singleton.2 ⟨visible.1, not_quote, not_escape⟩, chars.symm, ?_⟩
  rw [unitsOf_small (by omega), List.map_singleton, Piece.unit]

theorem prints_long {c : Char} (chars : escapeChar c = escapeCode ((surrogate? c).getD c.toNat)) :
    Prints ((unitsOf c).map fun unit => .long (hexDigits 4 unit)) c := by
  have valid : (surrogate? c).getD c.toNat < 0x110000 := by
    cases found : surrogate? c with
    | none => exact toNat_lt c
    | some code =>
      have bounds := isSurrogate_iff.1 (of_surrogate? found).1
      rw [Option.getD_some]
      omega
  have small := lt_of_mem_codeUnits valid
  refine ⟨?_, ?_, ?_⟩
  · rw [List.forall_mem_map]
    exact fun unit member => (long_hexDigits (small unit member)).1
  · rw [chars, escapeCode_eq, List.flatMap_map, unitsOf]
    exact List.flatMap_congr fun unit _ => rfl
  · have same : ∀ unit ∈ unitsOf c, (Piece.unit ∘ fun unit => .long (hexDigits 4 unit)) unit = id unit := by
      intro unit member
      rw [Function.comp_apply, (long_hexDigits (small unit member)).2, id]
    rw [List.map_map, List.map_congr_left same, List.map_id]

theorem exists_prints (c : Char) : ∃ pieces, Prints pieces c := by
  have of_code {code : Nat} (same : c.toNat = code) : c = Char.ofNat code := by rw [← same, Char.ofNat_toNat]
  have written := escapeChar.eq_1 c
  split_ifs at written with quote escape newline back tab bell feed visible
  · exact quote ▸ ⟨_, prints_short rfl (by decide) rfl⟩
  · exact escape ▸ ⟨_, prints_short rfl (by decide) rfl⟩
  · exact newline ▸ ⟨_, prints_short rfl (by decide) rfl⟩
  · exact back ▸ ⟨_, prints_short rfl (by decide) rfl⟩
  · exact tab ▸ ⟨_, prints_short rfl (by decide) rfl⟩
  · exact of_code bell ▸ ⟨_, prints_short rfl (by decide) rfl⟩
  · exact of_code feed ▸ ⟨_, prints_short rfl (by decide) rfl⟩
  · exact ⟨_, prints_plain visible quote escape written⟩
  · exact ⟨_, prints_long written⟩

theorem exists_pieces (text : String) : ∃ pieces : List Piece, (∀ piece ∈ pieces, piece.Allowed) ∧
    quotedPieces pieces = quote text ∧ pieces.map Piece.unit = text.toList.flatMap unitsOf := by
  have all (cs : List Char) : ∃ pieces : List Piece, (∀ piece ∈ pieces, piece.Allowed) ∧
      pieces.flatMap Piece.chars = cs.flatMap escapeChar ∧ pieces.map Piece.unit = cs.flatMap unitsOf := by
    induction cs with
    | nil => exact ⟨[], fun _ member => absurd member List.not_mem_nil, rfl, rfl⟩
    | cons c cs ih =>
      obtain ⟨first, prints⟩ := exists_prints c
      obtain ⟨more, allowed, chars, units⟩ := ih
      refine ⟨first ++ more, List.forall_mem_append.2 ⟨prints.allowed, allowed⟩, ?_, ?_⟩
      · rw [List.flatMap_append, prints.chars, chars, List.flatMap_cons]
      · rw [List.map_append, prints.units, units, List.flatMap_cons]
  obtain ⟨pieces, allowed, chars, units⟩ := all text.toList
  exact ⟨pieces, allowed, by rw [quotedPieces, chars, quote, List.cons_append], units⟩

section

variable {c : Char} {units : List Nat}

theorem charsOfUnits_cons {unit : Nat} (apart : isHigh unit = false ∨ ∀ low ∈ units.head?, isLow low = false) :
    charsOfUnits (unit :: units) = charOfCode unit :: charsOfUnits units := by
  cases units with
  | nil => rfl
  | cons low units =>
    rw [charsOfUnits, if_neg]
    rw [Bool.and_eq_true]
    rintro ⟨high, is_low⟩
    rcases apart with other | other
    · rw [high] at other
      cases other
    · rw [other low rfl] at is_low
      cases is_low

theorem not_surrogate (c : Char) : isSurrogate c.toNat = false := by
  rw [Bool.eq_false_iff, Ne, isSurrogate_iff]
  rcases c.valid with small | ⟨large, _⟩
  · exact fun both => absurd both.1 (Nat.not_le.2 small)
  · exact fun both => absurd large (Nat.not_lt.2 both.2)

theorem isHigh_iff {unit : Nat} : isHigh unit = true ↔ 0xD800 ≤ unit ∧ unit < 0xDC00 := by
  rw [isHigh, Bool.and_eq_true, decide_eq_true_eq, decide_eq_true_eq]

theorem isLow_iff {unit : Nat} : isLow unit = true ↔ 0xDC00 ≤ unit ∧ unit < 0xE000 := by
  rw [isLow, Bool.and_eq_true, decide_eq_true_eq, decide_eq_true_eq]

structure Whole (unit : Nat) (c : Char) : Prop where
  units : unitsOf c = [unit]
  char : charOfCode unit = c
  high : isHigh unit = (surrogate? c).any isHigh
  low : isLow unit = (surrogate? c).any isLow

structure Halves (high low : Nat) (c : Char) : Prop where
  units : unitsOf c = [high, low]
  char : Char.ofNat (joinUnits high low) = c
  plain : surrogate? c = none
  high : isHigh high = true
  low : isLow low = true

theorem exists_whole_or_halves (c : Char) : (∃ unit, Whole unit c) ∨ ∃ high low, Halves high low c := by
  cases found : surrogate? c with
  | some code =>
    obtain ⟨surrogate, same⟩ := of_surrogate? found
    have small : code < 0x10000 := by
      have := isSurrogate_iff.1 surrogate
      omega
    refine .inl ⟨code, ?_, ?_, ?_, ?_⟩
    · rw [unitsOf, found, Option.getD_some, codeUnits, if_pos small]
    · rw [charOfCode, if_pos surrogate, ← same, Char.ofNat_toNat]
    · rw [found, Option.any_some]
    · rw [found, Option.any_some]
  | none =>
    have apart := not_surrogate c
    have whole : charOfCode c.toNat = c := by
      rw [charOfCode, if_neg (Bool.eq_false_iff.1 apart), Char.ofNat_toNat]
    rw [Bool.eq_false_iff, Ne, isSurrogate_iff] at apart
    by_cases small : c.toNat < 0x10000
    · refine .inl ⟨c.toNat, ?_, whole, ?_, ?_⟩
      · rw [unitsOf, found, Option.getD_none, codeUnits, if_pos small]
      · rw [found, Option.any_none, Bool.eq_false_iff, Ne, isHigh_iff]
        omega
      · rw [found, Option.any_none, Bool.eq_false_iff, Ne, isLow_iff]
        omega
    · have valid := toNat_lt c
      obtain ⟨above, above_eq⟩ : ∃ above, c.toNat = 0x10000 + above := Nat.exists_eq_add_of_le (Nat.not_lt.1 small)
      have units : unitsOf c = [0xD800 + above / 0x400, 0xDC00 + above % 0x400] := by
        rw [unitsOf, found, Option.getD_none, codeUnits, if_neg small, above_eq, Nat.add_sub_cancel_left]
      have joined : joinUnits (0xD800 + above / 0x400) (0xDC00 + above % 0x400) = c.toNat := by
        unfold joinUnits
        omega
      refine .inr ⟨_, _, units, by rw [joined, Char.ofNat_toNat], found, ?_, ?_⟩
      · rw [isHigh_iff]
        omega
      · rw [isLow_iff]
        omega

/-- A character comes back unless it stands for a high half and a low one follows. -/
theorem charsOfUnits_unitsOf_append
    (apart : (surrogate? c).any isHigh = false ∨ ∀ low ∈ units.head?, isLow low = false) :
    charsOfUnits (unitsOf c ++ units) = c :: charsOfUnits units := by
  rcases exists_whole_or_halves c with ⟨unit, whole⟩ | ⟨high, low, halves⟩
  · rw [← whole.high] at apart
    rw [whole.units, List.singleton_append, charsOfUnits_cons apart, whole.char]
  · rw [halves.units, List.cons_append, List.singleton_append, charsOfUnits, halves.high, halves.low, Bool.and_true,
      if_pos rfl, halves.char]

theorem isLow_head_unitsOf (d : Char) (units : List Nat) :
    ∀ low ∈ (unitsOf d ++ units).head?, isLow low = (surrogate? d).any isLow := by
  intro low first
  rcases exists_whole_or_halves d with ⟨unit, whole⟩ | ⟨high, other, halves⟩
  · rw [whole.units] at first
    obtain rfl := Option.some.inj first
    exact whole.low
  · rw [halves.units] at first
    obtain rfl := Option.some.inj first
    have bounds := isHigh_iff.1 halves.high
    rw [halves.plain, Option.any_none, Bool.eq_false_iff, Ne, isLow_iff]
    omega

end

theorem charsOfUnits_flatMap (cs : List Char) : charsOfUnits (cs.flatMap unitsOf) = joinedChars cs := by
  induction cs using joinedChars.induct with
  | case1 high low rest halves ih =>
    have both := halves
    rw [areHalves, Bool.and_eq_true, Option.any_eq_true, Option.any_eq_true] at both
    obtain ⟨⟨code, found, is_high⟩, code', found', is_low⟩ := both
    have units {c : Char} {code : Nat} (found : surrogate? c = some code) : unitsOf c = [code] := by
      have bounds := isSurrogate_iff.1 (of_surrogate? found).1
      rw [unitsOf, found, Option.getD_some, codeUnits, if_pos (by omega)]
    rw [List.flatMap_cons, List.flatMap_cons, units found, units found', joinedChars, if_pos halves, found, found',
      List.singleton_append, List.singleton_append, charsOfUnits, is_high, is_low, Bool.and_true, if_pos rfl, ih]
    rfl
  | case2 high low rest apart ih =>
    rw [Bool.not_eq_true, areHalves, Bool.and_eq_false_iff] at apart
    rw [List.flatMap_cons, charsOfUnits_unitsOf_append, ih, joinedChars, if_neg]
    · rw [Bool.not_eq_true, areHalves, Bool.and_eq_false_iff]
      exact apart
    · refine apart.imp_right fun other unit first => ?_
      rw [List.flatMap_cons] at first
      rw [isLow_head_unitsOf low _ unit first, other]
  | case3 cs short =>
    match cs with
    | [] => rfl
    | [c] =>
      rw [List.flatMap_cons, List.flatMap_nil, charsOfUnits_unitsOf_append (.inr fun _ first => by cases first)]
      rfl
    | high :: low :: rest => exact (short high low rest rfl).elim

theorem length_joinedChars_le (cs : List Char) : (joinedChars cs).length ≤ cs.length := by
  induction cs using joinedChars.induct with
  | case1 high low rest halves ih =>
    rw [joinedChars, if_pos halves, List.length_cons, List.length_cons, List.length_cons]
    omega
  | case2 high low rest apart ih =>
    rw [joinedChars, if_neg apart, List.length_cons, List.length_cons]
    omega
  | case3 cs short =>
    rw [joinedChars]
    exact short

theorem joinedChars_eq_iff {cs : List Char} :
    joinedChars cs = cs ↔ cs.IsChain fun high low => areHalves high low = false := by
  induction cs using joinedChars.induct with
  | case1 high low rest halves ih =>
    refine iff_of_false (fun same => ?_) (fun chain => ?_)
    · have shorter := length_joinedChars_le rest
      have length := congrArg List.length same
      rw [joinedChars, if_pos halves, List.length_cons, List.length_cons, List.length_cons] at length
      omega
    · rw [(List.isChain_cons_cons.1 chain).1] at halves
      cases halves
  | case2 high low rest apart ih =>
    rw [joinedChars, if_neg apart, List.isChain_cons_cons, List.cons_inj_right, ih, Bool.not_eq_true] at *
    exact (and_iff_right apart).symm
  | case3 cs short =>
    match cs with
    | [] => exact iff_of_true rfl .nil
    | [c] => exact iff_of_true rfl (.singleton c)
    | high :: low :: rest => exact (short high low rest rfl).elim

theorem joinedText_eq_iff {text : String} : joinedText text = text ↔ Unsplit text := by
  rw [Unsplit, ← joinedChars_eq_iff, joinedText, String.ext_iff, String.toList_ofList]

theorem exists_quoted (text : String) : ∃ pieces : List Piece, (∀ piece ∈ pieces, piece.Allowed) ∧
    quotedPieces pieces = quote text ∧ textOf pieces = joinedText text := by
  obtain ⟨pieces, allowed, chars, units⟩ := exists_pieces text
  refine ⟨pieces, allowed, chars, ?_⟩
  rw [textOf, textOfUnits, units, charsOfUnits_flatMap, joinedText]

end CiPipeline.Json
