import CiPipeline.Keyed
import CiPipeline.Proofs.Json.Numeral
import CiPipeline.Text.Digit

/-! The grammar of the data format, with the value that each of its texts stands for. Blanks may stand around every
value, and no word is allowed but `null`, `true` and `false`. A reader that follows the first character finds the
value of every text, so that no text stands for two values. -/
namespace CiPipeline.Json

open Number Text

/-- What stands for one unit of a text between quotes: a character, an escape by a letter, or an escape by four
hexadecimal digits. -/
inductive Piece
  | plain (c : Char)
  | short (letter : Char)
  | long (digits : List Char)

def shortEscapes : List (Char × Nat) :=
  [('"', 0x22), ('\\', 0x5C), ('/', 0x2F), ('b', 8), ('f', 12), ('n', 10), ('r', 13), ('t', 9)]

def hexValue (digits : List Char) : Nat :=
  digits.foldl (fun value digit => value * 16 + (hexDigitValue? digit).getD 0) 0

namespace Piece

def chars : Piece → List Char
  | plain c => [c]
  | short letter => ['\\', letter]
  | long digits => '\\' :: 'u' :: digits

def unit : Piece → Nat
  | plain c => c.toNat
  | short letter => (shortEscapes.lookup letter).getD 0
  | long digits => hexValue digits

def Allowed : Piece → Prop
  | plain c => 0x20 ≤ c.toNat ∧ c ≠ '"' ∧ c ≠ '\\'
  | short letter => (shortEscapes.lookup letter).isSome
  | long digits => digits.length = 4 ∧ ∀ digit ∈ digits, (hexDigitValue? digit).isSome

end Piece

def isHigh (unit : Nat) : Bool := 0xD800 ≤ unit && unit < 0xDC00

def isLow (unit : Nat) : Bool := 0xDC00 ≤ unit && unit < 0xE000

def joinUnits (high low : Nat) : Nat := 0x10000 + (high - 0xD800) * 0x400 + (low - 0xDC00)

/-- The characters for which units stand. A high half in front of a low one is one character with it. -/
def charsOfUnits : List Nat → List Char
  | high :: low :: rest =>
    if isHigh high && isLow low then Char.ofNat (joinUnits high low) :: charsOfUnits rest
    else charOfCode high :: charsOfUnits (low :: rest)
  | [unit] => [charOfCode unit]
  | [] => []

def textOfUnits (units : List Nat) : String := String.ofList (charsOfUnits units)

def quotedPieces (pieces : List Piece) : List Char := '"' :: (pieces.flatMap Piece.chars ++ ['"'])

def textOf (pieces : List Piece) : String := textOfUnits (pieces.map Piece.unit)

def isSpace (c : Char) : Bool := c == ' ' || c == '\t' || c == '\n' || c == '\r'

def Spaces (cs : List Char) : Prop := ∀ c ∈ cs, isSpace c = true

/-- The kinds of texts that the grammar derives: a value, a value between blanks, such values with commas between
them, and the same for names with values. -/
inductive Phrase
  | value (value : Json)
  | element (value : Json)
  | elements (values : List Json)
  | member (entry : String × Json)
  | members (entries : List (String × Json))

/-- What the grammar derives. Of several values with one name in an object the last one counts. -/
inductive Derives : Phrase → List Char → Prop
  | null : Derives (.value .null) ['n', 'u', 'l', 'l']
  | yes : Derives (.value (.bool true)) ['t', 'r', 'u', 'e']
  | no : Derives (.value (.bool false)) ['f', 'a', 'l', 's', 'e']
  | number {spelling : Spelling} (formed : spelling.WellFormed) : Derives (.value spelling.value) spelling.chars
  | text {pieces : List Piece} (allowed : ∀ piece ∈ pieces, piece.Allowed) :
      Derives (.value (.text (textOf pieces))) (quotedPieces pieces)
  | emptyList {blanks : List Char} (spaces : Spaces blanks) : Derives (.value (.list [])) ('[' :: (blanks ++ [']']))
  | list {values : List Json} {cs : List Char} (inside : Derives (.elements values) cs) :
      Derives (.value (.list values)) ('[' :: (cs ++ [']']))
  | emptyObject {blanks : List Char} (spaces : Spaces blanks) :
      Derives (.value (.object [])) ('\x7b' :: (blanks ++ ['\x7d']))
  | object {entries : List (String × Json)} {cs : List Char} (inside : Derives (.members entries) cs) :
      Derives (.value (.object (Keyed.ofPairs entries))) ('\x7b' :: (cs ++ ['\x7d']))
  | element {value : Json} {before cs after : List Char} (front : Spaces before) (back : Spaces after)
      (inside : Derives (.value value) cs) : Derives (.element value) (before ++ (cs ++ after))
  | lastElement {value : Json} {cs : List Char} (last : Derives (.element value) cs) : Derives (.elements [value]) cs
  | moreElements {value : Json} {values : List Json} {cs others : List Char} (first : Derives (.element value) cs)
      (more : Derives (.elements values) others) : Derives (.elements (value :: values)) (cs ++ ',' :: others)
  | member {pieces : List Piece} {value : Json} {before cs after : List Char} (front : Spaces before)
      (back : Spaces after) (allowed : ∀ piece ∈ pieces, piece.Allowed) (inside : Derives (.element value) cs) :
      Derives (.member (textOf pieces, value)) (before ++ (quotedPieces pieces ++ (after ++ ':' :: cs)))
  | lastMember {entry : String × Json} {cs : List Char} (last : Derives (.member entry) cs) :
      Derives (.members [entry]) cs
  | moreMembers {entry : String × Json} {entries : List (String × Json)} {cs others : List Char}
      (first : Derives (.member entry) cs) (more : Derives (.members entries) others) :
      Derives (.members (entry :: entries)) (cs ++ ',' :: others)

/-- A text is a document of the data format that stands for a value. -/
def IsText (text : String) (value : Json) : Prop := Derives (.element value) text.toList

abbrev Reader (α : Type) := List Char → Option (α × List Char)

def skipSpaces (cs : List Char) : List Char := cs.dropWhile isSpace

def readUnits? : Reader (List Nat)
  | [] => none
  | '"' :: rest => some ([], rest)
  | '\\' :: 'u' :: a :: b :: c :: d :: rest =>
    (readUnits? rest).map fun found => (hexValue [a, b, c, d] :: found.1, found.2)
  | '\\' :: letter :: rest =>
    (readUnits? rest).map fun found => ((shortEscapes.lookup letter).getD 0 :: found.1, found.2)
  | c :: rest => (readUnits? rest).map fun found => (c.toNat :: found.1, found.2)

def readElement? (read : Reader Json) : Reader Json := fun cs =>
  (read (skipSpaces cs)).map fun found => (found.1, skipSpaces found.2)

def readMember? (read : Reader Json) : Reader (String × Json) := fun cs =>
  match skipSpaces cs with
  | '"' :: rest =>
    (readUnits? rest).bind fun name =>
      match skipSpaces name.2 with
      | ':' :: rest => (readElement? read rest).map fun found => ((textOfUnits name.1, found.1), found.2)
      | _ => none
  | _ => none

section

variable {α : Type} (read : Reader α) (closing : Char)

def readParts? : Nat → Reader (List α)
  | 0, _ => none
  | count + 1, cs =>
    match read cs with
    | some (part, ',' :: rest) => (readParts? count rest).map fun found => (part :: found.1, found.2)
    | some (part, c :: rest) => if c = closing then some ([part], rest) else none
    | _ => none

def readBracketed? (count : Nat) : Reader (List α) := fun cs =>
  match skipSpaces cs with
  | [] => none
  | c :: rest => if c = closing then some ([], rest) else readParts? read closing count cs

end

/-- Reads a value that is nested at most so deeply, and in which so many parts stand side by side. -/
def readValue? : Nat → Reader Json
  | 0, _ => none
  | fuel + 1, cs =>
    match cs with
    | 'n' :: 'u' :: 'l' :: 'l' :: rest => some (.null, rest)
    | 't' :: 'r' :: 'u' :: 'e' :: rest => some (.bool true, rest)
    | 'f' :: 'a' :: 'l' :: 's' :: 'e' :: rest => some (.bool false, rest)
    | '"' :: rest => (readUnits? rest).map fun found => (.text (textOfUnits found.1), found.2)
    | '[' :: rest => (readBracketed? (readElement? (readValue? fuel)) ']' fuel rest).map fun found =>
        (.list found.1, found.2)
    | '\x7b' :: rest => (readBracketed? (readMember? (readValue? fuel)) '\x7d' fuel rest).map fun found =>
        (.object (Keyed.ofPairs found.1), found.2)
    | cs => (readNumber? cs).map fun found => (found.1.value, found.2)

section

variable {rest : List Char}

theorem readUnits?_append {pieces : List Piece} (allowed : ∀ piece ∈ pieces, piece.Allowed) :
    readUnits? (pieces.flatMap Piece.chars ++ '"' :: rest) = some (pieces.map Piece.unit, rest) := by
  induction pieces with
  | nil => rfl
  | cons piece pieces ih =>
    obtain ⟨first, later⟩ := List.forall_mem_cons.1 allowed
    rw [List.flatMap_cons, List.append_assoc]
    cases piece with
    | plain c =>
      obtain ⟨_, not_quote, not_escape⟩ := first
      rw [Piece.chars, List.singleton_append, readUnits?, ih later]
      · rfl
      · exact not_quote
      · rintro a b c' d rest' same
        exact fun _ => not_escape same
      · rintro letter rest' same
        exact fun _ => not_escape same
    | short letter =>
      have not_long : letter ≠ 'u' := by
        rintro rfl
        cases first
      rw [Piece.chars, List.cons_append, List.singleton_append, readUnits?, ih later]
      · rfl
      · rintro a b c d rest' same
        exact fun _ => not_long same
    | long digits =>
      obtain ⟨length, _⟩ := first
      match digits, length with
      | [a, b, c, d], _ =>
        rw [Piece.chars, List.cons_append, List.cons_append, List.cons_append, List.cons_append, List.cons_append,
          List.cons_append, List.nil_append, readUnits?, ih later]
        rfl

theorem skipSpaces_append {blanks : List Char} (spaces : Spaces blanks) (cs : List Char) :
    skipSpaces (blanks ++ cs) = skipSpaces cs := List.dropWhile_append_of_pos spaces

theorem skipSpaces_cons {c : Char} (other : isSpace c = false) (cs : List Char) : skipSpaces (c :: cs) = c :: cs := by
  rw [skipSpaces, List.dropWhile_cons, if_neg (Bool.eq_false_iff.1 other)]

def opens (c : Char) : Bool := c == 'n' || c == 't' || c == 'f' || c == '"' || c == '[' || c == '\x7b' || c == '-' ||
  isDigitChar c

theorem isSpace_of_opens {c : Char} (opening : opens c = true) : isSpace c = false := by
  rw [Bool.eq_false_iff]
  intro space
  simp only [isSpace, Bool.or_eq_true, beq_iff_eq] at space
  rcases space with ((rfl | rfl) | rfl) | rfl <;> exact absurd opening (by decide)

theorem head_of_value {value : Json} {cs : List Char} (derived : Derives (.value value) cs) :
    ∃ c tail, cs = c :: tail ∧ opens c = true := by
  cases derived with
  | number formed =>
    obtain ⟨c, tail, same, first⟩ := formed.head
    refine ⟨c, tail, same, ?_⟩
    rcases first with rfl | digit
    · rfl
    · rw [opens, digit, Bool.or_true]
  | _ => exact ⟨_, _, rfl, rfl⟩

theorem head_of_phrase {phrase : Phrase} {cs : List Char} (derived : Derives phrase cs) (rest : List Char) :
    ∃ c tail, skipSpaces (cs ++ rest) = c :: tail ∧ opens c = true := by
  have at_once {value : Json} {cs : List Char} (derived : Derives (.value value) cs) (rest : List Char) :
      ∃ c tail, skipSpaces (cs ++ rest) = c :: tail ∧ opens c = true := by
    obtain ⟨c, tail, rfl, opening⟩ := head_of_value derived
    exact ⟨c, tail ++ rest, skipSpaces_cons (isSpace_of_opens opening) _, opening⟩
  induction derived generalizing rest with
  | element front _ _ ih =>
    rw [List.append_assoc, List.append_assoc, skipSpaces_append front]
    exact ih _
  | lastElement _ ih => exact ih rest
  | moreElements _ _ ih _ =>
    rw [List.append_assoc]
    exact ih _
  | member front _ _ _ _ =>
    rw [List.append_assoc, skipSpaces_append front]
    exact ⟨'"', _, rfl, rfl⟩
  | lastMember _ ih => exact ih rest
  | moreMembers _ _ ih _ =>
    rw [List.append_assoc]
    exact ih _
  | list inside => exact at_once (.list inside) rest
  | object inside => exact at_once (.object inside) rest
  | _ => exact at_once (by constructor <;> assumption) rest

theorem length_pos_of_derives {phrase : Phrase} {cs : List Char} (derived : Derives phrase cs) : 0 < cs.length := by
  rw [List.length_pos_iff]
  rintro rfl
  obtain ⟨c, tail, same, _⟩ := head_of_phrase derived []
  cases same

def Closes (rest : List Char) : Prop := ∀ c ∈ rest.head?, c = ',' ∨ c = ']' ∨ c = '\x7d'

theorem Closes.comma : Closes (',' :: rest) := fun _ first => .inl (Option.some.inj first).symm

theorem Closes.bracket : Closes (']' :: rest) := fun _ first => .inr (.inl (Option.some.inj first).symm)

theorem Closes.brace : Closes ('\x7d' :: rest) := fun _ first => .inr (.inr (Option.some.inj first).symm)

theorem Closes.nil : Closes [] := fun _ first => by cases first

theorem Closes.ends (closes : Closes rest) {blanks : List Char} (spaces : Spaces blanks) : Ends (blanks ++ rest) := by
  intro c first
  cases blanks with
  | nil => rcases closes c first with rfl | rfl | rfl <;> rfl
  | cons blank blanks =>
    obtain rfl := Option.some.inj first
    have space := spaces _ List.mem_cons_self
    simp only [isSpace, Bool.or_eq_true, beq_iff_eq] at space
    rcases space with ((rfl | rfl) | rfl) | rfl <;> rfl

theorem Closes.skipSpaces_eq (closes : Closes rest) : skipSpaces rest = rest := by
  cases rest with
  | nil => rfl
  | cons c rest =>
    refine skipSpaces_cons ?_ rest
    rcases closes c rfl with rfl | rfl | rfl <;> rfl

section

variable {α : Type} {read : Reader α} {closing : Char} {count : Nat} {cs : List Char} {part : α} {parts : List α}

theorem readParts?_last (counted : 0 < count) (found : read cs = some (part, closing :: rest))
    (other : closing ≠ ',') : readParts? read closing count cs = some ([part], rest) := by
  obtain ⟨count, rfl⟩ := Nat.exists_eq_succ_of_ne_zero counted.ne'
  rw [readParts?, found]
  simp

theorem readParts?_comma (found : read cs = some (part, ',' :: rest)) :
    readParts? read closing (count + 1) cs =
      (readParts? read closing count rest).map fun more => (part :: more.1, more.2) := by
  rw [readParts?, found]
  rfl

theorem readParts?_none (lost : read cs = none) : readParts? read closing count cs = none := by
  cases count with
  | zero => rfl
  | succ count => rw [readParts?, lost]

theorem readMember?_quoted {read : Reader Json} {before after : List Char} (front : Spaces before)
    {pieces : List Piece} (allowed : ∀ piece ∈ pieces, piece.Allowed) (back : Spaces after) :
    readMember? read (before ++ (quotedPieces pieces ++ (after ++ ':' :: cs))) =
      (readElement? read cs).map fun found => ((textOf pieces, found.1), found.2) := by
  have quote : skipSpaces (before ++ (quotedPieces pieces ++ (after ++ ':' :: cs))) =
      '"' :: (pieces.flatMap Piece.chars ++ '"' :: (after ++ ':' :: cs)) := by
    rw [skipSpaces_append front, quotedPieces, List.cons_append, List.append_assoc, List.singleton_append]
    exact skipSpaces_cons rfl _
  have colon : skipSpaces (after ++ ':' :: cs) = ':' :: cs := by
    rw [skipSpaces_append back]
    exact skipSpaces_cons rfl _
  simp [readMember?, quote, readUnits?_append allowed, colon, textOf]

theorem readBracketed?_of_parts (opening : ∃ c tail, skipSpaces cs = c :: tail ∧ opens c = true)
    (shut : opens closing = false) (found : readParts? read closing count cs = some (parts, rest)) :
    readBracketed? read closing count cs = some (parts, rest) := by
  obtain ⟨c, tail, same, opening⟩ := opening
  rw [readBracketed?, same]
  dsimp only
  rw [if_neg, found]
  rintro rfl
  rw [opening] at shut
  cases shut

theorem readBracketed?_empty {blanks : List Char} (spaces : Spaces blanks) (other : isSpace closing = false) :
    readBracketed? read closing count (blanks ++ closing :: rest) = some ([], rest) := by
  rw [readBracketed?, skipSpaces_append spaces, skipSpaces_cons other]
  dsimp only
  rw [if_pos rfl]

end

def Phrase.Found (fuel count : Nat) : Phrase → List Char → Prop
  | value v, cs => ∀ rest, Ends rest → readValue? fuel (cs ++ rest) = some (v, rest)
  | element v, cs => ∀ rest, Closes rest → readElement? (readValue? fuel) (cs ++ rest) = some (v, rest)
  | elements vs, cs => ∀ rest,
      readParts? (readElement? (readValue? fuel)) ']' count (cs ++ ']' :: rest) = some (vs, rest)
  | member entry, cs => ∀ rest, Closes rest → readMember? (readValue? fuel) (cs ++ rest) = some (entry, rest)
  | members entries, cs => ∀ rest,
      readParts? (readMember? (readValue? fuel)) '\x7d' count (cs ++ '\x7d' :: rest) = some (entries, rest)

theorem readValue?_number {fuel : Nat} {cs : List Char} {c : Char} (first : c = '-' ∨ isDigitChar c = true) :
    readValue? (fuel + 1) (c :: cs) = (readNumber? (c :: cs)).map fun found => (found.1.value, found.2) := by
  have other : ∀ d ∈ ['n', 't', 'f', '"', '[', '\x7b'], c ≠ d := by
    rintro d member rfl
    rcases first with rfl | digit
    · exact absurd member (by decide)
    · have none : ['n', 't', 'f', '"', '[', '\x7b'].all (!isDigitChar ·) = true := by decide
      have other := List.all_eq_true.1 none c member
      rw [digit] at other
      cases other
  rw [readValue?]
  all_goals
    intros
    first
    | exact other _ (by decide) ‹_›
    | rename_i same
      exact other _ (by decide) (List.cons.inj same).1

theorem found_of_derives {phrase : Phrase} {cs : List Char} (derived : Derives phrase cs) {fuel count : Nat}
    (deep : cs.length ≤ fuel) (wide : cs.length ≤ count) : phrase.Found fuel count cs := by
  -- Every bracket and every comma is a character, so the length bounds how deep values are and how many stand together.
  induction derived generalizing fuel count with
  | null =>
    obtain ⟨fuel, rfl⟩ := Nat.exists_eq_succ_of_ne_zero (Nat.ne_zero_of_lt deep)
    exact fun _ _ => rfl
  | yes =>
    obtain ⟨fuel, rfl⟩ := Nat.exists_eq_succ_of_ne_zero (Nat.ne_zero_of_lt deep)
    exact fun _ _ => rfl
  | no =>
    obtain ⟨fuel, rfl⟩ := Nat.exists_eq_succ_of_ne_zero (Nat.ne_zero_of_lt deep)
    exact fun _ _ => rfl
  | number formed =>
    intro rest ends
    have read := readNumber?_append ends formed
    obtain ⟨c, tail, same, first⟩ := formed.head
    rw [same] at deep read ⊢
    obtain ⟨fuel, rfl⟩ := Nat.exists_eq_succ_of_ne_zero (Nat.ne_zero_of_lt deep)
    rw [List.cons_append] at read ⊢
    rw [readValue?_number first, read]
    rfl
  | text allowed =>
    obtain ⟨fuel, rfl⟩ := Nat.exists_eq_succ_of_ne_zero (Nat.ne_zero_of_lt deep)
    intro rest _
    rw [quotedPieces, List.cons_append, List.append_assoc, List.singleton_append, readValue?,
      readUnits?_append allowed]
    rfl
  | emptyList spaces =>
    obtain ⟨fuel, rfl⟩ := Nat.exists_eq_succ_of_ne_zero (Nat.ne_zero_of_lt deep)
    intro rest _
    rw [List.cons_append, List.append_assoc, List.singleton_append, readValue?, readBracketed?_empty spaces rfl]
    rfl
  | list inside ih =>
    obtain ⟨fuel, rfl⟩ := Nat.exists_eq_succ_of_ne_zero (Nat.ne_zero_of_lt deep)
    intro rest _
    rw [List.length_cons, List.length_append] at deep
    rw [List.cons_append, List.append_assoc, List.singleton_append, readValue?,
      readBracketed?_of_parts (head_of_phrase inside _) rfl (ih (by omega) (by omega) rest)]
    rfl
  | emptyObject spaces =>
    obtain ⟨fuel, rfl⟩ := Nat.exists_eq_succ_of_ne_zero (Nat.ne_zero_of_lt deep)
    intro rest _
    rw [List.cons_append, List.append_assoc, List.singleton_append, readValue?, readBracketed?_empty spaces rfl]
    rfl
  | object inside ih =>
    obtain ⟨fuel, rfl⟩ := Nat.exists_eq_succ_of_ne_zero (Nat.ne_zero_of_lt deep)
    intro rest _
    rw [List.length_cons, List.length_append] at deep
    rw [List.cons_append, List.append_assoc, List.singleton_append, readValue?,
      readBracketed?_of_parts (head_of_phrase inside _) rfl (ih (by omega) (by omega) rest)]
    rfl
  | @element value before cs after front back inside ih =>
    intro rest closes
    rw [List.length_append, List.length_append] at deep wide
    obtain ⟨c, tail, same, opening⟩ := head_of_value inside
    have read := @ih fuel count (by omega) (by omega) (after ++ rest) (closes.ends back)
    have skipped : skipSpaces (before ++ (cs ++ (after ++ rest))) = cs ++ (after ++ rest) := by
      rw [skipSpaces_append front, same]
      exact skipSpaces_cons (isSpace_of_opens opening) _
    rw [List.append_assoc, List.append_assoc, readElement?, skipped, read, Option.map_some, skipSpaces_append back,
      closes.skipSpaces_eq]
  | lastElement last ih =>
    have counted := (length_pos_of_derives last).trans_le wide
    exact fun rest => readParts?_last counted (ih deep wide _ .bracket) (by decide)
  | moreElements first more ih ih' =>
    rw [List.length_append, List.length_cons] at deep wide
    obtain ⟨count, rfl⟩ := Nat.exists_eq_succ_of_ne_zero (Nat.ne_zero_of_lt ((Nat.succ_pos _).trans_le
      ((Nat.le_add_left ..).trans wide)))
    intro rest
    rw [List.append_assoc, List.cons_append]
    rw [readParts?_comma (@ih fuel count (by omega) (by omega) _ .comma), ih' (by omega) (by omega) rest]
    rfl
  | member front back allowed inside ih =>
    intro rest closes
    rw [List.length_append, List.length_append, List.length_append, List.length_cons] at deep wide
    have read := @ih fuel count (by omega) (by omega) rest closes
    rw [List.append_assoc, List.append_assoc, List.append_assoc, List.cons_append,
      readMember?_quoted front allowed back, read]
    rfl
  | lastMember last ih =>
    have counted := (length_pos_of_derives last).trans_le wide
    exact fun rest => readParts?_last counted (ih deep wide _ .brace) (by decide)
  | moreMembers first more ih ih' =>
    rw [List.length_append, List.length_cons] at deep wide
    obtain ⟨count, rfl⟩ := Nat.exists_eq_succ_of_ne_zero (Nat.ne_zero_of_lt ((Nat.succ_pos _).trans_le
      ((Nat.le_add_left ..).trans wide)))
    intro rest
    rw [List.append_assoc, List.cons_append]
    rw [readParts?_comma (@ih fuel count (by omega) (by omega) _ .comma), ih' (by omega) (by omega) rest]
    rfl

end

def read? (text : String) : Option Json :=
  match readElement? (readValue? text.toList.length) text.toList with
  | some (value, []) => some value
  | _ => none

theorem read?_of_isText {text : String} {value : Json} (document : IsText text value) : read? text = some value := by
  have found := found_of_derives document (Nat.le_refl _) (Nat.le_refl _) [] .nil
  rw [List.append_nil] at found
  rw [read?, found]

theorem isText_unique {text : String} {value other : Json} (document : IsText text value)
    (document' : IsText text other) : value = other :=
  Option.some.inj ((read?_of_isText document).symm.trans (read?_of_isText document'))

end CiPipeline.Json
