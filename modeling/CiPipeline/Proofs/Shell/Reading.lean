import CiPipeline.Proofs.Shell.Words
import Mathlib.Data.List.Forall2

/-! The words of a line as the shell reads them. In front of a line that can be split by the rules of quoting alone,
a reader finds the words of the line one after the other, and then the end of the text. -/
namespace CiPipeline.Shell

namespace Parse

variable {self : Reentry} {text middle rest : Octets} {words : List (List Char)} {c : Char}

theorem splitRest_joined (word : Option (List Char)) (text : Octets) :
    splitRest .none word (joined text).1 = splitRest .none word text := by
  fun_induction joined text with
  | case1 text rest count same ih =>
    rw [same] at ih
    rw [ih, splitRest, if_pos rfl]
  | case2 text _ => rfl

theorem length_joined_le (text : Octets) : (joined text).1.length ≤ text.length := by
  fun_induction joined text with
  | case1 text rest count same ih =>
    rw [same] at ih
    exact Nat.le_succ_of_le (Nat.le_succ_of_le ih)
  | case2 text _ => exact Nat.le_refl _

theorem joined_ne (text rest : Octets) : (joined text).1 ≠ '\\' :: '\n' :: rest := by
  fun_induction joined text with
  | case1 text rest count same ih => rwa [same] at ih
  | case2 text other => exact fun same => other _ same

theorem splitRest_opened (apart : separatesWords c = false) (unjoined : ∀ later, c :: text ≠ '\\' :: '\n' :: later) :
    splitRest .none (some []) (c :: text) = splitRest .none none (c :: text) := by
  by_cases escape : c = '\\'
  · subst escape
    cases text with
    | nil => rfl
    | cons next text =>
      have other : next ≠ '\n' := fun same => unjoined text (by rw [same])
      rw [splitRest, splitRest, if_neg other, if_neg other]
      rfl
  · rw [splitRest, splitRest, apart]
    · rfl
    · exact fun _ _ same => absurd same escape
    · exact fun _ _ same => absurd same escape

def Stands (words : List (List Char)) (rest : Octets) : Prop :=
  rest = [] ∧ words = [] ∨ ∃ c later, rest = c :: later ∧ splitRest .none (some []) (c :: later) = some words

theorem isBlankChar_eq : isBlankChar = separatesWords := rfl

theorem exists_takes_blanks (split : splitRest .none none text = some words) :
    ∃ blanks rest, Takes (takeWhile isBlankChar) text rest blanks ∧ Stands words rest := by
  have go (bound : Nat) (room : text.length ≤ bound) :
      ∃ blanks rest, Takes (takeWhile.go isBlankChar bound) text rest blanks ∧ Stands words rest := by
    induction bound generalizing text words with
    | zero =>
      obtain rfl := List.eq_nil_of_length_eq_zero (Nat.le_zero.1 room)
      exact ⟨[], [], takes_pure _ _, .inl ⟨rfl, (Option.some.inj split).symm⟩⟩
    | succ bound ih =>
      -- The reader looks behind the line feeds that a backslash takes away, so the line is split from there.
      rw [← splitRest_joined] at split
      have shorter := length_joined_le text
      have unjoined := joined_ne text
      have seen : Takes peekJoined? text (joined text).1 (joined text).1.head? := takes_peekJoined
      generalize (joined text).1 = rest at split shorter unjoined seen
      cases rest with
      | nil => exact ⟨[], [], seen.bind (takes_pure _ _), .inl ⟨rfl, (Option.some.inj split).symm⟩⟩
      | cons c rest =>
        rw [List.head?_cons] at seen
        by_cases separates : separatesWords c = true
        · rw [splitRest_separator separates, Option.map_eq_some_iff] at split
          obtain ⟨words, split, rfl⟩ := split
          obtain ⟨blanks, later, taken, stands⟩ := ih split (Nat.le_of_lt_succ (Nat.le_trans shorter room))
          refine ⟨c :: blanks, later, seen.bind ?_, stands⟩
          simp only [isBlankChar_eq, separates, if_true]
          exact (takes_advance c).bind (taken.bind (takes_pure _ _))
        · have apart := Bool.eq_false_iff.2 separates
          refine ⟨[], c :: rest, seen.bind ?_, .inr ⟨c, rest, rfl, ?_⟩⟩
          · simp only [isBlankChar_eq, apart]
            exact takes_pure _ _
          · rw [splitRest_opened apart unjoined, split]
  obtain ⟨blanks, rest, taken, stands⟩ := go text.length (Nat.le_refl _)
  exact ⟨blanks, rest, takes_get_bind fun _ free => free.rest ▸ taken, stands⟩

theorem not_mem_specialChars {open? : Option (List Char)} (split : splitRest .none open? (c :: text) = some words) :
    c ∉ specialChars := by
  intro special
  have rough : specialChars.all (fun c => !separatesWords c && !(['\'', '"', '\\'].contains c)) = true := by
    decide
  have other := List.all_eq_true.1 rough c special
  simp only [Bool.and_eq_true, Bool.not_eq_true', List.contains_eq_mem, decide_eq_false_iff_not, List.mem_cons,
    not_or] at other
  obtain ⟨apart, not_single, not_double, unescaped, _⟩ := other
  rw [splitRest, apart, if_neg (by decide), if_neg not_single, if_neg not_double, if_pos (by simp [special])] at split
  · cases split
  · exact fun _ _ same => absurd same unescaped

theorem takes_documents (self : Reentry) (text : Octets) : Takes (documents self) text text () := by
  have cleared : Takes (modify fun reader => { reader with awaited := [] }) text text () :=
    takes_modify fun _ free => ⟨free.rest, free.held, rfl⟩
  refine takes_get_bind fun reader free => cleared.bind ?_
  rw [free.awaited]
  exact takes_pure _ _

/-- A word of one digit is no number of a descriptor where nothing is redirected behind it. -/
theorem takes_wordToken {word : Word} {hasQuotes : Bool}
    (taken : Takes (self.segments .command) text rest (word, hasQuotes))
    (apart : ∀ c ∈ rest.head?, c ∉ specialChars) : Takes (wordToken self .command) text rest (.word word) := by
  refine taken.bind (takes_peek.bind ?_)
  split
  · rename_i digit c found
    have plain : ¬(c = '<' ∨ c = '>') := by
      rintro (rfl | rfl) <;> exact apart _ found (by decide)
    rw [if_neg (by simp [plain])]
    exact takes_pure _ _
  · exact takes_pure _ _

theorem takes_freshToken {blanks : Octets} {word : Word}
    (taken : Takes (takeWhile isBlankChar) text (c :: middle) blanks) (plain : c ∉ specialChars)
    (read : Takes (wordToken self .command) (c :: middle) rest (.word word)) :
    Takes (freshToken self .command) text rest (.word word) := by
  simp only [specialChars, List.mem_cons, not_or] at plain
  have uncommented : ((c :: middle).head? == some '#') = false := by simp [plain]
  refine taken.bind (takes_peek.bind ?_)
  rw [uncommented]
  refine takes_peek.bind ?_
  simpa [plain] using read

theorem takes_freshToken_end (self : Reentry) {blanks : Octets} (taken : Takes (takeWhile isBlankChar) text [] blanks) :
    Takes (freshToken self .command) text [] .endOfInput :=
  taken.bind (takes_peek.bind (takes_peek.bind ((takes_documents self []).bind (takes_pure _ _))))

theorem takes_tokenAt {token : Token} (taken : Takes (freshToken self .command) text rest token) :
    Takes (tokenAt self .command) text rest token := by
  refine takes_get_bind fun reader free => ?_
  rw [free.held]
  exact taken

theorem takes_token_end (taken : Takes (freshToken self .command) text rest .endOfInput) :
    Takes (token self false false) text rest .endOfInput :=
  (takes_tokenAt taken).bind ((takes_pure _ _).bind (takes_pure _ _))

theorem takes_token {word : Word} (taken : Takes (freshToken self .command) text rest (.word word)) :
    Takes (token self false false) text rest (.word word) := by
  refine (takes_tokenAt taken).bind ((takes_pure _ _).bind ?_)
  dsimp only
  split <;> exact takes_pure _ _

theorem exists_takes_wordsBefore (split : splitRest .none none text = some words) (depth : Nat) {bound : Nat}
    (room : words.length < bound) :
    ∃ read, Takes (wordsBefore (reentry (depth + 2)) bound) text [] (read, .endOfInput) ∧
      List.Forall₂ Word.Spells read words := by
  induction bound generalizing text words with
  | zero => cases room
  | succ bound ih =>
    obtain ⟨blanks, _, blank, ⟨rfl, rfl⟩ | ⟨c, behind, rfl, opened⟩⟩ := exists_takes_blanks split
    · have ended := takes_token_end (takes_freshToken_end (reentry (depth + 2)) blank)
      exact ⟨[], ended.bind (takes_pure _ _), .nil⟩
    · have reentered : (reentry (depth + 1)).segments .quotes = segments (reentry depth) .quotes := rfl
      obtain ⟨inside, rest, later, rfl, below, drafts⟩ := closes_of_splitRest reentered opened
      obtain ⟨word, hasQuotes, spelled, taken⟩ := Drafts.takes_segments drafts
      have apart : ∀ d ∈ rest.head?, d ∉ specialChars := by
        intro d first
        obtain ⟨rest, rfl⟩ := List.head?_eq_some_iff.1 first
        exact not_mem_specialChars below
      have read : Takes (wordToken (reentry (depth + 2)) .command) (c :: behind) rest (.word word) :=
        takes_wordToken taken apart
      obtain ⟨others, finished, spell⟩ := ih below (Nat.lt_of_succ_lt_succ room)
      have first := takes_token (takes_freshToken blank (not_mem_specialChars opened) read)
      exact ⟨word :: others, first.bind (finished.bind (takes_pure _ _)), .cons spelled spell⟩

end Parse

/-- The rules of quoting agree with the shell: a line that is split into words is read as these words. -/
theorem wordsBefore_of_splitWords? {line : Octets} {words : List (List Char)} (split : splitWords? line = some words)
    (depth nextDocument : Nat) {bound : Nat} (room : words.length < bound) :
    ∃ read reader, (Parse.wordsBefore (Parse.reentry (depth + 2)) bound).run (Reader.start line nextDocument) =
        .ok ((read, .endOfInput), reader) ∧
      List.Forall₂ Word.Spells read words := by
  obtain ⟨read, taken, spell⟩ := Parse.exists_takes_wordsBefore split depth room
  obtain ⟨reader, _, ran⟩ := taken (Reader.start line nextDocument) ⟨rfl, rfl, rfl⟩
  exact ⟨read, reader, ran, spell⟩

end CiPipeline.Shell
