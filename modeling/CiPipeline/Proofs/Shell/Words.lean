import CiPipeline.Proofs.Shell.Quoting

/-! Words as the reader of the shell takes them. Where a line can be split by the rules of quoting alone, the word that
is open on it is read up to the same place, and what was read is nothing but the text of this word. -/
namespace CiPipeline.Shell

def Segment.isText : Segment → Bool
  | .plain _ | .quoted _ => true
  | _ => false

structure Word.Spells (word : Word) (text : Octets) : Prop where
  isText : ∀ segment ∈ word, segment.isText = true
  text : Parse.delimiterText word = text

namespace Word

variable {word others : Word} {front back text : Octets}

theorem spells_nil : Spells [] [] := ⟨nofun, rfl⟩

theorem spells_plain (text : Octets) : Spells [.plain text] text :=
  ⟨by simp [Segment.isText], by simp [Parse.delimiterText]⟩

theorem spells_quoted (text : Octets) : Spells [.quoted text] text :=
  ⟨by simp [Segment.isText], by simp [Parse.delimiterText]⟩

theorem delimiterText_append (word others : Word) :
    Parse.delimiterText (word ++ others) = Parse.delimiterText word ++ Parse.delimiterText others :=
  List.flatMap_append

theorem Spells.append (first : word.Spells front) (second : others.Spells back) :
    (word ++ others).Spells (front ++ back) :=
  ⟨List.forall_mem_append.2 ⟨first.isText, second.isText⟩, by rw [delimiterText_append, first.text, second.text]⟩

theorem delimiterText_merge (word : Word) :
    Parse.delimiterText (Drafted.merge word) = Parse.delimiterText word := by
  fun_induction Drafted.merge word with
  | case1 => rfl
  | case2 others front back later merged ih | case3 others front back later merged ih =>
    rw [← List.singleton_append (l := others), delimiterText_append, ← ih, merged]
    simp [Parse.delimiterText]
  | case4 others segment _ _ ih =>
    rw [← List.singleton_append, delimiterText_append, ih, ← delimiterText_append, List.singleton_append]

theorem isText_of_mem_merge (isText : ∀ segment ∈ word, segment.isText = true) :
    ∀ segment ∈ Drafted.merge word, segment.isText = true := by
  fun_induction Drafted.merge word with
  | case1 => exact isText
  | case2 others front back later merged ih | case3 others front back later merged ih =>
    rw [merged] at ih
    exact List.forall_mem_cons.2 ⟨rfl, (List.forall_mem_cons.1 (ih (List.forall_mem_cons.1 isText).2)).2⟩
  | case4 others segment _ _ ih =>
    obtain ⟨first, later⟩ := List.forall_mem_cons.1 isText
    exact List.forall_mem_cons.2 ⟨first, ih later⟩

theorem Spells.merge (spelled : word.Spells text) : Spells (Drafted.merge word) text :=
  ⟨isText_of_mem_merge spelled.isText, (delimiterText_merge word).trans spelled.text⟩

end Word

/-- A reader in front of a text, without a token that was put back and without a here-document to come. -/
structure Reader.Free (reader : Reader) (text : Octets) : Prop where
  rest : reader.rest = text
  held : reader.held = none
  awaited : reader.awaited = []

namespace Parse

section

variable {α β : Type} {text middle rest : Octets}

def Takes (parse : Parse α) (text rest : Octets) (value : α) : Prop :=
  ∀ reader : Reader, reader.Free text → ∃ later : Reader, later.Free rest ∧ parse.run reader = .ok (value, later)

theorem takes_pure (text : Octets) (value : α) : Takes (pure value) text text value :=
  fun reader free => ⟨reader, free, rfl⟩

theorem Takes.bind {first : Parse α} {next : α → Parse β} {a : α} {b : β} (taken : Takes first text middle a)
    (followed : Takes (next a) middle rest b) : Takes (first >>= next) text rest b := by
  intro reader free
  obtain ⟨between, free, ran⟩ := taken reader free
  obtain ⟨later, free, ended⟩ := followed between free
  refine ⟨later, free, ?_⟩
  rw [StateT.run_bind, ran]
  exact ended

theorem takes_get_bind {next : Reader → Parse β} {b : β}
    (followed : ∀ reader : Reader, reader.Free text → Takes (next reader) text rest b) :
    Takes (get >>= next) text rest b :=
  fun reader free => followed reader free reader free

theorem takes_modify {change : Reader → Reader}
    (freed : ∀ reader : Reader, reader.Free text → (change reader).Free rest) :
    Takes (modify change) text rest () :=
  fun reader free => ⟨change reader, freed reader free, rfl⟩

theorem takes_peek : Takes peek? text text text.head? :=
  takes_get_bind fun _ free => free.rest ▸ takes_pure _ _

theorem takes_bound : Takes bound text text (text.length + 1) :=
  takes_get_bind fun _ free => free.rest ▸ takes_pure _ _

theorem takes_advance (c : Char) : Takes advance (c :: text) text () := by
  refine takes_modify fun reader free => ?_
  rw [free.rest]
  exact ⟨rfl, free.held, free.awaited⟩

theorem takes_peekJoined : Takes peekJoined? text (joined text).1 (joined text).1.head? := by
  refine Takes.bind (takes_modify fun reader free => ?_) takes_peek
  exact ⟨congrArg (fun rest => (joined rest).1) free.rest, free.held, free.awaited⟩

theorem takes_singleQuoted {quoted : Octets} (unclosed : '\'' ∉ quoted) :
    Takes singleQuoted (quoted ++ '\'' :: rest) rest quoted := by
  have go (bound : Nat) (room : quoted.length < bound) :
      Takes (singleQuoted.go bound) (quoted ++ '\'' :: rest) rest quoted := by
    induction quoted generalizing bound with
    | nil =>
      obtain ⟨bound, rfl⟩ := Nat.exists_eq_succ_of_ne_zero (Nat.ne_zero_of_lt room)
      exact takes_peek.bind ((takes_advance _).bind (takes_pure _ _))
    | cons c quoted ih =>
      obtain ⟨bound, rfl⟩ := Nat.exists_eq_succ_of_ne_zero (Nat.ne_zero_of_lt room)
      obtain ⟨other, unclosed⟩ := not_or.1 (mt List.mem_cons.2 unclosed)
      refine takes_peek.bind ((takes_advance _).bind ?_)
      rw [if_neg (Ne.symm other)]
      exact (ih unclosed bound (Nat.lt_of_succ_lt_succ room)).bind (takes_pure _ _)
  exact takes_bound.bind (go _ (by rw [List.length_append]; omega))

end

variable {self within : Reentry} {place : Place} {text middle rest inside : Octets} {word : Word} {c : Char}

def Passes (self : Reentry) (place : Place) (text middle : Octets) (word : Word) : Prop :=
  ∀ bound depth sofar, ∃ hasQuotes, ∀ rest after,
    Takes (drafted self place bound depth ⟨word.reverse ++ sofar.segments, hasQuotes⟩) middle rest after →
      Takes (drafted self place (bound + 1) depth sofar) text rest after

theorem endsWord_of_isBare (bare : isBare c = true) : endsWord c = false := by
  have rough : [' ', '\t', '\n', ';', '&', '|', '<', '>', '(', ')'].all (!isBare ·) = true := by decide
  refine Bool.eq_false_iff.2 fun ends => ?_
  have other := List.all_eq_true.1 rough c (List.contains_iff_mem.1 ends)
  rw [bare] at other
  cases other

theorem passes_bare (bare : isBare c = true) : Passes self .command (c :: text) text [.plain [c]] := by
  refine fun bound depth sofar => ⟨sofar.hasQuotes, fun rest after later => ?_⟩
  rw [drafted.eq_def]
  refine takes_peek.bind ?_
  rw [List.head?_cons]
  dsimp only
  split <;> rename_i found
  case h_1 => cases found
  case h_7 =>
    obtain rfl := Option.some.inj found
    rw [endsWord_of_isBare bare]
    exact (takes_advance c).bind later
  -- Every other character has a meaning of its own.
  all_goals
    obtain rfl := Option.some.inj found
    exact absurd bare (by decide)

theorem passes_lineFeed (text : Octets) : Passes self place ('\\' :: '\n' :: text) text [] := by
  refine fun bound depth sofar => ⟨sofar.hasQuotes, fun rest after later => ?_⟩
  have dropped : Takes (escaped place sofar) ('\n' :: text) text sofar :=
    takes_peek.bind ((takes_advance _).bind (takes_pure _ _))
  rw [drafted.eq_def]
  exact takes_peek.bind ((takes_advance _).bind (dropped.bind later))

theorem takes_escaped (place : Place) (sofar : Drafted) (other : c ≠ '\n') :
    Takes (escaped place sofar) (c :: text) (if isEscapable place c then text else c :: text)
      (if isEscapable place c then sofar.quoted [c] else sofar.literal place '\\') := by
  refine takes_peek.bind ?_
  rw [List.head?_cons]
  split <;> rename_i found
  · cases found
  · exact absurd (Option.some.inj found) other
  · obtain rfl := Option.some.inj found
    split
    · exact (takes_advance _).bind (takes_pure _ _)
    · exact takes_pure _ _

theorem passes_escaped (other : c ≠ '\n') (escapable : isEscapable place c = true) :
    Passes self place ('\\' :: c :: text) text [.quoted [c]] := by
  refine fun bound depth sofar => ⟨true, fun rest after later => ?_⟩
  have taken : Takes (escaped place sofar) (c :: text) _ _ := takes_escaped place sofar other
  rw [if_pos escapable, if_pos escapable] at taken
  rw [drafted.eq_def]
  exact takes_peek.bind ((takes_advance _).bind (taken.bind later))

/-- Between double quotes a backslash stands for itself in front of most characters, which are still to be read. -/
theorem passes_backslash (other : c ≠ '\n') (plain : isEscapable .quotes c ≠ true) :
    Passes self .quotes ('\\' :: c :: text) (c :: text) [.quoted ['\\']] := by
  refine fun bound depth sofar => ⟨sofar.hasQuotes, fun rest after later => ?_⟩
  have taken : Takes (escaped .quotes sofar) (c :: text) _ _ := takes_escaped .quotes sofar other
  rw [if_neg plain, if_neg plain] at taken
  rw [drafted.eq_def]
  exact takes_peek.bind ((takes_advance _).bind (taken.bind later))

theorem passes_inQuotes (plain : escapedChars.contains c ≠ true) :
    Passes self .quotes (c :: text) text [.quoted [c]] := by
  refine fun bound depth sofar => ⟨sofar.hasQuotes, fun rest after later => ?_⟩
  rw [drafted.eq_def]
  refine takes_peek.bind ?_
  rw [List.head?_cons]
  dsimp only
  split <;> rename_i found
  case h_1 => cases found
  case h_4 | h_7 =>
    obtain rfl := Option.some.inj found
    exact (takes_advance _).bind later
  all_goals
    obtain rfl := Option.some.inj found
    exact absurd (by decide) plain

theorem passes_singleQuoted {quoted : Octets} (unclosed : '\'' ∉ quoted) :
    Passes self .command ('\'' :: (quoted ++ '\'' :: text)) text [.quoted quoted] := by
  refine fun bound depth sofar => ⟨true, fun rest after later => ?_⟩
  rw [drafted.eq_def]
  exact takes_peek.bind ((takes_advance _).bind ((takes_singleQuoted unclosed).bind later))

structure Drafts (way : Reentry) (place : Place) (text rest inside : Octets) : Prop where
  behind : rest.length ≤ text.length
  takes : ∀ bound depth sofar, text.length < bound → ∃ word hasQuotes, Word.Spells word inside ∧
    Takes (drafted way place bound depth sofar) text rest ⟨word.reverse ++ sofar.segments, hasQuotes⟩

theorem Passes.drafts {front back : Octets} (passed : Passes self place text middle word)
    (spelled : word.Spells front) (shorter : middle.length < text.length) (later : Drafts self place middle rest back) :
    Drafts self place text rest (front ++ back) := by
  refine ⟨Nat.le_trans later.behind (Nat.le_of_lt shorter), fun bound depth sofar room => ?_⟩
  obtain ⟨bound, rfl⟩ := Nat.exists_eq_succ_of_ne_zero (Nat.ne_zero_of_lt room)
  obtain ⟨hasQuotes, passes⟩ := passed bound depth sofar
  obtain ⟨others, hasQuotes, others_spelled, taken⟩ :=
    later.takes bound depth ⟨word.reverse ++ sofar.segments, hasQuotes⟩ (by omega)
  refine ⟨word ++ others, hasQuotes, spelled.append others_spelled, passes rest _ ?_⟩
  rwa [List.reverse_append, List.append_assoc]

theorem Drafts.of_end (shorter : rest.length ≤ text.length)
    (ends : ∀ bound depth sofar, Takes (drafted self place (bound + 1) depth sofar) text rest sofar) :
    Drafts self place text rest [] := by
  refine ⟨shorter, fun bound depth sofar room => ?_⟩
  obtain ⟨bound, rfl⟩ := Nat.exists_eq_succ_of_ne_zero (Nat.ne_zero_of_lt room)
  exact ⟨[], sofar.hasQuotes, Word.spells_nil, ends bound depth sofar⟩

theorem drafts_nil (self : Reentry) : Drafts self .command [] [] [] := by
  refine .of_end (Nat.le_refl _) fun bound depth sofar => ?_
  rw [drafted.eq_def]
  exact takes_peek.bind (takes_pure _ _)

theorem drafts_separator (separates : separatesWords c = true) (text : Octets) :
    Drafts self .command (c :: text) (c :: text) [] := by
  refine .of_end (Nat.le_refl _) fun bound depth sofar => ?_
  rw [separatesWords, Bool.or_eq_true, decide_eq_true_eq, decide_eq_true_eq] at separates
  rw [drafted.eq_def]
  rcases separates with rfl | rfl <;> exact takes_peek.bind (takes_pure _ _)

theorem drafts_closingQuote (text : Octets) : Drafts self .quotes ('"' :: text) text [] := by
  refine .of_end (by simp) fun bound depth sofar => ?_
  rw [drafted.eq_def]
  exact takes_peek.bind ((takes_advance _).bind (takes_pure _ _))

theorem Drafts.takes_segments (drafts : Drafts self place text rest inside) :
    ∃ word hasQuotes, Word.Spells word inside ∧ Takes (segments self place) text rest (word, hasQuotes) := by
  obtain ⟨word, hasQuotes, spelled, taken⟩ := drafts.takes (text.length + 1) 0 .empty (Nat.lt_succ_self _)
  refine ⟨Drafted.merge word, hasQuotes, spelled.merge, takes_bound.bind (taken.bind ?_)⟩
  have whole : (Drafted.mk (word.reverse ++ Drafted.empty.segments) hasQuotes).result =
      (Drafted.merge word, hasQuotes) := by
    simp [Drafted.result, Drafted.empty]
  rw [← whole]
  exact takes_pure _ _

theorem passes_doubleQuoted (reentered : self.segments .quotes = segments within .quotes)
    (drafts : Drafts within .quotes text rest inside) :
    ∃ word, Word.Spells word inside ∧ Passes self .command ('"' :: text) rest word := by
  obtain ⟨word, hasQuotes, spelled, taken⟩ := drafts.takes_segments
  refine ⟨.quoted [] :: word, (Word.spells_quoted []).append spelled, fun bound depth sofar => ?_⟩
  refine ⟨true, fun rest after later => ?_⟩
  rw [drafted.eq_def]
  refine takes_peek.bind ((takes_advance _).bind ?_)
  rw [reentered]
  refine taken.bind ?_
  rwa [List.reverse_cons, List.append_assoc] at later

/-- From a place inside or outside of quotes on, a word is read up to its end and stands for what is inside. -/
def Finishes (self within : Reentry) (rest inside : Octets) : Quotes → Octets → Prop
  | .none, text => Drafts self .command text rest inside
  | .single, text => ∃ quoted middle back, inside = quoted ++ back ∧ text = quoted ++ '\'' :: middle ∧
      '\'' ∉ quoted ∧ Drafts self .command middle rest back
  | .double, text => ∃ front middle back, inside = front ++ back ∧ Drafts within .quotes text middle front ∧
      Drafts self .command middle rest back

theorem Finishes.single (finished : Finishes self within rest inside .single text) (other : c ≠ '\'') :
    Finishes self within rest (c :: inside) .single (c :: text) := by
  obtain ⟨quoted, middle, back, rfl, rfl, unclosed, drafts⟩ := finished
  exact ⟨c :: quoted, middle, back, rfl, rfl, List.not_mem_cons_of_ne_of_not_mem (Ne.symm other) unclosed, drafts⟩

theorem Finishes.double {front : Octets} (finished : Finishes self within rest inside .double middle)
    (passed : Passes within .quotes text middle word) (spelled : word.Spells front)
    (shorter : middle.length < text.length) : Finishes self within rest (front ++ inside) .double text := by
  obtain ⟨between, behind, back, rfl, drafts, finished⟩ := finished
  exact ⟨front ++ between, behind, back, (List.append_assoc ..).symm, passed.drafts spelled shorter drafts, finished⟩

theorem Finishes.openSingle (finished : Finishes self within rest inside .single text) :
    Drafts self .command ('\'' :: text) rest inside := by
  obtain ⟨quoted, middle, back, rfl, rfl, unclosed, drafts⟩ := finished
  have shorter : middle.length < ('\'' :: (quoted ++ '\'' :: middle)).length := by
    simp only [List.length_cons, List.length_append]
    omega
  exact (passes_singleQuoted unclosed).drafts (Word.spells_quoted quoted) shorter drafts

theorem Finishes.openDouble (reentered : self.segments .quotes = segments within .quotes)
    (finished : Finishes self within rest inside .double text) : Drafts self .command ('"' :: text) rest inside := by
  obtain ⟨front, middle, back, rfl, drafts, finished⟩ := finished
  obtain ⟨word, spelled, passed⟩ := passes_doubleQuoted reentered drafts
  exact passed.drafts spelled (Nat.lt_succ_of_le drafts.behind) finished

/-- The word that is open at a place is read up to its end, and behind it the later words are to be found. -/
def Closes (self within : Reentry) (quotes : Quotes) (text word : List Char) (words : List (List Char)) : Prop :=
  ∃ inside rest later, words = (word ++ inside) :: later ∧ splitRest .none none rest = some later ∧
    Finishes self within rest inside quotes text

section

variable {before after : Quotes} {word front : List Char} {words : List (List Char)}

variable (front) in
theorem Closes.behind (closes : Closes self within after middle (word ++ front) words)
    (passed : ∀ rest inside, Finishes self within rest inside after middle →
      Finishes self within rest (front ++ inside) before text) : Closes self within before text word words := by
  obtain ⟨inside, rest, later, rfl, below, finished⟩ := closes
  exact ⟨front ++ inside, rest, later, by rw [List.append_assoc], below, passed rest inside finished⟩

theorem Closes.skipped (closes : Closes self within after middle word words)
    (passed : ∀ rest inside, Finishes self within rest inside after middle →
      Finishes self within rest inside before text) : Closes self within before text word words := by
  rw [← List.append_nil word] at closes
  exact closes.behind [] passed

theorem closes_of_splitRest (reentered : self.segments .quotes = segments within .quotes) {quotes : Quotes}
    (split : splitRest quotes (some word) text = some words) : Closes self within quotes text word words := by
  have shorter (c d : Char) (text : List Char) : text.length < (c :: d :: text).length :=
    Nat.lt_succ_of_lt (Nat.lt_succ_self _)
  generalize opened : some word = open? at split
  fun_induction splitRest quotes open? text generalizing word words with
  | case1 =>
    subst opened
    obtain rfl := Option.some.inj split
    exact ⟨[], [], [], by rw [List.append_nil]; rfl, rfl, drafts_nil self⟩
  | case2 | case9 | case16 => cases split
  | case3 open? text ih =>
    exact (ih opened split).skipped fun _ inside drafts => ⟨[], text, inside, rfl, rfl, List.not_mem_nil, drafts⟩
  | case4 open? c text other ih =>
    subst opened
    exact (ih rfl split).behind [c] fun _ _ finished => finished.single other
  | case5 open? text ih =>
    exact (ih opened split).skipped fun _ _ finished =>
      finished.double (passes_lineFeed text) Word.spells_nil (shorter _ _ text)
  | case6 open? c text other escaped ih =>
    subst opened
    exact (ih rfl split).behind [c] fun _ _ finished =>
      finished.double (passes_escaped other escaped) (Word.spells_quoted [c]) (shorter _ _ text)
  | case7 open? c text other plain ih =>
    subst opened
    refine (ih rfl split).behind ['\\', c] fun _ _ finished => ?_
    have here := finished.double (passes_inQuotes plain) (Word.spells_quoted [c]) (by simp)
    exact here.double (passes_backslash other plain) (Word.spells_quoted ['\\']) (by simp)
  | case8 open? text _ ih =>
    exact (ih opened split).skipped fun _ inside drafts =>
      ⟨[], text, inside, rfl, drafts_closingQuote text, drafts⟩
  | case10 open? c text _ _ plain ih =>
    subst opened
    exact (ih rfl split).behind [c] fun _ _ finished =>
      finished.double (passes_inQuotes plain) (Word.spells_quoted [c]) (by simp)
  | case11 open? text ih =>
    exact (ih opened split).skipped fun _ _ drafts =>
      (passes_lineFeed text).drafts Word.spells_nil (shorter _ _ text) drafts
  | case12 open? c text other ih =>
    subst opened
    exact (ih rfl split).behind [c] fun _ _ drafts =>
      (passes_escaped other rfl).drafts (Word.spells_quoted [c]) (shorter _ _ text) drafts
  | case13 open? c text _ separates =>
    subst opened
    obtain ⟨later, below, rfl⟩ := Option.map_eq_some_iff.1 split
    refine ⟨[], c :: text, later, by simp, ?_, drafts_separator separates text⟩
    rw [splitRest_separator separates, below]
    rfl
  | case14 open? text _ _ ih =>
    subst opened
    exact (ih rfl split).skipped fun _ _ finished => finished.openSingle
  | case15 open? text _ _ _ ih =>
    subst opened
    exact (ih rfl split).skipped fun _ _ finished => finished.openDouble reentered
  | case17 open? c text unescaped apart not_single not_double plain ih =>
    subst opened
    have bare : isBare c = true := by
      simp_all [isBare]
    exact (ih rfl split).behind [c] fun _ _ drafts =>
      (passes_bare bare).drafts (Word.spells_plain [c]) (by simp) drafts

end

end Parse

end CiPipeline.Shell
