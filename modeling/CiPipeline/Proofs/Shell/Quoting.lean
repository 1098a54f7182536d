import CiPipeline.Run.Execution

/-! What a shell makes of a command that is handed to a wrapper. Quoting turns any text into one word that stands
for exactly this text, wherever the word ends up on a line; so a line with a wrapper in front has the words of the
wrapper and one more, which is the command. -/
namespace CiPipeline.Shell

/-- A character that means nothing but itself on a line and does not end a word. -/
def isBare (c : Char) : Bool :=
  !separatesWords c && !specialChars.contains c && !(['\'', '"', '\\'].contains c)

def bareWords (line : List Char) : List (List Char) := (line.splitOnP separatesWords).filter (!·.isEmpty)

section

variable {c : Char} {word : Option (List Char)} {rest : List Char}

theorem splitRest_separator (separates : separatesWords c = true) :
    splitRest .none word (c :: rest) = (splitRest .none none rest).map (word.toList ++ ·) := by
  have unescaped : c ≠ '\\' := by
    rintro rfl
    exact absurd separates (by decide)
  rw [splitRest, if_pos separates]
  exact fun _ _ escaped => absurd escaped unescaped

theorem separatesWords_of_isBare (bare : isBare c = true) : separatesWords c = false := by
  rw [isBare, Bool.and_eq_true, Bool.and_eq_true, Bool.not_eq_true'] at bare
  exact bare.1.1

theorem splitRest_bare (bare : isBare c = true) :
    splitRest .none word (c :: rest) = splitRest .none (some (word.getD [] ++ [c])) rest := by
  simp only [isBare, Bool.and_eq_true, Bool.not_eq_true', List.contains_eq_mem, decide_eq_false_iff_not,
    List.mem_cons, not_or] at bare
  obtain ⟨⟨apart, plain⟩, not_single, not_double, not_escape, _⟩ := bare
  rw [splitRest, if_neg (by rw [apart]; decide), if_neg not_single, if_neg not_double,
    if_neg (by simp [plain, not_escape])]
  exact fun _ _ escaped => absurd escaped not_escape

theorem splitRest_append_blank {quotes : Quotes} {line : List Char} {words : List (List Char)}
    (split : splitRest quotes word line = some words) (rest : List Char) :
    splitRest quotes word (line ++ ' ' :: rest) = (splitRest .none none rest).map (words ++ ·) := by
  fun_induction splitRest quotes word line generalizing words with
  | case1 word =>
    obtain rfl := Option.some.inj split
    exact splitRest_separator rfl
  | case10 word c line _ not_quote plain ih =>
    -- A backslash at the end of a line would not have been taken for itself.
    have unescaped : c ≠ '\\' := by
      rintro rfl
      exact plain (by decide)
    rw [List.cons_append, splitRest, if_neg not_quote, if_neg plain, ih split]
    exact fun _ _ escaped => absurd escaped unescaped
  | case13 word c line _ separates ih =>
    obtain ⟨later, below, rfl⟩ := Option.map_eq_some_iff.1 split
    rw [List.cons_append, splitRest_separator separates, ih below, Option.map_map]
    simp only [Function.comp_def, List.append_assoc]
  | _ => simp_all [splitRest]

theorem splitRest_bareWords {line : List Char} (bare : ∀ c ∈ line, separatesWords c = true ∨ isBare c = true)
    (front : List Char) :
    splitRest .none (if front.isEmpty then none else some front) line =
      some (((line.splitOnP separatesWords).modifyHead (front ++ ·)).filter (!·.isEmpty)) := by
  have unopened (words : List (List Char)) : words.modifyHead ([] ++ ·) = words := by
    cases words <;> rfl
  induction line generalizing front with
  | nil => cases front <;> simp [splitRest]
  | cons c line ih =>
    obtain ⟨first, later⟩ := List.forall_mem_cons.1 bare
    rw [List.splitOnP_cons_eq_if_modifyHead]
    rcases first with separates | plain
    · have below := ih later []
      rw [List.isEmpty_nil, if_pos rfl, unopened] at below
      rw [splitRest_separator separates, below, if_pos separates]
      cases front <;> simp
    · have apart : separatesWords c ≠ true := Bool.eq_false_iff.1 (separatesWords_of_isBare plain)
      have opened : (if front.isEmpty then none else some front).getD [] = front := by
        cases front <;> rfl
      have below := ih later (front ++ [c])
      rw [splitRest_bare plain, opened, if_neg apart, List.modifyHead_modifyHead]
      simpa [Function.comp_def] using below

end

theorem splitWords?_bare {line : List Char} (bare : ∀ c ∈ line, separatesWords c = true ∨ isBare c = true) :
    splitWords? line = some (bareWords line) := by
  have read := splitRest_bareWords bare []
  have unopened : (line.splitOnP separatesWords).modifyHead ([] ++ ·) = line.splitOnP separatesWords := by
    cases line.splitOnP separatesWords <;> rfl
  rwa [unopened] at read

theorem splitWords?_bare_word {word : List Char} (filled : word.isEmpty = false)
    (bare : ∀ c ∈ word, isBare c = true) : splitWords? word = some [word] := by
  have apart : ∀ c ∈ word, separatesWords c = false := fun c member =>
    separatesWords_of_isBare (bare c member)
  rw [splitWords?_bare fun c member => .inr (bare c member), bareWords, List.splitOnP_eq_singleton apart,
    List.filter_cons_of_pos (by rw [filled]; rfl), List.filter_nil]

theorem isBare_of_isPlainChar {c : Char} (plain : isPlainChar c = true) : isBare c = true := by
  have rough : ([' ', '\t', '\'', '"', '\\'] ++ specialChars).all (!isPlainChar ·) = true := by decide
  cases bare : isBare c with
  | true => rfl
  | false =>
    have member : c ∈ [' ', '\t', '\'', '"', '\\'] ++ specialChars := by
      simp only [isBare, separatesWords, Bool.and_eq_false_iff, Bool.not_eq_false', Bool.or_eq_true,
        decide_eq_true_eq, List.contains_eq_mem, List.mem_cons] at bare
      simp only [List.mem_append, List.mem_cons]
      grind
    have other := List.all_eq_true.1 rough c member
    rw [plain] at other
    cases other

theorem splitRest_single (cs word rest : List Char) :
    splitRest .single (some word) (cs.flatMap quoteChar ++ '\'' :: rest) =
      splitRest .none (some (word ++ cs)) rest := by
  induction cs generalizing word with
  | nil => simp [splitRest]
  | cons c cs ih =>
    by_cases same : c = '\''
    · subst same
      simp [quoteChar, splitRest, separatesWords, escapedChars, ih]
    · simp [quoteChar, splitRest, same, ih]

theorem splitWords?_quoteChars (cs : List Char) : splitWords? (quoteChars cs) = some [cs] := by
  rw [quoteChars]
  split
  · rename_i empty
    rw [List.isEmpty_iff.1 empty]
    decide
  · rename_i filled
    split
    · rename_i plain
      exact splitWords?_bare_word (Bool.eq_false_iff.2 filled) fun c member =>
        isBare_of_isPlainChar (List.all_eq_true.1 plain c member)
    · have opened (line : List Char) : splitWords? ('\'' :: line) = splitRest .single (some []) line := by
        simp [splitWords?, splitRest, separatesWords]
      rw [List.cons_append, opened, splitRest_single]
      simp [splitRest]

/-- A wrapper that is a line of words is followed by one more word on the line that is run, and this word is the
command, whatever characters it has. -/
theorem splitWords?_wrap {wrapper : String} {words : List (List Char)} (given : wrapper ≠ "")
    (split : splitWords? wrapper.toList = some words) (command : String) :
    splitWords? (wrap (some wrapper) command).toList = some (words ++ [command.toList]) := by
  have wrapped : wrap (some wrapper) command = wrapper ++ " " ++ quote command := by
    have kept : (some wrapper).filter (· != "") = some wrapper := by simp [Option.filter, given]
    rw [wrap, kept]
  have line : (wrapper ++ " " ++ quote command).toList = wrapper.toList ++ ' ' :: quoteChars command.toList := by
    simp [quote]
  have quoted := splitWords?_quoteChars command.toList
  rw [splitWords?] at split quoted
  rw [wrapped, line, splitWords?, splitRest_append_blank split, quoted, Option.map_some]

end CiPipeline.Shell

namespace CiPipeline.Run

open Shell

/-- The line that a shell is given for a step with a wrapper of bare words consists of these words and of one more,
which is the command of the step. -/
theorem exists_line_of_wrapper {wrapper : String} (given : wrapper ≠ "")
    (bare : ∀ c ∈ wrapper.toList, separatesWords c = true ∨ isBare c = true) (step : Step) :
    ∃ shell line, wordsOf (some wrapper) step = [shell, "-c", line] ∧
      splitWords? line.toList = some (bareWords wrapper.toList ++ [step.run.toList]) :=
  ⟨_, _, rfl, splitWords?_wrap given (splitWords?_bare bare) step.run⟩

def quotedStep : Step := ⟨"say", "echo 'it''s' \"$HOME\"\n\\é", none, none, [], none⟩

theorem exists_line_of_wrapper_ssh : "ssh  build-host" ≠ "" ∧
    (∀ c ∈ "ssh  build-host".toList, separatesWords c = true ∨ isBare c = true) ∧
    ∃ shell line, wordsOf (some "ssh  build-host") quotedStep = [shell, "-c", line] ∧
      splitWords? line.toList = some ["ssh".toList, "build-host".toList, quotedStep.run.toList] := by
  have given : "ssh  build-host" ≠ "" := by decide
  have words : "ssh  build-host".toList.all (fun c => separatesWords c || isBare c) = true := by decide
  have bare : ∀ c ∈ "ssh  build-host".toList, separatesWords c = true ∨ isBare c = true :=
    fun c member => Bool.or_eq_true_iff.1 (List.all_eq_true.1 words c member)
  exact ⟨given, bare, exists_line_of_wrapper given bare quotedStep⟩

end CiPipeline.Run
