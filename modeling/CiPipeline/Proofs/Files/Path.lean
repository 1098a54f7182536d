import CiPipeline.Files.Path

/-! Where a path leads once its double dots are taken back. A text without a slash adds at most one name to
a directory: none if it is empty or a single dot, and two dots lead to the directory above. -/
namespace CiPipeline.Files.Path

def place (path : Path) : Path := ⟨path.anchor, climb path.names⟩

theorem foldl_climb {names : List String} (forward : ".." ∉ names) (done : List String) :
    names.foldl (fun done name => if name = ".." then done.tail else name :: done) done =
      names.reverse ++ done := by
  induction names generalizing done with
  | nil => rfl
  | cons name rest ih =>
    rw [List.mem_cons, not_or] at forward
    rw [List.foldl_cons, if_neg (Ne.symm forward.1), ih forward.2, List.reverse_cons,
      List.append_assoc, List.singleton_append]

theorem climb_of_not_mem {names : List String} (forward : ".." ∉ names) : climb names = names := by
  rw [climb, foldl_climb forward, List.append_nil, List.reverse_reverse]

theorem climb_concat (names : List String) (name : String) :
    climb (names ++ [name]) = if name = ".." then (climb names).dropLast else climb names ++ [name] := by
  rw [climb, List.foldl_append, List.foldl_cons, List.foldl_nil]
  split
  · rw [climb, List.dropLast_reverse]
  · rw [climb, List.reverse_cons]

theorem ofText_of_not_mem {text : String} (single : '/' ∉ text.toList) :
    ofText text = ⟨"", if isName text = true then [text] else []⟩ := by
  have relative : text.toList.takeWhile (· == '/') = [] := by
    cases split : text.toList with
    | nil => rfl
    | cons c rest =>
      refine List.takeWhile_cons_of_neg fun slash => single ?_
      rw [split, ← eq_of_beq slash]
      exact List.mem_cons_self
  rw [ofText, anchorOf, relative, List.splitOn_eq_singleton single, List.map_singleton,
    String.ofList_toList, List.filter_cons, List.filter_nil]

def below (names : List String) (text : String) : List String :=
  if text = ".." then names.dropLast
  else if isName text = true then names ++ [text]
  else names

theorem place_join_ofText (base : Path) {text : String} (single : '/' ∉ text.toList) :
    (base.join (ofText text)).place = ⟨base.anchor, below base.place.names text⟩ := by
  have joined : base.join (ofText text) =
      ⟨base.anchor, base.names ++ if isName text = true then [text] else []⟩ := by
    rw [ofText_of_not_mem single]
    rfl
  rw [joined, place, below]
  by_cases named : isName text = true
  · simp only [if_pos named, climb_concat, place]
  · have up : text ≠ ".." := fun same => named (same ▸ rfl)
    simp only [if_neg named, if_neg up, List.append_nil, place]

/-- The texts that lead to no name below a directory: to itself, or to the one above. -/
def strayNames : List String := ["", ".", ".."]

theorem below_of_not_mem {names : List String} {text : String} (plain : text ∉ strayNames) :
    below names text = names ++ [text] := by
  simp only [strayNames, List.mem_cons, List.not_mem_nil, or_false, not_or] at plain
  have named : isName text = true := by simp [isName, plain]
  rw [below, if_neg plain.2.2, if_pos named]

theorem below_of_unnamed {text : String} (unnamed : isName text = false) (names : List String) :
    below names text = names := by
  have up : text ≠ ".." := by
    rintro rfl
    cases unnamed
  rw [below, if_neg up, if_neg (Bool.not_eq_true _ ▸ unnamed)]

theorem length_below (names : List String) (text : String) : (below names text).length =
    if text = ".." then names.length - 1
    else if isName text = true then names.length + 1
    else names.length := by
  rw [below]
  split
  · exact List.length_dropLast
  · split
    · exact List.length_append
    · rfl

theorem exists_below_iff {names : List String} {text : String} :
    (∃ name, below names text = names ++ [name]) ↔ text ∉ strayNames := by
  refine ⟨fun ⟨name, child⟩ stray => ?_, fun plain => ⟨text, below_of_not_mem plain⟩⟩
  have depth := congrArg List.length child
  rw [length_below, List.length_append, List.length_singleton] at depth
  simp only [strayNames, List.mem_cons, List.not_mem_nil, or_false] at stray
  rcases stray with rfl | rfl | rfl <;> simp [isName] at depth

theorem below_inj {names : List String} (filled : names ≠ []) {one other : String} :
    below names one = below names other ↔
      one = other ∨ isName one = false ∧ isName other = false := by
  have positive := List.length_pos_iff.2 filled
  constructor
  · intro same
    -- Above the directory, in it and below it are three different depths.
    have depth := congrArg List.length same
    rw [length_below, length_below] at depth
    rw [below, below] at same
    by_cases up : one = ".." <;> by_cases up' : other = ".."
    · exact .inl (up.trans up'.symm)
    · rw [if_pos up, if_neg up'] at depth
      split at depth <;> omega
    · rw [if_neg up, if_pos up'] at depth
      split at depth <;> omega
    · rw [if_neg up, if_neg up'] at depth same
      by_cases named : isName one = true <;> by_cases named' : isName other = true
      · rw [if_pos named, if_pos named', List.append_cancel_left_eq] at same
        exact .inl (List.singleton_inj.1 same)
      · rw [if_pos named, if_neg named'] at depth
        omega
      · rw [if_neg named, if_pos named'] at depth
        omega
      · exact .inr ⟨Bool.not_eq_true _ ▸ named, Bool.not_eq_true _ ▸ named'⟩
  · rintro (rfl | ⟨unnamed, unnamed'⟩)
    · rfl
    · rw [below_of_unnamed unnamed, below_of_unnamed unnamed']

end CiPipeline.Files.Path
