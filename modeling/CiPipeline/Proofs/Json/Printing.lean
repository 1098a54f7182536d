import CiPipeline.Proofs.Json.Escaping
import CiPipeline.Proofs.Keyed

/-! What is printed for a value is a text of the grammar exactly if all its doubles are finite numbers, since the words
that stand for the others belong to no value. Such a text stands for the value itself if none of its texts is split. -/
namespace CiPipeline.Json

open Number

theorem induction {motive : Json → Prop} (null : motive .null) (bool : ∀ value, motive (.bool value))
    (int : ∀ value, motive (.int value)) (float : ∀ value, motive (.float value))
    (text : ∀ value, motive (.text value)) (list : ∀ items, (∀ item ∈ items, motive item) → motive (.list items))
    (object : ∀ entries, (∀ entry ∈ entries, motive entry.2) → motive (.object entries)) (value : Json) :
    motive value :=
  @Json.rec motive (fun items => ∀ item ∈ items, motive item) (fun entries => ∀ entry ∈ entries, motive entry.2)
    (fun entry => motive entry.2) null bool int float text list object (fun _ member => absurd member List.not_mem_nil)
    (fun _ _ first rest => List.forall_mem_cons.2 ⟨first, rest⟩) (fun _ member => absurd member List.not_mem_nil)
    (fun _ _ first rest => List.forall_mem_cons.2 ⟨first, rest⟩) (fun _ _ value => value) value

mutual

def parts : Json → List Json
  | list items => list items :: partsOfItems items
  | object entries => object entries :: partsOfEntries entries
  | leaf => [leaf]

def partsOfItems : List Json → List Json
  | [] => []
  | item :: rest => parts item ++ partsOfItems rest

def partsOfEntries : List (String × Json) → List Json
  | [] => []
  | (name, value) :: rest => text name :: (parts value ++ partsOfEntries rest)

end

mutual

def joined : Json → Json
  | text value => text (joinedText value)
  | list items => list (joinedItems items)
  | object entries => object (Keyed.ofPairs (joinedEntries entries))
  | leaf => leaf

def joinedItems : List Json → List Json
  | [] => []
  | item :: rest => joined item :: joinedItems rest

def joinedEntries : List (String × Json) → List (String × Json)
  | [] => []
  | (name, value) :: rest => (joinedText name, joined value) :: joinedEntries rest

end

theorem partsOfItems_eq (items : List Json) : partsOfItems items = items.flatMap parts := by
  induction items with
  | nil => rfl
  | cons item rest ih => rw [partsOfItems, ih, List.flatMap_cons]

theorem partsOfEntries_eq (entries : List (String × Json)) :
    partsOfEntries entries = entries.flatMap fun entry => text entry.1 :: entry.2.parts := by
  induction entries with
  | nil => rfl
  | cons entry rest ih => rw [partsOfEntries, ih, List.flatMap_cons, List.cons_append]

theorem joinedItems_eq (items : List Json) : joinedItems items = items.map joined := by
  induction items with
  | nil => rfl
  | cons item rest ih => rw [joinedItems, ih, List.map_cons]

def joinedEntry (entry : String × Json) : String × Json := (joinedText entry.1, entry.2.joined)

theorem joinedEntries_eq (entries : List (String × Json)) : joinedEntries entries = entries.map joinedEntry := by
  induction entries with
  | nil => rfl
  | cons entry rest ih => rw [joinedEntries, ih, List.map_cons, joinedEntry]

theorem writeItems_eq (depth : Nat) (items : List Json) : writeItems depth items = items.map (write depth) := by
  induction items with
  | nil => rfl
  | cons item rest ih => rw [writeItems, ih, List.map_cons]

def writeEntry (depth : Nat) (entry : String × Json) : List Char :=
  quote entry.1 ++ ':' :: ' ' :: write depth entry.2

theorem writeEntries_eq (depth : Nat) (entries : List (String × Json)) :
    writeEntries depth entries = entries.map (writeEntry depth) := by
  induction entries with
  | nil => rfl
  | cons entry rest ih =>
    rw [writeEntries, ih, List.map_cons, writeEntry, List.append_assoc]
    rfl

theorem mem_parts_list {part : Json} {items : List Json} :
    part ∈ (list items).parts ↔ part = list items ∨ ∃ item ∈ items, part ∈ item.parts := by
  rw [parts, List.mem_cons, partsOfItems_eq, List.mem_flatMap]

theorem mem_parts_object {part : Json} {entries : List (String × Json)} :
    part ∈ (object entries).parts ↔
      part = object entries ∨ ∃ entry ∈ entries, part = text entry.1 ∨ part ∈ entry.2.parts := by
  rw [parts, List.mem_cons, partsOfEntries_eq, List.mem_flatMap]
  simp only [List.mem_cons]

/-- Every double of a value is a finite number. -/
def Finite (value : Json) : Prop := ∀ x, float x ∈ value.parts → x.isFinite = true

def WellFormed (value : Json) : Prop := ∀ x, float x ∈ value.parts → x.WellFormed

def Distinct (value : Json) : Prop := ∀ entries, object entries ∈ value.parts → (Keyed.names entries).Nodup

/-- No text of a value is split. -/
def Intact (value : Json) : Prop := ∀ content, text content ∈ value.parts → Unsplit content

def isUnsplit : Json → Bool
  | text content => decide (Unsplit content)
  | _ => true

theorem intact_iff {value : Json} : value.Intact ↔ ∀ part ∈ value.parts, part.isUnsplit = true := by
  constructor
  · intro intact part inside
    cases part with
    | text content => exact decide_eq_true (intact content inside)
    | _ => rfl
  · exact fun all content inside => of_decide_eq_true (all _ inside)

instance (value : Json) : Decidable value.Intact := decidable_of_iff _ intact_iff.symm

theorem forall_float_list {p : Binary64 → Prop} {items : List Json} :
    (∀ x, float x ∈ (list items).parts → p x) ↔ ∀ item ∈ items, ∀ x, float x ∈ item.parts → p x := by
  constructor
  · exact fun all item member x inside => all x (mem_parts_list.2 (.inr ⟨item, member, inside⟩))
  · intro all x inside
    rcases mem_parts_list.1 inside with same | ⟨item, member, inside⟩
    · cases same
    · exact all item member x inside

theorem forall_float_object {p : Binary64 → Prop} {entries : List (String × Json)} :
    (∀ x, float x ∈ (object entries).parts → p x) ↔ ∀ entry ∈ entries, ∀ x, float x ∈ entry.2.parts → p x := by
  constructor
  · exact fun all entry member x inside => all x (mem_parts_object.2 (.inr ⟨entry, member, .inr inside⟩))
  · intro all x inside
    rcases mem_parts_object.1 inside with same | ⟨entry, member, same | inside⟩
    · cases same
    · cases same
    · exact all entry member x inside

def isLeaf : Json → Bool
  | list _ | object _ => false
  | _ => true

theorem distinct_of_isLeaf {value : Json} (leaf : value.isLeaf = true) : value.Distinct := by
  intro entries inside
  cases value with
  | list items => cases leaf
  | object others => cases leaf
  | _ => cases List.mem_singleton.1 inside

theorem distinct_list_iff {items : List Json} : (list items).Distinct ↔ ∀ item ∈ items, item.Distinct := by
  constructor
  · exact fun all item member entries inside => all entries (mem_parts_list.2 (.inr ⟨item, member, inside⟩))
  · intro all entries inside
    rcases mem_parts_list.1 inside with same | ⟨item, member, inside⟩
    · cases same
    · exact all item member entries inside

theorem distinct_object_iff {entries : List (String × Json)} :
    (object entries).Distinct ↔ (Keyed.names entries).Nodup ∧ ∀ entry ∈ entries, entry.2.Distinct := by
  constructor
  · exact fun all => ⟨all entries (mem_parts_object.2 (.inl rfl)), fun entry member others inside =>
      all others (mem_parts_object.2 (.inr ⟨entry, member, .inr inside⟩))⟩
  · rintro ⟨names, all⟩ others inside
    rcases mem_parts_object.1 inside with same | ⟨entry, member, same | inside⟩
    · exact object.inj same ▸ names
    · cases same
    · exact all entry member others inside

def lined (depth : Nat) (texts : List (List Char)) : List Char :=
  (List.intersperse [','] (texts.map fun text => indentation depth ++ text)).flatten

theorem spaces_indentation (depth : Nat) : Spaces (indentation depth) := by
  intro c member
  rcases List.mem_cons.1 member with rfl | blank
  · rfl
  · rw [List.eq_of_mem_replicate blank]
    rfl

theorem lined_singleton (depth : Nat) (text : List Char) : lined depth [text] = indentation depth ++ text :=
  List.append_nil _

theorem lined_cons (depth : Nat) (text next : List Char) (texts : List (List Char)) :
    lined depth (text :: next :: texts) = indentation depth ++ (text ++ ',' :: lined depth (next :: texts)) := by
  rw [lined, List.map_cons, List.map_cons, List.intersperse_cons_cons, List.flatten_cons, List.flatten_cons,
    List.append_assoc]
  rfl

theorem enclose_eq {texts : List (List Char)} (filled : texts ≠ []) (opening closing : Char) (depth : Nat) :
    enclose opening closing depth texts =
      opening :: ((lined (depth + 1) texts ++ indentation depth) ++ [closing]) := by
  cases texts with
  | nil => exact absurd rfl filled
  | cons text texts => rfl

section

variable {α β : Type} {shown : α → List Char} {value : α → β} {depth : Nat}

theorem derives_lined (one : β → List Char → Prop) (many : List β → List Char → Prop)
    (last : ∀ {part cs}, one part cs → many [part] cs)
    (more : ∀ {part parts cs others}, one part cs → many parts others → many (part :: parts) (cs ++ ',' :: others))
    {back : List Char} (spaces : Spaces back) {first : α} {rest : List α}
    (derived : ∀ item ∈ first :: rest, ∀ after, Spaces after →
      one (value item) (indentation depth ++ (shown item ++ after))) :
    many ((first :: rest).map value) (lined depth ((first :: rest).map shown) ++ back) := by
  induction rest generalizing first with
  | nil =>
    rw [List.map_singleton, List.map_singleton, lined_singleton, List.append_assoc]
    exact last (derived first List.mem_cons_self back spaces)
  | cons next rest ih =>
    obtain ⟨here, later⟩ := List.forall_mem_cons.1 derived
    have alone := here [] fun _ member => absurd member List.not_mem_nil
    rw [List.map_cons, List.map_cons, List.map_cons, List.map_cons, lined_cons, List.append_assoc, List.append_assoc,
      List.cons_append, ← List.append_assoc]
    rw [List.append_nil] at alone
    exact more alone (ih later)

theorem length_le_lined {text : List Char} {texts : List (List Char)} (member : text ∈ texts) :
    (indentation depth ++ text).length ≤ (lined depth texts).length := by
  induction texts with
  | nil => exact absurd member List.not_mem_nil
  | cons first rest ih =>
    cases rest with
    | nil => rw [List.mem_singleton.1 member, lined_singleton]
    | cons next rest =>
      have total : (lined depth (first :: next :: rest)).length =
          (indentation depth ++ first).length + ((lined depth (next :: rest)).length + 1) := by
        rw [lined_cons, ← List.append_assoc, List.length_append, List.length_cons]
      rcases List.mem_cons.1 member with rfl | later
      · omega
      · exact (ih later).trans (by omega)

theorem readParts?_lined {read : Reader β} {closing : Char} {good : α → Prop} {items : List α}
    (found : ∀ item ∈ items, good item → ∀ rest,
      read (indentation depth ++ (shown item ++ ',' :: rest)) = some (value item, ',' :: rest))
    (lost : ∀ item ∈ items, ¬good item → ∀ rest, read (indentation depth ++ (shown item ++ rest)) = none)
    (broken : ∃ item ∈ items, ¬good item) (count : Nat) (rest : List Char) :
    readParts? read closing count (lined depth (items.map shown) ++ rest) = none := by
  induction items generalizing count with
  | nil =>
    obtain ⟨item, member, _⟩ := broken
    exact absurd member List.not_mem_nil
  | cons first others ih =>
    obtain ⟨first_found, others_found⟩ := List.forall_mem_cons.1 found
    obtain ⟨first_lost, others_lost⟩ := List.forall_mem_cons.1 lost
    by_cases fine : good first
    · obtain ⟨item, member, bad⟩ := broken
      have later : item ∈ others := (List.mem_cons.1 member).resolve_left fun same => bad (same ▸ fine)
      have ih := ih others_found others_lost ⟨item, later, bad⟩
      cases others with
      | nil => exact absurd later List.not_mem_nil
      | cons next others =>
        cases count with
        | zero => rfl
        | succ count =>
          rw [List.map_cons, List.map_cons, lined_cons, List.append_assoc, List.append_assoc, List.cons_append,
            readParts?_comma (first_found fine _), ← List.map_cons, ih count]
          rfl
    · refine readParts?_none ?_
      cases others with
      | nil =>
        rw [List.map_singleton, lined_singleton, List.append_assoc]
        exact first_lost fine rest
      | cons next others =>
        rw [List.map_cons, List.map_cons, lined_cons, List.append_assoc, List.append_assoc]
        exact first_lost fine _

end

theorem no_spaces : Spaces [] := fun _ member => absurd member List.not_mem_nil

theorem spaces_blank : Spaces [' '] := List.forall_mem_singleton.2 rfl

theorem exists_writeEntry (depth : Nat) (entry : String × Json) : ∃ pieces : List Piece,
    (∀ piece ∈ pieces, piece.Allowed) ∧ textOf pieces = joinedText entry.1 ∧ ∀ rest, writeEntry depth entry ++ rest =
      quotedPieces pieces ++ ([] ++ ':' :: ([' '] ++ (write depth entry.2 ++ rest))) := by
  obtain ⟨pieces, allowed, chars, same⟩ := exists_quoted entry.1
  refine ⟨pieces, allowed, same, fun rest => ?_⟩
  rw [writeEntry, chars, List.append_assoc]
  rfl

theorem derives_writeEntry {depth : Nat} {entry : String × Json}
    (derived : Derives (.value entry.2.joined) (write depth entry.2)) {before after : List Char} (front : Spaces before)
    (back : Spaces after) : Derives (.member (joinedEntry entry)) (before ++ (writeEntry depth entry ++ after)) := by
  obtain ⟨pieces, allowed, same, written⟩ := exists_writeEntry depth entry
  rw [written, joinedEntry, ← same]
  exact .member front no_spaces allowed (.element spaces_blank back derived)

/-- What is printed for a value with finite doubles is a text of the value that comes back. -/
theorem derives_write {value : Json} (finite : value.Finite) (formed : value.WellFormed) (depth : Nat) :
    Derives (.value value.joined) (write depth value) := by
  induction value using induction generalizing depth with
  | null => exact .null
  | bool value =>
    cases value with
    | true => exact .yes
    | false => exact .no
  | int value =>
    have spelled := Derives.number (wellFormed_spellInt value)
    rwa [value_spellInt, chars_spellInt] at spelled
  | float value =>
    obtain ⟨spelling, spelled, chars, same⟩ := exists_spelling (finite value (List.mem_singleton_self _))
      (formed value (List.mem_singleton_self _))
    have derived := Derives.number spelled
    rwa [same, chars] at derived
  | text value =>
    obtain ⟨pieces, allowed, chars, same⟩ := exists_quoted value
    have derived := Derives.text allowed
    rwa [same, chars] at derived
  | list items ih =>
    have finite := forall_float_list.1 finite
    have formed := forall_float_list.1 formed
    rw [joined, joinedItems_eq, write, writeItems_eq]
    cases items with
    | nil => exact .emptyList no_spaces
    | cons first rest =>
      rw [enclose_eq (mt List.map_eq_nil_iff.1 (List.cons_ne_nil first rest))]
      refine .list (derives_lined (fun part => Derives (.element part)) (fun parts => Derives (.elements parts))
        .lastElement .moreElements (spaces_indentation depth) fun item member after spaces => ?_)
      exact .element (spaces_indentation _) spaces (ih item member (finite item member) (formed item member) _)
  | object entries ih =>
    have finite := forall_float_object.1 finite
    have formed := forall_float_object.1 formed
    rw [joined, joinedEntries_eq, write, writeEntries_eq]
    cases entries with
    | nil => exact .emptyObject no_spaces
    | cons first rest =>
      rw [enclose_eq (mt List.map_eq_nil_iff.1 (List.cons_ne_nil first rest))]
      refine .object (derives_lined (fun part => Derives (.member part)) (fun parts => Derives (.members parts))
        .lastMember .moreMembers (spaces_indentation depth) fun entry member after spaces => ?_)
      have derived := ih entry member (finite entry member) (formed entry member) (depth + 1)
      exact derives_writeEntry derived (spaces_indentation _) spaces

def starts (c : Char) : Bool := opens c || c == 'N' || c == 'I'

theorem not_finite_cases {value : Json} (broken : ¬value.Finite) :
    (∃ x, value = float x ∧ x.isFinite = false) ∨ (∃ items, value = list items) ∨
      ∃ entries, value = object entries := by
  cases value with
  | list items => exact .inr (.inl ⟨items, rfl⟩)
  | object entries => exact .inr (.inr ⟨entries, rfl⟩)
  | float x =>
    refine .inl ⟨x, rfl, ?_⟩
    by_contra finite
    refine broken fun y inside => ?_
    obtain rfl := float.inj (List.mem_singleton.1 inside)
    exact Bool.not_eq_false _ ▸ finite
  | _ =>
    refine absurd (fun x inside => ?_) broken
    cases List.mem_singleton.1 inside

theorem head_write {value : Json} (formed : value.WellFormed) (depth : Nat) :
    ∃ c tail, write depth value = c :: tail ∧ starts c = true := by
  by_cases finite : value.Finite
  · obtain ⟨c, tail, same, opening⟩ := head_of_value (derives_write finite formed depth)
    exact ⟨c, tail, same, by rw [starts, opening]; rfl⟩
  · rcases not_finite_cases finite with ⟨x, rfl, broken⟩ | ⟨items, rfl⟩ | ⟨entries, rfl⟩
    · cases x with
      | nan => exact ⟨_, _, rfl, rfl⟩
      | infinite negative => cases negative <;> exact ⟨_, _, rfl, rfl⟩
      | finite => cases broken
    · rw [write]
      cases writeItems (depth + 1) items <;> exact ⟨_, _, rfl, rfl⟩
    · rw [write]
      cases writeEntries (depth + 1) entries <;> exact ⟨_, _, rfl, rfl⟩

theorem readValue?_words {x : Binary64} (broken : x.isFinite = false) (fuel : Nat) (rest : List Char) :
    readValue? fuel (writeFloat x ++ rest) = none := by
  cases fuel with
  | zero => rfl
  | succ fuel =>
    cases x with
    | nan => rfl
    | infinite negative => cases negative <;> rfl
    | finite => cases broken

theorem opens_of_starts {c : Char} (start : starts c = true) : isSpace c = false ∧ c ≠ ']' := by
  rw [starts, Bool.or_eq_true, Bool.or_eq_true, beq_iff_eq, beq_iff_eq] at start
  rcases start with (opening | rfl) | rfl
  · refine ⟨isSpace_of_opens opening, ?_⟩
    rintro rfl
    exact absurd opening (by decide)
  · decide
  · decide

theorem skipSpaces_write {value : Json} (formed : value.WellFormed) (depth : Nat) {blanks : List Char}
    (spaces : Spaces blanks) (rest : List Char) :
    skipSpaces (blanks ++ (write depth value ++ rest)) = write depth value ++ rest := by
  obtain ⟨c, tail, same, start⟩ := head_write formed depth
  rw [skipSpaces_append spaces, same]
  exact skipSpaces_cons (opens_of_starts start).1 _

section

variable {α β : Type} {shown : α → List Char} {depth : Nat} {closing : Char} {items : List α}

theorem head_lined (filled : items ≠ [])
    (heads : ∀ item ∈ items, ∃ c tail, shown item = c :: tail ∧ isSpace c = false ∧ c ≠ closing) (rest : List Char) :
    ∃ c tail, skipSpaces (lined depth (items.map shown) ++ rest) = c :: tail ∧ c ≠ closing := by
  cases items with
  | nil => exact absurd rfl filled
  | cons first others =>
    obtain ⟨c, tail, begins, other, different⟩ := heads first List.mem_cons_self
    have starts : ∃ more, lined depth ((first :: others).map shown) ++ rest = indentation depth ++ c :: more := by
      cases others with
      | nil =>
        rw [List.map_singleton, lined_singleton, begins, List.append_assoc]
        exact ⟨_, rfl⟩
      | cons next others =>
        rw [List.map_cons, List.map_cons, lined_cons, begins, List.append_assoc, List.append_assoc]
        exact ⟨_, rfl⟩
    obtain ⟨more, same⟩ := starts
    rw [same, skipSpaces_append (spaces_indentation depth)]
    exact ⟨c, more, skipSpaces_cons other more, different⟩

theorem readBracketed?_lined (value : α → β) (good : α → Prop) {read : Reader β}
    (heads : ∀ item ∈ items, ∃ c tail, shown item = c :: tail ∧ isSpace c = false ∧ c ≠ closing)
    (found : ∀ item ∈ items, good item → ∀ rest,
      read (indentation depth ++ (shown item ++ ',' :: rest)) = some (value item, ',' :: rest))
    (lost : ∀ item ∈ items, ¬good item → ∀ rest, read (indentation depth ++ (shown item ++ rest)) = none)
    (broken : ∃ item ∈ items, ¬good item) (count : Nat) (rest : List Char) :
    readBracketed? read closing count (lined depth (items.map shown) ++ rest) = none := by
  have filled : items ≠ [] := by
    obtain ⟨item, member, _⟩ := broken
    exact List.ne_nil_of_mem member
  obtain ⟨c, tail, same, different⟩ := head_lined filled heads rest
  rw [readBracketed?, same]
  dsimp only
  rw [if_neg different]
  exact readParts?_lined found lost broken count rest

end

theorem head_writeEntry (depth : Nat) (entry : String × Json) :
    ∃ c tail, writeEntry depth entry = c :: tail ∧ isSpace c = false ∧ c ≠ '\x7d' :=
  ⟨'"', _, rfl, rfl, by decide⟩

section

variable {depth fuel : Nat} {value : Json}

theorem readElement?_write (finite : value.Finite) (formed : value.WellFormed)
    (deep : (indentation depth ++ write depth value).length ≤ fuel) (rest : List Char) :
    readElement? (readValue? fuel) (indentation depth ++ (write depth value ++ ',' :: rest)) =
      some (value.joined, ',' :: rest) := by
  have derived := Derives.element (spaces_indentation depth) no_spaces (derives_write finite formed depth)
  rw [List.append_nil] at derived
  have read := found_of_derives derived deep deep (',' :: rest) .comma
  rwa [List.append_assoc] at read

theorem readMember?_write {entry : String × Json} (finite : entry.2.Finite) (formed : entry.2.WellFormed)
    (deep : (indentation depth ++ writeEntry depth entry).length ≤ fuel) (rest : List Char) :
    readMember? (readValue? fuel) (indentation depth ++ (writeEntry depth entry ++ ',' :: rest)) =
      some (joinedEntry entry, ',' :: rest) := by
  have derived := derives_writeEntry (derives_write finite formed depth) (spaces_indentation depth) no_spaces
  rw [List.append_nil] at derived
  have read := found_of_derives derived deep deep (',' :: rest) .comma
  rwa [List.append_assoc] at read

variable (formed : value.WellFormed) (lost : ∀ rest, readValue? fuel (write depth value ++ rest) = none)

include formed lost

theorem readElement?_write_none {blanks : List Char} (spaces : Spaces blanks) (rest : List Char) :
    readElement? (readValue? fuel) (blanks ++ (write depth value ++ rest)) = none := by
  rw [readElement?, skipSpaces_write formed depth spaces, lost, Option.map_none]

theorem readMember?_write_none (name : String) (rest : List Char) :
    readMember? (readValue? fuel) (indentation depth ++ (writeEntry depth (name, value) ++ rest)) = none := by
  obtain ⟨pieces, allowed, _, written⟩ := exists_writeEntry depth (name, value)
  rw [written, readMember?_quoted (spaces_indentation depth) allowed no_spaces,
    readElement?_write_none formed lost spaces_blank, Option.map_none]

end

/-- No value is read from what is printed for a value with a double that is no finite number. -/
theorem readValue?_write {value : Json} (broken : ¬value.Finite) (formed : value.WellFormed) {depth fuel : Nat}
    (deep : (write depth value).length ≤ fuel) (rest : List Char) :
    readValue? fuel (write depth value ++ rest) = none := by
  -- Parts in front of the first broken one are read, as their doubles are finite, and at this one reading stops.
  induction value using induction generalizing depth fuel rest with
  | list items ih =>
    have formed := forall_float_list.1 formed
    have broken : ∃ item ∈ items, ¬item.Finite := by
      by_contra fine
      push Not at fine
      exact broken (forall_float_list.2 fine)
    have filled : items.map (write (depth + 1)) ≠ [] := by
      obtain ⟨item, member, _⟩ := broken
      exact List.ne_nil_of_mem (List.mem_map_of_mem member)
    rw [write, writeItems_eq, enclose_eq filled] at deep ⊢
    rw [List.length_cons, List.length_append, List.length_append] at deep
    cases fuel with
    | zero => rfl
    | succ fuel =>
      have short (item : Json) (member : item ∈ items) :
          (indentation (depth + 1) ++ write (depth + 1) item).length ≤ fuel :=
        (length_le_lined (List.mem_map_of_mem member)).trans (by omega)
      rw [List.cons_append, readValue?, List.append_assoc, List.append_assoc,
        readBracketed?_lined joined Finite (fun item member => ?_)
          (fun item member fine => readElement?_write fine (formed item member) (short item member))
          (fun item member bad rest => ?_) broken, Option.map_none]
      · obtain ⟨c, tail, same, start⟩ := head_write (formed item member) (depth + 1)
        exact ⟨c, tail, same, opens_of_starts start⟩
      · have small := short item member
        rw [List.length_append] at small
        have deep : (write (depth + 1) item).length ≤ fuel := by omega
        exact readElement?_write_none (formed item member) (ih item member bad (formed item member) deep)
          (spaces_indentation _) rest
  | object entries ih =>
    have formed := forall_float_object.1 formed
    have broken : ∃ entry ∈ entries, ¬entry.2.Finite := by
      by_contra fine
      push Not at fine
      exact broken (forall_float_object.2 fine)
    have filled : entries.map (writeEntry (depth + 1)) ≠ [] := by
      obtain ⟨entry, member, _⟩ := broken
      exact List.ne_nil_of_mem (List.mem_map_of_mem member)
    rw [write, writeEntries_eq, enclose_eq filled] at deep ⊢
    rw [List.length_cons, List.length_append, List.length_append] at deep
    cases fuel with
    | zero => rfl
    | succ fuel =>
      have short (entry : String × Json) (member : entry ∈ entries) :
          (indentation (depth + 1) ++ writeEntry (depth + 1) entry).length ≤ fuel :=
        (length_le_lined (List.mem_map_of_mem member)).trans (by omega)
      rw [List.cons_append, readValue?, List.append_assoc, List.append_assoc,
        readBracketed?_lined joinedEntry (fun entry => entry.2.Finite)
          (fun entry _ => head_writeEntry (depth + 1) entry)
          (fun entry member fine => readMember?_write fine (formed entry member) (short entry member))
          (fun entry member bad rest => ?_) broken, Option.map_none]
      have small := short entry member
      rw [List.length_append, writeEntry, List.length_append, List.length_cons, List.length_cons] at small
      have deep : (write (depth + 1) entry.2).length ≤ fuel := by omega
      exact readMember?_write_none (formed entry member) (ih entry member bad (formed entry member) deep) entry.1 rest
  | _ =>
    rcases not_finite_cases broken with ⟨x, same, broken⟩ | ⟨items, same⟩ | ⟨entries, same⟩
    · rw [same]
      exact readValue?_words broken fuel rest
    · cases same
    · cases same

theorem isText_print_iff {value : Json} (formed : value.WellFormed) {other : Json} :
    IsText value.print other ↔ value.Finite ∧ other = value.joined := by
  have printed : value.print.toList = write 0 value := String.toList_ofList
  have derived (finite : value.Finite) : IsText value.print value.joined := by
    have inside := Derives.element no_spaces no_spaces (derives_write finite formed 0)
    rw [List.append_nil, List.nil_append, ← printed] at inside
    exact inside
  constructor
  · intro document
    by_cases finite : value.Finite
    · exact ⟨finite, isText_unique document (derived finite)⟩
    · have found := read?_of_isText document
      have skipped := skipSpaces_write formed 0 no_spaces []
      have lost := readValue?_write finite formed (Nat.le_refl (write 0 value).length) []
      rw [List.nil_append, List.append_nil] at skipped
      rw [List.append_nil] at lost
      rw [read?, printed, readElement?, skipped, lost] at found
      cases found
  · rintro ⟨finite, rfl⟩
    exact derived finite

theorem map_eq_self_iff {α : Type} {f : α → α} {items : List α} :
    items.map f = items ↔ ∀ item ∈ items, f item = item := by
  have identity : items.map f = items.map id ↔ ∀ item ∈ items, f item = id item := List.map_inj_left
  rwa [List.map_id] at identity

theorem joined_eq_iff {value : Json} (distinct : value.Distinct) : value.joined = value ↔ value.Intact := by
  induction value using induction with
  | text content =>
    rw [joined, text.injEq, joinedText_eq_iff]
    constructor
    · intro unsplit other inside
      exact text.inj (List.mem_singleton.1 inside) ▸ unsplit
    · exact fun intact => intact content (List.mem_singleton_self _)
  | list items ih =>
    have inside := distinct_list_iff.1 distinct
    rw [joined, joinedItems_eq, list.injEq, map_eq_self_iff, Intact]
    constructor
    · intro same content here
      rcases mem_parts_list.1 here with other | ⟨item, member, here⟩
      · cases other
      · exact (ih item member (inside item member)).1 (same item member) content here
    · intro intact item member
      exact (ih item member (inside item member)).2 fun content here =>
        intact content (mem_parts_list.2 (.inr ⟨item, member, here⟩))
  | object entries ih =>
    obtain ⟨names, inside⟩ := distinct_object_iff.1 distinct
    rw [joined, joinedEntries_eq, object.injEq, Keyed.ofPairs_eq_iff names (List.length_map _).symm, map_eq_self_iff,
      Intact]
    constructor
    · intro same content here
      rcases mem_parts_object.1 here with other | ⟨entry, member, named | here⟩
      · cases other
      · rw [text.inj named]
        exact joinedText_eq_iff.1 (congrArg Prod.fst (same entry member))
      · exact (ih entry member (inside entry member)).1 (congrArg Prod.snd (same entry member)) content here
    · intro intact entry member
      refine Prod.ext (joinedText_eq_iff.2 ?_) ((ih entry member (inside entry member)).2 fun content here => ?_)
      · exact intact entry.1 (mem_parts_object.2 (.inr ⟨entry, member, .inl rfl⟩))
      · exact intact content (mem_parts_object.2 (.inr ⟨entry, member, .inr here⟩))
  | _ =>
    refine iff_of_true rfl fun content inside => ?_
    cases List.mem_singleton.1 inside

/-- What is printed for a value is a document that stands for this value and for no other one exactly if all its doubles
are finite numbers and none of its texts is split. -/
theorem isText_print_self_iff {value : Json} (formed : value.WellFormed) (distinct : value.Distinct) :
    (∀ other, IsText value.print other ↔ other = value) ↔ value.Finite ∧ value.Intact := by
  rw [← joined_eq_iff distinct]
  constructor
  · intro same
    obtain ⟨finite, joined⟩ := (isText_print_iff formed).1 ((same value).2 rfl)
    exact ⟨finite, joined.symm⟩
  · rintro ⟨finite, joined⟩ other
    rw [isText_print_iff formed, joined, and_iff_right finite]

end CiPipeline.Json
