import CiPipeline.Keyed
import Mathlib.Data.List.Forall2
import Mathlib.Data.List.Nodup
import Mathlib.Data.List.Perm.Subperm

/-! What reading a map after writing to it gives, and which names a map holds. -/
namespace CiPipeline.Keyed

variable {α β : Type}

@[simp] theorem names_nil : names ([] : Keyed α) = [] := rfl

@[simp] theorem names_cons (entry : String × α) (entries : Keyed α) :
    names (entry :: entries) = entry.1 :: names entries := rfl

@[simp] theorem names_append (front back : Keyed α) :
    names (front ++ back) = names front ++ names back := by
  simp [names]

@[simp] theorem names_mapValues (entries : Keyed α) (f : α → β) :
    names (entries.mapValues f) = names entries := by
  simp [names, mapValues, Function.comp_def]

theorem get?_eq_none_iff {entries : Keyed α} {name : String} :
    entries.get? name = none ↔ name ∉ entries.names := by
  induction entries with
  | nil => simp [get?_nil]
  | cons entry rest ih =>
    rw [get?_cons, names_cons, List.mem_cons, not_or]
    split
    · rename_i here
      simp [here]
    · rename_i elsewhere
      simp [elsewhere, ih]

theorem isSome_get?_iff {entries : Keyed α} {name : String} :
    (entries.get? name).isSome ↔ name ∈ entries.names := by
  rw [← not_iff_not, Bool.not_eq_true, Option.isSome_eq_false_iff, Option.isNone_iff_eq_none,
    get?_eq_none_iff]

theorem mem_names_of_get? {entries : Keyed α} {name : String} {value : α}
    (found : entries.get? name = some value) : name ∈ entries.names := by
  rw [← isSome_get?_iff, found]
  rfl

theorem exists_get?_of_mem {entries : Keyed α} {name : String} (known : name ∈ entries.names) :
    ∃ value, entries.get? name = some value :=
  Option.isSome_iff_exists.1 (isSome_get?_iff.2 known)

theorem mem_of_get? {entries : Keyed α} {name : String} {value : α}
    (found : entries.get? name = some value) : (name, value) ∈ entries := by
  induction entries with
  | nil => simp [get?_nil] at found
  | cons entry rest ih =>
    rw [get?_cons] at found
    split at found
    · rename_i here
      obtain rfl := Option.some.inj found
      exact here ▸ List.mem_cons_self
    · exact List.mem_cons_of_mem _ (ih found)

theorem get?_of_mem {entries : Keyed α} (distinct : entries.names.Nodup) {name : String}
    {value : α} (member : (name, value) ∈ entries) : entries.get? name = some value := by
  induction entries with
  | nil => simp at member
  | cons entry rest ih =>
    rw [names_cons, List.nodup_cons] at distinct
    rw [get?_cons]
    rcases List.mem_cons.1 member with rfl | later
    · simp
    · have apart : name ≠ entry.1 := by
        intro here
        exact distinct.1 (here ▸ List.mem_map_of_mem later)
      rw [if_neg apart]
      exact ih distinct.2 later

theorem get?_eq_of_perm {entries others : Keyed α} (distinct : entries.names.Nodup)
    (perm : entries.Perm others) (name : String) : entries.get? name = others.get? name := by
  have distinct' : others.names.Nodup := (perm.map Prod.fst).nodup_iff.1 distinct
  cases found : entries.get? name with
  | some value => exact (get?_of_mem distinct' (perm.mem_iff.1 (mem_of_get? found))).symm
  | none =>
    rw [get?_eq_none_iff] at found
    exact (get?_eq_none_iff.2 fun known => found ((perm.map Prod.fst).mem_iff.2 known)).symm

theorem get?_append (front back : Keyed α) (name : String) :
    (front ++ back).get? name = (front.get? name).or (back.get? name) := by
  induction front with
  | nil => simp [get?_nil]
  | cons entry rest ih =>
    rw [List.cons_append, get?_cons, get?_cons, ih]
    split <;> rfl

theorem get?_mapValues (entries : Keyed α) (f : α → β) (name : String) :
    (entries.mapValues f).get? name = (entries.get? name).map f := by
  induction entries with
  | nil => rfl
  | cons entry rest ih =>
    have unfolded : mapValues (entry :: rest) f = (entry.1, f entry.2) :: mapValues rest f := rfl
    rw [unfolded, get?_cons, get?_cons, ih]
    split <;> rfl

theorem mapValues_put (entries : Keyed α) (name : String) (value : α) (f : α → β) :
    (entries.put name value).mapValues f = (entries.mapValues f).put name (f value) := by
  induction entries with
  | nil => rfl
  | cons entry rest ih =>
    have unfolded : mapValues (entry :: rest) f = (entry.1, f entry.2) :: mapValues rest f := rfl
    rw [unfolded, put, put]
    split
    · rfl
    · exact congrArg ((entry.1, f entry.2) :: ·) ih

theorem mapValues_putAll (entries news : Keyed α) (f : α → β) :
    (entries.putAll news).mapValues f = (entries.mapValues f).putAll (news.mapValues f) := by
  induction news generalizing entries with
  | nil => rfl
  | cons new rest ih => exact (ih (entries.put new.1 new.2)).trans (by rw [mapValues_put]; rfl)

theorem mapValues_ofPairs (pairs : Keyed α) (f : α → β) :
    (ofPairs pairs).mapValues f = ofPairs (pairs.mapValues f) :=
  mapValues_putAll [] pairs f

theorem put_of_not_mem {entries : Keyed α} {name : String} (unknown : name ∉ entries.names)
    (value : α) : entries.put name value = entries ++ [(name, value)] := by
  induction entries with
  | nil => rfl
  | cons entry rest ih =>
    rw [names_cons, List.mem_cons, not_or] at unknown
    rw [put, if_neg (Ne.symm unknown.1), ih unknown.2, List.cons_append]

theorem names_put_of_mem {entries : Keyed α} {name : String} (known : name ∈ entries.names)
    (value : α) : (entries.put name value).names = entries.names := by
  rw [names_put, if_pos known]

theorem nodup_names_put {entries : Keyed α} (distinct : entries.names.Nodup) (name : String)
    (value : α) : (entries.put name value).names.Nodup := by
  rw [names_put]
  split
  · exact distinct
  · rename_i unknown
    exact List.nodup_append.2 ⟨distinct, by simp, by
      intro a here b there same
      rw [List.mem_singleton] at there
      exact unknown (there ▸ same ▸ here)⟩

theorem putAll_of_nodup {entries news : Keyed α} (distinct : (entries.names ++ news.names).Nodup) :
    entries.putAll news = entries ++ news := by
  induction news generalizing entries with
  | nil => simp [putAll]
  | cons new rest ih =>
    have unknown : new.1 ∉ entries.names := by
      intro known
      exact List.disjoint_of_nodup_append distinct known (by simp)
    have unfolded : entries.putAll (new :: rest) = (entries.put new.1 new.2).putAll rest := rfl
    rw [unfolded, put_of_not_mem unknown, ih, List.append_assoc, List.singleton_append]
    simpa using distinct

def last? (entries : Keyed α) (name : String) : Option α := get? entries.reverse name

theorem last?_eq_none_iff {entries : Keyed α} {name : String} :
    entries.last? name = none ↔ name ∉ entries.names := by
  rw [last?, get?_eq_none_iff, names, List.map_reverse, List.mem_reverse, names]

theorem last?_append (front back : Keyed α) (name : String) :
    last? (front ++ back) name = (back.last? name).or (front.last? name) := by
  rw [last?, List.reverse_append, get?_append, last?, last?]

theorem last?_eq_some_iff {entries : Keyed α} {name : String} {value : α} :
    entries.last? name = some value ↔
      ∃ front back, entries = front ++ (name, value) :: back ∧ name ∉ names back := by
  constructor
  · intro found
    induction entries with
    | nil => cases found
    | cons entry rest ih =>
      rw [← List.singleton_append, last?_append, Option.or_eq_some_iff] at found
      rcases found with later | ⟨missing, here⟩
      · obtain ⟨front, back, split, unknown⟩ := ih later
        exact ⟨entry :: front, back, congrArg (entry :: ·) split, unknown⟩
      · obtain rfl := List.mem_singleton.1 (mem_of_get? here)
        exact ⟨[], rest, rfl, last?_eq_none_iff.1 missing⟩
  · rintro ⟨front, back, rfl, unknown⟩
    rw [last?_append, ← List.singleton_append, last?_append, last?_eq_none_iff.2 unknown, Option.none_or,
      last?, List.reverse_singleton, get?_cons, if_pos rfl, Option.some_or]

theorem last?_eq_get? {entries : Keyed α} (distinct : entries.names.Nodup) (name : String) :
    entries.last? name = entries.get? name :=
  (get?_eq_of_perm distinct entries.reverse_perm.symm name).symm

theorem get?_putAll (entries news : Keyed α) (name : String) :
    (entries.putAll news).get? name = (news.last? name).or (entries.get? name) := by
  induction news generalizing entries with
  | nil => rfl
  | cons new rest ih =>
    have unfolded : entries.putAll (new :: rest) = (entries.put new.1 new.2).putAll rest := rfl
    have here : last? [new] name = if name = new.1 then some new.2 else none := get?_cons new [] name
    rw [unfolded, ih, get?_put, ← List.singleton_append, last?_append, Option.or_assoc, here]
    split <;> rfl

theorem ofPairs_of_nodup {pairs : Keyed α} (distinct : pairs.names.Nodup) :
    ofPairs pairs = pairs := by
  rw [ofPairs, putAll_of_nodup (by simpa using distinct), List.nil_append]

theorem mem_or_eq_of_mem_put {entries : Keyed α} {name : String} {value : α} {entry : String × α}
    (member : entry ∈ entries.put name value) : entry ∈ entries ∨ entry = (name, value) := by
  induction entries with
  | nil => exact .inr (List.mem_singleton.1 member)
  | cons first rest ih =>
    rw [put] at member
    split at member
    · rcases List.mem_cons.1 member with new | there
      · exact .inr new
      · exact .inl (List.mem_cons_of_mem _ there)
    · rcases List.mem_cons.1 member with rfl | later
      · exact .inl List.mem_cons_self
      · exact (ih later).imp_left (List.mem_cons_of_mem _)

theorem mem_or_mem_of_mem_putAll {entries news : Keyed α} {entry : String × α}
    (member : entry ∈ entries.putAll news) : entry ∈ entries ∨ entry ∈ news := by
  induction news generalizing entries with
  | nil => exact .inl member
  | cons new rest ih =>
    rcases ih member with there | later
    · rcases mem_or_eq_of_mem_put there with old | same
      · exact .inl old
      · exact .inr (List.mem_cons.2 (.inl same))
    · exact .inr (List.mem_cons_of_mem _ later)

theorem mem_of_mem_ofPairs {pairs : Keyed α} {entry : String × α} (member : entry ∈ ofPairs pairs) :
    entry ∈ pairs :=
  (mem_or_mem_of_mem_putAll member).resolve_left List.not_mem_nil

theorem mem_names_putAll {entries news : Keyed α} {name : String} :
    name ∈ (entries.putAll news).names ↔ name ∈ entries.names ∨ name ∈ news.names := by
  induction news generalizing entries with
  | nil => simp [putAll]
  | cons new rest ih =>
    have unfolded : entries.putAll (new :: rest) = (entries.put new.1 new.2).putAll rest := rfl
    have put : name ∈ (entries.put new.1 new.2).names ↔ name ∈ entries.names ∨ name = new.1 := by
      rw [names_put]
      split
      · rename_i known
        exact ⟨.inl, fun either => either.elim id fun same => same ▸ known⟩
      · rw [List.mem_append, List.mem_singleton]
    rw [unfolded, ih, put, names_cons, List.mem_cons, or_assoc]

theorem mem_names_ofPairs {pairs : Keyed α} {name : String} :
    name ∈ (ofPairs pairs).names ↔ name ∈ pairs.names := by
  rw [ofPairs, mem_names_putAll, names_nil]
  simp

theorem nodup_names_putAll {entries : Keyed α} (distinct : entries.names.Nodup) (news : Keyed α) :
    (entries.putAll news).names.Nodup := by
  induction news generalizing entries with
  | nil => exact distinct
  | cons new rest ih => exact ih (nodup_names_put distinct new.1 new.2)

theorem nodup_names_ofPairs (pairs : Keyed α) : (ofPairs pairs).names.Nodup := by
  have empty : (names ([] : Keyed α)).Nodup := List.nodup_nil
  exact nodup_names_putAll empty pairs

theorem ofPairs_eq_iff {pairs entries : Keyed α} (distinct : entries.names.Nodup)
    (length : entries.length = pairs.length) : ofPairs pairs = entries ↔ pairs = entries := by
  constructor
  · rintro rfl
    have known : (ofPairs pairs).names ⊆ pairs.names := fun _ member => mem_names_ofPairs.1 member
    have perm : (ofPairs pairs).names.Perm pairs.names := by
      refine (List.subperm_of_subset distinct known).perm_of_length_le (Nat.le_of_eq ?_)
      rw [names, names, List.length_map, List.length_map, length]
    exact (ofPairs_of_nodup (perm.nodup_iff.1 distinct)).symm
  · rintro rfl
    exact ofPairs_of_nodup distinct

abbrev Alike (belongs : α → β → Prop) : Keyed α → Keyed β → Prop :=
  List.Forall₂ fun one other => other.1 = one.1 ∧ belongs one.2 other.2

section

variable {belongs : α → β → Prop}

theorem Alike.names {one : Keyed α} {other : Keyed β} (alike : Alike belongs one other) :
    other.names = one.names := by
  induction alike with
  | nil => rfl
  | cons both _ ih => rw [names_cons, names_cons, both.1, ih]

theorem Alike.put {one : Keyed α} {other : Keyed β} (alike : Alike belongs one other) (name : String)
    {value : α} {value' : β} (both : belongs value value') :
    Alike belongs (one.put name value) (other.put name value') := by
  induction alike with
  | nil => exact .cons ⟨rfl, both⟩ .nil
  | @cons entry entry' rest rest' first later ih =>
    rw [Keyed.put, Keyed.put, first.1]
    split
    · exact .cons ⟨rfl, both⟩ later
    · exact .cons first ih

theorem Alike.putAll {one : Keyed α} {other : Keyed β} (alike : Alike belongs one other)
    {news : Keyed α} {news' : Keyed β} (both : Alike belongs news news') :
    Alike belongs (one.putAll news) (other.putAll news') := by
  induction both generalizing one other with
  | nil => exact alike
  | @cons new new' rest rest' first _ ih =>
    have unfolded : other.putAll (new' :: rest') = (other.put new.1 new'.2).putAll rest' := by
      rw [← first.1]
      rfl
    rw [unfolded]
    exact ih (alike.put new.1 first.2)

theorem Alike.ofPairs {pairs : Keyed α} {pairs' : Keyed β} (alike : Alike belongs pairs pairs') :
    Alike belongs (ofPairs pairs) (ofPairs pairs') :=
  Alike.putAll .nil alike

theorem Alike.imp {belongs' : α → β → Prop} {one : Keyed α} {other : Keyed β}
    (alike : Alike belongs one other) (implies : ∀ value value', belongs value value' →
      belongs' value value') : Alike belongs' one other :=
  List.Forall₂.imp (fun _ _ both => ⟨both.1, implies _ _ both.2⟩) alike

theorem Alike.mapValues {γ : Type} {belongs' : α → γ → Prop} {f : β → γ} {one : Keyed α}
    {other : Keyed β} (alike : Alike belongs one other)
    (implies : ∀ value value', belongs value value' → belongs' value (f value')) :
    Alike belongs' one (other.mapValues f) :=
  List.forall₂_map_right_iff.2 (alike.imp implies)

end

theorem Alike.eq {one other : Keyed α} (alike : Alike Eq one other) : one = other := by
  induction alike with
  | nil => rfl
  | cons both _ ih => rw [ih, Prod.ext both.1.symm both.2]

end CiPipeline.Keyed
