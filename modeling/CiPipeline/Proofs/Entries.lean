import CiPipeline.Document
import CiPipeline.Keyed
import Mathlib.Data.List.Basic

/-! Mappings of a document, in which keys are compared by value: what is found after a change, when building a
mapping loses an entry, and mappings that differ in one entry only. -/
namespace CiPipeline

namespace Document

theorem sameKey_text_iff {value : Document} {name : String} :
    value.sameKey (.text name) = true ↔ value = .text name := by
  cases value <;> simp [Document.sameKey, Document.wholeNumber?]

/-- A key that is itself, and that any other key is if it is the other key. -/
structure Firm (key : Document) : Prop where
  self : key.sameKey key = true
  comm : ∀ other, key.sameKey other = other.sameKey key

theorem firm_text (name : String) : (text name).Firm := by
  refine ⟨sameKey_text_iff.2 rfl, fun other => ?_⟩
  cases other with
  | text value => exact Bool.beq_comm
  | _ => simp [sameKey, wholeNumber?]

theorem firm_bool (value : Bool) : (bool value).Firm := by
  refine ⟨by cases value <;> rfl, fun other => ?_⟩
  cases other with
  | bool _ | int _ => exact Bool.beq_comm
  | float amount =>
    simp only [sameKey, wholeNumber?]
    cases amount.toInt? with
    | none => rfl
    | some n => exact Bool.beq_comm
  | _ => simp [sameKey, wholeNumber?]

theorem text_sameKey_text {one other : String} (apart : one ≠ other) :
    (text one).sameKey (.text other) = false :=
  Bool.eq_false_iff.2 fun same => apart (text.inj (sameKey_text_iff.1 same))

end Document

namespace Entries

variable {entries : Entries} {key value : Document}

theorem get?_cons (entry : Document × Document) (rest : Entries) (key : Document) :
    get? (entry :: rest) key = if entry.1.sameKey key then some entry.2 else rest.get? key := by
  rw [get?, List.find?_cons]
  split <;> simp_all [get?]

theorem get?_append (front back : Entries) (key : Document) :
    get? (front ++ back) key = (front.get? key).or (back.get? key) := by
  rw [get?, List.find?_append, get?, get?]
  cases front.find? fun entry => entry.1.sameKey key <;> rfl

theorem get?_eq_none_iff : entries.get? key = none ↔ ∀ entry ∈ entries, entry.1.sameKey key = false := by
  simp [get?]

theorem contains_eq_isSome (entries : Entries) (key : Document) :
    entries.contains key = (entries.get? key).isSome := by
  rw [contains, get?, Option.isSome_map, List.isSome_find?]

theorem get?_put_self (self : key.sameKey key = true) (value : Document) (entries : Entries) :
    (entries.put key value).get? key = some value := by
  induction entries with
  | nil => rw [put, get?_cons, if_pos self]
  | cons entry rest ih =>
    rw [put]
    split
    · rename_i same
      rw [get?_cons, if_pos same]
    · rename_i different
      rw [get?_cons, if_neg different, ih]

theorem field?_erase (fields : Entries) {key : Document} {name : String}
    (apart : (Document.text name).sameKey key = false) :
    (fields.erase key).field? name = fields.field? name := by
  have kept (entry : Document × Document) :
      ((!entry.1.sameKey key) = true ∧ entry.1.sameKey (.text name) = true) ↔
        entry.1.sameKey (.text name) = true := by
    refine and_iff_right_of_imp fun named => ?_
    rw [Document.sameKey_text_iff.1 named, apart]
    rfl
  simp only [field?, get?, erase, List.find?_filter, kept, Bool.decide_eq_true]

theorem field?_put {name other : String} (apart : other ≠ name) (value : Document) (fields : Entries) :
    (fields.put (.text other) value).field? name = fields.field? name := by
  have miss {key : Document} (same : key.sameKey (.text other) = true) : key.sameKey (.text name) = false := by
    rw [Document.sameKey_text_iff.1 same]
    exact Document.text_sameKey_text apart
  rw [field?, field?]
  induction fields with
  | nil => rw [put, get?_cons, miss (Document.firm_text other).self, if_neg Bool.false_ne_true]
  | cons entry rest ih =>
    rw [put]
    split
    · rename_i same
      simp only [get?_cons, miss same, if_neg Bool.false_ne_true]
    · rw [get?_cons, get?_cons, ih]

theorem put_of_fresh (fresh : ∀ entry ∈ entries, entry.1.sameKey key = false) :
    entries.put key value = entries ++ [(key, value)] := by
  induction entries with
  | nil => rfl
  | cons entry rest ih =>
    rw [List.forall_mem_cons] at fresh
    rw [put, fresh.1, if_neg Bool.false_ne_true, ih fresh.2, List.cons_append]

theorem length_put_of_known (known : ∃ entry ∈ entries, entry.1.sameKey key = true) :
    (entries.put key value).length = entries.length := by
  induction entries with
  | nil =>
    obtain ⟨_, member, _⟩ := known
    cases member
  | cons entry rest ih =>
    rw [put]
    split
    · rfl
    · rename_i elsewhere
      rw [List.exists_mem_cons_iff, or_iff_right elsewhere] at known
      rw [List.length_cons, ih known, List.length_cons]

theorem known_or_put (entries : Entries) (key value : Document) :
    (∃ entry ∈ entries, entry.1.sameKey key = true) ∨
      (∀ entry ∈ entries, entry.1.sameKey key = false) ∧
        entries.put key value = entries ++ [(key, value)] := by
  by_cases known : ∃ entry ∈ entries, entry.1.sameKey key = true
  · exact .inl known
  · have fresh : ∀ entry ∈ entries, entry.1.sameKey key = false := by
      simpa only [not_exists, not_and, Bool.not_eq_true] using known
    exact .inr ⟨fresh, put_of_fresh fresh⟩

theorem length_putAll_le (pairs : List (Document × Document)) (entries : Entries) :
    (pairs.foldl (fun entries pair => put pair.1 pair.2 entries) entries).length ≤
      entries.length + pairs.length := by
  induction pairs generalizing entries with
  | nil => exact Nat.le_refl _
  | cons pair rest ih =>
    have later := ih (entries.put pair.1 pair.2)
    rw [List.foldl_cons, List.length_cons]
    rcases known_or_put entries pair.1 pair.2 with known | ⟨_, added⟩
    · rw [length_put_of_known known] at later
      omega
    · rw [added, List.length_append, List.length_singleton] at later
      rw [added]
      omega

theorem length_putAll_eq_iff (pairs : List (Document × Document)) (entries : Entries) :
    (pairs.foldl (fun entries pair => put pair.1 pair.2 entries) entries).length =
        entries.length + pairs.length ↔
      (pairs.Pairwise fun one other => one.1.sameKey other.1 = false) ∧
        ∀ pair ∈ pairs, ∀ entry ∈ entries, entry.1.sameKey pair.1 = false := by
  induction pairs generalizing entries with
  | nil => simp
  | cons pair rest ih =>
    rw [List.foldl_cons, List.length_cons, List.pairwise_cons, List.forall_mem_cons]
    rcases known_or_put entries pair.1 pair.2 with known | ⟨fresh, added⟩
    · have short := length_putAll_le rest (entries.put pair.1 pair.2)
      rw [length_put_of_known known] at short
      obtain ⟨entry, member, same⟩ := known
      constructor
      · intro whole
        omega
      · rintro ⟨_, fresh, _⟩
        rw [fresh entry member] at same
        cases same
    · have later := ih (entries ++ [(pair.1, pair.2)])
      rw [List.length_append, List.length_singleton, Nat.add_right_comm] at later
      simp only [List.forall_mem_append, List.forall_mem_singleton] at later
      rw [added, ← Nat.add_assoc, later]
      constructor
      · rintro ⟨apart, clear⟩
        exact ⟨⟨fun other member => (clear other member).2, apart⟩, fresh,
          fun other member => (clear other member).1⟩
      · rintro ⟨⟨front, apart⟩, _, clear⟩
        exact ⟨apart, fun other member => ⟨clear other member, front other member⟩⟩

theorem length_ofPairs_eq_iff {pairs : List (Document × Document)} :
    (ofPairs pairs).length = pairs.length ↔ pairs.Pairwise fun one other => one.1.sameKey other.1 = false := by
  have counted := length_putAll_eq_iff pairs []
  rw [List.length_nil, Nat.zero_add] at counted
  rw [ofPairs, counted, and_iff_left]
  exact fun _ _ _ none => absurd none List.not_mem_nil

def ofKeyed (map : Keyed Document) : Entries := map.map fun entry => (.text entry.1, entry.2)

theorem ofKeyed_put (map : Keyed Document) (name : String) (value : Document) :
    (ofKeyed map).put (.text name) value = ofKeyed (map.put name value) := by
  induction map with
  | nil => rfl
  | cons entry rest ih =>
    have unfolded : ofKeyed (entry :: rest) = (.text entry.1, entry.2) :: ofKeyed rest := rfl
    rw [unfolded, put, Keyed.put, ih]
    by_cases same : entry.1 = name
    · rw [if_pos same, same, if_pos (Document.firm_text name).self, ← same]
      rfl
    · rw [if_neg same, Document.text_sameKey_text same, if_neg Bool.false_ne_true]
      rfl

theorem ofPairs_ofKeyed (pairs : Keyed Document) : ofPairs (ofKeyed pairs) = ofKeyed (Keyed.ofPairs pairs) := by
  have all (map : Keyed Document) :
      (ofKeyed pairs).foldl (fun entries pair => put pair.1 pair.2 entries) (ofKeyed map) =
        ofKeyed (map.putAll pairs) := by
    induction pairs generalizing map with
    | nil => rfl
    | cons pair rest ih =>
      have unfolded : ofKeyed (pair :: rest) = (.text pair.1, pair.2) :: ofKeyed rest := rfl
      rw [unfolded, List.foldl_cons, ofKeyed_put, ih]
      rfl
  exact all []

structure Replaced (key value value' : Document) (fields fields' : Entries) : Prop where
  before : fields.get? key = some value
  after : fields'.get? key = some value'
  kept : ∀ other, other.sameKey key = false → fields'.get? other = fields.get? other

structure Renamed (old new : Document) (fields fields' : Entries) : Prop where
  free : fields.get? new = none
  moved : fields'.get? new = fields.get? old
  gone : fields'.get? old = none
  kept : ∀ other, other.sameKey old = false → other.sameKey new = false → fields'.get? other = fields.get? other

/-- Mappings that differ in one entry only, which the first one does not have: nothing stands there under any
spelling of its key. -/
structure Added (key value : Document) (fields fields' : Entries) : Prop where
  fresh : ∀ other, key.sameKey other = true → fields.get? other = none
  added : ∀ other, key.sameKey other = true → fields'.get? other = some value
  kept : ∀ other, key.sameKey other = false → fields'.get? other = fields.get? other

theorem replaced_of_place (front back : Entries) (firm : key.Firm) (first : front.get? key = none)
    (value value' : Document) :
    Replaced key value value' (front ++ (key, value) :: back) (front ++ (key, value') :: back) := by
  have here (value : Document) : get? (front ++ (key, value) :: back) key = some value := by
    rw [get?_append, get?_cons, first, if_pos firm.self, Option.none_or]
  refine ⟨here value, here value', fun other apart => ?_⟩
  rw [← firm.comm] at apart
  simp only [get?_append, get?_cons, apart, if_neg Bool.false_ne_true]

theorem renamed_of_place (front back : Entries) {old new : Document} (value : Document) (firm : old.Firm)
    (firm' : new.Firm) (apart : new.sameKey old = false) (alone : get? (front ++ back) old = none)
    (free : get? (front ++ back) new = none) :
    Renamed old new (front ++ (old, value) :: back) (front ++ (new, value) :: back) := by
  rw [get?_append, Option.or_eq_none_iff] at alone free
  have apart' : old.sameKey new = false := firm.comm new ▸ apart
  refine ⟨?_, ?_, ?_, fun other not_old not_new => ?_⟩
  · rw [get?_append, get?_cons, apart', if_neg Bool.false_ne_true, free.1, free.2]
    rfl
  · rw [get?_append, get?_append, get?_cons, get?_cons, if_pos firm.self, if_pos firm'.self, alone.1, free.1]
  · rw [get?_append, get?_cons, apart, if_neg Bool.false_ne_true, alone.1, alone.2]
    rfl
  · rw [← firm.comm] at not_old
    rw [← firm'.comm] at not_new
    simp only [get?_append, get?_cons, not_old, not_new]

theorem added_of_place (front back : Entries)
    (fresh : ∀ other, key.sameKey other = true → get? (front ++ back) other = none) (value : Document) :
    Added key value (front ++ back) (front ++ (key, value) :: back) := by
  refine ⟨fresh, fun other same => ?_, fun other apart => ?_⟩
  · have none := fresh other same
    rw [get?_append, Option.or_eq_none_iff] at none
    rw [get?_append, get?_cons, none.1, if_pos same, Option.none_or]
  · simp only [get?_append, get?_cons, apart, if_neg Bool.false_ne_true]

theorem get?_of_texts (texts : ∀ entry ∈ entries, ∃ name, entry.1 = .text name ∧ key ≠ .text name)
    (other : Document) (same : key.sameKey other = true) : entries.get? other = none := by
  refine get?_eq_none_iff.2 fun entry member => Bool.eq_false_iff.2 fun here => ?_
  obtain ⟨name, named, apart⟩ := texts entry member
  rw [named, (Document.firm_text name).comm, Document.sameKey_text_iff] at here
  rw [here, Document.sameKey_text_iff] at same
  exact apart same

section

variable {name : String} {fields fields' : Entries}

theorem Added.field? (added : Added key value fields fields') (apart : key ≠ .text name) :
    fields'.field? name = fields.field? name :=
  added.kept _ (Bool.eq_false_iff.2 fun same => apart (Document.sameKey_text_iff.1 same))

theorem Replaced.field? {old : String} {value' : Document}
    (replaced : Replaced (.text old) value value' fields fields') (apart : name ≠ old) :
    fields'.field? name = fields.field? name :=
  replaced.kept _ (Document.text_sameKey_text apart)

theorem Renamed.field? {old new : String} (renamed : Renamed (.text old) (.text new) fields fields')
    (not_old : name ≠ old) (not_new : name ≠ new) : fields'.field? name = fields.field? name :=
  renamed.kept _ (Document.text_sameKey_text not_old) (Document.text_sameKey_text not_new)

end

end Entries

end CiPipeline
