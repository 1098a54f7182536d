import CiPipeline.Proofs.Keyed
import CiPipeline.Proofs.Success
import CiPipeline.Schema.Pipeline

/-! What the readers of fields take, said by relations between values of a document and what they stand
for. A field that may be left open is either unsaid or says something. -/
namespace CiPipeline.Schema

open CiPipeline.Text

variable {α β : Type}

namespace Checked

theorem fmap_eq_valid_iff {f : α → β} {check : Checked α} {b : β} :
    f <$> check = valid b ↔ ∃ a, check = valid a ∧ f a = b :=
  map_eq_valid_iff

theorem seq_eq_valid_iff {first : Checked (α → β)} {second : Checked α} {b : β} :
    first <*> second = valid b ↔ ∃ f, first = valid f ∧ ∃ a, second = valid a ∧ f a = b := by
  have unfolded : first <*> second = (both first second).map fun pair => pair.1 pair.2 := rfl
  rw [unfolded, map_eq_valid_iff]
  constructor
  · rintro ⟨⟨f, a⟩, valid_both, same⟩
    obtain ⟨valid_f, valid_a⟩ := both_eq_valid_iff.1 valid_both
    exact ⟨f, valid_f, a, valid_a, same⟩
  · rintro ⟨f, valid_f, a, valid_a, same⟩
    exact ⟨(f, a), both_eq_valid_iff.2 ⟨valid_f, valid_a⟩, same⟩

theorem andThen_eq_valid_iff {check : Checked α} {next : α → Checked β} {b : β} :
    check.andThen next = valid b ↔ ∃ a, check = valid a ∧ next a = valid b := by
  cases check <;> simp [andThen]

theorem all_map_eq_valid_iff {check : α → Checked β} {items : List α} {values : List β} :
    all (items.map check) = valid values ↔
      List.Forall₂ (fun item value => check item = valid value) items values := by
  rw [all_eq_valid_iff, ← List.forall₂_eq_eq_eq, List.forall₂_map_left_iff, List.forall₂_map_right_iff]

end Checked

inductive IsText : Document → String → Prop
  | text {value} : IsText (.text value) value
  | bytes {value cs} (decoded : decodeStrict? value = some cs) :
    IsText (.bytes value) (String.ofList cs)

theorem isText_of_readText {value : Document} {text : String} (read : readText value = .valid text) :
    IsText value text := by
  cases value with
  | text other =>
    obtain rfl := Checked.valid.inj read
    exact .text
  | bytes octets =>
    rw [readText] at read
    split at read
    · rename_i cs decoded
      obtain rfl := Checked.valid.inj read
      exact .bytes decoded
    · cases read
  | _ => cases read

inductive IsScalar : Document → Scalar → Prop
  | scalar {value scalar} (single : Document.scalar? value = some scalar) : IsScalar value scalar
  | bytes {value cs} (decoded : decodeStrict? value = some cs) :
    IsScalar (.bytes value) (.text (String.ofList cs))

theorem isScalar_of_readScalar {value : Document} {scalar : Scalar}
    (read : readScalar value = .valid scalar) : IsScalar value scalar := by
  unfold readScalar at read
  split at read
  · split at read
    · rename_i decoded
      obtain rfl := Checked.valid.inj read
      exact .bytes decoded
    · cases read
  · split at read
    · rename_i single
      obtain rfl := Checked.valid.inj read
      exact .scalar single
    · cases read

def IsList (value : Document) (items : List Document) : Prop :=
  value.opened = .list items ∨ value.opened = .tuple items ∨ value.opened = .set items

/-- A mapping with texts as keys: its entries in their order. Of two keys with the same text the later value
stays, in the place of the first one. -/
def IsMapping (value : Document) (map : Keyed Document) : Prop :=
  ∃ entries pairs, value.opened = .map entries ∧
    List.Forall₂ (fun entry pair => IsText entry.1 pair.1 ∧ pair.2 = entry.2) entries pairs ∧
      map = Keyed.ofPairs pairs

theorem forall₂_of_readItems {read : Document → Checked α} {items : List Document} {values : List α}
    (valid : readItems read items = .valid values) :
    List.Forall₂ (fun item value => read item = .valid value) items values := by
  rw [readItems, List.mapIdx_eq_zipIdx_map, Checked.all_map_eq_valid_iff] at valid
  simp only [Checked.under_eq_valid_iff] at valid
  rwa [← List.zipIdx_map_fst 0 items, List.forall₂_map_left_iff]

theorem exists_isList_of_readList {read : Document → Checked α} {value : Document} {values : List α}
    (valid : readList read value = .valid values) :
    ∃ items, IsList value items ∧
      List.Forall₂ (fun item value => read item = .valid value) items values := by
  rw [readList] at valid
  split at valid
  · rename_i items list
    exact ⟨items, .inl list, forall₂_of_readItems valid⟩
  · rename_i items tuple
    exact ⟨items, .inr (.inl tuple), forall₂_of_readItems valid⟩
  · rename_i items set
    exact ⟨items, .inr (.inr set), forall₂_of_readItems valid⟩
  · cases valid

theorem exists_pairs_of_forall₂ {read : Document → Checked α} {entries : Entries} {results : Keyed α}
    (each : List.Forall₂ (fun entry result =>
      IsText entry.1 result.1 ∧ read entry.2 = .valid result.2) entries results) :
    ∃ pairs : Keyed Document,
      List.Forall₂ (fun entry pair => IsText entry.1 pair.1 ∧ pair.2 = entry.2) entries pairs ∧
        Keyed.Alike (fun part result => read part = .valid result) pairs results := by
  induction each with
  | nil => exact ⟨[], .nil, .nil⟩
  | @cons entry result _ _ both _ ih =>
    obtain ⟨pairs, named, alike⟩ := ih
    exact ⟨(result.1, entry.2) :: pairs, .cons ⟨both.1, rfl⟩ named, .cons ⟨rfl, both.2⟩ alike⟩

theorem exists_isMapping_of_readMap {read : Document → Checked α} {value : Document} {map : Keyed α}
    (valid : readMap read value = .valid map) :
    ∃ described, IsMapping value described ∧
      Keyed.Alike (fun part result => read part = .valid result) described map ∧
      ∀ entries, value.opened = .map entries →
        ∀ entry ∈ entries, ∃ result, read entry.2 = .valid result := by
  rw [readMap] at valid
  split at valid
  · rename_i entries mapping
    obtain ⟨results, all, rfl⟩ := Checked.map_eq_valid_iff.1 valid
    rw [Checked.all_map_eq_valid_iff] at all
    have each : List.Forall₂ (fun entry result =>
        IsText entry.1 result.1 ∧ read entry.2 = .valid result.2) entries results := by
      refine all.imp fun entry result both => ?_
      obtain ⟨key, part⟩ := Checked.both_eq_valid_iff.1 both
      rw [readKey, Checked.under_eq_valid_iff, Checked.under_eq_valid_iff] at key
      exact ⟨isText_of_readText key, Checked.under_eq_valid_iff.1 part⟩
    obtain ⟨pairs, named, alike⟩ := exists_pairs_of_forall₂ each
    refine ⟨_, ⟨entries, pairs, mapping, named, rfl⟩, alike.ofPairs, fun entries' same entry member => ?_⟩
    -- The values that no longer count have been read like the others.
    obtain rfl := Document.map.inj (mapping.symm.trans same)
    obtain ⟨result, _, both⟩ := Success.exists_right each member
    exact ⟨_, both.2⟩
  · cases valid

theorem isMapping_of_readOpenMap {value : Document} {map : Keyed Document}
    (valid : readOpenMap value = .valid map) : IsMapping value map := by
  obtain ⟨described, mapping, alike, _⟩ := exists_isMapping_of_readMap valid
  have same : described = map := (alike.imp fun _ _ => Checked.valid.inj).eq
  exact same ▸ mapping

def Unsaid (fields : Entries) (name : String) : Prop :=
  ∀ value, fields.field? name = some value → value = .null

def Says (fields : Entries) (name : String) (value : Document) : Prop :=
  fields.field? name = some value ∧ value ≠ .null

section

variable {fields : Entries} {name : String}

theorem readField_eq_valid_iff {absent result : α} {read : Document → Checked α} :
    readField fields none name absent read = .valid result ↔
      (fields.field? name = none ∧ result = absent) ∨
        ∃ value, fields.field? name = some value ∧ read value = .valid result := by
  have found : findField fields none name = (fields.field? name).map fun value => (name, value) := rfl
  rw [readField, found]
  cases fields.field? name with
  | none => simp [eq_comm]
  | some value => simp [Checked.under_eq_valid_iff]

theorem readRequired_eq_valid_iff {result : α} {read : Document → Checked α} :
    readRequired fields name read = .valid result ↔
      ∃ value, fields.field? name = some value ∧ read value = .valid result := by
  rw [readRequired]
  cases fields.field? name with
  | none => simp [Checked.refuse, Checked.under]
  | some value => simp [Checked.under_eq_valid_iff]

theorem readOptional_of_ne_null {read : Document → Checked α} {value : Document}
    (open_not : value ≠ .null) : readOptional read value = (read value).map some := by
  cases value with
  | null => exact absurd rfl open_not
  | _ => rfl

theorem unsaid_of_readField {read : Document → Checked α}
    (valid : readField fields none name none (readOptional read) = .valid none) :
    Unsaid fields name := by
  intro value found
  rcases readField_eq_valid_iff.1 valid with ⟨missing, _⟩ | ⟨other, found', read_other⟩
  · rw [missing] at found
    cases found
  · obtain rfl := Option.some.inj (found.symm.trans found')
    -- Anything but an open field would have been read as something.
    by_contra said
    rw [readOptional_of_ne_null said] at read_other
    obtain ⟨_, _, impossible⟩ := Checked.map_eq_valid_iff.1 read_other
    cases impossible

theorem exists_says_of_readField {read : Document → Checked α} {result : α}
    (valid : readField fields none name none (readOptional read) = .valid (some result)) :
    ∃ value, Says fields name value ∧ read value = .valid result := by
  rcases readField_eq_valid_iff.1 valid with ⟨_, impossible⟩ | ⟨value, found, read_value⟩
  · cases impossible
  · have said : value ≠ .null := by
      rintro rfl
      cases read_value
    rw [readOptional_of_ne_null said] at read_value
    obtain ⟨_, read_value, same⟩ := Checked.map_eq_valid_iff.1 read_value
    exact ⟨value, ⟨found, said⟩, Option.some.inj same ▸ read_value⟩

end

end CiPipeline.Schema
