import CiPipeline.Proofs.Schema.Fields

/-! What a check takes, whatever it says of the values that it does not take. Taking goes through all parts of a
check, so that two checks take the same where their parts do. -/
namespace CiPipeline.Schema

variable {α β γ : Type}

namespace Checked

theorem value?_map (f : α → β) (check : Checked α) : (check.map f).value? = check.value?.map f := by
  cases check <;> rfl

theorem value?_fmap (f : α → β) (check : Checked α) : (f <$> check).value? = check.value?.map f :=
  value?_map f check

theorem value?_both (first : Checked α) (second : Checked β) :
    (both first second).value? = first.value?.bind fun a => second.value?.map (Prod.mk a) := by
  cases first <;> cases second <;> rfl

theorem value?_seq (first : Checked (α → β)) (second : Checked α) :
    (first <*> second).value? = first.value?.bind fun f => second.value?.map f := by
  have unfolded : first <*> second = (both first second).map fun pair => pair.1 pair.2 := rfl
  rw [unfolded, value?_map, value?_both]
  cases first <;> cases second <;> rfl

theorem value?_andThen (check : Checked α) (next : α → Checked β) :
    (check.andThen next).value? = check.value?.bind fun value => (next value).value? := by
  cases check <;> rfl

theorem value?_under (place : String) (check : Checked α) : (check.under place).value? = check.value? := by
  cases check <;> rfl

theorem value?_all (checks : List (Checked α)) : (all checks).value? = checks.mapM value? := by
  induction checks with
  | nil => rfl
  | cons first rest ih =>
    rw [all, value?_map, value?_both, ih, List.mapM_cons]
    cases first.value? with
    | none => rfl
    | some value => cases rest.mapM value? <;> rfl

end Checked

open Checked

theorem map_mapM (f : α → Option β) (g : β → γ) (items : List α) :
    (items.mapM f).map (List.map g) = items.mapM fun item => (f item).map g := by
  induction items with
  | nil => rfl
  | cons item rest ih =>
    rw [List.mapM_cons, List.mapM_cons, ← ih]
    cases f item with
    | none => rfl
    | some value => cases rest.mapM f <;> rfl

theorem value?_readItems (read : Document → Checked α) (items : List Document) :
    (readItems read items).value? = items.mapM fun item => (read item).value? := by
  have placed : (value? ∘ fun pair : Document × Nat => (read pair.1).under (Calendar.natText pair.2)) =
      (fun item => (read item).value?) ∘ Prod.fst :=
    funext fun pair => value?_under (Calendar.natText pair.2) (read pair.1)
  rw [readItems, value?_all, List.mapIdx_eq_zipIdx_map, List.mapM_map, placed, ← List.mapM_map,
    List.zipIdx_map_fst]

theorem value?_readList {value : Document} {items : List Document} (read : Document → Checked α)
    (list : IsList value items) : (readList read value).value? = items.mapM fun item => (read item).value? := by
  rw [← value?_readItems, readList]
  rcases list with opened | opened | opened <;> rw [opened]

def takenEntry (read : Document → Checked α) (entry : Document × Document) : Option (String × α) :=
  (readKey entry.1).value?.bind fun name => (read entry.2).value?.map (Prod.mk name)

theorem value?_readMap {value : Document} {entries : Entries} (read : Document → Checked α)
    (mapping : value.opened = .map entries) :
    (readMap read value).value? = (entries.mapM (takenEntry read)).map Keyed.ofPairs := by
  have each : (value? ∘ fun entry : Document × Document =>
      both (readKey entry.1) ((read entry.2).under (keyPlace entry.1))) = takenEntry read := by
    funext entry
    rw [Function.comp_apply, value?_both, value?_under, takenEntry]
  rw [readMap, mapping]
  dsimp only
  rw [value?_map, value?_all, List.mapM_map, each]

theorem value?_readForm {form : String} {read : Entries → Checked α} {value : Document} {fields : Entries}
    (mapping : value.opened = .map fields) : (readForm form read value).value? = (read fields).value? := by
  rw [readForm, mapping]

def found (fields : Entries) (alias? : Option String) (name : String) : Option Document :=
  (alias?.bind fields.field?).or (fields.field? name)

theorem map_findField (fields : Entries) (alias? : Option String) (name : String) :
    (findField fields alias? name).map (·.2) = found fields alias? name := by
  rw [findField, found]
  cases alias? with
  | none => cases fields.field? name <;> rfl
  | some other =>
    rw [Option.bind_some, Option.bind_some]
    cases fields.field? other with
    | none => cases fields.field? name <;> rfl
    | some value => rfl

theorem value?_readField (fields : Entries) (alias? : Option String) (name : String) (absent : α)
    (read : Document → Checked α) : (readField fields alias? name absent read).value? =
      (found fields alias? name).elim (some absent) fun value => (read value).value? := by
  rw [readField, ← map_findField]
  cases findField fields alias? name with
  | none => rfl
  | some pair => exact value?_under pair.1 (read pair.2)

theorem value?_readRequired (fields : Entries) (name : String) (read : Document → Checked α) :
    (readRequired fields name read).value? =
      (found fields none name).bind fun value => (read value).value? := by
  rw [readRequired, found, Option.bind_none, Option.none_or]
  cases fields.field? name with
  | none => rfl
  | some value => exact value?_under name (read value)

end CiPipeline.Schema
