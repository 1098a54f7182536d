/-! Maps from names to values that remember the order in which the names came. Writing to a known
name keeps its place. -/
namespace CiPipeline

abbrev Keyed (α : Type) := List (String × α)

namespace Keyed

variable {α β : Type}

def get? (entries : Keyed α) (name : String) : Option α := List.lookup name entries

def contains (entries : Keyed α) (name : String) : Bool := (entries.get? name).isSome

def names (entries : Keyed α) : List String := entries.map (·.1)

def values (entries : Keyed α) : List α := entries.map (·.2)

def put (entries : Keyed α) (name : String) (value : α) : Keyed α :=
  match entries with
  | [] => [(name, value)]
  | entry :: rest =>
    if entry.1 = name then (name, value) :: rest else entry :: put rest name value

def putAll (entries : Keyed α) (news : Keyed α) : Keyed α :=
  news.foldl (fun entries new => entries.put new.1 new.2) entries

def ofPairs (pairs : List (String × α)) : Keyed α := putAll [] pairs

def mapValues (entries : Keyed α) (f : α → β) : Keyed β :=
  entries.map fun entry => (entry.1, f entry.2)

theorem get?_nil (name : String) : get? ([] : Keyed α) name = none := rfl

theorem get?_cons (entry : String × α) (entries : Keyed α) (name : String) :
    get? (entry :: entries) name = if name = entry.1 then some entry.2 else entries.get? name := by
  obtain ⟨key, value⟩ := entry
  simp only [get?, List.lookup_cons]
  split <;> simp_all

theorem get?_put (entries : Keyed α) (name other : String) (value : α) :
    (entries.put name value).get? other =
      if other = name then some value else entries.get? other := by
  induction entries with
  | nil => simp [put, get?_cons, get?_nil]
  | cons entry rest ih =>
    rw [put]
    split
    · rename_i same
      subst same
      simp only [get?_cons]
      split <;> rfl
    · rename_i different
      simp only [get?_cons, ih]
      split
      · rename_i here
        subst here
        simp [different]
      · rfl

theorem get?_put_self (entries : Keyed α) (name : String) (value : α) :
    (entries.put name value).get? name = some value := by
  simp [get?_put]

theorem names_put (entries : Keyed α) (name : String) (value : α) :
    (entries.put name value).names =
      if name ∈ entries.names then entries.names else entries.names ++ [name] := by
  induction entries with
  | nil => simp [put, names]
  | cons entry rest ih =>
    rw [put]
    split
    · rename_i same
      simp [names, same]
    · rename_i different
      simp only [names, List.map_cons, List.mem_cons] at ih ⊢
      rw [ih]
      have apart : name ≠ entry.1 := fun same => different same.symm
      simp only [apart, false_or]
      split <;> simp_all

end Keyed

end CiPipeline
