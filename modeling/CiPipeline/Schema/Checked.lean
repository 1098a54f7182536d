import CiPipeline.Problem

/-! Checking a part of a document: a value, or all the issues that stand in its way. Checks of several
parts are carried out side by side, so that no issue hides another one. -/
namespace CiPipeline.Schema

inductive Checked (α : Type)
  | valid (value : α)
  | invalid (issues : List Issue)

namespace Checked

variable {α β γ : Type}

def map (f : α → β) : Checked α → Checked β
  | valid value => valid (f value)
  | invalid issues => invalid issues

def both (first : Checked α) (second : Checked β) : Checked (α × β) :=
  match first, second with
  | valid a, valid b => valid (a, b)
  | valid _, invalid issues => invalid issues
  | invalid issues, valid _ => invalid issues
  | invalid issues, invalid more => invalid (issues ++ more)

def andThen (first : Checked α) (next : α → Checked β) : Checked β :=
  match first with
  | valid value => next value
  | invalid issues => invalid issues

instance : Functor Checked where
  map := Checked.map

instance : Applicative Checked where
  pure := valid
  seq f x := (both f (x ())).map fun pair => pair.1 pair.2

def refuse (message : String) : Checked α := invalid [⟨[], message⟩]

def under (place : String) : Checked α → Checked α
  | valid value => valid value
  | invalid issues => invalid (issues.map fun issue => ⟨place :: issue.path, issue.message⟩)

def all : List (Checked α) → Checked (List α)
  | [] => valid []
  | first :: rest => (both first (all rest)).map fun pair => pair.1 :: pair.2

def value? : Checked α → Option α
  | valid value => some value
  | invalid _ => none

def issues : Checked α → List Issue
  | valid _ => []
  | invalid issues => issues

theorem both_eq_valid_iff {first : Checked α} {second : Checked β} {a : α} {b : β} :
    both first second = valid (a, b) ↔ first = valid a ∧ second = valid b := by
  cases first <;> cases second <;> simp [both]

theorem map_eq_valid_iff {f : α → β} {check : Checked α} {b : β} :
    check.map f = valid b ↔ ∃ a, check = valid a ∧ f a = b := by
  cases check <;> simp [map]

theorem under_eq_valid_iff {place : String} {check : Checked α} {a : α} :
    check.under place = valid a ↔ check = valid a := by
  cases check <;> simp [Checked.under]

theorem all_eq_valid_iff {checks : List (Checked α)} {values : List α} :
    all checks = valid values ↔ checks = values.map valid := by
  induction checks generalizing values with
  | nil => cases values <;> simp [all]
  | cons first rest ih =>
    cases values with
    | nil => cases h : both first (all rest) <;> simp [all, map, h]
    | cons value values =>
      simp only [all, map_eq_valid_iff, List.map_cons, List.cons.injEq, ← ih]
      constructor
      · rintro ⟨⟨a, b⟩, both_valid, rfl, rfl⟩
        exact both_eq_valid_iff.1 both_valid
      · intro h
        exact ⟨(value, values), both_eq_valid_iff.2 h, rfl, rfl⟩

end Checked

end CiPipeline.Schema
