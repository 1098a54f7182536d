import Mathlib.Data.Fintype.Card
import Mathlib.Data.Set.Finite.Basic
import Mathlib.Logic.Relation
import Mathlib.Order.Bounds.Basic

/-! Chains of a relation. In a finite graph, what does not hang on a cycle can be reached from below by
induction, and everything there has a longest chain that leads to it. -/
namespace CiPipeline

variable {α β : Type}

/-- A chain of some length leads to an element: each link stands before the next one. -/
inductive Chain (before : α → α → Prop) : Nat → α → Prop
  | single (last : α) : Chain before 0 last
  | link {length : Nat} {need last : α} (chain : Chain before length need)
    (edge : before need last) : Chain before (length + 1) last

/-- The length of the longest chain that leads to an element. -/
def LongestChain (before : α → α → Prop) (last : α) (length : Nat) : Prop :=
  IsGreatest {length | Chain before length last} length

/-- Some element stands before itself, directly or through others. -/
def Cyclic (before : α → α → Prop) : Prop := ∃ origin, Relation.TransGen before origin origin

/-- An element stands on a cycle or behind one. -/
def Entangled (before : α → α → Prop) (last : α) : Prop :=
  ∃ origin, Relation.TransGen before origin origin ∧ Relation.ReflTransGen before origin last

theorem LongestChain.unique {before : α → α → Prop} {last : α} {one other : Nat}
    (first : LongestChain before last one) (second : LongestChain before last other) :
    one = other :=
  IsGreatest.unique first second

section

variable {before : α → α → Prop}

theorem Entangled.behind {need last : α} (entangled : Entangled before need)
    (edge : before need last) : Entangled before last := by
  obtain ⟨origin, cycle, path⟩ := entangled
  exact ⟨origin, cycle, path.tail edge⟩

theorem Entangled.exists_need {last : α} (entangled : Entangled before last) :
    ∃ need, before need last ∧ Entangled before need := by
  obtain ⟨origin, cycle, path⟩ := entangled
  cases path with
  | refl =>
    cases cycle with
    | single edge => exact ⟨last, edge, last, .single edge, .refl⟩
    | tail path edge => exact ⟨_, edge, last, path.tail edge, path.to_reflTransGen⟩
  | tail path edge => exact ⟨_, edge, origin, cycle, path⟩

theorem not_entangled_of_not_cyclic (acyclic : ¬Cyclic before) (last : α) :
    ¬Entangled before last := by
  rintro ⟨origin, cycle, _⟩
  exact acyclic ⟨origin, cycle⟩

theorem not_cyclic_of_grows {rank : α → Nat}
    (grows : ∀ need last, before need last → rank need < rank last) : ¬Cyclic before := by
  rintro ⟨origin, cycle⟩
  have higher : rank origin < rank origin := by
    refine Relation.TransGen.trans_induction_on cycle (motive := fun {one other} _ =>
      rank one < rank other) (fun edge => grows _ _ edge) (fun _ _ => Nat.lt_trans)
  exact Nat.lt_irrefl _ higher

/-- What passes on along edges holds of every element of a finite graph that does not hang on a cycle. -/
theorem forall_of_not_entangled {known : List α} (inside : ∀ need last, before need last → need ∈ known)
    {holds : α → Prop}
    (step : ∀ last ∈ known, (∀ need, before need last → holds need) → holds last) :
    ∀ last ∈ known, ¬Entangled before last → holds last := by
  -- Where nothing stands before itself, walking backwards in a finite graph comes to an end.
  let Free := { element : α // element ∈ known ∧ ¬Entangled before element }
  let path : Free → Free → Prop := fun one other => Relation.TransGen before one.1 other.1
  have finite : Finite Free :=
    ((List.finite_toSet known).subset fun element member => member.1).to_subtype
  have trans : IsTrans Free path := ⟨fun _ _ _ => Relation.TransGen.trans⟩
  have irrefl : Std.Irrefl path := ⟨fun free cycle => free.2.2 ⟨free.1, cycle, .refl⟩⟩
  have founded : WellFounded path := Finite.wellFounded_of_trans_of_irrefl path
  intro last member clear
  have reached : ∀ free : Free, holds free.1 := by
    intro free
    induction free using founded.induction with
    | _ free ih =>
      refine step free.1 free.2.1 fun need edge => ?_
      have clear_need : ¬Entangled before need := fun tangled => free.2.2 (tangled.behind edge)
      exact ih ⟨need, inside need free.1 edge, clear_need⟩ (.single edge)
  exact reached ⟨last, member, clear⟩

end

theorem Chain.map {before : α → α → Prop} {before' : β → β → Prop} (stands : α → β → Prop)
    (back : ∀ need last last', before need last → stands last last' →
      ∃ need', stands need need' ∧ before' need' last')
    {length : Nat} {last : α} (chain : Chain before length last) {last' : β}
    (stood : stands last last') : Chain before' length last' := by
  induction chain generalizing last' with
  | single => exact .single last'
  | link _ edge ih =>
    obtain ⟨need', here, edge'⟩ := back _ _ _ edge stood
    exact .link (ih here) edge'

end CiPipeline
