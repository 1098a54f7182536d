import Mathlib.Data.List.Forall2

/-! Computations that may fail, taken apart where they succeed. -/
namespace CiPipeline.Success

variable {ε ε' α β : Type}

theorem bind_iff {first : Except ε α} {next : α → Except ε β} {result : β} :
    (first >>= next) = .ok result ↔ ∃ value, first = .ok value ∧ next value = .ok result := by
  cases first with
  | error failure => simp [bind, Except.bind]
  | ok value => simp [bind, Except.bind]

theorem error_bind_iff {first : Except ε α} {next : α → Except ε β} {failure : ε} :
    (first >>= next) = .error failure ↔
      first = .error failure ∨ ∃ value, first = .ok value ∧ next value = .error failure := by
  cases first with
  | error other => simp [bind, Except.bind]
  | ok value => simp [bind, Except.bind]

theorem map_iff {first : Except ε α} {f : α → β} {result : β} :
    first.map f = .ok result ↔ ∃ value, first = .ok value ∧ f value = result := by
  cases first with
  | error failure => simp [Except.map]
  | ok value => simp [Except.map]

theorem map_error_iff {first : Except ε α} {f : α → β} {failure : ε} :
    first.map f = .error failure ↔ first = .error failure := by
  cases first with
  | error other => simp [Except.map]
  | ok value => simp [Except.map]

theorem mapError_iff {first : Except ε α} {f : ε → ε'} {result : α} :
    first.mapError f = .ok result ↔ first = .ok result := by
  cases first with
  | error failure => simp [Except.mapError]
  | ok value => simp [Except.mapError]

theorem mapError_error_iff {first : Except ε α} {f : ε → ε'} {failure : ε'} :
    first.mapError f = .error failure ↔ ∃ inner, first = .error inner ∧ f inner = failure := by
  cases first with
  | error other => simp [Except.mapError]
  | ok value => simp [Except.mapError]

theorem mapM_some_iff {f : α → Except ε β} {given : α} {result : Option β} :
    (some given).mapM f = .ok result ↔ ∃ value, f given = .ok value ∧ some value = result :=
  map_iff

theorem mapM_iff {f : α → Except ε β} {items : List α} {results : List β} :
    items.mapM f = .ok results ↔ List.Forall₂ (fun item result => f item = .ok result) items results := by
  induction items generalizing results with
  | nil =>
    rw [List.mapM_nil, List.forall₂_nil_left_iff]
    exact ⟨fun same => (Except.ok.inj same).symm, fun same => same ▸ rfl⟩
  | cons item rest ih =>
    rw [List.mapM_cons, bind_iff, List.forall₂_cons_left_iff]
    refine exists_congr fun value => ?_
    constructor
    · rintro ⟨first, read⟩
      obtain ⟨others, later, same⟩ := bind_iff.1 read
      exact ⟨others, first, ih.1 later, (Except.ok.inj same).symm⟩
    · rintro ⟨others, first, later, rfl⟩
      exact ⟨first, bind_iff.2 ⟨others, ih.2 later, rfl⟩⟩

theorem mapM_error_iff {f : α → Except ε β} {items : List α} {failure : ε} :
    items.mapM f = .error failure ↔ ∃ front item back, items = front ++ item :: back ∧
      (∀ other ∈ front, ∃ value, f other = .ok value) ∧ f item = .error failure := by
  induction items with
  | nil =>
    rw [List.mapM_nil]
    exact iff_of_false (fun same => by cases same) fun ⟨front, item, back, split, _⟩ => by simp at split
  | cons first rest ih =>
    rw [List.mapM_cons, error_bind_iff]
    constructor
    · rintro (here | ⟨value, fine, later⟩)
      · exact ⟨[], first, rest, rfl, by simp, here⟩
      · rw [error_bind_iff] at later
        rcases later with later | ⟨_, _, same⟩
        · obtain ⟨front, item, back, rfl, all, there⟩ := ih.1 later
          exact ⟨first :: front, item, back, rfl, List.forall_mem_cons.2 ⟨⟨value, fine⟩, all⟩, there⟩
        · cases same
    · rintro ⟨front, item, back, split, all, there⟩
      cases front with
      | nil =>
        obtain ⟨rfl, rfl⟩ := List.cons.inj split
        exact .inl there
      | cons other front =>
        obtain ⟨rfl, rfl⟩ := List.cons.inj split
        obtain ⟨⟨value, fine⟩, all⟩ := List.forall_mem_cons.1 all
        exact .inr ⟨value, fine, error_bind_iff.2 (.inl (ih.2 ⟨front, item, back, rfl, all, there⟩))⟩

theorem exists_left {related : α → β → Prop} {items : List α} {results : List β}
    (all : List.Forall₂ related items results) {result : β} (member : result ∈ results) :
    ∃ item ∈ items, related item result := by
  induction all with
  | nil => cases member
  | @cons item _ rest _ first _ ih =>
    rcases List.mem_cons.1 member with rfl | there
    · exact ⟨item, List.mem_cons_self, first⟩
    · obtain ⟨other, behind, both⟩ := ih there
      exact ⟨other, List.mem_cons_of_mem _ behind, both⟩

theorem exists_right {related : α → β → Prop} {items : List α} {results : List β}
    (all : List.Forall₂ related items results) {item : α} (member : item ∈ items) :
    ∃ result ∈ results, related item result :=
  exists_left all.flip member

theorem forall₂_comp {γ : Type} {first : α → β → Prop} {second : β → γ → Prop} {both : α → γ → Prop}
    {items : List α} {betweens : List β} {results : List γ}
    (front : List.Forall₂ first items betweens) (back : List.Forall₂ second betweens results)
    (joins : ∀ item between result, first item between → second between result → both item result) :
    List.Forall₂ both items results := by
  induction front generalizing results with
  | nil =>
    rw [List.forall₂_nil_left_iff.1 back]
    exact .nil
  | cons here _ ih =>
    obtain ⟨result, others, there, behind, rfl⟩ := List.forall₂_cons_left_iff.1 back
    exact .cons (joins _ _ _ here there) (ih behind)

/-- A computation that succeeds under a condition and only then, and fails in a way of some sort where it does
not. -/
structure Decided (condition : Prop) (sort : ε → Prop) (result : Except ε α) : Prop where
  ok_iff : (∃ value, result = .ok value) ↔ condition
  error : ∀ failure, result = .error failure → sort failure

namespace Decided

variable {sort : ε → Prop} {p q : Prop}

theorem ok (value : α) : Decided True sort (.ok value : Except ε α) :=
  ⟨iff_of_true ⟨value, rfl⟩ trivial, fun _ same => by cases same⟩

theorem congr {result : Except ε α} (decided : Decided p sort result) (same : p ↔ q) :
    Decided q sort result :=
  ⟨decided.ok_iff.trans same, decided.error⟩

theorem map {result : Except ε α} (decided : Decided p sort result) (f : α → β) :
    Decided p sort (result.map f) := by
  refine ⟨Iff.trans ?_ decided.ok_iff, fun failure failed => decided.error _ (map_error_iff.1 failed)⟩
  simp only [map_iff]
  exact ⟨fun ⟨_, value, here, _⟩ => ⟨value, here⟩, fun ⟨value, here⟩ => ⟨_, value, here, rfl⟩⟩

theorem bind {first : Except ε α} {next : α → Except ε β} (decided : Decided p sort first)
    (later : ∀ value, Decided q sort (next value)) : Decided (p ∧ q) sort (first >>= next) := by
  constructor
  case ok_iff =>
    rw [← decided.ok_iff]
    constructor
    · rintro ⟨result, read⟩
      obtain ⟨value, here, there⟩ := bind_iff.1 read
      exact ⟨⟨value, here⟩, (later value).ok_iff.1 ⟨result, there⟩⟩
    · rintro ⟨⟨value, here⟩, holds⟩
      obtain ⟨result, there⟩ := (later value).ok_iff.2 holds
      exact ⟨result, bind_iff.2 ⟨value, here, there⟩⟩
  case error =>
    intro failure failed
    rcases error_bind_iff.1 failed with here | ⟨value, _, there⟩
    · exact decided.error failure here
    · exact (later value).error failure there

theorem mapM {f : α → Except ε β} {condition : α → Prop}
    (each : ∀ item, Decided (condition item) sort (f item)) (items : List α) :
    Decided (∀ item ∈ items, condition item) sort (items.mapM f) := by
  induction items with
  | nil => exact (ok []).congr (by simp)
  | cons item rest ih =>
    rw [List.mapM_cons]
    exact ((each item).bind fun value => ih.bind fun values => ok (value :: values)).congr (by simp)

end Decided

end CiPipeline.Success
