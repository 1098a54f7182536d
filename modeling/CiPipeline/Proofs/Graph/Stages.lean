import CiPipeline.Proofs.Graph.Chains
import CiPipeline.Proofs.Graph.Levels
import Mathlib.Data.List.Sort

/-! The levels of a graph, exactly. They always come to an end; a name stands in the level whose position is
the length of the longest chain of prerequisites that leads to it, and left over are the names on a
cycle or behind one. None of this depends on the order in which dependents are listed. -/
namespace CiPipeline.Levels

variable {dependents listed : Keyed (List String)} {names done : List String} {order : Keyed Int}

structure Ranked (order : Keyed Int) (names : List String) : Prop where
  known : ∀ name ∈ names, name ∈ order.names
  apart : ∀ one ∈ names, ∀ other ∈ names, order.get? one = order.get? other → one = other

def rankOf (order : Keyed Int) (name : String) : Int := (order.get? name).getD 0

def Ascending (order : Keyed Int) (names : List String) : Prop :=
  names.Pairwise fun one other => rankOf order one < rankOf order other

theorem get?_eq_rankOf {name : String} (known : name ∈ order.names) :
    order.get? name = some (rankOf order name) := by
  obtain ⟨rank, found⟩ := Keyed.exists_get?_of_mem known
  rw [rankOf, found, Option.getD_some]

theorem Ranked.rankOf_inj (ranked : Ranked order names) {one other : String} (here : one ∈ names)
    (there : other ∈ names) (same : rankOf order one = rankOf order other) : one = other := by
  refine ranked.apart one here other there ?_
  rw [get?_eq_rankOf (ranked.known one here), get?_eq_rankOf (ranked.known other there), same]

theorem Ascending.nodup (ascending : Ascending order names) : names.Nodup :=
  List.Pairwise.imp (fun less same => by rw [same] at less; exact Int.lt_irrefl _ less) ascending

theorem Ascending.eq_of_perm {others : List String} (one : Ascending order names)
    (other : Ascending order others) (perm : names.Perm others) : names = others :=
  perm.eq_of_pairwise (fun _ _ _ _ less more => absurd (Int.lt_trans less more) (Int.lt_irrefl _))
    one other

theorem Ascending.eq_of_mem_iff {others : List String} (one : Ascending order names)
    (other : Ascending order others) (same : ∀ name, name ∈ names ↔ name ∈ others) :
    names = others :=
  one.eq_of_perm other ((List.perm_ext_iff_of_nodup one.nodup other.nodup).2 same)

def atMost (order : Keyed Int) (one other : String) : Bool :=
  decide (rankOf order one ≤ rankOf order other)

theorem arrange_eq {found : List String} (known : found ⊆ order.names) :
    arrange (some order) found = .ok (found.mergeSort (atMost order)) := by
  have read : (found.mapM fun name => (rank? (some order) name).map fun rank => (name, rank)) =
      .ok (found.map fun name => (name, rankOf order name)) := by
    rw [Success.mapM_iff, List.forall₂_map_right_iff, List.forall₂_same]
    intro name member
    rw [rank?, get?_eq_rankOf (known member)]
    rfl
  have same : ∀ one ∈ found, ∀ other ∈ found, atMost order one other =
      before (some order) (one, rankOf order one) (other, rankOf order other) :=
    fun _ _ _ _ => rfl
  have sorted : (found.map fun name => (name, rankOf order name)).mergeSort (before (some order)) =
      (found.mergeSort (atMost order)).map fun name => (name, rankOf order name) :=
    (List.map_mergeSort same).symm
  rw [arrange, read]
  refine congrArg Except.ok ?_
  rw [sorted, List.map_map]
  exact List.map_id _

theorem exists_arrange (ranked : Ranked order names) {found : List String} (inside : found ⊆ names)
    (nodup : found.Nodup) :
    ∃ level, arrange (some order) found = .ok level ∧ level.Perm found ∧ Ascending order level := by
  have perm := List.mergeSort_perm found (atMost order)
  have trans (one other third : String) (less : atMost order one other)
      (more : atMost order other third) : atMost order one third :=
    decide_eq_true (Int.le_trans (of_decide_eq_true less) (of_decide_eq_true more))
  have total (one other : String) : atMost order one other || atMost order other one := by
    rw [atMost, atMost, Bool.or_eq_true, decide_eq_true_eq, decide_eq_true_eq]
    exact Int.le_total _ _
  have sorted := List.pairwise_mergeSort trans total found
  refine ⟨_, arrange_eq fun name member => ranked.known name (inside member), perm, ?_⟩
  refine ((perm.nodup_iff.2 nodup).and sorted).imp_of_mem fun {one other} here there both => ?_
  refine lt_of_le_of_ne (of_decide_eq_true both.2) fun same => both.1 ?_
  exact ranked.rankOf_inj (inside (perm.mem_iff.1 here)) (inside (perm.mem_iff.1 there)) same

structure Closed (dependents : Keyed (List String)) (needCount : Keyed Int) : Prop
    extends Consistent dependents needCount where
  inside : ∀ {need name}, Awaits dependents need name → name ∈ needCount.names

structure Waits (names : List String) (state : State) : Prop where
  waiting : state.waiting.names = names
  free : state.free ⊆ names

theorem Waits.exists_release {state : State} (waits : Waits names state) {name : String}
    (known : name ∈ names) : ∃ next, state.release name = .ok next ∧ Waits names next := by
  rw [← waits.waiting] at known
  obtain ⟨count, found⟩ := Keyed.exists_get?_of_mem known
  rw [State.release, found]
  refine ⟨_, rfl, (Keyed.names_put_of_mem known _).trans waits.waiting, ?_⟩
  dsimp only
  split
  · refine List.append_subset.2 ⟨waits.free, List.cons_subset.2 ⟨?_, List.nil_subset _⟩⟩
    rwa [← waits.waiting]
  · exact waits.free

theorem Waits.exists_foldlM_release {state : State} (waits : Waits names state)
    {children : List String} (known : children ⊆ names) :
    ∃ next, children.foldlM State.release state = .ok next ∧ Waits names next := by
  induction children generalizing state with
  | nil => exact ⟨state, rfl, waits⟩
  | cons child rest ih =>
    obtain ⟨middle, released, kept⟩ := waits.exists_release (known List.mem_cons_self)
    obtain ⟨next, later, ending⟩ := ih kept fun other member => known (List.mem_cons_of_mem _ member)
    refine ⟨next, ?_, ending⟩
    rw [List.foldlM_cons, released]
    exact later

theorem Waits.exists_finish {state : State} (waits : Waits names state)
    (inside : ∀ {need name}, Awaits dependents need name → name ∈ names) (level : List String) :
    ∃ next, State.finish dependents state level = .ok next ∧ Waits names next := by
  refine waits.exists_foldlM_release fun child member => ?_
  obtain ⟨need, _, there⟩ := List.mem_flatMap.1 member
  exact inside (JobGraph.mem_distinct.1 there)

theorem Waits.exists_levelsFrom (ranks : names ⊆ order.names)
    (inside : ∀ {need name}, Awaits dependents need name → name ∈ names) {state : State}
    (waits : Waits names state) (bound : Nat) :
    ∃ levels last, levelsFrom dependents (some order) bound state = .ok (levels, last) ∧
      Waits names last := by
  induction bound generalizing state with
  | zero => exact ⟨[], state, rfl, waits⟩
  | succ bound ih =>
    rw [levelsFrom]
    split
    · exact ⟨[], state, rfl, waits⟩
    · have arranged := arrange_eq fun name member => ranks (waits.free member)
      have started : Waits names ⟨state.waiting, []⟩ := ⟨waits.waiting, List.nil_subset _⟩
      obtain ⟨next, finished, kept⟩ := started.exists_finish inside (state.free.mergeSort (atMost order))
      obtain ⟨levels, last, later, ending⟩ := ih kept
      refine ⟨state.free.mergeSort (atMost order) :: levels, last, ?_, ending⟩
      rw [arranged]
      dsimp only [bind, Except.bind]
      rw [finished]
      dsimp only
      rw [later]
      rfl

theorem ok_or_cycle {needCount : Keyed Int} (ranks : needCount.names ⊆ order.names)
    (inside : ∀ {need name}, Awaits dependents need name → name ∈ needCount.names) :
    (∃ levels, Levels.of dependents needCount (some order) = .ok levels) ∨
      ∃ stuck, Levels.of dependents needCount (some order) = .error (.problem (.cycle stuck)) := by
  have some_names (entries : Keyed Int) (keep : String × Int → Bool) {name : String}
      (member : name ∈ Keyed.names (entries.filter keep)) : name ∈ entries.names :=
    (List.filter_sublist.map _).subset member
  have arranged : arrange (some order) (Keyed.names (needCount.filter fun entry => entry.2 == 0)) = _ :=
    arrange_eq fun name member => ranks (some_names _ _ member)
  have started : Waits needCount.names ⟨needCount,
      (Keyed.names (needCount.filter fun entry => entry.2 == 0)).mergeSort (atMost order)⟩ :=
    ⟨rfl, fun name member => some_names _ _ ((List.mergeSort_perm _ _).subset member)⟩
  obtain ⟨levels, last, read, ending⟩ :=
    started.exists_levelsFrom ranks inside (needCount.length + 1)
  have left : arrange (some order) (Keyed.names (last.waiting.filter fun entry => 0 < entry.2)) = _ :=
    arrange_eq fun name member => ranks (ending.waiting ▸ some_names _ _ member)
  rw [Levels.of, arranged]
  dsimp only [bind, Except.bind]
  rw [read]
  dsimp only
  split
  · exact .inl ⟨levels, rfl⟩
  · rw [left]
    exact .inr ⟨_, rfl⟩

theorem exists_levelsFrom (ranked : Ranked order names) (nodup : names.Nodup)
    (inside : ∀ {need name}, Awaits dependents need name → name ∈ names) {state : State}
    (counted : Counted dependents names done state) (bound : Nat) :
    ∃ levels last, levelsFrom dependents (some order) bound state = .ok (levels, last) ∧
      (∀ level ∈ levels, level ≠ [] ∧ Ascending order level) ∧
      (last.free = [] ∨ levels.length = bound) := by
  induction bound generalizing done state with
  | zero => exact ⟨[], state, rfl, by simp, .inr rfl⟩
  | succ bound ih =>
    rw [levelsFrom]
    by_cases none_left : state.free.isEmpty
    · rw [if_pos none_left]
      exact ⟨[], state, rfl, by simp, .inl (List.isEmpty_iff.1 none_left)⟩
    · rw [if_neg none_left]
      have known : state.free ⊆ names := fun name member => ((counted.mem_free name).1 member).1
      obtain ⟨level, arranged, perm, ascending⟩ := exists_arrange ranked known counted.free_nodup
      have started : Waits names ⟨state.waiting, []⟩ := ⟨counted.waiting_names, List.nil_subset _⟩
      obtain ⟨next, finished, _⟩ := started.exists_finish inside level
      have whole (name : String) : name ∈ level ↔ Free dependents names done name :=
        perm.mem_iff.trans (counted.mem_free name)
      obtain ⟨levels, last, later, good, ending⟩ := ih
        (counted_finish nodup counted (perm.nodup_iff.2 counted.free_nodup) whole finished)
      refine ⟨level :: levels, last, ?_, ?_, ?_⟩
      · rw [arranged]
        dsimp only [bind, Except.bind]
        rw [finished]
        dsimp only
        rw [later]
        rfl
      · refine List.forall_mem_cons.2 ⟨⟨fun empty => none_left ?_, ascending⟩, good⟩
        rw [empty] at perm
        exact List.isEmpty_iff.2 (List.nil_perm.1 perm)
      · exact ending.imp_right fun used => by rw [List.length_cons, used]

/-- Levels as they are read from a graph: each holds what is free on top of those before it, in the order of
ranks, and behind the last one nothing is free. -/
structure Staged (dependents : Keyed (List String)) (order : Keyed Int) (names : List String)
    (levels : List (List String)) : Prop where
  layered : Layered dependents names [] levels
  filled : ∀ level ∈ levels, level ≠ []
  ascending : ∀ level ∈ levels, Ascending order level
  whole : ∀ name, ¬Free dependents names levels.flatten name

theorem length_le_flatten {levels : List (List String)} (filled : ∀ level ∈ levels, level ≠ []) :
    levels.length ≤ levels.flatten.length := by
  induction levels with
  | nil => exact Nat.le_refl 0
  | cons level rest ih =>
    have first := List.length_pos_iff.2 (filled level List.mem_cons_self)
    have later := ih fun other member => filled other (List.mem_cons_of_mem _ member)
    rw [List.flatten_cons, List.length_append, List.length_cons]
    omega

theorem length_flatten_le {levels : List (List String)}
    (layered : Layered dependents names done levels) : levels.flatten.length ≤ names.length :=
  (List.subperm_of_subset (nodup_flatten layered)
    fun _ member => (not_mem_done layered member).1).length_le

theorem names_stuck {state : State} (nodup : names.Nodup)
    (counted : Counted dependents names done state)
    (whole : ∀ name, ¬Free dependents names done name) {name : String} :
    name ∈ Keyed.names (state.waiting.filter fun entry => decide (0 < entry.2)) ↔
      name ∈ names ∧ name ∉ done := by
  have distinct : state.waiting.names.Nodup := counted.waiting_names ▸ nodup
  constructor
  · intro found
    obtain ⟨⟨other, count⟩, member, rfl⟩ := List.mem_map.1 found
    rw [List.mem_filter, decide_eq_true_eq] at member
    have read := Keyed.get?_of_mem distinct member.1
    have known : other ∈ names := counted.waiting_names ▸ Keyed.mem_names_of_get? read
    rw [counted.waiting other known, Option.some.injEq] at read
    refine ⟨known, fun old => ?_⟩
    rw [counted.closed other old, List.length_nil] at read
    have := member.2
    dsimp only at this
    omega
  · rintro ⟨known, fresh⟩
    have waits : needsLeft dependents names done name ≠ [] :=
      fun empty => whole name ⟨known, fresh, empty⟩
    have positive := List.length_pos_iff.2 waits
    refine List.mem_map.2 ⟨(name, _), List.mem_filter.2
      ⟨Keyed.mem_of_get? (counted.waiting name known), decide_eq_true ?_⟩, rfl⟩
    dsimp only
    omega

/-- What is read from a graph are its levels: each takes a name away, so that the bound is never used up. -/
theorem exists_read {needCount : Keyed Int} (closed : Closed dependents needCount)
    (ranked : Ranked order needCount.names) :
    ∃ first levels last,
      arrange (some order) (Keyed.names (needCount.filter fun entry => entry.2 == 0)) = .ok first ∧
      levelsFrom dependents (some order) (needCount.length + 1) ⟨needCount, first⟩ =
        .ok (levels, last) ∧
      Staged dependents order needCount.names levels ∧
      Counted dependents needCount.names levels.flatten last := by
  have sub : (Keyed.names (needCount.filter fun entry => entry.2 == 0)).Sublist needCount.names :=
    List.filter_sublist.map _
  obtain ⟨first, arranged, _, _⟩ := exists_arrange ranked sub.subset (closed.nodup.sublist sub)
  have counted := counted_start closed.toConsistent arranged
  obtain ⟨levels, last, read, good, ending⟩ :=
    exists_levelsFrom ranked closed.nodup closed.inside counted (needCount.length + 1)
  obtain ⟨layered, counted_last⟩ := layered_levelsFrom closed.nodup counted read
  rw [List.nil_append] at counted_last
  have empty : last.free = [] := by
    refine ending.resolve_right fun used => ?_
    have size : needCount.names.length = needCount.length := List.length_map _
    have most := length_flatten_le layered
    have least := length_le_flatten fun level member => (good level member).1
    omega
  have whole (name : String) : ¬Free dependents needCount.names levels.flatten name := by
    rw [← counted_last.mem_free, empty]
    exact List.not_mem_nil
  exact ⟨first, levels, last, arranged, read, ⟨layered, fun level member => (good level member).1,
    fun level member => (good level member).2, whole⟩, counted_last⟩

theorem exists_staged {needCount : Keyed Int} (closed : Closed dependents needCount)
    (ranked : Ranked order needCount.names) :
    ∃ levels, Staged dependents order needCount.names levels ∧
      (needCount.names ⊆ levels.flatten →
        Levels.of dependents needCount (some order) = .ok levels) ∧
      (¬needCount.names ⊆ levels.flatten → ∃ stuck,
        Levels.of dependents needCount (some order) = .error (.problem (.cycle stuck)) ∧
          Ascending order stuck ∧
          ∀ name, name ∈ stuck ↔ name ∈ needCount.names ∧ name ∉ levels.flatten) := by
  obtain ⟨first, levels, last, arranged, read, staged, counted⟩ := exists_read closed ranked
  have size : needCount.names.length = needCount.length := List.length_map _
  have most := length_flatten_le staged.layered
  refine ⟨levels, staged, fun all => ?_, fun less => ?_⟩
  · have least := (List.subperm_of_subset closed.nodup all).length_le
    rw [Levels.of, arranged]
    dsimp only [bind, Except.bind]
    rw [read]
    dsimp only
    rw [if_pos (by omega)]
    rfl
  · have short : levels.flatten.length ≠ needCount.length := by
      intro long
      have perm := (List.subperm_of_subset (nodup_flatten staged.layered)
        fun name member => (not_mem_done staged.layered member).1).perm_of_length_le (by omega)
      exact less perm.symm.subset
    have distinct : last.waiting.names.Nodup := counted.waiting_names ▸ closed.nodup
    obtain ⟨stuck, stuck_arranged, perm, ascending⟩ := exists_arrange ranked
      (fun name member => ((names_stuck closed.nodup counted staged.whole).1 member).1)
      (distinct.sublist (List.filter_sublist.map _))
    refine ⟨stuck, ?_, ascending, fun name =>
      perm.mem_iff.trans (names_stuck closed.nodup counted staged.whole)⟩
    rw [Levels.of, arranged]
    dsimp only [bind, Except.bind]
    rw [read]
    dsimp only
    rw [if_neg short, stuck_arranged]
    rfl

theorem mem_level_iff {levels : List (List String)}
    (layered : Layered dependents names done levels) {position : Nat} {level : List String}
    (found : levels[position]? = some level) (name : String) :
    name ∈ level ↔ Free dependents names (done ++ (levels.take position).flatten) name := by
  induction levels generalizing done position with
  | nil => simp at found
  | cons first rest ih =>
    obtain ⟨_, whole, later⟩ := layered
    cases position with
    | zero =>
      obtain rfl : first = level := by simpa using found
      simpa using whole name
    | succ position =>
      have behind := ih later (by simpa using found)
      rwa [List.append_assoc, ← List.flatten_cons, ← List.take_succ_cons] at behind

theorem mem_flatten_of_getElem? {levels : List (List String)} {position : Nat} {level : List String}
    (found : levels[position]? = some level) {name : String} (member : name ∈ level) :
    name ∈ levels.flatten :=
  List.mem_flatten_of_mem (List.mem_of_getElem? found) member

namespace Staged

variable {levels : List (List String)} (staged : Staged dependents order names levels)

include staged

theorem exists_earlier (known : ∀ {need name}, Awaits dependents need name → need ∈ names)
    {position : Nat} {level : List String} (found : levels[position]? = some level)
    {need name : String} (member : name ∈ level) (edge : Awaits dependents need name) :
    ∃ earlier < position, ∃ before, levels[earlier]? = some before ∧ need ∈ before := by
  have free := (mem_level_iff staged.layered found name).1 member
  rw [List.nil_append] at free
  have empty := List.eq_nil_iff_forall_not_mem.1 free.2.2 need
  rw [mem_needsLeft] at empty
  have done : need ∈ (levels.take position).flatten := by
    by_contra open_
    exact empty ⟨known edge, edge, open_⟩
  obtain ⟨before, taken, here⟩ := List.mem_flatten.1 done
  obtain ⟨earlier, read⟩ := List.mem_iff_getElem?.1 taken
  rw [List.getElem?_take] at read
  split at read
  · rename_i less
    exact ⟨earlier, less, before, read, here⟩
  · cases read

/-- A name behind the first level waits for a name in the level before, or it would have been free then. -/
theorem exists_before {position : Nat} {level : List String}
    (found : levels[position + 1]? = some level) {name : String} (member : name ∈ level) :
    ∃ before, levels[position]? = some before ∧ ∃ need ∈ before, Awaits dependents need name := by
  obtain ⟨before, read⟩ : ∃ before, levels[position]? = some before := by
    have := (List.getElem?_eq_some_iff.1 found).1
    exact ⟨_, List.getElem?_eq_getElem (by omega)⟩
  have free := (mem_level_iff staged.layered found name).1 member
  have parts : (levels.take (position + 1)).flatten = (levels.take position).flatten ++ before := by
    rw [List.take_add_one, read, Option.toList_some, List.flatten_append, List.flatten_singleton]
  rw [List.nil_append, parts] at free
  obtain ⟨known, fresh, empty⟩ := free
  rw [List.mem_append, not_or] at fresh
  refine ⟨before, read, ?_⟩
  by_contra none
  have no_need : needsLeft dependents names (levels.take position).flatten name = [] := by
    rw [List.eq_nil_iff_forall_not_mem] at empty ⊢
    intro need left
    rw [mem_needsLeft] at left
    refine empty need (mem_needsLeft.2 ⟨left.1, left.2.1, ?_⟩)
    rw [List.mem_append, not_or]
    exact ⟨left.2.2, fun here => none ⟨need, here, left.2.1⟩⟩
  refine fresh.2 ((mem_level_iff staged.layered read name).2 ?_)
  rw [List.nil_append]
  exact ⟨known, fresh.1, no_need⟩

theorem longestChain (known : ∀ {need name}, Awaits dependents need name → need ∈ names)
    {position : Nat} {level : List String} (found : levels[position]? = some level) {name : String}
    (member : name ∈ level) : LongestChain (Awaits dependents) name position := by
  constructor
  · induction position generalizing level name with
    | zero => exact .single name
    | succ position ih =>
      obtain ⟨before, read, need, here, edge⟩ := staged.exists_before found member
      exact .link (ih read here) edge
  · intro length chain
    induction chain generalizing position level with
    | single => exact Nat.zero_le position
    | link _ edge ih =>
      obtain ⟨earlier, less, before, read, here⟩ := staged.exists_earlier known found member edge
      exact Nat.lt_of_le_of_lt (ih read here) less

/-- What hangs on a cycle waits for something else that does, and never comes to lie in a level. -/
theorem not_entangled (known : ∀ {need name}, Awaits dependents need name → need ∈ names)
    {position : Nat} {level : List String} (found : levels[position]? = some level) {name : String}
    (member : name ∈ level) : ¬Entangled (Awaits dependents) name := by
  induction position using Nat.strongRecOn generalizing level name with
  | ind position ih =>
    intro entangled
    obtain ⟨need, edge, entangled_need⟩ := entangled.exists_need
    obtain ⟨earlier, less, before, read, here⟩ := staged.exists_earlier known found member edge
    exact ih earlier less read here entangled_need

theorem mem_flatten_iff (known : ∀ {need name}, Awaits dependents need name → need ∈ names)
    {name : String} :
    name ∈ levels.flatten ↔ name ∈ names ∧ ¬Entangled (Awaits dependents) name := by
  constructor
  · intro member
    obtain ⟨level, there, here⟩ := List.mem_flatten.1 member
    obtain ⟨position, found⟩ := List.mem_iff_getElem?.1 there
    exact ⟨(not_mem_done staged.layered member).1, staged.not_entangled known found here⟩
  · rintro ⟨here, clear⟩
    refine forall_of_not_entangled (fun _ _ => known) (fun name here below => ?_) name here clear
    by_contra out
    refine staged.whole name ⟨here, out, List.eq_nil_iff_forall_not_mem.2 fun need left => ?_⟩
    rw [mem_needsLeft] at left
    exact left.2.2 (below need left.2.1)

theorem mem_getD_iff (known : ∀ {need name}, Awaits dependents need name → need ∈ names)
    {position : Nat} {name : String} : name ∈ levels.getD position [] ↔
      (name ∈ names ∧ ¬Entangled (Awaits dependents) name) ∧
        LongestChain (Awaits dependents) name position := by
  rw [← staged.mem_flatten_iff known, List.getD_eq_getElem?_getD]
  constructor
  · intro member
    cases found : levels[position]? with
    | none => simp [found] at member
    | some level =>
      rw [found, Option.getD_some] at member
      exact ⟨mem_flatten_of_getElem? found member, staged.longestChain known found member⟩
  · rintro ⟨member, longest⟩
    obtain ⟨level, there, here⟩ := List.mem_flatten.1 member
    obtain ⟨other, found⟩ := List.mem_iff_getElem?.1 there
    obtain rfl := (staged.longestChain known found here).unique longest
    rwa [found, Option.getD_some]

end Staged

theorem eq_of_mem_getD_iff {levels others : List (List String)}
    (filled : ∀ level ∈ levels, level ≠ []) (filled' : ∀ level ∈ others, level ≠ [])
    (ascending : ∀ level ∈ levels, Ascending order level)
    (ascending' : ∀ level ∈ others, Ascending order level)
    (same : ∀ position name, name ∈ levels.getD position [] ↔ name ∈ others.getD position []) :
    levels = others := by
  refine List.ext_getElem? fun position => ?_
  have here := same position
  simp only [List.getD_eq_getElem?_getD] at here
  cases found : levels[position]? with
  | none =>
    cases found' : others[position]? with
    | none => rfl
    | some level' =>
      simp only [found, found', Option.getD_none, Option.getD_some, List.not_mem_nil, false_iff] at here
      exact absurd (List.eq_nil_iff_forall_not_mem.2 here) (filled' _ (List.mem_of_getElem? found'))
  | some level =>
    cases found' : others[position]? with
    | none =>
      simp only [found, found', Option.getD_none, Option.getD_some, List.not_mem_nil, iff_false] at here
      exact absurd (List.eq_nil_iff_forall_not_mem.2 here) (filled _ (List.mem_of_getElem? found))
    | some level' =>
      simp only [found, found', Option.getD_some] at here
      exact congrArg some ((ascending _ (List.mem_of_getElem? found)).eq_of_mem_iff
        (ascending' _ (List.mem_of_getElem? found')) here)

/-- The same edges, listed in another order. -/
def SameEdges (dependents listed : Keyed (List String)) : Prop :=
  ∀ need name, Awaits listed need name ↔ Awaits dependents need name

theorem SameEdges.closed {needCount : Keyed Int} (same : SameEdges dependents listed)
    (closed : Closed dependents needCount) : Closed listed needCount := by
  refine ⟨⟨closed.nodup, fun edge => closed.known ((same _ _).1 edge), fun name known => ?_⟩,
    fun edge => closed.inside ((same _ _).1 edge)⟩
  have left : needsLeft listed needCount.names [] name =
      needsLeft dependents needCount.names [] name :=
    List.filter_congr fun need _ => by rw [decide_eq_decide.2 (same need name)]
  rw [left]
  exact closed.counts name known

theorem SameEdges.awaits (same : SameEdges dependents listed) : Awaits listed = Awaits dependents :=
  funext₂ fun need name => propext (same need name)

section

variable {needCount : Keyed Int} (closed : Closed dependents needCount)
  (ranked : Ranked order needCount.names)

include closed ranked

theorem exists_levels (acyclic : ¬Cyclic (Awaits dependents)) :
    ∃ levels, Staged dependents order needCount.names levels ∧
      levels.flatten.Perm needCount.names ∧
      ∀ listed, SameEdges dependents listed →
        Levels.of listed needCount (some order) = .ok levels := by
  obtain ⟨levels, staged, _, _⟩ := exists_staged closed ranked
  have clear := not_entangled_of_not_cyclic acyclic
  refine ⟨levels, staged, ?_, fun listed same => ?_⟩
  · rw [List.perm_ext_iff_of_nodup (nodup_flatten staged.layered) closed.nodup]
    intro name
    rw [staged.mem_flatten_iff closed.known, and_iff_left (clear name)]
  · have closed' := same.closed closed
    obtain ⟨others, staged', whole, _⟩ := exists_staged closed' ranked
    have equal : others = levels := by
      refine eq_of_mem_getD_iff staged'.filled staged.filled staged'.ascending staged.ascending
        fun position name => ?_
      rw [staged'.mem_getD_iff closed'.known, staged.mem_getD_iff closed.known, same.awaits]
    rw [← equal]
    refine whole fun name here => (staged'.mem_flatten_iff closed'.known).2 ⟨here, ?_⟩
    rw [same.awaits]
    exact clear name

theorem exists_stuck (cyclic : Cyclic (Awaits dependents)) :
    ∃ stuck, Ascending order stuck ∧
      (∀ name, name ∈ stuck ↔ Entangled (Awaits dependents) name) ∧
      ∀ listed, SameEdges dependents listed →
        Levels.of listed needCount (some order) = .error (.problem (.cycle stuck)) := by
  have inside {name : String} (entangled : Entangled (Awaits dependents) name) :
      name ∈ needCount.names := by
    obtain ⟨need, edge, _⟩ := entangled.exists_need
    exact closed.inside edge
  have report {listed : Keyed (List String)} (same : SameEdges dependents listed) : ∃ stuck,
      Levels.of listed needCount (some order) = .error (.problem (.cycle stuck)) ∧
        Ascending order stuck ∧ ∀ name, name ∈ stuck ↔ Entangled (Awaits dependents) name := by
    have closed' := same.closed closed
    obtain ⟨levels, staged, _, rest⟩ := exists_staged closed' ranked
    have flatten_iff {name : String} : name ∈ levels.flatten ↔
        name ∈ needCount.names ∧ ¬Entangled (Awaits dependents) name := by
      rw [staged.mem_flatten_iff closed'.known, same.awaits]
    obtain ⟨origin, cycle⟩ := cyclic
    have entangled : Entangled (Awaits dependents) origin := ⟨origin, cycle, .refl⟩
    obtain ⟨stuck, made, ascending, members⟩ :=
      rest fun all => (flatten_iff.1 (all (inside entangled))).2 entangled
    refine ⟨stuck, made, ascending, fun name => ?_⟩
    rw [members, flatten_iff, not_and, not_not]
    exact ⟨fun both => both.2 both.1, fun tangled => ⟨inside tangled, fun _ => tangled⟩⟩
  obtain ⟨stuck, _, ascending, members⟩ := report fun _ _ => Iff.rfl
  refine ⟨stuck, ascending, members, fun listed same => ?_⟩
  obtain ⟨others, made, ascending', members'⟩ := report same
  rw [made, ascending'.eq_of_mem_iff ascending fun name => (members' name).trans (members name).symm]

end

end CiPipeline.Levels
