import CiPipeline.Graph.Levels
import CiPipeline.Proofs.Graph.Jobs
import CiPipeline.Proofs.Success
import Mathlib.Data.List.Perm.Subperm

/-! What the levels of a graph are. A level holds exactly the names that are not done and wait for
nothing but what is done; when no name is left over, every name stands behind all that it waits for. -/
namespace CiPipeline.Levels

variable {dependents : Keyed (List String)} {ranks : Ranks}

def Awaits (dependents : Keyed (List String)) (need name : String) : Prop :=
  name ∈ (dependents.get? need).getD []

instance (need name : String) : Decidable (Awaits dependents need name) :=
  inferInstanceAs (Decidable (name ∈ _))

def needsLeft (dependents : Keyed (List String)) (names done : List String) (name : String) :
    List String :=
  names.filter fun need => decide (Awaits dependents need name) && !done.contains need

theorem mem_needsLeft {names done : List String} {need name : String} :
    need ∈ needsLeft dependents names done name ↔
      need ∈ names ∧ Awaits dependents need name ∧ need ∉ done := by
  simp [needsLeft]

def Free (dependents : Keyed (List String)) (names done : List String) (name : String) : Prop :=
  name ∈ names ∧ name ∉ done ∧ needsLeft dependents names done name = []

structure Counted (dependents : Keyed (List String)) (names done : List String) (state : State) :
    Prop where
  waiting_names : state.waiting.names = names
  waiting : ∀ name ∈ names,
    state.waiting.get? name = some ((needsLeft dependents names done name).length : Int)
  free_nodup : state.free.Nodup
  mem_free : ∀ name, name ∈ state.free ↔ Free dependents names done name
  closed : ∀ name ∈ done, needsLeft dependents names done name = []

theorem needsLeft_subset {names done more : List String} {name need : String}
    (left : need ∈ needsLeft dependents names (done ++ more) name) :
    need ∈ needsLeft dependents names done name := by
  rw [mem_needsLeft, List.mem_append, not_or] at left
  exact mem_needsLeft.2 ⟨left.1, left.2.1, left.2.2.1⟩

theorem length_needsLeft_append {names done level : List String} (names_nodup : names.Nodup)
    (level_nodup : level.Nodup) (new : ∀ need ∈ level, need ∈ names ∧ need ∉ done)
    (name : String) :
    (needsLeft dependents names done name).length =
      (needsLeft dependents names (done ++ level) name).length +
        (level.filter fun need => decide (Awaits dependents need name)).length := by
  have parts := List.length_eq_length_filter_add (l := needsLeft dependents names done name)
    (fun need => level.contains need)
  have inside : ((needsLeft dependents names done name).filter (fun need => level.contains need)).Perm
      (level.filter fun need => decide (Awaits dependents need name)) := by
    have nodup : (needsLeft dependents names done name).Nodup := names_nodup.filter _
    rw [List.perm_ext_iff_of_nodup (nodup.filter _) (level_nodup.filter _)]
    intro need
    simp only [List.mem_filter, mem_needsLeft, List.contains_iff_mem, decide_eq_true_eq]
    exact ⟨fun found => ⟨found.2, found.1.2.1⟩,
      fun found => ⟨⟨(new need found.1).1, found.2, (new need found.1).2⟩, found.1⟩⟩
  have outside : (needsLeft dependents names done name).filter (fun need => !level.contains need) =
      needsLeft dependents names (done ++ level) name := by
    simp only [needsLeft, List.filter_filter]
    apply List.filter_congr
    intro need _
    simp only [List.contains_eq_mem, List.mem_append, Bool.decide_or, Bool.not_or]
    cases decide (need ∈ level) <;> cases decide (need ∈ done) <;> simp
  rw [inside.length_eq, outside] at parts
  omega

/-- What releasing names one after the other does: each count goes down as often as its name occurs, and
a name is free as soon as its count has come to zero. -/
structure Released (children : List String) (state next : State) : Prop where
  waiting_names : next.waiting.names = state.waiting.names
  waiting : ∀ name, next.waiting.get? name =
    (state.waiting.get? name).map fun count => count - (children.count name : Int)
  free_nodup : next.free.Nodup
  mem_free : ∀ name, name ∈ next.free ↔ name ∈ state.free ∨
    ∃ count, state.waiting.get? name = some count ∧ 1 ≤ count ∧ count ≤ (children.count name : Int)

def State.Spent (state : State) : Prop :=
  state.free.Nodup ∧ ∀ name ∈ state.free, ∃ count, state.waiting.get? name = some count ∧ count ≤ 0

theorem release_ok {state next : State} {child : String} (released : state.release child = .ok next) :
    ∃ count, state.waiting.get? child = some count ∧
      next.waiting = state.waiting.put child (count - 1) ∧
      next.free = if count = 1 then state.free ++ [child] else state.free := by
  cases found : state.waiting.get? child with
  | none =>
    rw [State.release, found] at released
    cases released
  | some count =>
    rw [State.release, found] at released
    obtain rfl := Except.ok.inj released
    exact ⟨count, rfl, rfl, rfl⟩

theorem mem_free_release {state next : State} {child : String} {count : Int}
    (free : next.free = if count = 1 then state.free ++ [child] else state.free) (name : String) :
    name ∈ next.free ↔ name ∈ state.free ∨ name = child ∧ count = 1 := by
  rw [free]
  split <;> rename_i one <;> simp [one]

theorem spent_release {state next : State} {child : String} (spent : state.Spent)
    (released : state.release child = .ok next) : next.Spent := by
  obtain ⟨count, found, waiting, free⟩ := release_ok released
  have low : child ∈ state.free → count ≤ 0 := by
    intro here
    obtain ⟨other, read, low⟩ := spent.2 child here
    rw [found, Option.some.injEq] at read
    exact read ▸ low
  refine ⟨?_, fun name here => ?_⟩
  · rw [free]
    split
    · rename_i one
      refine List.nodup_append.2 ⟨spent.1, List.nodup_singleton child, ?_⟩
      rintro name here _ there rfl
      have := low (List.mem_singleton.1 there ▸ here)
      omega
    · exact spent.1
  · rw [mem_free_release free] at here
    rw [waiting, Keyed.get?_put]
    by_cases same : name = child
    · rw [if_pos same]
      refine ⟨_, rfl, ?_⟩
      rcases here with there | ⟨_, one⟩
      · have := low (same ▸ there)
        omega
      · omega
    · rw [if_neg same]
      exact spent.2 name (here.resolve_right fun both => same both.1)

theorem released_one {state next : State} {child : String} (spent : state.Spent)
    (released : state.release child = .ok next) : Released [child] state next := by
  obtain ⟨count, found, waiting, free⟩ := release_ok released
  refine ⟨?_, fun name => ?_, (spent_release spent released).1,
    fun name => (mem_free_release free name).trans ?_⟩
  · rw [waiting]
    exact Keyed.names_put_of_mem (Keyed.mem_names_of_get? found) _
  · rw [waiting, Keyed.get?_put]
    by_cases same : name = child
    · rw [if_pos same, same, found, Option.map_some, List.count_singleton_self]
      rfl
    · rw [if_neg same, List.count_cons_of_ne (Ne.symm same), List.count_nil]
      simp
  · by_cases same : name = child
    · subst same
      simp only [true_and, found, Option.some.injEq, exists_eq_left', List.count_singleton_self]
      refine or_congr_right ?_
      omega
    · rw [List.count_cons_of_ne (Ne.symm same), List.count_nil]
      simp only [same, false_and, or_false, iff_self_or]
      rintro ⟨other, _, low, high⟩
      omega

theorem released_foldlM {children : List String} {state next : State} (spent : state.Spent)
    (released : children.foldlM State.release state = .ok next) : Released children state next := by
  induction children generalizing state with
  | nil =>
    obtain rfl := Except.ok.inj released
    refine ⟨rfl, fun name => by simp, spent.1, fun name => ?_⟩
    rw [List.count_nil, iff_self_or]
    rintro ⟨count, _, low, high⟩
    omega
  | cons child rest ih =>
    rw [List.foldlM_cons] at released
    cases one : state.release child with
    | error failure =>
      rw [one] at released
      cases released
    | ok middle =>
      rw [one] at released
      have first := released_one spent one
      have later := ih (spent_release spent one) released
      have count (name : String) :
          ((child :: rest).count name : Int) = [child].count name + rest.count name := by
        rw [← List.singleton_append, List.count_append, Int.natCast_add]
      refine ⟨later.waiting_names.trans first.waiting_names, fun name => ?_, later.free_nodup,
        fun name => ?_⟩
      · rw [later.waiting, first.waiting, Option.map_map, count]
        congr 1
        funext value
        simp only [Function.comp_apply]
        omega
      · rw [later.mem_free, first.mem_free, first.waiting, or_assoc, count]
        refine or_congr_right ?_
        cases state.waiting.get? name with
        | none => simp
        | some value =>
          simp only [Option.some.injEq, exists_eq_left', Option.map_some]
          omega

theorem count_children (level : List String) (name : String) :
    (level.flatMap fun need => JobGraph.distinct ((dependents.get? need).getD [])).count name =
      (level.filter fun need => decide (Awaits dependents need name)).length := by
  induction level with
  | nil => rfl
  | cons need rest ih =>
    rw [List.flatMap_cons, List.count_append, ih, List.filter_cons]
    have nodup := JobGraph.nodup_distinct ((dependents.get? need).getD [])
    by_cases edge : Awaits dependents need name
    · have once : (JobGraph.distinct ((dependents.get? need).getD [])).count name = 1 :=
        List.count_eq_one_of_mem nodup (JobGraph.mem_distinct.2 edge)
      simp only [once, edge, decide_true, if_true, List.length_cons]
      omega
    · have never : (JobGraph.distinct ((dependents.get? need).getD [])).count name = 0 :=
        List.count_eq_zero_of_not_mem fun found => edge (JobGraph.mem_distinct.1 found)
      simp [never, edge]

section

variable {names done level : List String} {state next : State} (names_nodup : names.Nodup)
  (counted : Counted dependents names done state) (level_nodup : level.Nodup)
  (whole : ∀ name, name ∈ level ↔ Free dependents names done name)
  (finished : State.finish dependents ⟨state.waiting, []⟩ level = .ok next)

include names_nodup level_nodup whole

theorem length_needsLeft_level (name : String) : (needsLeft dependents names done name).length =
    (needsLeft dependents names (done ++ level) name).length +
      (level.filter fun need => decide (Awaits dependents need name)).length :=
  length_needsLeft_append names_nodup level_nodup
    (fun need here => ⟨((whole need).1 here).1, ((whole need).1 here).2.1⟩) name

include counted finished

theorem waiting_finish {name : String} (known : name ∈ names) : next.waiting.get? name =
    some ((needsLeft dependents names (done ++ level) name).length : Int) := by
  have released := released_foldlM ⟨List.nodup_nil, by simp⟩ finished
  have parts := length_needsLeft_level names_nodup level_nodup whole name
  rw [released.waiting, counted.waiting name known, Option.map_some, count_children]
  congr 1
  omega

/-- What is free after a level did wait for something before it, so that it was not done then and is not
in the level itself. -/
theorem mem_free_finish (name : String) :
    name ∈ next.free ↔ Free dependents names (done ++ level) name := by
  have released := released_foldlM ⟨List.nodup_nil, by simp⟩ finished
  have parts := length_needsLeft_level names_nodup level_nodup whole name
  rw [released.mem_free, count_children]
  constructor
  · rintro (none | ⟨count, read, low, high⟩)
    · cases none
    · have known : name ∈ names := counted.waiting_names ▸ Keyed.mem_names_of_get? read
      rw [counted.waiting name known, Option.some.injEq] at read
      have waited : needsLeft dependents names done name ≠ [] := by
        rw [← List.length_pos_iff]
        omega
      refine ⟨known, ?_, List.length_eq_zero_iff.1 (by omega)⟩
      rw [List.mem_append, not_or]
      exact ⟨fun old => waited (counted.closed name old),
        fun fresh => waited ((whole name).1 fresh).2.2⟩
  · rintro ⟨known, open_, empty⟩
    rw [List.mem_append, not_or] at open_
    have waited : needsLeft dependents names done name ≠ [] :=
      fun none => open_.2 ((whole name).2 ⟨known, open_.1, none⟩)
    have := List.length_pos_iff.2 waited
    rw [empty, List.length_nil] at parts
    exact Or.inr ⟨_, counted.waiting name known, by omega, by omega⟩

theorem counted_finish : Counted dependents names (done ++ level) next := by
  have released := released_foldlM ⟨List.nodup_nil, by simp⟩ finished
  have stays_empty {name : String} (empty : needsLeft dependents names done name = []) :
      needsLeft dependents names (done ++ level) name = [] := by
    rw [List.eq_nil_iff_forall_not_mem] at empty ⊢
    exact fun need left => empty need (needsLeft_subset left)
  refine ⟨released.waiting_names.trans counted.waiting_names,
    fun name known => waiting_finish names_nodup counted level_nodup whole finished known,
    released.free_nodup, mem_free_finish names_nodup counted level_nodup whole finished, ?_⟩
  intro name member
  rcases List.mem_append.1 member with old | fresh
  · exact stays_empty (counted.closed name old)
  · exact stays_empty ((whole name).1 fresh).2.2

end

/-- Levels on top of names that are done: each holds all names that are free then. -/
def Layered (dependents : Keyed (List String)) (names : List String) :
    List String → List (List String) → Prop
  | _, [] => True
  | done, level :: rest =>
    level.Nodup ∧ (∀ name, name ∈ level ↔ Free dependents names done name) ∧
      Layered dependents names (done ++ level) rest

theorem perm_of_arrange {names level : List String} (arranged : arrange ranks names = .ok level) :
    level.Perm names := by
  obtain ⟨ranked, read, same⟩ := Success.bind_iff.1 arranged
  obtain rfl := Except.ok.inj same
  have kept : ranked.map (·.1) = names := by
    have pairs := Success.mapM_iff.1 read
    clear read arranged same
    induction pairs with
    | nil => rfl
    | cons first _ ih =>
      obtain ⟨rank, _, rfl⟩ := Success.map_iff.1 first
      rw [List.map_cons, ih]
  exact kept ▸ (List.mergeSort_perm ranked _).map _

theorem layered_levelsFrom {names done : List String} {bound : Nat} {state last : State}
    {levels : List (List String)} (names_nodup : names.Nodup)
    (counted : Counted dependents names done state)
    (read : levelsFrom dependents ranks bound state = .ok (levels, last)) :
    Layered dependents names done levels ∧
      Counted dependents names (done ++ levels.flatten) last := by
  induction bound generalizing done state levels with
  | zero =>
    obtain ⟨rfl, rfl⟩ := Prod.mk.inj (Except.ok.inj read)
    exact ⟨trivial, by simpa using counted⟩
  | succ bound ih =>
    rw [levelsFrom] at read
    by_cases none_left : state.free.isEmpty
    · rw [if_pos none_left] at read
      obtain ⟨rfl, rfl⟩ := Prod.mk.inj (Except.ok.inj read)
      exact ⟨trivial, by simpa using counted⟩
    · rw [if_neg none_left] at read
      obtain ⟨level, arranged, read⟩ := Success.bind_iff.1 read
      obtain ⟨next, finished, read⟩ := Success.bind_iff.1 read
      obtain ⟨⟨rest, ending⟩, later, same⟩ := Success.bind_iff.1 read
      obtain ⟨rfl, rfl⟩ := Prod.mk.inj (Except.ok.inj same)
      have perm := perm_of_arrange arranged
      have nodup := perm.nodup_iff.2 counted.free_nodup
      have whole (name : String) : name ∈ level ↔ Free dependents names done name :=
        perm.mem_iff.trans (counted.mem_free name)
      obtain ⟨layered, counted_last⟩ :=
        ih (counted_finish names_nodup counted nodup whole finished) later
      exact ⟨⟨nodup, whole, layered⟩, by simpa using counted_last⟩

theorem not_mem_done {names done : List String} {levels : List (List String)}
    (layered : Layered dependents names done levels) {name : String}
    (member : name ∈ levels.flatten) : name ∈ names ∧ name ∉ done := by
  induction levels generalizing done with
  | nil => simp at member
  | cons level rest ih =>
    obtain ⟨_, whole, later⟩ := layered
    rw [List.flatten_cons, List.mem_append] at member
    rcases member with here | there
    · exact ⟨((whole name).1 here).1, ((whole name).1 here).2.1⟩
    · have behind := ih later there
      rw [List.mem_append, not_or] at behind
      exact ⟨behind.1, behind.2.1⟩

theorem nodup_flatten {names done : List String} {levels : List (List String)}
    (layered : Layered dependents names done levels) : levels.flatten.Nodup := by
  induction levels generalizing done with
  | nil => exact List.nodup_nil
  | cons level rest ih =>
    obtain ⟨nodup, _, later⟩ := layered
    rw [List.flatten_cons, List.nodup_append]
    refine ⟨nodup, ih later, ?_⟩
    rintro a here _ there rfl
    exact (not_mem_done later there).2 (List.mem_append_right _ here)

def depth (levels : List (List String)) (name : String) : Nat :=
  levels.findIdx fun level => level.contains name

theorem depth_lt_depth {names done : List String} {levels : List (List String)}
    (layered : Layered dependents names done levels) {need name : String}
    (member : name ∈ levels.flatten) (known : need ∈ names) (edge : Awaits dependents need name) :
    need ∈ done ∨ depth levels need < depth levels name := by
  induction levels generalizing done with
  | nil => simp at member
  | cons level rest ih =>
    obtain ⟨_, whole, later⟩ := layered
    by_cases first : name ∈ level
    · have empty := List.eq_nil_iff_forall_not_mem.1 ((whole name).1 first).2.2 need
      rw [mem_needsLeft] at empty
      by_contra none
      rw [not_or] at none
      exact empty ⟨known, edge, none.1⟩
    · rw [List.flatten_cons, List.mem_append] at member
      have behind := ih later (member.resolve_left first)
      by_cases here : need ∈ level
      · right
        simp [depth, List.findIdx_cons, first, here]
      · refine (behind.imp_left fun found => ?_).imp_right fun less => ?_
        · exact (List.mem_append.1 found).resolve_right here
        · simpa [depth, List.findIdx_cons, first, here] using less

structure Consistent (dependents : Keyed (List String)) (needCount : Keyed Int) : Prop where
  nodup : needCount.names.Nodup
  known : ∀ {need name}, Awaits dependents need name → need ∈ needCount.names
  counts : ∀ name ∈ needCount.names, needCount.get? name =
    some ((needsLeft dependents needCount.names [] name).length : Int)

theorem counted_start {needCount : Keyed Int} {first : List String}
    (consistent : Consistent dependents needCount)
    (arranged : arrange ranks
      (Keyed.names (needCount.filter fun entry => entry.2 == 0)) = .ok first) :
    Counted dependents needCount.names [] ⟨needCount, first⟩ := by
  have perm := perm_of_arrange arranged
  have nodup : (Keyed.names (needCount.filter fun entry => entry.2 == 0)).Nodup :=
    consistent.nodup.sublist (List.filter_sublist.map _)
  refine ⟨rfl, consistent.counts, perm.nodup_iff.2 nodup, fun name => perm.mem_iff.trans ?_,
    by simp⟩
  constructor
  · intro found
    obtain ⟨⟨other, count⟩, member, rfl⟩ := List.mem_map.1 found
    rw [List.mem_filter, beq_iff_eq] at member
    obtain ⟨member, rfl⟩ := member
    have read := Keyed.get?_of_mem consistent.nodup member
    have known := Keyed.mem_names_of_get? read
    rw [consistent.counts other known, Option.some.injEq, Int.natCast_eq_zero] at read
    exact ⟨known, by simp, List.length_eq_zero_iff.1 read⟩
  · rintro ⟨known, _, empty⟩
    have read := consistent.counts name known
    rw [empty, List.length_nil] at read
    exact List.mem_map.2 ⟨(name, 0), List.mem_filter.2 ⟨Keyed.mem_of_get? read, rfl⟩, rfl⟩

theorem layered_of {needCount : Keyed Int} {levels : List (List String)}
    (consistent : Consistent dependents needCount)
    (made : Levels.of dependents needCount ranks = .ok levels) :
    Layered dependents needCount.names [] levels ∧ levels.flatten.Perm needCount.names := by
  obtain ⟨first, arranged, made⟩ := Success.bind_iff.1 made
  obtain ⟨⟨found, last⟩, read, made⟩ := Success.bind_iff.1 made
  dsimp only at made
  by_cases whole : found.flatten.length = needCount.length
  · rw [if_pos whole] at made
    obtain rfl := Except.ok.inj made
    obtain ⟨layered, _⟩ :=
      layered_levelsFrom consistent.nodup (counted_start consistent arranged) read
    have inside : found.flatten ⊆ needCount.names :=
      fun name member => (not_mem_done layered member).1
    have size : needCount.names.length = found.flatten.length := by
      rw [whole, Keyed.names, List.length_map]
    exact ⟨layered, (List.subperm_of_subset (nodup_flatten layered) inside).perm_of_length_le
      (Nat.le_of_eq size)⟩
  · rw [if_neg whole] at made
    obtain ⟨stuck, _, thrown⟩ := Success.bind_iff.1 made
    cases thrown

theorem depth_lt_of {needCount : Keyed Int} {levels : List (List String)}
    (consistent : Consistent dependents needCount)
    (made : Levels.of dependents needCount ranks = .ok levels) {need name : String}
    (known : name ∈ needCount.names) (edge : Awaits dependents need name) :
    depth levels need < depth levels name := by
  obtain ⟨layered, whole⟩ := layered_of consistent made
  have member : name ∈ levels.flatten := whole.mem_iff.2 known
  exact (depth_lt_depth layered member (consistent.known edge) edge).resolve_left (by simp)

end CiPipeline.Levels
