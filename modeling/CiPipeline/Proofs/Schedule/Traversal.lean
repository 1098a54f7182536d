import CiPipeline.Proofs.Schedule.Cascade
import CiPipeline.Proofs.Schedule.Plan

/-! The order in which a cascade cancels. Its stack holds names twice and looks at a name only when it is its
turn; all the same it goes through the dependents as a recursive search would, which follows each name to the
end before it turns to the next one. Neither needs the dependents to be free of cycles: what is recorded once is
passed over from then on. -/
namespace CiPipeline.Schedule

/-- A depth-first search through the lists of names behind names. What has been seen is passed over. Every other
name is found before all that is found behind it, and this before what is found from the rest of the list. -/
inductive Search (behind : String → List String) : List String → List String → List String → Prop
  | nil {seen} : Search behind seen [] []
  | skip {seen id rest found} (old : id ∈ seen) (later : Search behind seen rest found) :
    Search behind seen (id :: rest) found
  | visit {seen id rest below beside} (new : id ∉ seen)
    (deeper : Search behind (seen ++ [id]) (behind id) below)
    (later : Search behind (seen ++ id :: below) rest beside) :
    Search behind seen (id :: rest) (id :: (below ++ beside))

namespace Search

variable {behind : String → List String} {seen names found : List String}

theorem unique (search : Search behind seen names found) {other : List String}
    (again : Search behind seen names other) : other = found := by
  induction search generalizing other with
  | nil => cases again; rfl
  | skip old _ ih =>
    cases again with
    | skip _ later => exact ih later
    | visit new => exact absurd old new
  | visit new _ _ ih_deeper ih_later =>
    cases again with
    | skip old => exact absurd old new
    | visit _ deeper later =>
      obtain rfl := ih_deeper deeper
      obtain rfl := ih_later later
      rfl

theorem fresh (search : Search behind seen names found) :
    found.Nodup ∧ ∀ id ∈ found, id ∉ seen := by
  induction search with
  | nil => exact ⟨List.nodup_nil, fun _ none => absurd none List.not_mem_nil⟩
  | skip _ _ ih => exact ih
  | @visit seen id rest below beside new _ _ ih_deeper ih_later =>
    obtain ⟨below_nodup, below_new⟩ := ih_deeper
    obtain ⟨beside_nodup, beside_new⟩ := ih_later
    simp only [List.mem_append, List.mem_cons, not_or] at below_new beside_new
    refine ⟨List.nodup_cons.2 ⟨fun here => ?_, List.nodup_append.2 ⟨below_nodup, beside_nodup, ?_⟩⟩,
      fun other member => ?_⟩
    · rcases List.mem_append.1 here with there | there
      · exact (below_new id there).2.1 rfl
      · exact (beside_new id there).2.1 rfl
    · rintro other here _ there rfl
      exact (beside_new other there).2.2 here
    · rcases List.mem_cons.1 member with rfl | later
      · exact new
      rcases List.mem_append.1 later with there | there
      · exact (below_new other there).1
      · exact (beside_new other there).1

theorem exists_split {front back : List String} (search : Search behind seen (front ++ back) found) :
    ∃ below beside, found = below ++ beside ∧ Search behind seen front below ∧
      Search behind (seen ++ below) back beside := by
  generalize whole : front ++ back = names at search
  induction search generalizing front with
  | nil =>
    obtain ⟨rfl, rfl⟩ := List.append_eq_nil_iff.1 whole
    exact ⟨[], [], rfl, .nil, .nil⟩
  | @skip seen id rest found old later ih =>
    cases front with
    | nil =>
      subst whole
      exact ⟨[], found, rfl, .nil, (List.append_nil seen).symm ▸ .skip old later⟩
    | cons first front =>
      obtain ⟨rfl, tails⟩ := List.cons.inj whole
      obtain ⟨below, beside, rfl, here, there⟩ := ih tails
      exact ⟨below, beside, rfl, .skip old here, there⟩
  | @visit seen id rest deep wide new deeper later _ ih =>
    cases front with
    | nil =>
      subst whole
      exact ⟨[], _, rfl, .nil, (List.append_nil seen).symm ▸ .visit new deeper later⟩
    | cons first front =>
      obtain ⟨rfl, tails⟩ := List.cons.inj whole
      obtain ⟨below, beside, rfl, here, there⟩ := ih tails
      refine ⟨first :: (deep ++ below), beside, ?_, .visit new deeper here, ?_⟩
      · rw [List.cons_append, List.append_assoc]
      · rwa [List.append_assoc, List.cons_append] at there

end Search

/-- A cascade comes to names in the order of a search: what it puts on the stack is searched before the rest. -/
theorem search_cascade {plan : Plan} {culprit : String} {results : Keyed JobResult}
    {stack : List String} (own : ∀ {id inst}, plan.instances.get? id = some inst → inst.id = id)
    (known : ∀ id ∈ stack, (plan.instances.get? id).isSome)
    (inside : ∀ need, ∀ id ∈ plan.dependents need, (plan.instances.get? id).isSome) :
    Search plan.dependents results.names stack
      ((cascade plan.instances plan.graph.dependents culprit results stack).1.map
        fun result => result.inst.id) := by
  fun_induction cascade plan.instances plan.graph.dependents culprit results stack with
  | case1 results => exact .nil
  | case2 results id rest missing ih =>
    have found := known id List.mem_cons_self
    rw [missing] at found
    cases found
  | case3 results id rest inst found stored ih =>
    refine .skip ?_ (ih fun other member => known other (List.mem_cons_of_mem _ member))
    rw [record_eq_none_iff, cancelled_inst, own found] at stored
    exact Keyed.isSome_get?_iff.1 stored
  | case4 results id rest inst found later stored below ih =>
    obtain ⟨missing, rfl⟩ := record_eq_some_iff.1 stored
    obtain rfl := own found
    have fresh : inst.id ∉ results.names := Keyed.get?_eq_none_iff.1 missing
    have names : (results.put inst.id (.cancelled inst culprit)).names = results.names ++ [inst.id] := by
      rw [Keyed.names_put, if_neg fresh]
    have search := ih fun other member => (List.mem_append.1 member).elim (inside inst.id other)
      fun there => known other (List.mem_cons_of_mem _ there)
    rw [cancelled_inst, names] at search
    obtain ⟨deep, wide, split, deeper, beside⟩ := search.exists_split
    rw [List.append_assoc, List.singleton_append] at beside
    dsimp only [below]
    rw [List.map_cons, cancelled_inst, split]
    exact .visit fresh deeper beside

theorem map_id_cancelled (culprit : String) (cancelled : List Instance) :
    (cancelled.map (JobResult.cancelled · culprit)).map (fun result => result.inst.id) =
      cancelled.map Instance.id := by
  rw [List.map_map]
  rfl

theorem exists_of_mem_dependents {plan : Plan} {need id : String} (waits : id ∈ plan.dependents need) :
    ∃ waiting, plan.graph.dependents.get? need = some waiting ∧ id ∈ waiting := by
  rw [Plan.dependents] at waits
  cases found : plan.graph.dependents.get? need with
  | none =>
    rw [found] at waits
    cases waits
  | some waiting =>
    rw [found] at waits
    exact ⟨waiting, rfl, waits⟩

theorem recorded_once {culprit : String} {results : Keyed JobResult} {cancelled : List Instance}
    (nodup : (cancelled.map Instance.id).Nodup)
    (fresh : ∀ id ∈ cancelled.map Instance.id, id ∉ results.names) {inst : Instance}
    (member : inst ∈ cancelled) :
    (Keyed.names (results ++ cancellations culprit cancelled)).count inst.id = 1 ∧
      Keyed.get? (results ++ cancellations culprit cancelled) inst.id =
        some (.cancelled inst culprit) := by
  have here : inst.id ∈ cancelled.map Instance.id := List.mem_map_of_mem member
  constructor
  · rw [Keyed.names_append, List.count_append, List.count_eq_zero_of_not_mem (fresh inst.id here),
      names_cancellations, List.count_eq_one_of_mem nodup here]
  · rw [Keyed.get?_append, Keyed.get?_eq_none_iff.2 (fresh inst.id here), Option.none_or]
    exact Keyed.get?_of_mem (names_cancellations culprit cancelled ▸ nodup) (mem_cancellations member)

/-- Whatever the dependents of the instances are, and whatever is recorded already, a cascade cancels what a
depth-first search from the dependents of the culprit finds, in the same order. Each of these instances is
recorded once, behind the results that were there before, and those stay as they were. -/
theorem cascade_searches {instances : List Instance} {graph : InstanceGraph}
    (inside : ∀ need waiting, graph.dependents.get? need = some waiting →
      waiting ⊆ instances.map Instance.id)
    (workers : Nat) (culprit : String) (results : Keyed JobResult) :
    let plan := Plan.ofGraph instances graph workers
    ∃ cancelled ⊆ instances, ∃ later : Keyed JobResult,
      cascade plan.instances plan.graph.dependents culprit results (plan.dependents culprit) =
        (cancelled.map (JobResult.cancelled · culprit), later) ∧
      (∀ found, Search plan.dependents results.names (plan.dependents culprit) found ↔
        found = cancelled.map Instance.id) ∧
      later = results ++ cancellations culprit cancelled ∧
      (∀ inst ∈ cancelled, later.names.count inst.id = 1 ∧
        later.get? inst.id = some (.cancelled inst culprit)) ∧
      ∀ id result, results.get? id = some result → later.get? id = some result := by
  intro plan
  have own {id : String} {inst : Instance} (found : plan.instances.get? id = some inst) :
      inst ∈ instances ∧ inst.id = id := Plan.mem_of_get?_ofGraph found
  have known (need id : String) (waits : id ∈ plan.dependents need) :
      (plan.instances.get? id).isSome := by
    obtain ⟨waiting, found, member⟩ := exists_of_mem_dependents waits
    exact Plan.isSome_get?_ofGraph (inside need waiting found member)
  obtain ⟨cancelled, same, listed⟩ := exists_cancelled plan.graph.dependents culprit results
    (plan.dependents culprit) fun found => (own found).2
  have search : Search plan.dependents results.names (plan.dependents culprit)
      ((cascade plan.instances plan.graph.dependents culprit results (plan.dependents culprit)).1.map
        fun result => result.inst.id) :=
    search_cascade (fun found => (own found).2) (known culprit) known
  rw [same, map_id_cancelled] at search
  obtain ⟨nodup, fresh⟩ := search.fresh
  refine ⟨cancelled, fun inst member => (own (listed inst member)).1, _, same,
    fun found => ⟨search.unique, fun equal => equal ▸ search⟩, rfl,
    fun inst member => recorded_once nodup fresh member, fun id result found => ?_⟩
  rw [Keyed.get?_append, found, Option.some_or]

def tangle : Plan :=
  Plan.ofGraph (["a", "b", "c", "d", "e"].map fun name => Instance.bare name [])
    ⟨[], [("a", ["b", "c", "b"]), ("b", ["d", "c"]), ("c", ["d", "e", "a"]), ("d", ["b"]), ("e", [])]⟩ 1

def tangleResults : Keyed JobResult :=
  [("a", ⟨Instance.bare "a" [], .failed, [], none⟩), ("e", ⟨Instance.bare "e" [], .succeeded, [], none⟩)]

theorem search_tangle :
    Search tangle.dependents tangleResults.names (tangle.dependents "a") ["b", "d", "c"] := by
  have behind_d : Search tangle.dependents ["a", "e", "b", "d"] ["b"] [] :=
    .skip (by decide) .nil
  have behind_c : Search tangle.dependents ["a", "e", "b", "d", "c"] ["d", "e", "a"] [] :=
    .skip (by decide) (.skip (by decide) (.skip (by decide) .nil))
  have beside_d : Search tangle.dependents ["a", "e", "b", "d"] ["c"] ("c" :: ([] ++ [])) :=
    .visit (by decide) behind_c .nil
  have behind_b : Search tangle.dependents ["a", "e", "b"] ["d", "c"] ("d" :: ([] ++ ["c"])) :=
    .visit (by decide) behind_d beside_d
  have beside_b : Search tangle.dependents ["a", "e", "b", "d", "c"] ["c", "b"] [] :=
    .skip (by decide) (.skip (by decide) .nil)
  change Search tangle.dependents ["a", "e"] ["b", "c", "b"] ("b" :: (["d", "c"] ++ []))
  exact .visit (by decide) behind_b beside_b

theorem cascade_searches_tangle : ∃ cancelled : List Instance,
    cascade tangle.instances tangle.graph.dependents "a" tangleResults (tangle.dependents "a") =
      (cancelled.map (JobResult.cancelled · "a"), tangleResults ++ cancellations "a" cancelled) ∧
    cancelled.map Instance.id = ["b", "d", "c"] := by
  have entries : ∀ entry ∈ tangle.graph.dependents, entry.2 ⊆
      (["a", "b", "c", "d", "e"].map fun name => Instance.bare name []).map Instance.id := by
    decide +kernel
  obtain ⟨cancelled, _, _, same, finds, rfl, _⟩ :=
    cascade_searches (fun need waiting found => entries _ (Keyed.mem_of_get? found)) 1 "a" tangleResults
  exact ⟨cancelled, same, ((finds _).1 search_tangle).symm⟩

end CiPipeline.Schedule
