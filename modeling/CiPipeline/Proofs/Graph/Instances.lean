import CiPipeline.Graph.Instances
import CiPipeline.Proofs.Graph.Levels
import Mathlib.Logic.Relation

/-! The graph of instances, read as a relation between instances: one waits for another when its job needs
the job of the other. A graph that was accepted has no cycle. -/
namespace CiPipeline

/-- An instance waits for another one: its job needs the job of the other. -/
def Instance.WaitsFor (jobs : List Job) (inst need : Instance) : Prop :=
  ∃ job ∈ jobs, job.name = inst.job ∧ need.job ∈ job.needs

/-- Of two instances of a list, the first is waited for by the second, directly or through other
instances of the list. -/
def Instance.Precedes (jobs : List Job) (instances : List Instance) : Instance → Instance → Prop :=
  Relation.TransGen fun need inst => need ∈ instances ∧ inst ∈ instances ∧ inst.WaitsFor jobs need

theorem Instance.waitsFor_iff {jobs : List Job} {inst need : Instance} :
    inst.WaitsFor jobs need ↔ (need.job, inst.job) ∈ JobGraph.edgesOf jobs :=
  JobGraph.mem_edgesOf.symm

namespace JobGraph

theorem awaits_iff_of_drawn {jobs : List Job} {graph : JobGraph}
    (drawn : Drawn (jobs.map Job.name) (edgesOf jobs) graph) {need name : String} :
    Levels.Awaits graph.dependents need name ↔
      need ∈ jobs.map Job.name ∧ (need, name) ∈ edgesOf jobs := by
  by_cases known : need ∈ jobs.map Job.name
  · rw [Levels.Awaits, drawn.dependents need known, Option.getD_some, mem_distinct, mem_targets]
    exact (and_iff_right known).symm
  · have missing : graph.dependents.get? need = none :=
      Keyed.get?_eq_none_iff.2 (drawn.dependents_names ▸ known)
    rw [Levels.Awaits, missing, Option.getD_none]
    simp [known]

theorem consistent_of_drawn {jobs : List Job} {graph : JobGraph} (sound : Sound jobs)
    (drawn : Drawn (jobs.map Job.name) (edgesOf jobs) graph) :
    Levels.Consistent graph.dependents graph.needCount ∧
      ∀ {need name : String}, (need, name) ∈ edgesOf jobs →
        Levels.Awaits graph.dependents need name ∧ name ∈ graph.needCount.names := by
  have edge_iff {need name : String} : Levels.Awaits graph.dependents need name ↔
      need ∈ jobs.map Job.name ∧ (need, name) ∈ edgesOf jobs := awaits_iff_of_drawn drawn
  refine ⟨⟨drawn.needCount_names ▸ sound.names, fun edge => ?_, fun name known => ?_⟩, fun edge => ?_⟩
  · rw [drawn.needCount_names]
    exact (edge_iff.1 edge).1
  · rw [drawn.needCount_names] at known ⊢
    rw [drawn.needCount name known, Option.some.injEq, Int.natCast_inj]
    refine List.Perm.length_eq ?_
    have nodup : (Levels.needsLeft graph.dependents (jobs.map Job.name) [] name).Nodup :=
      sound.names.filter _
    rw [List.perm_ext_iff_of_nodup (nodup_distinct _) nodup]
    intro need
    rw [mem_distinct, mem_sources, Levels.mem_needsLeft, edge_iff]
    refine ⟨fun edge => ?_, fun found => found.2.1.2⟩
    obtain ⟨job, member, _, needed⟩ := mem_edgesOf.1 edge
    have known := (sound.needs job member need needed).2
    exact ⟨known, ⟨known, edge⟩, by simp⟩
  · obtain ⟨job, member, rfl, needed⟩ := mem_edgesOf.1 edge
    refine ⟨edge_iff.2 ⟨(sound.needs job member _ needed).2, edge⟩, ?_⟩
    rw [drawn.needCount_names]
    exact List.mem_map_of_mem member

end JobGraph

namespace InstanceGraph

variable {jobs : List Job} {ordered instances : List Instance}

theorem mem_needsOf (sound : JobGraph.Sound jobs) {need name : String} :
    need ∈ needsOf jobs name ↔ (need, name) ∈ JobGraph.edgesOf jobs := by
  rw [JobGraph.mem_edgesOf, needsOf]
  cases found : jobs.find? (·.name == name) with
  | none =>
    rw [List.find?_eq_none] at found
    refine ⟨fun none => absurd none List.not_mem_nil, ?_⟩
    rintro ⟨job, member, rfl, _⟩
    exact absurd (beq_self_eq_true _) (found job member)
  | some job =>
    have member := List.mem_of_find?_eq_some found
    have here : job.name = name := by simpa using List.find?_some found
    dsimp only
    rw [JobGraph.mem_distinct]
    refine ⟨fun needed => ⟨job, member, here, needed⟩, ?_⟩
    rintro ⟨other, member', same, needed⟩
    obtain rfl := List.inj_on_of_nodup_map sound.names member' member (same.trans here.symm)
    exact needed

theorem nodup_needsOf (name : String) : (needsOf jobs name).Nodup := by
  rw [needsOf]
  split
  · exact JobGraph.nodup_distinct _
  · exact List.nodup_nil

theorem mem_idsOf {job id : String} :
    id ∈ idsOf ordered job ↔ ∃ inst ∈ ordered, inst.job = job ∧ inst.id = id := by
  simp [idsOf, and_assoc]

theorem mem_prereqsOf (sound : JobGraph.Sound jobs) {inst : Instance} {id : String} :
    id ∈ prereqsOf jobs ordered inst ↔ ∃ need ∈ ordered, inst.WaitsFor jobs need ∧ need.id = id := by
  simp only [prereqsOf, List.mem_flatMap, mem_needsOf sound, mem_idsOf, Instance.waitsFor_iff]
  constructor
  · rintro ⟨job, edge, need, member, rfl, same⟩
    exact ⟨need, member, edge, same⟩
  · rintro ⟨need, member, edge, same⟩
    exact ⟨need.job, edge, need, member, rfl, same⟩

theorem nodup_prereqsOf (distinct : (ordered.map Instance.id).Nodup) (inst : Instance) :
    (prereqsOf jobs ordered inst).Nodup := by
  rw [prereqsOf, List.nodup_flatMap]
  refine ⟨fun job _ => distinct.sublist (List.filter_sublist.map _), ?_⟩
  refine (nodup_needsOf inst.job).imp fun {first second} different id here there => ?_
  obtain ⟨one, member, rfl, same⟩ := mem_idsOf.1 here
  obtain ⟨other, member', rfl, same'⟩ := mem_idsOf.1 there
  exact different (congrArg Instance.job
    (List.inj_on_of_nodup_map distinct member member' (same.trans same'.symm)))

theorem addDependents_get? {dependents : Keyed (List String)} {pre : List String} (id : String)
    (distinct : pre.Nodup) (known : ∀ need ∈ pre, need ∈ dependents.names) :
    (pre.foldl (fun dependents prereq => addDependent dependents prereq id) dependents).names =
        dependents.names ∧
      ∀ need, (pre.foldl (fun dependents prereq => addDependent dependents prereq id)
          dependents).get? need =
        (dependents.get? need).map fun ids => if need ∈ pre then ids ++ [id] else ids := by
  induction pre generalizing dependents with
  | nil => simp
  | cons first rest ih =>
    rw [List.nodup_cons] at distinct
    have first_known := known first (by simp)
    have names : (addDependent dependents first id).names = dependents.names :=
      Keyed.names_put_of_mem first_known _
    have rest_known : ∀ need ∈ rest, need ∈ (addDependent dependents first id).names :=
      fun need member => names ▸ known need (by simp [member])
    obtain ⟨later_names, later⟩ := ih distinct.2 rest_known
    rw [List.foldl_cons]
    refine ⟨later_names.trans names, fun need => ?_⟩
    rw [later, addDependent, Keyed.get?_put]
    by_cases here : need = first
    · subst here
      obtain ⟨ids, found⟩ := Keyed.exists_get?_of_mem first_known
      simp [found, distinct.1]
    · simp [here]

structure Entered (jobs : List Job) (ordered : List Instance) (ids : List String)
    (front : List Instance) (graph : InstanceGraph) : Prop where
  prereqs : graph.prereqs = front.map fun inst => (inst.id, prereqsOf jobs ordered inst)
  dependents_names : graph.dependents.names = ids
  dependents : ∀ id ∈ ids, graph.dependents.get? id =
    some ((front.filter fun inst => (prereqsOf jobs ordered inst).contains id).map Instance.id)

theorem entered_enter {ids : List String} {front back : List Instance} {inst : Instance}
    {graph : InstanceGraph} (split : ordered = front ++ inst :: back)
    (distinct : (ordered.map Instance.id).Nodup)
    (known : ∀ id, id ∈ ids ↔ id ∈ ordered.map Instance.id) (sound : JobGraph.Sound jobs)
    (entered : Entered jobs ordered ids front graph) :
    Entered jobs ordered ids (front ++ [inst]) (enter jobs ordered graph inst) := by
  have pre_known : ∀ need ∈ prereqsOf jobs ordered inst, need ∈ graph.dependents.names := by
    intro id member
    obtain ⟨need, here, _, rfl⟩ := (mem_prereqsOf sound).1 member
    rw [entered.dependents_names, known]
    exact List.mem_map_of_mem here
  obtain ⟨names, read⟩ := addDependents_get? inst.id (nodup_prereqsOf distinct inst) pre_known
  refine ⟨?_, names.trans entered.dependents_names, fun id member => ?_⟩
  · have unknown : inst.id ∉ graph.prereqs.names := by
      rw [split, List.map_append, List.map_cons] at distinct
      have apart := (List.nodup_append.1 distinct).2.2
      rw [entered.prereqs, Keyed.names, List.map_map]
      exact fun found => apart _ found inst.id (by simp) rfl
    rw [enter, List.map_append, ← entered.prereqs, List.map_singleton]
    exact Keyed.put_of_not_mem unknown _
  · rw [enter]
    dsimp only
    rw [read, entered.dependents id member, Option.map_some, List.filter_append, List.map_append]
    by_cases waited : id ∈ prereqsOf jobs ordered inst
    · simp [waited]
    · simp [waited]

theorem perm_inOrder (instances : List Instance) : (inOrder instances).Perm instances :=
  List.mergeSort_perm _ _

section

variable (indices : (instances.map Instance.index).Nodup)

include indices

theorem ascending_inOrder : (inOrder instances).Pairwise fun one other => one.index < other.index := by
  have at_most : (inOrder instances).Pairwise fun one other => one.index ≤ other.index := by
    refine List.Pairwise.imp of_decide_eq_true (List.pairwise_mergeSort (fun one other third => ?_)
      (fun one other => ?_) instances)
    · simp only [decide_eq_true_eq]
      exact Nat.le_trans
    · simp only [Bool.or_eq_true, decide_eq_true_eq]
      exact Nat.le_total _ _
  have distinct : ((inOrder instances).map Instance.index).Nodup :=
    ((perm_inOrder instances).map Instance.index).nodup_iff.2 indices
  exact at_most.imp₂ (fun _ _ least apart => Nat.lt_of_le_of_ne least apart)
    (List.pairwise_map.1 distinct)

theorem inOrder_eq_of_perm {others : List Instance} (perm : instances.Perm others) :
    inOrder instances = inOrder others := by
  have indices' : (others.map Instance.index).Nodup :=
    (perm.map Instance.index).nodup_iff.1 indices
  refine List.Perm.eq_of_pairwise (fun _ _ _ _ less more => absurd less (Nat.lt_asymm more))
    (ascending_inOrder indices) (ascending_inOrder indices') ?_
  exact (perm_inOrder instances).trans
    (perm.trans (perm_inOrder others).symm)

end

theorem nodup_ids_inOrder (distinct : (instances.map Instance.id).Nodup) :
    ((inOrder instances).map Instance.id).Nodup :=
  ((perm_inOrder instances).map Instance.id).nodup_iff.2 distinct

theorem entered_build (sound : JobGraph.Sound jobs) (distinct : (instances.map Instance.id).Nodup) :
    Entered jobs (inOrder instances) (instances.map Instance.id) (inOrder instances)
      (build jobs instances) := by
  have known (id : String) : id ∈ instances.map Instance.id ↔
      id ∈ (inOrder instances).map Instance.id :=
    ((perm_inOrder instances).map Instance.id).mem_iff.symm
  have run : ∀ back front graph, inOrder instances = front ++ back →
      Entered jobs (inOrder instances) (instances.map Instance.id) front graph →
      Entered jobs (inOrder instances) (instances.map Instance.id) (inOrder instances)
        (back.foldl (enter jobs (inOrder instances)) graph) := by
    intro back
    induction back with
    | nil =>
      intro front graph split entered
      rwa [split, List.append_nil] at *
    | cons inst rest ih =>
      intro front graph split entered
      exact ih (front ++ [inst]) _ (by simpa using split)
        (entered_enter split (nodup_ids_inOrder distinct) known sound entered)
  refine run (inOrder instances) [] _ rfl ⟨rfl, ?_, ?_⟩
  · rw [Keyed.ofPairs_of_nodup]
    · simp [Keyed.names, Function.comp_def]
    · simpa [Keyed.names, Function.comp_def] using distinct
  · intro id member
    rw [Keyed.ofPairs_of_nodup (by simpa [Keyed.names, Function.comp_def] using distinct)]
    refine Keyed.get?_of_mem (by simpa [Keyed.names, Function.comp_def] using distinct) ?_
    obtain ⟨inst, here, rfl⟩ := List.mem_map.1 member
    exact List.mem_map_of_mem (f := fun inst : Instance => (inst.id, [])) here

def dependentsOf (jobs : List Job) (ordered : List Instance) (id : String) : List String :=
  (ordered.filter fun inst => (prereqsOf jobs ordered inst).contains id).map Instance.id

section

variable (sound : JobGraph.Sound jobs) (distinct : (instances.map Instance.id).Nodup)

include sound

theorem mem_prereqsOf_inOrder {inst : Instance} {id : String} :
    id ∈ prereqsOf jobs (inOrder instances) inst ↔
      ∃ need ∈ instances, inst.WaitsFor jobs need ∧ need.id = id := by
  simp only [mem_prereqsOf sound, (perm_inOrder instances).mem_iff]

include distinct

theorem mem_dependentsOf_inOrder {inst : Instance} (member : inst ∈ instances) {id : String} :
    id ∈ dependentsOf jobs (inOrder instances) inst.id ↔
      ∃ other ∈ instances, other.WaitsFor jobs inst ∧ other.id = id := by
  rw [dependentsOf, List.mem_map]
  refine exists_congr fun other => ?_
  rw [List.mem_filter, List.contains_iff_mem, mem_prereqsOf_inOrder sound, and_assoc,
    (perm_inOrder instances).mem_iff]
  refine and_congr_right fun _ => and_congr_left fun _ => ⟨?_, ?_⟩
  · rintro ⟨need, here, waits, same⟩
    rwa [← List.inj_on_of_nodup_map distinct here member same]
  · exact fun waits => ⟨inst, member, waits, rfl⟩

theorem perm_names_prereqs_build :
    (build jobs instances).prereqs.names.Perm (instances.map Instance.id) := by
  rw [(entered_build sound distinct).prereqs, Keyed.names, List.map_map]
  exact (perm_inOrder instances).map Instance.id

theorem prereqs_build {inst : Instance} (member : inst ∈ instances) :
    (build jobs instances).prereqs.get? inst.id = some (prereqsOf jobs (inOrder instances) inst) := by
  refine Keyed.get?_of_mem ((perm_names_prereqs_build sound distinct).nodup_iff.2 distinct) ?_
  rw [(entered_build sound distinct).prereqs]
  exact List.mem_map_of_mem (f := fun inst : Instance => (inst.id, prereqsOf jobs (inOrder instances) inst))
    ((perm_inOrder instances).mem_iff.2 member)

theorem dependents_build {inst : Instance} (member : inst ∈ instances) :
    (build jobs instances).dependents.get? inst.id =
      some (dependentsOf jobs (inOrder instances) inst.id) :=
  (entered_build sound distinct).dependents inst.id (List.mem_map_of_mem member)

end

theorem nodup_dependentsOf_inOrder (distinct : (instances.map Instance.id).Nodup) (id : String) :
    (dependentsOf jobs (inOrder instances) id).Nodup :=
  (nodup_ids_inOrder distinct).sublist (List.filter_sublist.map _)

/-- An accepted graph is the one that is built, and along the needs of its jobs some measure grows. -/
theorem ofInstances_ok {graph : InstanceGraph} (made : ofInstances jobs instances = .ok graph) :
    JobGraph.Sound jobs ∧ graph = build jobs instances ∧
      ∃ depth : String → Nat, ∀ need name, (need, name) ∈ JobGraph.edgesOf jobs →
        depth need < depth name := by
  obtain ⟨jobGraph, drawn, made⟩ := Success.bind_iff.1 made
  obtain ⟨levels, leveled, made⟩ := Success.bind_iff.1 made
  obtain ⟨sound, drawn⟩ := JobGraph.drawn_ofJobs (Success.mapError_iff.1 drawn)
  obtain ⟨consistent, edges⟩ := JobGraph.consistent_of_drawn sound drawn
  exact ⟨sound, (Except.ok.inj made).symm, Levels.depth levels, fun need name edge =>
    Levels.depth_lt_of consistent leveled (edges edge).2 (edges edge).1⟩

end InstanceGraph

end CiPipeline
