import CiPipeline.Proofs.Graph.Instances
import CiPipeline.Schedule.Basic

/-! What a schedule may rely on in its plan: every name is that of its instance, what an instance waits for
and what waits for it fit together, and there is no cycle. -/
namespace CiPipeline.Schedule

namespace Plan

def ids (plan : Plan) : List String := plan.graph.prereqs.names

def prereqs (plan : Plan) (id : String) : List String := (plan.graph.prereqs.get? id).getD []

/-- Of two names, the first is waited for by the second, directly or through others. -/
def Precedes (plan : Plan) : String → String → Prop :=
  Relation.TransGen fun need id => need ∈ plan.prereqs id

structure Sound (plan : Plan) : Prop where
  nodup : plan.ids.Nodup
  found : ∀ {id}, id ∈ plan.ids → plan.instances.get? id = some (plan.inst id)
  own : ∀ {id inst}, plan.instances.get? id = some inst → inst.id = id
  prereqs_get? : ∀ {id}, id ∈ plan.ids → plan.graph.prereqs.get? id = some (plan.prereqs id)
  prereqs_nodup : ∀ id, (plan.prereqs id).Nodup
  dependents_nodup : ∀ id, (plan.dependents id).Nodup
  mem_dependents : ∀ {need id}, id ∈ plan.dependents need ↔ need ∈ plan.prereqs id
  known : ∀ {need id}, need ∈ plan.prereqs id → need ∈ plan.ids ∧ id ∈ plan.ids
  acyclic : ∃ depth : String → Nat, ∀ need id, need ∈ plan.prereqs id → depth need < depth id

theorem Sound.id_inst {plan : Plan} (sound : plan.Sound) {id : String} (here : id ∈ plan.ids) :
    (plan.inst id).id = id :=
  sound.own (sound.found here)

theorem Sound.induction {plan : Plan} (sound : plan.Sound) {p : String → Prop}
    (step : ∀ id ∈ plan.ids, (∀ need ∈ plan.prereqs id, p need) → p id) : ∀ id ∈ plan.ids, p id := by
  obtain ⟨depth, grows⟩ := sound.acyclic
  intro id here
  induction at_depth : depth id using Nat.strongRecOn generalizing id with
  | ind n ih =>
    exact step id here fun need waited =>
      ih (depth need) (at_depth ▸ grows need id waited) need (sound.known waited).1 rfl

variable {jobs : List Job} {instances : List Instance} {workers : Nat}

theorem names_instances (distinct : (instances.map Instance.id).Nodup) :
    Keyed.names (instances.map fun inst => (inst.id, inst)) = instances.map Instance.id ∧
      Keyed.ofPairs (instances.map fun inst => (inst.id, inst)) =
        instances.map fun inst => (inst.id, inst) := by
  have names : Keyed.names (instances.map fun inst => (inst.id, inst)) =
      instances.map Instance.id := by
    simp [Keyed.names, Function.comp_def]
  exact ⟨names, Keyed.ofPairs_of_nodup (names ▸ distinct)⟩

theorem graph_ofGraph (graph : InstanceGraph) :
    (ofGraph instances graph workers).graph = graph := rfl

theorem get?_ofGraph (distinct : (instances.map Instance.id).Nodup) {graph : InstanceGraph}
    {inst : Instance} (member : inst ∈ instances) :
    (ofGraph instances graph workers).instances.get? inst.id = some inst := by
  obtain ⟨names, pairs⟩ := names_instances distinct
  rw [ofGraph]
  dsimp only
  rw [pairs]
  exact Keyed.get?_of_mem (names ▸ distinct)
    (List.mem_map_of_mem (f := fun inst : Instance => (inst.id, inst)) member)

theorem isSome_get?_ofGraph {graph : InstanceGraph} {id : String}
    (known : id ∈ instances.map Instance.id) :
    ((ofGraph instances graph workers).instances.get? id).isSome := by
  rw [ofGraph, Keyed.isSome_get?_iff, Keyed.mem_names_ofPairs, Keyed.names, List.map_map]
  exact known

theorem mem_of_get?_ofGraph {graph : InstanceGraph} {id : String} {inst : Instance}
    (found : (ofGraph instances graph workers).instances.get? id = some inst) :
    inst ∈ instances ∧ inst.id = id := by
  obtain ⟨other, member, same⟩ :=
    List.mem_map.1 (Keyed.mem_of_mem_ofPairs (Keyed.mem_of_get? found))
  obtain ⟨rfl, rfl⟩ := Prod.mk.inj same
  exact ⟨member, rfl⟩

theorem inst_ofGraph (distinct : (instances.map Instance.id).Nodup) {graph : InstanceGraph}
    {inst : Instance} (member : inst ∈ instances) :
    (ofGraph instances graph workers).inst inst.id = inst := by
  rw [Plan.inst, get?_ofGraph distinct member, Option.getD_some]

abbrev ofJobs (jobs : List Job) (instances : List Instance) (workers : Nat) : Plan :=
  ofGraph instances (InstanceGraph.build jobs instances) workers

section

variable (sound : JobGraph.Sound jobs) (distinct : (instances.map Instance.id).Nodup)

include sound distinct

theorem ids_perm_ofJobs :
    (ofJobs jobs instances workers).ids.Perm (instances.map Instance.id) := by
  rw [ids, graph_ofGraph]
  exact InstanceGraph.perm_names_prereqs_build sound distinct

theorem mem_ids_ofJobs {id : String} :
    id ∈ (ofJobs jobs instances workers).ids ↔ ∃ inst ∈ instances, inst.id = id := by
  rw [(ids_perm_ofJobs sound distinct).mem_iff, List.mem_map]

theorem nodup_ids_ofJobs : (ofJobs jobs instances workers).ids.Nodup :=
  (ids_perm_ofJobs sound distinct).nodup_iff.2 distinct

theorem prereqs_get?_ofJobs {inst : Instance} (member : inst ∈ instances) :
    (ofJobs jobs instances workers).graph.prereqs.get? inst.id =
      some (InstanceGraph.prereqsOf jobs (inOrder instances) inst) :=
  InstanceGraph.prereqs_build sound distinct member

theorem mem_prereqs_ofJobs {inst : Instance} (member : inst ∈ instances) {id : String} :
    id ∈ (ofJobs jobs instances workers).prereqs inst.id ↔
      ∃ need ∈ instances, inst.WaitsFor jobs need ∧ need.id = id := by
  rw [prereqs, prereqs_get?_ofJobs sound distinct member, Option.getD_some]
  exact InstanceGraph.mem_prereqsOf_inOrder sound

theorem precedes_ofJobs {need inst : Instance} (precedes : need.Precedes jobs instances inst) :
    (ofJobs jobs instances workers).Precedes need.id inst.id := by
  refine Relation.TransGen.lift Instance.id (fun one other edge => ?_) _ _ precedes
  exact (mem_prereqs_ofJobs sound distinct edge.2.1).2 ⟨one, edge.1, edge.2.2, rfl⟩

theorem dependents_ofJobs {inst : Instance} (member : inst ∈ instances) :
    (ofJobs jobs instances workers).dependents inst.id =
      InstanceGraph.dependentsOf jobs (inOrder instances) inst.id := by
  rw [dependents, graph_ofGraph, InstanceGraph.dependents_build sound distinct member, Option.getD_some]

theorem mem_dependents_ofJobs {inst : Instance} (member : inst ∈ instances) {id : String} :
    id ∈ (ofJobs jobs instances workers).dependents inst.id ↔
      ∃ other ∈ instances, other.WaitsFor jobs inst ∧ other.id = id := by
  rw [dependents_ofJobs sound distinct member]
  exact InstanceGraph.mem_dependentsOf_inOrder sound distinct member

theorem dependents_ofJobs_of_not_mem {id : String} (unknown : ∀ inst ∈ instances, inst.id ≠ id) :
    (ofJobs jobs instances workers).dependents id = [] := by
  have missing : (ofJobs jobs instances workers).graph.dependents.get? id = none := by
    rw [Keyed.get?_eq_none_iff, graph_ofGraph,
      (InstanceGraph.entered_build sound distinct).dependents_names, List.mem_map]
    exact fun ⟨inst, member, same⟩ => unknown inst member same
  rw [dependents, missing, Option.getD_none]

theorem exists_of_mem_prereqs_ofJobs {need id : String}
    (waited : need ∈ (ofJobs jobs instances workers).prereqs id) :
    ∃ inst ∈ instances, ∃ other ∈ instances,
      inst.id = id ∧ other.id = need ∧ inst.WaitsFor jobs other := by
  by_cases here : ∃ inst ∈ instances, inst.id = id
  · obtain ⟨inst, member, rfl⟩ := here
    obtain ⟨other, member', edge, rfl⟩ := (mem_prereqs_ofJobs sound distinct member).1 waited
    exact ⟨inst, member, other, member', rfl, rfl, edge⟩
  · have missing : (ofJobs jobs instances workers).graph.prereqs.get? id = none :=
      Keyed.get?_eq_none_iff.2 (mt (mem_ids_ofJobs sound distinct).1 here)
    rw [prereqs, missing, Option.getD_none] at waited
    exact absurd waited List.not_mem_nil

theorem exists_of_precedes_ofJobs {need id : String}
    (precedes : (ofJobs jobs instances workers).Precedes need id) :
    ∃ one ∈ instances, ∃ other ∈ instances,
      one.id = need ∧ other.id = id ∧ one.Precedes jobs instances other := by
  induction precedes with
  | single waited =>
    obtain ⟨inst, member, other, member', rfl, rfl, edge⟩ :=
      exists_of_mem_prereqs_ofJobs sound distinct waited
    exact ⟨other, member', inst, member, rfl, rfl, .single ⟨member', member, edge⟩⟩
  | tail _ waited ih =>
    obtain ⟨one, member, middle, between, rfl, same, path⟩ := ih
    obtain ⟨inst, here, other, member', rfl, named, edge⟩ :=
      exists_of_mem_prereqs_ofJobs sound distinct waited
    obtain rfl := List.inj_on_of_nodup_map distinct between member' (same.trans named.symm)
    exact ⟨one, member, inst, here, rfl, rfl, .tail path ⟨between, here, edge⟩⟩

theorem exists_of_mem_dependents_ofJobs {need id : String}
    (waiting : id ∈ (ofJobs jobs instances workers).dependents need) :
    ∃ inst ∈ instances, ∃ other ∈ instances,
      inst.id = id ∧ other.id = need ∧ inst.WaitsFor jobs other := by
  by_cases here : ∃ other ∈ instances, other.id = need
  · obtain ⟨other, member, rfl⟩ := here
    obtain ⟨inst, member', edge, rfl⟩ := (mem_dependents_ofJobs sound distinct member).1 waiting
    exact ⟨inst, member', other, member, rfl, rfl, edge⟩
  · rw [dependents_ofJobs_of_not_mem sound distinct fun other member same =>
      here ⟨other, member, same⟩] at waiting
    exact absurd waiting List.not_mem_nil

theorem mem_dependents_iff_ofJobs {need id : String} :
    id ∈ (ofJobs jobs instances workers).dependents need ↔
      need ∈ (ofJobs jobs instances workers).prereqs id := by
  constructor
  · intro waiting
    obtain ⟨inst, member, other, member', rfl, rfl, edge⟩ :=
      exists_of_mem_dependents_ofJobs sound distinct waiting
    exact (mem_prereqs_ofJobs sound distinct member).2 ⟨other, member', edge, rfl⟩
  · intro waited
    obtain ⟨inst, member, other, member', rfl, rfl, edge⟩ :=
      exists_of_mem_prereqs_ofJobs sound distinct waited
    exact (mem_dependents_ofJobs sound distinct member').2 ⟨inst, member, edge, rfl⟩

theorem nodup_prereqs_ofJobs (id : String) :
    ((ofJobs jobs instances workers).prereqs id).Nodup := by
  by_cases here : ∃ inst ∈ instances, inst.id = id
  · obtain ⟨inst, member, rfl⟩ := here
    rw [prereqs, prereqs_get?_ofJobs sound distinct member, Option.getD_some]
    exact InstanceGraph.nodup_prereqsOf (InstanceGraph.nodup_ids_inOrder distinct) inst
  · have missing : (ofJobs jobs instances workers).graph.prereqs.get? id = none :=
      Keyed.get?_eq_none_iff.2 (mt (mem_ids_ofJobs sound distinct).1 here)
    rw [prereqs, missing, Option.getD_none]
    exact List.nodup_nil

theorem nodup_dependents_ofJobs (id : String) :
    ((ofJobs jobs instances workers).dependents id).Nodup := by
  by_cases here : ∃ inst ∈ instances, inst.id = id
  · obtain ⟨inst, member, rfl⟩ := here
    rw [dependents_ofJobs sound distinct member]
    exact InstanceGraph.nodup_dependentsOf_inOrder distinct inst.id
  · rw [dependents_ofJobs_of_not_mem sound distinct fun inst member same =>
      here ⟨inst, member, same⟩]
    exact List.nodup_nil

theorem sound_ofJobs {depth : String → Nat}
    (grows : ∀ need name, (need, name) ∈ JobGraph.edgesOf jobs → depth need < depth name) :
    (ofJobs jobs instances workers).Sound := by
  have known {id : String} :
      id ∈ (ofJobs jobs instances workers).ids ↔ ∃ inst ∈ instances, inst.id = id :=
    mem_ids_ofJobs sound distinct
  refine ⟨nodup_ids_ofJobs sound distinct, fun here => ?_,
    fun found => (mem_of_get?_ofGraph found).2, fun here => ?_, nodup_prereqs_ofJobs sound distinct,
    nodup_dependents_ofJobs sound distinct, mem_dependents_iff_ofJobs sound distinct, fun waited => ?_, ?_⟩
  · obtain ⟨inst, member, rfl⟩ := known.1 here
    rw [inst_ofGraph distinct member, get?_ofGraph distinct member]
  · obtain ⟨inst, member, rfl⟩ := known.1 here
    rw [prereqs, prereqs_get?_ofJobs sound distinct member, Option.getD_some]
  · obtain ⟨inst, member, other, member', rfl, rfl, _⟩ :=
      exists_of_mem_prereqs_ofJobs sound distinct waited
    exact ⟨known.2 ⟨other, member', rfl⟩, known.2 ⟨inst, member, rfl⟩⟩
  · refine ⟨fun id => depth ((ofJobs jobs instances workers).inst id).job, fun need id waited => ?_⟩
    obtain ⟨inst, member, other, member', rfl, rfl, edge⟩ :=
      exists_of_mem_prereqs_ofJobs sound distinct waited
    dsimp only
    rw [inst_ofGraph distinct member, inst_ofGraph distinct member']
    exact grows _ _ (Instance.waitsFor_iff.1 edge)

end

end Plan

end CiPipeline.Schedule
