import CiPipeline.Proofs.Graph.JobLevels
import CiPipeline.Proofs.Matrix.Identity
import CiPipeline.Proofs.Schedule.Plan
import Mathlib.Data.List.GetD

/-! The stages of a run. An instance has the chains of prerequisites that its job has, since every job has an
instance; so the instances of a stage are those of the jobs in the level of the same position. -/
namespace CiPipeline

open CiPipeline.Matrix

namespace Pipeline

theorem exists_of_grouped {start : Nat} {jobs : List Job} {groups : List (List Instance)}
    (grouped : Grouped start jobs groups) {job : Job} (member : job ∈ jobs) :
    ∃ inst ∈ groups.flatten, inst.job = job.name := by
  induction grouped with
  | nil => cases member
  | @cons start first axes group jobs groups _ checked bound later ih =>
    rcases List.mem_cons.1 member with rfl | there
    · have some_inst : group ≠ [] := by
        intro empty
        have none := bound.assignments
        rw [empty, List.map_nil] at none
        exact combinations_ne_nil (checkAxes_ok checked) none.symm
      obtain ⟨inst, here⟩ := List.exists_mem_of_ne_nil group some_inst
      exact ⟨inst, List.mem_append_left _ here, bound.job inst here⟩
    · obtain ⟨inst, here, same⟩ := ih there
      exact ⟨inst, List.mem_append_right _ here, same⟩

theorem exists_instance {pipeline : Pipeline} {instances : List Instance}
    (expanded : pipeline.instances = .ok instances) {job : Job} (member : job ∈ pipeline.jobs) :
    ∃ inst ∈ instances, inst.job = job.name := by
  obtain ⟨groups, _, rfl, grouped, _⟩ := instancesOf_ok expanded
  exact exists_of_grouped grouped member

theorem job_mem_of_expanded {pipeline : Pipeline} {instances : List Instance}
    (expanded : pipeline.instances = .ok instances) {inst : Instance} (member : inst ∈ instances) :
    inst.job ∈ pipeline.jobs.map Job.name := by
  obtain ⟨groups, _, rfl, grouped, _⟩ := instancesOf_ok expanded
  exact job_mem_of_grouped grouped member

end Pipeline

def InstanceGraph.needCount (graph : InstanceGraph) : Keyed Int :=
  graph.prereqs.mapValues fun pre => (pre.length : Int)

def indexRanks (instances : List Instance) : Keyed Int :=
  Keyed.ofPairs (instances.map fun inst => (inst.id, (inst.index : Int)))

theorem Schedule.Plan.Sound.awaits_iff {plan : Schedule.Plan} (sound : plan.Sound)
    {need id : String} : Levels.Awaits plan.graph.dependents need id ↔ need ∈ plan.prereqs id :=
  sound.mem_dependents

theorem Schedule.Plan.Sound.closed {plan : Schedule.Plan} (sound : plan.Sound) :
    Levels.Closed plan.graph.dependents plan.graph.needCount := by
  have names : plan.graph.needCount.names = plan.ids := Keyed.names_mapValues _ _
  refine ⟨⟨names ▸ sound.nodup, fun edge => ?_, fun id here => ?_⟩, fun edge => ?_⟩
  · exact names ▸ (sound.known (sound.awaits_iff.1 edge)).1
  · rw [names] at here ⊢
    have nodup : (Levels.needsLeft plan.graph.dependents plan.ids [] id).Nodup :=
      sound.nodup.filter _
    have perm : (plan.prereqs id).Perm (Levels.needsLeft plan.graph.dependents plan.ids [] id) := by
      rw [List.perm_ext_iff_of_nodup (sound.prereqs_nodup id) nodup]
      intro need
      rw [Levels.mem_needsLeft, sound.awaits_iff]
      exact ⟨fun waited => ⟨(sound.known waited).1, waited, List.not_mem_nil⟩, fun left => left.2.1⟩
    rw [InstanceGraph.needCount, Keyed.get?_mapValues, sound.prereqs_get? here, Option.map_some,
      perm.length_eq]
  · exact names ▸ (sound.known (sound.awaits_iff.1 edge)).2

theorem ranked_positions {names : List String} (nodup : names.Nodup) :
    Levels.Ranked (positions names) names := by
  have pairs_names : Keyed.names (names.mapIdx fun position name => (name, (position : Int))) =
      names :=
    List.ext_getElem? fun position => by simp [Keyed.names, Function.comp_def]
  have pairs : positions names = names.mapIdx fun position name => (name, (position : Int)) :=
    Keyed.ofPairs_of_nodup (pairs_names.symm ▸ nodup)
  refine ⟨fun name member => ?_, fun one here other there same => ?_⟩
  · rwa [pairs, pairs_names]
  · have at_position {name : String} {rank : Int} (found : (positions names).get? name = some rank) :
        names[rank.toNat]? = some name := by
      rw [pairs] at found
      have member := Keyed.mem_of_get? found
      rw [List.mem_mapIdx] at member
      obtain ⟨position, bound, entry⟩ := member
      obtain ⟨rfl, rfl⟩ := Prod.mk.inj entry
      rw [Int.toNat_natCast, List.getElem?_eq_getElem bound]
    have known : one ∈ (positions names).names := by rwa [pairs, pairs_names]
    obtain ⟨rank, found⟩ := Keyed.exists_get?_of_mem known
    exact Option.some.inj ((at_position found).symm.trans (at_position (same ▸ found)))

section

variable {instances : List Instance} (distinct : (instances.map Instance.id).Nodup)
  (numbered : (instances.map Instance.index).Pairwise (· < ·))

include distinct

theorem indexRanks_eq :
    indexRanks instances = instances.map fun inst => (inst.id, (inst.index : Int)) := by
  refine Keyed.ofPairs_of_nodup ?_
  simpa [Keyed.names, Function.comp_def] using distinct

theorem get?_indexRanks {inst : Instance} (member : inst ∈ instances) :
    (indexRanks instances).get? inst.id = some (inst.index : Int) := by
  rw [indexRanks_eq distinct]
  refine Keyed.get?_of_mem ?_ (List.mem_map_of_mem member)
  simpa [Keyed.names, Function.comp_def] using distinct

include numbered

theorem ranked_indexRanks {ids : List String} (perm : ids.Perm (instances.map Instance.id)) :
    Levels.Ranked (indexRanks instances) ids := by
  have inst_of {id : String} (member : id ∈ ids) : ∃ inst ∈ instances, inst.id = id :=
    List.mem_map.1 (perm.mem_iff.1 member)
  refine ⟨fun id member => ?_, fun one here other there same => ?_⟩
  · obtain ⟨inst, known, rfl⟩ := inst_of member
    exact Keyed.mem_names_of_get? (get?_indexRanks distinct known)
  · obtain ⟨first, known, rfl⟩ := inst_of here
    obtain ⟨second, known', rfl⟩ := inst_of there
    rw [get?_indexRanks distinct known, get?_indexRanks distinct known', Option.some.injEq,
      Int.natCast_inj] at same
    have nodup : (instances.map Instance.index).Nodup := numbered.imp Nat.ne_of_lt
    rw [List.inj_on_of_nodup_map nodup known known' same]

theorem ascending_filter (keep : Instance → Bool) :
    Levels.Ascending (indexRanks instances) ((instances.filter keep).map Instance.id) := by
  refine List.pairwise_map.2 ((List.pairwise_map.1 numbered).filter keep |>.imp_of_mem ?_)
  intro one other here there less
  rw [Levels.rankOf, Levels.rankOf, get?_indexRanks distinct (List.mem_of_mem_filter here),
    get?_indexRanks distinct (List.mem_of_mem_filter there)]
  exact Int.ofNat_lt.2 less

end

section

variable {pipeline : Pipeline} {instances : List Instance}
  (distinct : (instances.map Instance.id).Nodup) (sound : JobGraph.Sound pipeline.jobs)

include distinct sound

theorem awaits_build_iff {need id : String} :
    Levels.Awaits (InstanceGraph.build pipeline.jobs instances).dependents need id ↔
      ∃ one ∈ instances, ∃ other ∈ instances, one.id = id ∧ other.id = need ∧
        JobGraph.NeededBy pipeline.jobs other.job one.job := by
  let plan := Schedule.Plan.ofJobs pipeline.jobs instances 0
  have edges : id ∈ plan.dependents need ↔ ∃ one ∈ instances, ∃ other ∈ instances,
      one.id = id ∧ other.id = need ∧ JobGraph.NeededBy pipeline.jobs other.job one.job := by
    constructor
    · exact Schedule.Plan.exists_of_mem_dependents_ofJobs sound distinct
    · rintro ⟨one, here, other, there, rfl, rfl, needed⟩
      exact (Schedule.Plan.mem_dependents_ofJobs sound distinct there).2 ⟨one, here, needed, rfl⟩
  exact edges

theorem chain_id_iff (expanded : pipeline.instances = .ok instances) {inst : Instance}
    (member : inst ∈ instances) {length : Nat} :
    Chain (Levels.Awaits (InstanceGraph.build pipeline.jobs instances).dependents) length inst.id ↔
      Chain (JobGraph.NeededBy pipeline.jobs) length inst.job := by
  constructor
  · intro chain
    refine chain.map (fun id job => ∃ inst ∈ instances, inst.id = id ∧ inst.job = job)
      (fun need id job edge => ?_) ⟨inst, member, rfl, rfl⟩
    rintro ⟨one, here, rfl, rfl⟩
    obtain ⟨same, there, other, there', same_id, rfl, needed⟩ :=
      (awaits_build_iff distinct sound).1 edge
    obtain rfl := List.inj_on_of_nodup_map distinct there here same_id
    exact ⟨other.job, ⟨other, there', rfl, rfl⟩, needed⟩
  · intro chain
    refine chain.map (fun job id => ∃ inst ∈ instances, inst.job = job ∧ inst.id = id)
      (fun need job id edge => ?_) ⟨inst, member, rfl, rfl⟩
    rintro ⟨one, here, rfl, rfl⟩
    obtain ⟨known, there, same_name, needed⟩ := edge
    -- Some instance of the needed job is needed to go on from there.
    obtain ⟨needed_job, listed, rfl⟩ := List.mem_map.1 (sound.needs known there need needed).2
    obtain ⟨other, there', same⟩ := Pipeline.exists_instance expanded listed
    refine ⟨other.id, ⟨other, there', same, rfl⟩, (awaits_build_iff distinct sound).2 ?_⟩
    exact ⟨one, here, other, there', rfl, rfl, known, there, same_name, same ▸ needed⟩

theorem longestChain_id_iff (expanded : pipeline.instances = .ok instances) {inst : Instance}
    (member : inst ∈ instances) {length : Nat} :
    LongestChain (Levels.Awaits (InstanceGraph.build pipeline.jobs instances).dependents) inst.id
        length ↔ LongestChain (JobGraph.NeededBy pipeline.jobs) inst.job length := by
  rw [LongestChain, LongestChain]
  simp only [chain_id_iff distinct sound expanded member]

end

def instancesIn (instances : List Instance) (level : List String) : List String :=
  (instances.filter fun inst => level.contains inst.job).map Instance.id

theorem mem_instancesIn {instances : List Instance} {level : List String} {id : String} :
    id ∈ instancesIn instances level ↔ ∃ inst ∈ instances, inst.job ∈ level ∧ inst.id = id := by
  simp [instancesIn, and_assoc]

theorem getD_map_instancesIn (instances : List Instance) (levels : List (List String))
    (position : Nat) : (levels.map (instancesIn instances)).getD position [] =
      instancesIn instances (levels.getD position []) := by
  have none : instancesIn instances [] = [] := by simp [instancesIn]
  exact (congrArg _ none.symm).trans (List.getD_map levels [] (instancesIn instances))

section

variable {pipeline : Pipeline} {instances : List Instance} {graph : JobGraph}
  (expanded : pipeline.instances = .ok instances) (distinct : (instances.map Instance.id).Nodup)
  (made : JobGraph.ofJobs pipeline.jobs = .ok graph)

include made

theorem exists_jobLevels (acyclic : ¬Cyclic (JobGraph.NeededBy pipeline.jobs)) :
    ∃ levels, Levels.Staged graph.dependents (positions (pipeline.jobs.map Job.name))
        graph.needCount.names levels ∧
      ∀ listed, Levels.SameEdges graph.dependents listed →
        Levels.of listed graph.needCount (some (positions (pipeline.jobs.map Job.name))) =
          .ok levels := by
  obtain ⟨sound, drawn⟩ := JobGraph.drawn_ofJobs made
  have ranked : Levels.Ranked (positions (pipeline.jobs.map Job.name)) graph.needCount.names := by
    rw [drawn.needCount_names]
    exact ranked_positions sound.names
  obtain ⟨levels, staged, _, made_levels⟩ := Levels.exists_levels
    (JobGraph.closed_of_drawn sound drawn) ranked (JobGraph.awaits_eq_neededBy sound drawn ▸ acyclic)
  exact ⟨levels, staged, made_levels⟩

theorem ofInstances_eq (acyclic : ¬Cyclic (JobGraph.NeededBy pipeline.jobs)) :
    InstanceGraph.ofInstances pipeline.jobs instances =
      .ok (InstanceGraph.build pipeline.jobs instances) := by
  obtain ⟨levels, _, made_levels⟩ := exists_jobLevels made acyclic
  rw [InstanceGraph.ofInstances, made]
  dsimp only [Except.mapError, bind, Except.bind]
  rw [made_levels graph.dependents fun _ _ => Iff.rfl]
  rfl

include expanded

theorem instancesIn_ne_nil {levels : List (List String)}
    (staged : Levels.Staged graph.dependents (positions (pipeline.jobs.map Job.name))
      graph.needCount.names levels) {level : List String} (there : level ∈ levels) :
    instancesIn instances level ≠ [] := by
  obtain ⟨_, drawn⟩ := JobGraph.drawn_ofJobs made
  obtain ⟨name, here⟩ := List.exists_mem_of_ne_nil _ (staged.filled level there)
  have known := (Levels.not_mem_done staged.layered (List.mem_flatten_of_mem there here)).1
  rw [drawn.needCount_names] at known
  obtain ⟨job, listed, rfl⟩ := List.mem_map.1 known
  obtain ⟨inst, member, same⟩ := Pipeline.exists_instance expanded listed
  exact List.ne_nil_of_mem (mem_instancesIn.2 ⟨inst, member, same ▸ here, rfl⟩)

include distinct

section

variable (acyclic : ¬Cyclic (JobGraph.NeededBy pipeline.jobs))
  {plan : Schedule.Plan} (planned : plan.Sound)
  (built : plan.graph = InstanceGraph.build pipeline.jobs instances)
  (ids : plan.graph.needCount.names.Perm (instances.map Instance.id))
  {levels stages : List (List String)}
  (staged : Levels.Staged graph.dependents (positions (pipeline.jobs.map Job.name))
    graph.needCount.names levels)
  (staged' : Levels.Staged plan.graph.dependents (indexRanks instances)
    plan.graph.needCount.names stages)

include acyclic planned built ids staged staged'

theorem mem_stage_iff {inst : Instance} (member : inst ∈ instances) {position : Nat} :
    inst.id ∈ stages.getD position [] ↔ inst.job ∈ levels.getD position [] := by
  obtain ⟨sound, drawn⟩ := JobGraph.drawn_ofJobs made
  obtain ⟨rank, rises⟩ := planned.acyclic
  have free : ¬Cyclic (Levels.Awaits plan.graph.dependents) :=
    not_cyclic_of_grows fun need id edge => rises need id (planned.awaits_iff.1 edge)
  have known : inst.job ∈ graph.needCount.names :=
    drawn.needCount_names ▸ Pipeline.job_mem_of_expanded expanded member
  have known' : inst.id ∈ plan.graph.needCount.names :=
    ids.mem_iff.2 (List.mem_map_of_mem member)
  rw [staged'.mem_getD_iff planned.closed.known,
    staged.mem_getD_iff (JobGraph.closed_of_drawn sound drawn).known,
    and_iff_right ⟨known', not_entangled_of_not_cyclic free _⟩,
    JobGraph.awaits_eq_neededBy sound drawn,
    and_iff_right ⟨known, not_entangled_of_not_cyclic acyclic _⟩, built,
    longestChain_id_iff distinct sound expanded member]

theorem stages_eq_map : stages = levels.map (instancesIn instances) := by
  have numbered : (instances.map Instance.index).Pairwise (· < ·) := by
    rw [Pipeline.instances_index expanded]
    exact List.pairwise_lt_range
  have mem_stage {inst : Instance} (member : inst ∈ instances) {position : Nat} :
      inst.id ∈ stages.getD position [] ↔ inst.job ∈ levels.getD position [] :=
    mem_stage_iff expanded distinct made acyclic planned built ids staged staged' member
  refine Levels.eq_of_mem_getD_iff staged'.filled ?_ staged'.ascending ?_ fun position id => ?_
  · exact List.forall_mem_map.2 fun level there => instancesIn_ne_nil expanded made staged there
  · exact List.forall_mem_map.2 fun level _ => ascending_filter distinct numbered _
  · rw [getD_map_instancesIn, mem_instancesIn]
    constructor
    · intro member
      have known := ((staged'.mem_getD_iff planned.closed.known).1 member).1.1
      obtain ⟨inst, here, rfl⟩ := List.mem_map.1 (ids.mem_iff.1 known)
      exact ⟨inst, here, (mem_stage here).1 member, rfl⟩
    · rintro ⟨inst, here, there, rfl⟩
      exact (mem_stage here).2 there

end

end

/-- The stages of a run exist where the jobs have no cycle. There are as many of them as there are levels of
jobs, and each holds all instances of the jobs in its level, in the order of expansion. Neither the levels nor
the stages depend on the order in which dependents are listed. -/
theorem planLevels_eq {pipeline : Pipeline} {instances : List Instance} {graph : JobGraph}
    (expanded : pipeline.instances = .ok instances) (distinct : (instances.map Instance.id).Nodup)
    (made : JobGraph.ofJobs pipeline.jobs = .ok graph)
    (acyclic : ¬Cyclic (JobGraph.NeededBy pipeline.jobs)) :
    ∃ levels, (∀ listed, Levels.SameEdges graph.dependents listed →
        Levels.of listed graph.needCount (some (positions (pipeline.jobs.map Job.name))) =
          .ok levels) ∧
      planLevels pipeline.jobs instances = .ok (levels.map (instancesIn instances)) ∧
      ∃ waiting, InstanceGraph.ofInstances pipeline.jobs instances = .ok waiting ∧
        ∀ listed, Levels.SameEdges waiting.dependents listed →
          Levels.of listed waiting.needCount (some (indexRanks instances)) =
            .ok (levels.map (instancesIn instances)) := by
  have accepted : InstanceGraph.ofInstances pipeline.jobs instances =
      .ok (InstanceGraph.build pipeline.jobs instances) := ofInstances_eq made acyclic
  obtain ⟨sound, _, depth, grows⟩ := InstanceGraph.ofInstances_ok accepted
  have planned : (Schedule.Plan.ofJobs pipeline.jobs instances 0).Sound :=
    Schedule.Plan.sound_ofJobs sound distinct grows
  have numbered : (instances.map Instance.index).Pairwise (· < ·) := by
    rw [Pipeline.instances_index expanded]
    exact List.pairwise_lt_range
  have ids : (Schedule.Plan.ofJobs pipeline.jobs instances 0).graph.needCount.names.Perm
      (instances.map Instance.id) := by
    rw [InstanceGraph.needCount, Keyed.names_mapValues]
    exact Schedule.Plan.ids_perm_ofJobs sound distinct
  obtain ⟨rank, rises⟩ := planned.acyclic
  have free := not_cyclic_of_grows fun need id edge => rises need id (planned.awaits_iff.1 edge)
  obtain ⟨levels, staged, made_levels⟩ := exists_jobLevels made acyclic
  obtain ⟨stages, staged', _, made_stages⟩ := Levels.exists_levels planned.closed
    (ranked_indexRanks distinct numbered ids) free
  have equal := stages_eq_map expanded distinct made acyclic planned rfl ids staged staged'
  refine ⟨levels, made_levels, ?_, _, accepted, fun listed same => equal ▸ made_stages listed same⟩
  rw [planLevels, accepted]
  exact (made_stages _ fun _ _ => Iff.rfl).trans (congrArg Except.ok equal)

def release : Pipeline where
  name := "release"
  jobs := [
    { name := "ship", steps := [], needs := ["test"], matrix := [], env := [], title := none
      runsOn := none },
    { name := "test", steps := [], needs := ["build"]
      matrix := [("os", .list [.text "linux", .text "mac"])], env := [], title := none
      runsOn := none },
    { name := "lint", steps := [], needs := [], matrix := [], env := [], title := none
      runsOn := none },
    { name := "build", steps := [], needs := [], matrix := [], env := [], title := none
      runsOn := none }]
  env := []
  triggers := []

def releaseInstances : List Instance :=
  [⟨"ship", [], [], 0, [], none, none⟩, ⟨"test", [("os", .text "linux")], [], 1, [], none, none⟩,
    ⟨"test", [("os", .text "mac")], [], 2, [], none, none⟩, ⟨"lint", [], [], 3, [], none, none⟩,
    ⟨"build", [], [], 4, [], none, none⟩]

def releaseRank (name : String) : Nat :=
  if name = "ship" then 2 else if name = "test" then 1 else 0

theorem acyclic_release : ¬Cyclic (JobGraph.NeededBy release.jobs) := by
  have grows : ∀ job ∈ release.jobs, ∀ need ∈ job.needs,
      releaseRank need < releaseRank job.name := by decide
  have rises (need name : String) (edge : JobGraph.NeededBy release.jobs need name) :
      releaseRank need < releaseRank name := by
    obtain ⟨job, member, rfl, needed⟩ := edge
    exact grows job member need needed
  exact not_cyclic_of_grows rises

theorem planLevels_eq_release : ∃ graph, release.instances = .ok releaseInstances ∧
    (releaseInstances.map Instance.id).Nodup ∧ JobGraph.ofJobs release.jobs = .ok graph ∧
    ¬Cyclic (JobGraph.NeededBy release.jobs) ∧ ∃ levels,
      Levels.of graph.dependents graph.needCount
        (some (positions (release.jobs.map Job.name))) = .ok levels ∧
      planLevels release.jobs releaseInstances =
        .ok (levels.map (instancesIn releaseInstances)) := by
  have expanded : release.instances = .ok releaseInstances := by with_unfolding_all rfl
  have distinct : (releaseInstances.map Instance.id).Nodup := by decide
  obtain ⟨graph, made⟩ : ∃ graph, JobGraph.ofJobs release.jobs = .ok graph :=
    ⟨_, by with_unfolding_all rfl⟩
  obtain ⟨levels, leveled, staged, _⟩ := planLevels_eq expanded distinct made acyclic_release
  exact ⟨graph, expanded, distinct, made, acyclic_release, levels,
    leveled _ fun _ _ => Iff.rfl, staged⟩

example : planLevels release.jobs releaseInstances =
    .ok [["lint", "build"], ["test (os=linux)", "test (os=mac)"], ["ship"]] := by
  cbv

end CiPipeline
