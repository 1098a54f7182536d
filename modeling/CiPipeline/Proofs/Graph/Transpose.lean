import CiPipeline.Proofs.Schedule.Gating

/-! The two maps of the graph of instances say the same thing in two directions. An instance waits for another
one exactly where its job needs the job of the other; each of the two lists then has the other instance once,
however often the need is written down, and neither list has anything else. -/
namespace CiPipeline

namespace InstanceGraph

variable {jobs : List Job} {instances : List Instance}

theorem exists_same_id_iff (distinct : (instances.map Instance.id).Nodup) {inst : Instance}
    (member : inst ∈ instances) {holds : Instance → Prop} :
    (∃ other ∈ instances, holds other ∧ other.id = inst.id) ↔ holds inst := by
  constructor
  · rintro ⟨other, there, held, same⟩
    rwa [← List.inj_on_of_nodup_map distinct there member same]
  · exact fun held => ⟨inst, member, held, rfl⟩

section

variable (sound : JobGraph.Sound jobs) (distinct : (instances.map Instance.id).Nodup)
variable {x y : Instance}

include sound distinct

theorem id_mem_prereqsOf_iff (here : x ∈ instances) :
    x.id ∈ prereqsOf jobs (inOrder instances) y ↔ y.WaitsFor jobs x := by
  rw [mem_prereqsOf_inOrder sound]
  exact exists_same_id_iff distinct here

theorem id_mem_dependentsOf_iff (here : x ∈ instances) (there : y ∈ instances) :
    y.id ∈ dependentsOf jobs (inOrder instances) x.id ↔ y.WaitsFor jobs x := by
  rw [mem_dependentsOf_inOrder sound distinct here]
  exact exists_same_id_iff distinct there

theorem exists_of_prereqs_build {id : String} {pre : List String}
    (found : (build jobs instances).prereqs.get? id = some pre) :
    ∃ inst ∈ instances, inst.id = id ∧ pre = prereqsOf jobs (inOrder instances) inst := by
  have known := (perm_names_prereqs_build sound distinct).mem_iff.1 (Keyed.mem_names_of_get? found)
  obtain ⟨inst, member, rfl⟩ := List.mem_map.1 known
  rw [prereqs_build sound distinct member] at found
  exact ⟨inst, member, rfl, (Option.some.inj found).symm⟩

theorem exists_of_dependents_build {id : String} {post : List String}
    (found : (build jobs instances).dependents.get? id = some post) :
    ∃ inst ∈ instances, inst.id = id ∧ post = dependentsOf jobs (inOrder instances) inst.id := by
  have known := Keyed.mem_names_of_get? found
  rw [(entered_build sound distinct).dependents_names] at known
  obtain ⟨inst, member, rfl⟩ := List.mem_map.1 known
  rw [dependents_build sound distinct member] at found
  exact ⟨inst, member, rfl, (Option.some.inj found).symm⟩

end

/-- Where the jobs of a list make a graph without a cycle, the graph of their instances has two maps, both with
the names of the instances. The names of an instance and of one that it waits for stand in the lists of each
other, once each and just where the one waits for the other, and no list has a name of no instance. -/
theorem ofInstances_transposed {jobGraph : JobGraph} {levels : List (List String)}
    (made : JobGraph.ofJobs jobs = .ok jobGraph)
    (leveled : Levels.of jobGraph.dependents jobGraph.needCount
      (some (positions (jobs.map Job.name))) = .ok levels)
    (distinct : (instances.map Instance.id).Nodup) :
    ∃ graph, ofInstances jobs instances = .ok graph ∧
      graph.prereqs.names.Perm (instances.map Instance.id) ∧
      graph.dependents.names.Perm (instances.map Instance.id) ∧
      (∀ x ∈ instances, ∀ y ∈ instances, ∃ pre post,
        graph.prereqs.get? y.id = some pre ∧ graph.dependents.get? x.id = some post ∧
        (x.id ∈ pre ↔ y.WaitsFor jobs x) ∧ (y.id ∈ post ↔ y.WaitsFor jobs x) ∧
        pre.Nodup ∧ post.Nodup ∧ pre.count x.id = post.count y.id) ∧
      (∀ id pre, graph.prereqs.get? id = some pre → pre ⊆ instances.map Instance.id) ∧
      ∀ id post, graph.dependents.get? id = some post → post ⊆ instances.map Instance.id := by
  obtain ⟨sound, _⟩ := JobGraph.drawn_ofJobs made
  refine ⟨build jobs instances, ?_, perm_names_prereqs_build sound distinct, ?_, ?_, ?_, ?_⟩
  · exact Success.bind_iff.2 ⟨jobGraph, Success.mapError_iff.2 made, Success.bind_iff.2 ⟨levels, leveled, rfl⟩⟩
  · rw [(entered_build sound distinct).dependents_names]
  · intro x here y there
    have waited : x.id ∈ prereqsOf jobs (inOrder instances) y ↔ y.WaitsFor jobs x :=
      id_mem_prereqsOf_iff sound distinct here
    have waiting : y.id ∈ dependentsOf jobs (inOrder instances) x.id ↔ y.WaitsFor jobs x :=
      id_mem_dependentsOf_iff sound distinct here there
    have nodup_pre : (prereqsOf jobs (inOrder instances) y).Nodup :=
      nodup_prereqsOf (nodup_ids_inOrder distinct) y
    have nodup_post : (dependentsOf jobs (inOrder instances) x.id).Nodup :=
      nodup_dependentsOf_inOrder distinct x.id
    refine ⟨_, _, prereqs_build sound distinct there, dependents_build sound distinct here, waited, waiting,
      nodup_pre, nodup_post, ?_⟩
    rw [nodup_pre.count, nodup_post.count]
    exact if_congr (waited.trans waiting.symm) rfl rfl
  · intro id pre found need member
    obtain ⟨inst, _, _, rfl⟩ := exists_of_prereqs_build sound distinct found
    obtain ⟨other, there, _, rfl⟩ := (mem_prereqsOf_inOrder sound).1 member
    exact List.mem_map_of_mem there
  · intro id post found name member
    obtain ⟨inst, here, _, rfl⟩ := exists_of_dependents_build sound distinct found
    obtain ⟨other, there, _, rfl⟩ := (mem_dependentsOf_inOrder sound distinct here).1 member
    exact List.mem_map_of_mem there

theorem ofInstances_transposed_sample : ∃ graph,
    ofInstances Schedule.sample.jobs Schedule.sampleInstances = .ok graph ∧
    ∃ pre post, graph.prereqs.get? "test" = some pre ∧ graph.dependents.get? "build (os=mac)" = some post ∧
      pre.count "build (os=mac)" = 1 ∧ post.count "test" = 1 := by
  let jobGraph : JobGraph := ⟨[("build", ["test"]), ("test", [])], [("build", 0), ("test", 1)]⟩
  have made : JobGraph.ofJobs Schedule.sample.jobs = .ok jobGraph := by with_unfolding_all rfl
  have leveled : Levels.of jobGraph.dependents jobGraph.needCount
      (some (positions (Schedule.sample.jobs.map Job.name))) = .ok [["build"], ["test"]] := by
    with_unfolding_all rfl
  have distinct : (Schedule.sampleInstances.map Instance.id).Nodup := by decide +kernel
  obtain ⟨graph, accepted, _, _, pairs, _⟩ := ofInstances_transposed made leveled distinct
  obtain ⟨pre, post, needs, waiting, waited, waits_back, nodup, nodup', _⟩ :=
    pairs _ (.tail _ (.head _)) _ (.tail _ (.tail _ (.head _)))
  have waits : Instance.WaitsFor Schedule.sample.jobs
      ⟨"test", [], [⟨"check", "make check", none, none, [], none⟩], 2, [], none, none⟩
      ⟨"build", [("os", .text "mac")], [⟨"make", "make", none, none, [], none⟩], 1, [], none, none⟩ :=
    ⟨_, .tail _ (.head _), rfl, .head _⟩
  exact ⟨graph, accepted, pre, post, needs, waiting, List.count_eq_one_of_mem nodup (waited.2 waits),
    List.count_eq_one_of_mem nodup' (waits_back.2 waits)⟩

end InstanceGraph

end CiPipeline
