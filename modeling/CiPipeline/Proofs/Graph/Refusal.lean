import CiPipeline.Proofs.Graph.JobLevels

/-! Stages of any instances of any jobs. Whatever the jobs and the instances are, and even if several instances
share a name, the stages are there or else a problem is told; asking for them never breaks off. -/
namespace CiPipeline

namespace InstanceGraph

variable {jobs : List Job} {ordered : List Instance} {ids : List String} {graph : InstanceGraph}

structure Inside (ids : List String) (graph : InstanceGraph) : Prop where
  prereqs : graph.prereqs.names ⊆ ids
  dependents : ∀ {need name}, Levels.Awaits graph.dependents need name → name ∈ graph.prereqs.names

theorem awaits_addDependent {dependents : Keyed (List String)} {prereq id need name : String}
    (edge : Levels.Awaits (addDependent dependents prereq id) need name) :
    Levels.Awaits dependents need name ∨ name = id := by
  rw [Levels.Awaits, addDependent, Keyed.get?_put] at edge
  split at edge
  · rename_i here
    rw [Option.getD_some, List.mem_append, List.mem_singleton] at edge
    exact here ▸ edge
  · exact .inl edge

theorem awaits_addDependents {dependents : Keyed (List String)} {pre : List String}
    {id need name : String} (edge : Levels.Awaits
      (pre.foldl (fun dependents prereq => addDependent dependents prereq id) dependents) need name) :
    Levels.Awaits dependents need name ∨ name = id := by
  induction pre generalizing dependents with
  | nil => exact .inl edge
  | cons first rest ih =>
    rcases ih edge with before | same
    · exact awaits_addDependent before
    · exact .inr same

theorem Inside.enter (inside : Inside ids graph) {inst : Instance} (known : inst.id ∈ ids) :
    Inside ids (enter jobs ordered graph inst) := by
  have names : (InstanceGraph.enter jobs ordered graph inst).prereqs.names =
      if inst.id ∈ graph.prereqs.names then graph.prereqs.names
      else graph.prereqs.names ++ [inst.id] := Keyed.names_put _ _ _
  have kept {name : String} (either : name ∈ graph.prereqs.names ∨ name = inst.id) :
      name ∈ (InstanceGraph.enter jobs ordered graph inst).prereqs.names := by
    rw [names]
    split
    · rename_i old
      exact either.elim id fun same => same ▸ old
    · exact List.mem_append.2 (either.imp_right fun same => List.mem_singleton.2 same)
  refine ⟨?_, fun edge => kept ?_⟩
  · rw [names]
    split
    · exact inside.prereqs
    · exact List.append_subset.2 ⟨inside.prereqs, List.cons_subset.2 ⟨known, List.nil_subset _⟩⟩
  · exact (awaits_addDependents edge).imp_left inside.dependents

theorem inside_build (jobs : List Job) (instances : List Instance) :
    Inside (instances.map Instance.id) (build jobs instances) := by
  have run (back : List Instance) (known : ∀ inst ∈ back, inst.id ∈ instances.map Instance.id)
      (graph : InstanceGraph) (inside : Inside (instances.map Instance.id) graph) :
      Inside (instances.map Instance.id)
        (back.foldl (enter jobs (inOrder instances)) graph) := by
    induction back generalizing graph with
    | nil => exact inside
    | cons inst rest ih =>
      rw [List.forall_mem_cons] at known
      exact ih known.2 _ (inside.enter known.1)
  have perm : (inOrder instances).Perm instances := List.mergeSort_perm _ _
  refine run _ (fun inst member => List.mem_map_of_mem (perm.subset member)) _
    ⟨List.nil_subset _, fun {need name} edge => ?_⟩
  -- At the start nothing waits for anything.
  rw [Levels.Awaits] at edge
  cases found : (Keyed.ofPairs (instances.map fun inst => (inst.id, ([] : List String)))).get? need with
  | none =>
    rw [found] at edge
    cases edge
  | some waiting =>
    obtain ⟨inst, _, same⟩ := List.mem_map.1 (Keyed.mem_of_mem_ofPairs (Keyed.mem_of_get? found))
    rw [found, ← (Prod.mk.inj same).2] at edge
    cases edge

end InstanceGraph

theorem mem_names_positions {names : List String} {name : String} (known : name ∈ names) :
    name ∈ (positions names).names := by
  obtain ⟨position, found⟩ := List.mem_iff_getElem?.1 known
  refine Keyed.mem_names_ofPairs.2 (List.mem_map.2 ⟨(name, (position : Int)), ?_, rfl⟩)
  rw [List.mem_iff_getElem?]
  exact ⟨position, by simp [found]⟩

theorem planLevels_ok_or_problem (jobs : List Job) (instances : List Instance) :
    (∃ levels, planLevels jobs instances = .ok levels) ∨
      ∃ problem, planLevels jobs instances = .error (.problem problem) := by
  rw [planLevels, InstanceGraph.ofInstances]
  cases made : JobGraph.ofJobs jobs with
  | error problem => exact .inr ⟨problem, rfl⟩
  | ok graph =>
    obtain ⟨sound, drawn⟩ := JobGraph.drawn_ofJobs made
    have ranks : graph.needCount.names ⊆ (positions (jobs.map Job.name)).names := fun name known =>
      mem_names_positions (drawn.needCount_names ▸ known)
    dsimp only [Except.mapError, bind, Except.bind]
    -- The levels are asked for twice: first for the jobs, and then for their instances.
    rcases Levels.ok_or_cycle ranks (JobGraph.closed_of_drawn sound drawn).inside with
      ⟨levels, leveled⟩ | ⟨stuck, reported⟩
    · rw [leveled]
      dsimp only [pure, Except.pure]
      have inside := InstanceGraph.inside_build jobs instances
      have names : ((InstanceGraph.build jobs instances).prereqs.mapValues
          fun pre => (pre.length : Int)).names = (InstanceGraph.build jobs instances).prereqs.names :=
        Keyed.names_mapValues _ _
      refine (Levels.ok_or_cycle (fun name known => ?_) fun edge => names ▸ inside.dependents edge).imp_right
        fun ⟨stuck, reported⟩ => ⟨_, reported⟩
      rw [names] at known
      obtain ⟨inst, member, rfl⟩ := List.mem_map.1 (inside.prereqs known)
      refine Keyed.mem_names_ofPairs.2 ?_
      rw [Keyed.names, List.map_map]
      exact List.mem_map_of_mem (f := fun inst : Instance => inst.id) member
    · rw [reported]
      exact .inr ⟨_, rfl⟩

end CiPipeline
