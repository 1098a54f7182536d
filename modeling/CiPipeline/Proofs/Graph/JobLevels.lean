import CiPipeline.Proofs.Graph.Instances
import CiPipeline.Proofs.Graph.Stages

/-! The levels of a graph of jobs, in terms of what jobs need. They exist exactly where the needs of jobs have
no cycle, and otherwise the jobs on a cycle and behind one are named. -/
namespace CiPipeline.JobGraph

/-- Of two names, the first is needed by the job of the second. -/
def NeededBy (jobs : List Job) (need name : String) : Prop :=
  ∃ job ∈ jobs, job.name = name ∧ need ∈ job.needs

theorem awaits_eq_neededBy {jobs : List Job} {graph : JobGraph} (sound : Sound jobs)
    (drawn : Drawn (jobs.map Job.name) (edgesOf jobs) graph) :
    Levels.Awaits graph.dependents = NeededBy jobs := by
  funext need name
  refine propext ((awaits_iff_of_drawn drawn).trans ?_)
  rw [mem_edgesOf, NeededBy, and_iff_right_iff_imp]
  rintro ⟨job, member, _, needed⟩
  exact (sound.needs job member need needed).2

theorem closed_of_drawn {jobs : List Job} {graph : JobGraph} (sound : Sound jobs)
    (drawn : Drawn (jobs.map Job.name) (edgesOf jobs) graph) :
    Levels.Closed graph.dependents graph.needCount := by
  obtain ⟨consistent, edges⟩ := consistent_of_drawn sound drawn
  exact ⟨consistent, fun edge => (edges ((awaits_iff_of_drawn drawn).1 edge).2).2⟩

/-- Jobs without a cycle among their needs fall into levels, each job in the level whose position is the length
of the longest chain of needs that ends at it; with a cycle, what is reported are the jobs on cycles and those
that need them, directly or not. Neither depends on the order in which the dependents of a job are listed. -/
theorem levels_or_stuck {jobs : List Job} {graph : JobGraph} (made : ofJobs jobs = .ok graph)
    {order : Keyed Int} (ranked : Levels.Ranked order (jobs.map Job.name)) :
    (¬Cyclic (NeededBy jobs) → ∃ levels,
      (∀ listed, Levels.SameEdges graph.dependents listed →
        Levels.of listed graph.needCount (some order) = .ok levels) ∧
      levels.flatten.Perm (jobs.map Job.name) ∧
      (∀ level ∈ levels, level ≠ [] ∧ Levels.Ascending order level) ∧
      ∀ position level, levels[position]? = some level → ∀ name ∈ level,
        LongestChain (NeededBy jobs) name position) ∧
    (Cyclic (NeededBy jobs) → ∃ stuck,
      (∀ listed, Levels.SameEdges graph.dependents listed →
        Levels.of listed graph.needCount (some order) = .error (.problem (.cycle stuck))) ∧
      Levels.Ascending order stuck ∧
      ∀ name, name ∈ stuck ↔ Entangled (NeededBy jobs) name) := by
  obtain ⟨sound, drawn⟩ := drawn_ofJobs made
  have closed := closed_of_drawn sound drawn
  rw [← drawn.needCount_names] at ranked ⊢
  rw [← awaits_eq_neededBy sound drawn]
  constructor
  · intro acyclic
    obtain ⟨levels, staged, perm, made_all⟩ := Levels.exists_levels closed ranked acyclic
    exact ⟨levels, made_all, perm,
      fun level member => ⟨staged.filled level member, staged.ascending level member⟩,
      fun position level found name member => staged.longestChain closed.known found member⟩
  · intro cyclic
    obtain ⟨stuck, ascending, members, reported⟩ := Levels.exists_stuck closed ranked cyclic
    exact ⟨stuck, reported, ascending, members⟩

def knotted : List Job :=
  [("ship", ["test", "test"]), ("lint", []), ("test", ["build"]), ("build", ["test", "lint"])].map
    fun entry => ⟨entry.1, [], entry.2, [], [], none, none⟩

def knottedRanks : Keyed Int := [("ship", 4), ("lint", 3), ("test", 2), ("build", 1)]

theorem levels_or_stuck_knotted : ∃ graph stuck, ofJobs knotted = .ok graph ∧
    Levels.Ranked knottedRanks (knotted.map Job.name) ∧ Cyclic (NeededBy knotted) ∧
    Levels.of graph.dependents graph.needCount (some knottedRanks) =
      .error (.problem (.cycle stuck)) ∧
    Levels.Ascending knottedRanks stuck ∧
    ∀ name, name ∈ stuck ↔ Entangled (NeededBy knotted) name := by
  obtain ⟨graph, made⟩ : ∃ graph, ofJobs knotted = .ok graph := ⟨_, by with_unfolding_all rfl⟩
  have ranked : Levels.Ranked knottedRanks (knotted.map Job.name) := ⟨by decide, by decide⟩
  have cyclic : Cyclic (NeededBy knotted) := by
    refine ⟨"test", .tail (.single (b := "build") ?_) ?_⟩
    · exact ⟨⟨"build", [], ["test", "lint"], [], [], none, none⟩, by simp [knotted], rfl, by decide⟩
    · exact ⟨⟨"test", [], ["build"], [], [], none, none⟩, by simp [knotted], rfl, by decide⟩
  obtain ⟨stuck, reported, ascending, members⟩ := (levels_or_stuck made ranked).2 cyclic
  exact ⟨graph, stuck, made, ranked, cyclic, reported _ fun _ _ => Iff.rfl, ascending, members⟩

end CiPipeline.JobGraph
