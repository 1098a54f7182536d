import CiPipeline.Proofs.Graph.Jobs
import Mathlib.Data.Finset.Card

/-! Which lists of jobs make a graph, and what is told about the others. The needs of all jobs are gone through
in the order in which they are written down, and the first one that is not another job of the list ends it.
What a graph shows are the needs themselves, each once. -/
namespace CiPipeline.JobGraph

/-- An edge from a need to its job as it should be: the need is another one of the known names. -/
def Proper (names : List String) (edge : String × String) : Prop :=
  edge.1 ≠ edge.2 ∧ edge.1 ∈ names

instance (names : List String) : DecidablePred (Proper names) := fun edge =>
  inferInstanceAs (Decidable (edge.1 ≠ edge.2 ∧ edge.1 ∈ names))

def objection (names : List String) (need job : String) : Problem :=
  if need = job then .needsItself job
  else .needsUnknown job need (Matrix.sortedNames names)

theorem kind_objection (names : List String) (need job : String) :
    (objection names need job).kind = if need = job then .cycle else .unknownNeed := by
  rw [objection]
  split <;> rfl

def enterEdge (names : List String) (graph : JobGraph) (edge : String × String) :
    Except Problem JobGraph :=
  if Proper names edge then .ok (graph.addEdge edge.1 edge.2)
  else .error (objection names edge.1 edge.2)

theorem addNeeds_cons (names : List String) (job : String) (graph : JobGraph) (need : String)
    (rest : List String) : addNeeds names job graph (need :: rest) =
      enterEdge names graph (need, job) >>= fun extended => addNeeds names job extended rest := by
  rw [addNeeds, enterEdge, objection]
  by_cases own : need = job
  · simp [Proper, own, bind, Except.bind]
  · by_cases known : need ∈ names
    · simp [Proper, own, known, bind, Except.bind]
    · simp [Proper, own, known, bind, Except.bind]

theorem addNeeds_eq_foldlM (names : List String) (job : String) (graph : JobGraph)
    (needs : List String) :
    addNeeds names job graph needs =
      (needs.map fun need => (need, job)).foldlM (enterEdge names) graph := by
  induction needs generalizing graph with
  | nil => rfl
  | cons need rest ih =>
    rw [addNeeds_cons, List.map_cons, List.foldlM_cons]
    exact bind_congr fun extended => ih extended

theorem addJobs_eq_foldlM (names : List String) (graph : JobGraph) (jobs : List Job) :
    addJobs names graph jobs = (edgesOf jobs).foldlM (enterEdge names) graph := by
  induction jobs generalizing graph with
  | nil => rfl
  | cons job rest ih =>
    rw [addJobs, edgesOf, List.flatMap_cons, List.foldlM_append, addNeeds_eq_foldlM]
    exact bind_congr fun extended => ih extended

theorem foldlM_append_of_proper {names : List String} {front : List (String × String)}
    (proper : ∀ edge ∈ front, Proper names edge) (graph : JobGraph)
    (back : List (String × String)) :
    (front ++ back).foldlM (enterEdge names) graph =
      back.foldlM (enterEdge names)
        (front.foldl (fun graph edge => graph.addEdge edge.1 edge.2) graph) := by
  induction front generalizing graph with
  | nil => rfl
  | cons edge rest ih =>
    rw [List.forall_mem_cons] at proper
    rw [List.cons_append, List.foldlM_cons, enterEdge, if_pos proper.1]
    exact ih proper.2 (graph.addEdge edge.1 edge.2)

/-- Of the edges from needs to jobs, in the order in which they are written down, the first one that is not as
it should be. -/
def FirstImproper (jobs : List Job) (need job : String) : Prop :=
  ∃ front back, edgesOf jobs = front ++ (need, job) :: back ∧
    (∀ edge ∈ front, Proper (jobs.map Job.name) edge) ∧ ¬Proper (jobs.map Job.name) (need, job)

section

variable {jobs : List Job}

theorem sound_iff : Sound jobs ↔
    (jobs.map Job.name).Nodup ∧ ∀ edge ∈ edgesOf jobs, Proper (jobs.map Job.name) edge := by
  constructor
  · intro sound
    refine ⟨sound.names, fun edge member => ?_⟩
    obtain ⟨job, here, same, needed⟩ := mem_edgesOf.1 member
    rw [Proper, ← same]
    exact sound.needs job here edge.1 needed
  · rintro ⟨names, proper⟩
    exact ⟨names, fun job here need needed =>
      proper (need, job.name) (mem_edgesOf.2 ⟨job, here, rfl, needed⟩)⟩

theorem ofJobs_of_nodup (names : (jobs.map Job.name).Nodup) :
    ofJobs jobs = (edgesOf jobs).foldlM (enterEdge (jobs.map Job.name))
      (isolated (jobs.map Job.name)) := by
  rw [ofJobs, repeated_eq_nil_iff.2 names, ← addJobs_eq_foldlM]

theorem exists_ofJobs_iff : (∃ graph, ofJobs jobs = .ok graph) ↔ Sound jobs := by
  refine ⟨fun ⟨graph, made⟩ => (drawn_ofJobs made).1, fun sound => ?_⟩
  have entered := foldlM_append_of_proper (sound_iff.1 sound).2 (isolated (jobs.map Job.name)) []
  rw [List.append_nil] at entered
  exact ⟨_, (ofJobs_of_nodup sound.names).trans entered⟩

theorem FirstImproper.ofJobs_eq (names : (jobs.map Job.name).Nodup) {need job : String}
    (first : FirstImproper jobs need job) :
    ofJobs jobs = .error (objection (jobs.map Job.name) need job) := by
  obtain ⟨front, back, split, proper, improper⟩ := first
  rw [ofJobs_of_nodup names, split, foldlM_append_of_proper proper, List.foldlM_cons, enterEdge,
    if_neg improper]
  rfl

theorem exists_firstImproper (names : (jobs.map Job.name).Nodup) (unsound : ¬Sound jobs) :
    ∃ need job, FirstImproper jobs need job := by
  cases found : (edgesOf jobs).find? fun edge => !decide (Proper (jobs.map Job.name) edge) with
  | none =>
    rw [List.find?_eq_none] at found
    refine absurd (sound_iff.2 ⟨names, fun edge member => ?_⟩) unsound
    simpa using found edge member
  | some edge =>
    obtain ⟨improper, front, back, split, proper⟩ := List.find?_eq_some_iff_append.1 found
    refine ⟨edge.1, edge.2, front, back, split, fun other member => ?_, ?_⟩
    · simpa using proper other member
    · simpa using improper

theorem exists_duplicates (repeats : ¬(jobs.map Job.name).Nodup) :
    ∃ duplicates, ofJobs jobs = .error (.duplicateJobs duplicates) ∧
      ∀ name, name ∈ duplicates ↔ 1 < (jobs.map Job.name).count name := by
  refine ⟨repeated (jobs.map Job.name), ?_, fun name => ?_⟩
  · rw [ofJobs]
    split
    · rename_i none
      exact absurd (repeated_eq_nil_iff.1 none) repeats
    · rfl
  · rw [repeated, Matrix.sortedNames, List.mem_mergeSort, mem_distinct, List.mem_filter,
      decide_eq_true_eq, and_iff_right_iff_imp]
    exact fun twice => List.count_pos_iff.1 (Nat.lt_of_succ_lt twice)

end

/-- A graph shows the needs of a list of jobs: what waits for each job, and how many jobs each one waits for. -/
structure Shows (jobs : List Job) (graph : JobGraph) : Prop where
  dependents_names : graph.dependents.names = jobs.map Job.name
  needCount_names : graph.needCount.names = jobs.map Job.name
  dependents : ∀ need ∈ jobs, ∃ waiting, graph.dependents.get? need.name = some waiting ∧
    waiting.Nodup ∧ waiting ⊆ jobs.map Job.name ∧
    ∀ job ∈ jobs, job.name ∈ waiting ↔ need.name ∈ job.needs
  needCount : ∀ job ∈ jobs,
    graph.needCount.get? job.name = some (job.needs.toFinset.card : Int) ∧
    job.needs.toFinset.card = jobs.countP fun need => job.name ∈ graph.dependentsOf need.name

section

variable {jobs : List Job} {graph : JobGraph} (sound : Sound jobs)
  (drawn : Drawn (jobs.map Job.name) (edgesOf jobs) graph)

include sound

theorem Sound.mem_edgesOf {job : Job} (here : job ∈ jobs) {need : String} :
    (need, job.name) ∈ edgesOf jobs ↔ need ∈ job.needs := by
  rw [JobGraph.mem_edgesOf]
  constructor
  · rintro ⟨other, there, same, needed⟩
    rwa [← List.inj_on_of_nodup_map sound.names there here same]
  · exact fun needed => ⟨job, here, rfl, needed⟩

theorem card_needs {job : Job} (here : job ∈ jobs) :
    (distinct (sources (edgesOf jobs) job.name)).length = job.needs.toFinset.card := by
  rw [← List.toFinset_card_of_nodup (nodup_distinct _)]
  refine congrArg Finset.card (Finset.ext fun need => ?_)
  rw [List.mem_toFinset, List.mem_toFinset, mem_distinct, mem_sources, sound.mem_edgesOf here]

include drawn

theorem mem_dependentsOf_of_drawn {need job : Job} (there : need ∈ jobs) (here : job ∈ jobs) :
    job.name ∈ graph.dependentsOf need.name ↔ need.name ∈ job.needs := by
  rw [dependentsOf, drawn.dependents need.name (List.mem_map_of_mem there), Option.getD_some,
    mem_distinct, mem_targets, sound.mem_edgesOf here]

theorem card_needs_eq_countP {job : Job} (here : job ∈ jobs) :
    job.needs.toFinset.card =
      jobs.countP fun need => job.name ∈ graph.dependentsOf need.name := by
  let waited := jobs.filter fun need => job.name ∈ graph.dependentsOf need.name
  have nodup : (waited.map Job.name).Nodup := sound.names.sublist (List.filter_sublist.map _)
  have same : job.needs.toFinset = (waited.map Job.name).toFinset := by
    ext name
    rw [List.mem_toFinset, List.mem_toFinset, List.mem_map]
    constructor
    · intro needed
      obtain ⟨need, there, rfl⟩ := List.mem_map.1 (sound.needs job here name needed).2
      refine ⟨need, List.mem_filter.2 ⟨there, decide_eq_true ?_⟩, rfl⟩
      exact (mem_dependentsOf_of_drawn sound drawn there here).2 needed
    · rintro ⟨need, kept, rfl⟩
      obtain ⟨there, behind⟩ := List.mem_filter.1 kept
      exact (mem_dependentsOf_of_drawn sound drawn there here).1 (of_decide_eq_true behind)
  rw [same, List.toFinset_card_of_nodup nodup, List.length_map, List.countP_eq_length_filter]

theorem shows_of_drawn : Shows jobs graph := by
  refine ⟨drawn.dependents_names, drawn.needCount_names, fun need there => ?_, fun job here => ?_⟩
  · refine ⟨_, drawn.dependents need.name (List.mem_map_of_mem there), nodup_distinct _,
      fun name member => ?_, fun job here => ?_⟩
    · rw [mem_distinct, mem_targets, JobGraph.mem_edgesOf] at member
      obtain ⟨job, here, rfl, _⟩ := member
      exact List.mem_map_of_mem here
    · rw [mem_distinct, mem_targets, sound.mem_edgesOf here]
  · rw [drawn.needCount job.name (List.mem_map_of_mem here), card_needs sound here]
    exact ⟨rfl, card_needs_eq_countP sound drawn here⟩

end

/-- A list of jobs makes a graph exactly where names differ and every need is another job of the list, and then
the graph shows those needs. Of any other list it is told which names are repeated, or else which need is the
first one that is out of place. -/
theorem ofJobs_ends (jobs : List Job) :
    ((∃ graph, ofJobs jobs = .ok graph) ↔ Sound jobs) ∧
    (¬(jobs.map Job.name).Nodup → ∃ duplicates,
      ofJobs jobs = .error (.duplicateJobs duplicates) ∧
      (Problem.duplicateJobs duplicates).kind = .parse ∧
      ∀ name, name ∈ duplicates ↔ 1 < (jobs.map Job.name).count name) ∧
    ((jobs.map Job.name).Nodup → ¬Sound jobs → ∃ need job, FirstImproper jobs need job ∧
      ofJobs jobs = .error (objection (jobs.map Job.name) need job) ∧
      (objection (jobs.map Job.name) need job).kind = if need = job then .cycle else .unknownNeed) ∧
    ∀ graph, ofJobs jobs = .ok graph → Shows jobs graph := by
  refine ⟨exists_ofJobs_iff, fun repeats => ?_, fun names unsound => ?_, fun graph made => ?_⟩
  · obtain ⟨duplicates, told, listed⟩ := exists_duplicates repeats
    exact ⟨duplicates, told, rfl, listed⟩
  · obtain ⟨need, job, first⟩ := exists_firstImproper names unsound
    exact ⟨need, job, first, first.ofJobs_eq names, kind_objection _ need job⟩
  · obtain ⟨sound, drawn⟩ := drawn_ofJobs made
    exact shows_of_drawn sound drawn

def releasing : List Job :=
  [("release", ["test", "check", "test"]), ("test", []), ("check", ["test"])].map fun entry =>
    ⟨entry.1, [], entry.2, [], [], none, none⟩

theorem ofJobs_ends_releasing :
    (∃ graph, ofJobs releasing = .ok graph ∧ graph.needCount.get? "release" = some 2) ∧
    ∃ need job problem, FirstImproper (releasing.take 2) need job ∧
      ofJobs (releasing.take 2) = .error problem ∧
      problem.kind = if need = job then .cycle else .unknownNeed := by
  have sound : Sound releasing := ⟨by decide, by decide⟩
  have unsound : ¬Sound (releasing.take 2) := by
    intro sound
    have known := (sound.needs _ (.head _) "check" (by decide)).2
    revert known
    decide
  obtain ⟨graph, made⟩ := (ofJobs_ends releasing).1.2 sound
  have shown : Shows releasing graph := (ofJobs_ends releasing).2.2.2 graph made
  obtain ⟨need, job, first, told, kind⟩ :=
    (ofJobs_ends (releasing.take 2)).2.2.1 (by decide) unsound
  exact ⟨⟨graph, made, (shown.needCount _ (.head _)).1⟩, need, job, _, first, told, kind⟩

end CiPipeline.JobGraph
