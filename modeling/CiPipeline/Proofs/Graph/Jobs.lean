import CiPipeline.Graph.Jobs
import CiPipeline.Proofs.Keyed
import CiPipeline.Proofs.Success
import Mathlib.Data.List.Induction

/-! The graph of jobs, read as the list of its edges: what waits for a name and how many names are waited
for, after all needs of all jobs have been entered. -/
namespace CiPipeline.JobGraph

theorem distinct_concat (names : List String) (name : String) :
    distinct (names ++ [name]) =
      if name ∈ distinct names then distinct names else distinct names ++ [name] := by
  simp [distinct]

@[simp] theorem mem_distinct {names : List String} {name : String} :
    name ∈ distinct names ↔ name ∈ names := by
  induction names using List.reverseRecOn with
  | nil => rfl
  | append_singleton rest last ih =>
    rw [distinct_concat]
    split
    · rename_i known
      rw [ih, List.mem_append, List.mem_singleton]
      refine ⟨Or.inl, fun found => found.elim id fun here => ?_⟩
      subst here
      rwa [← ih]
    · simp [ih]

theorem nodup_distinct (names : List String) : (distinct names).Nodup := by
  induction names using List.reverseRecOn with
  | nil => exact List.nodup_nil
  | append_singleton rest last ih =>
    rw [distinct_concat]
    split
    · exact ih
    · rename_i unknown
      exact List.nodup_append.2 ⟨ih, by simp, by
        intro a here b there same
        rw [List.mem_singleton] at there
        exact unknown (there ▸ same ▸ here)⟩

theorem repeated_eq_nil_iff {names : List String} : repeated names = [] ↔ names.Nodup := by
  have sorted (found : List String) : Matrix.sortedNames found = [] ↔ found = [] := by
    rw [← List.length_eq_zero_iff, Matrix.sortedNames, List.length_mergeSort,
      List.length_eq_zero_iff]
  rw [repeated, sorted, List.nodup_iff_count_le_one, List.eq_nil_iff_forall_not_mem]
  constructor
  · intro none name
    by_cases known : name ∈ names
    · have once := none name
      rw [mem_distinct, List.mem_filter, decide_eq_true_eq] at once
      have := not_and.1 once known
      omega
    · rw [List.count_eq_zero_of_not_mem known]
      exact Nat.zero_le 1
  · intro once name found
    rw [mem_distinct, List.mem_filter, decide_eq_true_eq] at found
    have := once name
    omega

def targets (edges : List (String × String)) (need : String) : List String :=
  (edges.filter fun edge => edge.1 == need).map (·.2)

def sources (edges : List (String × String)) (job : String) : List String :=
  (edges.filter fun edge => edge.2 == job).map (·.1)

@[simp] theorem mem_targets {edges : List (String × String)} {need job : String} :
    job ∈ targets edges need ↔ (need, job) ∈ edges := by
  simp [targets]

@[simp] theorem mem_sources {edges : List (String × String)} {need job : String} :
    need ∈ sources edges job ↔ (need, job) ∈ edges := by
  simp [sources]

structure Drawn (names : List String) (edges : List (String × String)) (graph : JobGraph) : Prop where
  dependents_names : graph.dependents.names = names
  needCount_names : graph.needCount.names = names
  dependents : ∀ need ∈ names, graph.dependents.get? need = some (distinct (targets edges need))
  needCount : ∀ job ∈ names,
    graph.needCount.get? job = some ((distinct (sources edges job)).length : Int)

theorem drawn_isolated (names : List String) : Drawn names [] (isolated names) := by
  have read {α : Type} (value : α) (name : String) (known : name ∈ names) :
      Keyed.get? (names.map fun name => (name, value)) name = some value := by
    induction names with
    | nil => simp at known
    | cons first rest ih =>
      rw [List.map_cons, Keyed.get?_cons]
      split
      · rfl
      · rename_i elsewhere
        exact ih ((List.mem_cons.1 known).resolve_left elsewhere)
  refine ⟨?_, ?_, fun need known => read [] need known, fun job known => read 0 job known⟩
  · simp [isolated, Keyed.names, Function.comp_def]
  · simp [isolated, Keyed.names, Function.comp_def]

theorem targets_concat (edges : List (String × String)) (need job start : String) :
    targets (edges ++ [(need, job)]) start =
      if start = need then targets edges start ++ [job] else targets edges start := by
  rw [targets, List.filter_append, List.map_append]
  by_cases here : start = need
  · simp [targets, here]
  · simp [targets, here, Ne.symm here]

theorem sources_concat (edges : List (String × String)) (need job last : String) :
    sources (edges ++ [(need, job)]) last =
      if last = job then sources edges last ++ [need] else sources edges last := by
  rw [sources, List.filter_append, List.map_append]
  by_cases here : last = job
  · simp [sources, here]
  · simp [sources, here, Ne.symm here]

section

variable {names : List String} {edges : List (String × String)} {graph : JobGraph}

theorem Drawn.again (drawn : Drawn names edges graph) {need job : String}
    (known : (need, job) ∈ edges) : Drawn names (edges ++ [(need, job)]) graph := by
  refine ⟨drawn.dependents_names, drawn.needCount_names, fun start start_known => ?_,
    fun last last_known => ?_⟩
  · rw [drawn.dependents start start_known, targets_concat]
    split
    · rename_i here
      rw [distinct_concat, if_pos (by simpa [here] using known)]
    · rfl
  · rw [drawn.needCount last last_known, sources_concat]
    split
    · rename_i here
      rw [distinct_concat, if_pos (by simpa [here] using known)]
    · rfl

theorem Drawn.concat (drawn : Drawn names edges graph) {need job : String}
    (need_known : need ∈ names) (job_known : job ∈ names) (fresh : (need, job) ∉ edges) :
    Drawn names (edges ++ [(need, job)])
      ⟨graph.dependents.put need (distinct (targets edges need) ++ [job]),
        graph.needCount.put job ((graph.needCount.get? job).getD 0 + 1)⟩ := by
  refine ⟨?_, ?_, fun start start_known => ?_, fun last last_known => ?_⟩
  · rw [Keyed.names_put_of_mem (drawn.dependents_names ▸ need_known), drawn.dependents_names]
  · rw [Keyed.names_put_of_mem (drawn.needCount_names ▸ job_known), drawn.needCount_names]
  · rw [Keyed.get?_put, targets_concat]
    split
    · rename_i here
      rw [distinct_concat, if_neg (by simpa [here] using fresh), here]
    · exact drawn.dependents start start_known
  · rw [Keyed.get?_put, sources_concat]
    split
    · rename_i here
      rw [distinct_concat, if_neg (by simpa [here] using fresh),
        drawn.needCount job job_known, here]
      simp
    · exact drawn.needCount last last_known

theorem drawn_addEdge (drawn : Drawn names edges graph) {need job : String}
    (need_known : need ∈ names) (job_known : job ∈ names) :
    Drawn names (edges ++ [(need, job)]) (graph.addEdge need job) := by
  have targets_here : graph.dependentsOf need = distinct (targets edges need) := by
    rw [dependentsOf, drawn.dependents need need_known, Option.getD_some]
  rw [addEdge, targets_here]
  split
  · rename_i known
    rw [List.contains_iff_mem, mem_distinct, mem_targets] at known
    exact drawn.again known
  · rename_i fresh
    rw [List.contains_iff_mem, mem_distinct, mem_targets] at fresh
    exact drawn.concat need_known job_known fresh

end

def needEdges (job : Job) : List (String × String) := job.needs.map fun need => (need, job.name)

def edgesOf (jobs : List Job) : List (String × String) := jobs.flatMap needEdges

theorem mem_needEdges {job : Job} {need name : String} :
    (need, name) ∈ needEdges job ↔ name = job.name ∧ need ∈ job.needs := by
  simp [needEdges, and_comm, eq_comm]

theorem mem_edgesOf {jobs : List Job} {need name : String} :
    (need, name) ∈ edgesOf jobs ↔ ∃ job ∈ jobs, job.name = name ∧ need ∈ job.needs := by
  simp [edgesOf, mem_needEdges, eq_comm]

theorem drawn_addNeeds {names needs : List String} {edges : List (String × String)}
    {job : String} {graph extended : JobGraph} (drawn : Drawn names edges graph)
    (job_known : job ∈ names) (added : addNeeds names job graph needs = .ok extended) :
    (∀ need ∈ needs, need ≠ job ∧ need ∈ names) ∧
      Drawn names (edges ++ needs.map fun need => (need, job)) extended := by
  induction needs generalizing edges graph with
  | nil =>
    obtain rfl := Except.ok.inj added
    simpa using drawn
  | cons need rest ih =>
    rw [addNeeds] at added
    split at added
    · cases added
    · rename_i other
      split at added
      · rename_i contained
        have need_known : need ∈ names := by simpa using contained
        obtain ⟨valid, later⟩ := ih (drawn_addEdge drawn need_known job_known) added
        refine ⟨?_, by simpa using later⟩
        intro one here
        rcases List.mem_cons.1 here with rfl | there
        · exact ⟨other, need_known⟩
        · exact valid one there
      · cases added

theorem drawn_addJobs {names : List String} {jobs : List Job} {edges : List (String × String)}
    {graph extended : JobGraph} (drawn : Drawn names edges graph)
    (known : ∀ job ∈ jobs, job.name ∈ names) (added : addJobs names graph jobs = .ok extended) :
    (∀ job ∈ jobs, ∀ need ∈ job.needs, need ≠ job.name ∧ need ∈ names) ∧
      Drawn names (edges ++ edgesOf jobs) extended := by
  induction jobs generalizing edges graph with
  | nil =>
    obtain rfl := Except.ok.inj added
    simpa [edgesOf] using drawn
  | cons job rest ih =>
    obtain ⟨middle, first, added⟩ := Success.bind_iff.1 added
    obtain ⟨valid, drawn_middle⟩ := drawn_addNeeds drawn (known job (by simp)) first
    obtain ⟨valid_rest, later⟩ :=
      ih drawn_middle (fun other there => known other (by simp [there])) added
    refine ⟨?_, by simpa [edgesOf, needEdges] using later⟩
    intro one here
    rcases List.mem_cons.1 here with rfl | there
    · exact valid
    · exact valid_rest one there

/-- A list of jobs that can make a graph: different names, no need of a job for itself, and only needs
that are jobs of the list. -/
structure Sound (jobs : List Job) : Prop where
  names : (jobs.map Job.name).Nodup
  needs : ∀ job ∈ jobs, ∀ need ∈ job.needs, need ≠ job.name ∧ need ∈ jobs.map Job.name

theorem drawn_ofJobs {jobs : List Job} {graph : JobGraph} (made : ofJobs jobs = .ok graph) :
    Sound jobs ∧ Drawn (jobs.map Job.name) (edgesOf jobs) graph := by
  rw [ofJobs] at made
  split at made
  · rename_i none
    obtain ⟨valid, drawn⟩ := drawn_addJobs (drawn_isolated _)
      (fun job here => List.mem_map_of_mem here) made
    exact ⟨⟨repeated_eq_nil_iff.1 none, valid⟩, by simpa using drawn⟩
  · cases made

end CiPipeline.JobGraph
