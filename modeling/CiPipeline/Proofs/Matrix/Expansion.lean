import CiPipeline.Matrix.Expansion
import CiPipeline.Proofs.Keyed
import CiPipeline.Proofs.Success

/-! What the instances of a pipeline are: job by job the combinations of its axes, numbered through, and
every instance name owned by one job. -/
namespace CiPipeline

open CiPipeline.Matrix

namespace Matrix

theorem bindJob_ok {job : Job} {index : Nat} {assignment : Assignment} {inst : Instance}
    (bound : bindJob job index assignment = .ok inst) :
    inst.job = job.name ∧ inst.assignment = assignment ∧ inst.index = index := by
  obtain ⟨steps, _, bound⟩ := Success.bind_iff.1 bound
  obtain ⟨env, _, bound⟩ := Success.bind_iff.1 bound
  obtain ⟨runsOn, _, bound⟩ := Success.bind_iff.1 bound
  obtain ⟨title, _, bound⟩ := Success.bind_iff.1 bound
  obtain rfl := Except.ok.inj bound
  exact ⟨rfl, rfl, rfl⟩

/-- Instances of one job that have given assignments and are numbered from a start. -/
structure Bound (job : Job) (start : Nat) (assignments : List Assignment)
    (instances : List Instance) : Prop where
  job : ∀ inst ∈ instances, inst.job = job.name
  assignments : instances.map Instance.assignment = assignments
  index : instances.map Instance.index = List.range' start instances.length

theorem bindJobs_ok {job : Job} {start : Nat} {assignments : List Assignment}
    {instances : List Instance} (bound : bindJobs job start assignments = .ok instances) :
    Bound job start assignments instances := by
  induction assignments generalizing start instances with
  | nil =>
    obtain rfl := Except.ok.inj bound
    exact ⟨by simp, rfl, rfl⟩
  | cons assignment rest ih =>
    obtain ⟨first, read, bound⟩ := Success.bind_iff.1 bound
    obtain ⟨others, later, bound⟩ := Success.bind_iff.1 bound
    obtain rfl := Except.ok.inj bound
    obtain ⟨job_eq, assignment_eq, index_eq⟩ := bindJob_ok read
    have behind := ih later
    refine ⟨?_, ?_, ?_⟩
    · intro inst member
      rcases List.mem_cons.1 member with rfl | there
      · exact job_eq
      · exact behind.job inst there
    · rw [List.map_cons, assignment_eq, behind.assignments]
    · rw [List.map_cons, index_eq, behind.index, List.length_cons, List.range'_succ]

theorem instancesFrom_ok_iff {job : Job} {start : Nat} {instances : List Instance} :
    job.instancesFrom start = .ok instances ↔ ∃ axes, checkAxes job.name job.matrix = .ok axes ∧
      bindJobs job start (combinations axes) = .ok instances := by
  rw [Job.instancesFrom, Success.bind_iff]

theorem claimAll_ok {owners later : Keyed String} {instances : List Instance}
    (claimed : claimAll owners instances = .ok later) :
    (∀ id job, owners.get? id = some job → later.get? id = some job) ∧
      ∀ inst ∈ instances, later.get? inst.id = some inst.job := by
  induction instances generalizing owners with
  | nil =>
    obtain rfl := Except.ok.inj claimed
    exact ⟨fun _ _ => id, by simp⟩
  | cons inst rest ih =>
    rw [claimAll] at claimed
    cases owned : owners.get? inst.id with
    | some owner =>
      rw [owned] at claimed
      by_cases own : owner = inst.job
      · obtain ⟨kept, claims⟩ := ih (by simpa [own] using claimed)
        refine ⟨kept, fun other member => ?_⟩
        rcases List.mem_cons.1 member with rfl | there
        · exact kept _ _ (own ▸ owned)
        · exact claims other there
      · simp [own] at claimed
    | none =>
      rw [owned] at claimed
      obtain ⟨kept, claims⟩ := ih claimed
      have read (id : String) : Keyed.get? (owners ++ [(inst.id, inst.job)]) id =
          (owners.get? id).or (if id = inst.id then some inst.job else none) := by
        rw [Keyed.get?_append, Keyed.get?_cons, Keyed.get?_nil]
      refine ⟨fun id job known => kept id job ?_, fun other member => ?_⟩
      · rw [read, known, Option.some_or]
      · rcases List.mem_cons.1 member with rfl | there
        · exact kept _ _ (by rw [read, owned, Option.none_or, if_pos rfl])
        · exact claims other there

/-- How the instances of jobs are put together, group by group. -/
inductive Grouped : Nat → List Job → List (List Instance) → Prop
  | nil {start} : Grouped start [] []
  | cons {start job axes group jobs groups} (expanded : job.instancesFrom start = .ok group)
    (checked : checkAxes job.name job.matrix = .ok axes)
    (bound : Bound job start (combinations axes) group)
    (later : Grouped (start + group.length) jobs groups) :
    Grouped start (job :: jobs) (group :: groups)

end Matrix

namespace Pipeline

theorem instancesOf_ok {start : Nat} {owners : Keyed String} {jobs : List Job}
    {instances : List Instance} (made : instancesOf start owners jobs = .ok instances) :
    ∃ groups later, instances = groups.flatten ∧ Grouped start jobs groups ∧
      (∀ id job, owners.get? id = some job → Keyed.get? later id = some job) ∧
      ∀ inst ∈ instances, Keyed.get? later inst.id = some inst.job := by
  induction jobs generalizing start owners instances with
  | nil =>
    obtain rfl := Except.ok.inj made
    exact ⟨[], owners, rfl, .nil, fun _ _ => id, by simp⟩
  | cons job rest ih =>
    obtain ⟨group, expanded, made⟩ := Success.bind_iff.1 made
    obtain ⟨middle, claimed, made⟩ := Success.bind_iff.1 made
    obtain ⟨others, later_made, made⟩ := Success.bind_iff.1 made
    obtain rfl := Except.ok.inj made
    obtain ⟨axes, checked, bound⟩ := instancesFrom_ok_iff.1 expanded
    obtain ⟨kept, claims⟩ := claimAll_ok (Success.mapError_iff.1 claimed)
    obtain ⟨groups, later, rfl, grouped, kept', claims'⟩ := ih later_made
    refine ⟨group :: groups, later, rfl,
      .cons expanded checked (bindJobs_ok bound) grouped,
      fun id job known => kept' id job (kept id job known), fun inst member => ?_⟩
    rcases List.mem_append.1 member with here | there
    · exact kept' _ _ (claims inst here)
    · exact claims' inst there

theorem index_of_grouped {start : Nat} {jobs : List Job} {groups : List (List Instance)}
    (grouped : Grouped start jobs groups) :
    groups.flatten.map Instance.index = List.range' start groups.flatten.length := by
  induction grouped with
  | nil => rfl
  | cons _ _ bound _ ih =>
    rw [List.flatten_cons, List.map_append, bound.index, ih, List.length_append,
      List.range'_append_1]

theorem instances_index {pipeline : Pipeline} {instances : List Instance}
    (expanded : pipeline.instances = .ok instances) :
    instances.map Instance.index = List.range instances.length := by
  obtain ⟨groups, _, rfl, grouped, _⟩ := instancesOf_ok expanded
  rw [index_of_grouped grouped, List.range_eq_range']

theorem job_eq_of_id_eq {pipeline : Pipeline} {instances : List Instance}
    (expanded : pipeline.instances = .ok instances) {inst other : Instance}
    (member : inst ∈ instances) (member' : other ∈ instances) (same : inst.id = other.id) :
    inst.job = other.job := by
  obtain ⟨_, _, _, _, _, claims⟩ := instancesOf_ok expanded
  have read := claims inst member
  rw [same, claims other member'] at read
  exact (Option.some.inj read).symm

end Pipeline

end CiPipeline
