import CiPipeline.Proofs.Graph.PlanLevels
import CiPipeline.Proofs.Graph.Transpose
import Mathlib.Data.List.Pairwise

/-! The order of the lists in the graph of instances. What waits for an instance is always listed in the order
of the numbers. What an instance waits for comes need by need, as its job names them, and so it is in that
order just where the needs are. -/
namespace CiPipeline

namespace JobGraph

theorem pairwise_distinct (names : List String) :
    (distinct names).Pairwise fun one other => names.idxOf one < names.idxOf other := by
  induction names using List.reverseRecOn with
  | nil => exact .nil
  | append_singleton rest last ih =>
    have kept : (distinct rest).Pairwise fun one other =>
        (rest ++ [last]).idxOf one < (rest ++ [last]).idxOf other := by
      refine ih.imp_of_mem fun {one other} here there before => ?_
      rwa [List.idxOf_append_of_mem (mem_distinct.1 here),
        List.idxOf_append_of_mem (mem_distinct.1 there)]
    rw [distinct_concat]
    split
    · exact kept
    · rename_i unknown
      rw [mem_distinct] at unknown
      refine List.pairwise_append.2 ⟨kept, List.pairwise_singleton _ _, fun one here other there => ?_⟩
      obtain rfl := List.mem_singleton.1 there
      have known := mem_distinct.1 here
      rw [List.idxOf_append_of_mem known, List.idxOf_append_of_notMem unknown]
      exact Nat.lt_add_right _ (List.idxOf_lt_length_iff.2 known)

theorem pairwise_distinct_iff {names : List String} {holds : String → String → Prop} :
    (distinct names).Pairwise holds ↔
      ∀ one ∈ names, ∀ other ∈ names, names.idxOf one < names.idxOf other → holds one other := by
  constructor
  · intro all
    let either : String → String → Prop := fun one other =>
      (names.idxOf one < names.idxOf other → holds one other) ∧
        (names.idxOf other < names.idxOf one → holds other one)
    have symm : Std.Symm either := ⟨fun _ _ both => both.symm⟩
    have ordered : (distinct names).Pairwise either :=
      all.imp₂ (fun one other held before => ⟨fun _ => held, fun after => absurd after before.asymm⟩)
        (pairwise_distinct names)
    have same (one : String) : either one one :=
      ⟨fun less => absurd less (Nat.lt_irrefl _), fun less => absurd less (Nat.lt_irrefl _)⟩
    intro one here other there
    exact (ordered.forall_of_forall (fun one _ => same one) (mem_distinct.2 here)
      (mem_distinct.2 there)).1
  · intro all
    exact (pairwise_distinct names).imp_of_mem fun {one other} here there =>
      all one (mem_distinct.1 here) other (mem_distinct.1 there)

end JobGraph

namespace InstanceGraph

def Ascending (instances : List Instance) (ids : List String) : Prop :=
  ∃ listed ⊆ instances, listed.map Instance.id = ids ∧
    listed.Pairwise fun one other => one.index < other.index

structure ListsAscend (instances : List Instance) (graph : InstanceGraph) : Prop where
  prereqs : ∀ id pre, graph.prereqs.get? id = some pre → Ascending instances pre
  dependents : ∀ id post, graph.dependents.get? id = some post → Ascending instances post

/-- A job names its needs in the order in which their instances are numbered. -/
def NamedInOrder (instances : List Instance) (job : Job) : Prop :=
  ∀ x ∈ instances, ∀ y ∈ instances, x.job ∈ job.needs → y.job ∈ job.needs →
    job.needs.idxOf x.job < job.needs.idxOf y.job → x.index < y.index

def waitedFor (jobs : List Job) (ordered : List Instance) (inst : Instance) : List Instance :=
  (needsOf jobs inst.job).flatMap fun job => ordered.filter fun other => other.job == job

theorem prereqsOf_eq (jobs : List Job) (ordered : List Instance) (inst : Instance) :
    prereqsOf jobs ordered inst = (waitedFor jobs ordered inst).map Instance.id := by
  rw [waitedFor, List.map_flatMap]
  rfl

section

variable {jobs : List Job} {instances : List Instance}

theorem needsOf_of_mem (sound : JobGraph.Sound jobs) {job : Job} (here : job ∈ jobs) :
    needsOf jobs job.name = JobGraph.distinct job.needs := by
  rw [needsOf]
  cases found : jobs.find? (·.name == job.name) with
  | none => exact absurd (beq_self_eq_true _) (List.find?_eq_none.1 found job here)
  | some other =>
    have named : other.name = job.name := by simpa using List.find?_some found
    rw [List.inj_on_of_nodup_map sound.names (List.mem_of_find?_eq_some found) here named]

theorem waitedFor_subset (inst : Instance) :
    waitedFor jobs (inOrder instances) inst ⊆ instances := by
  intro other member
  obtain ⟨_, _, kept⟩ := List.mem_flatMap.1 member
  exact (perm_inOrder instances).subset (List.mem_of_mem_filter kept)

theorem ascending_map_iff (distinct : (instances.map Instance.id).Nodup) {listed : List Instance}
    (inside : listed ⊆ instances) : Ascending instances (listed.map Instance.id) ↔
      listed.Pairwise fun one other => one.index < other.index := by
  refine ⟨?_, fun increasing => ⟨listed, inside, rfl, increasing⟩⟩
  rintro ⟨others, known, same, increasing⟩
  let before : String → String → Prop := fun one other =>
    ∀ x ∈ instances, ∀ y ∈ instances, x.id = one → y.id = other → x.index < y.index
  have named : (others.map Instance.id).Pairwise before := by
    refine List.pairwise_map.2 (increasing.imp_of_mem fun {one other} here there less => ?_)
    intro x x_known y y_known x_same y_same
    rwa [List.inj_on_of_nodup_map distinct x_known (known here) x_same,
      List.inj_on_of_nodup_map distinct y_known (known there) y_same]
  rw [same, List.pairwise_map] at named
  exact named.imp_of_mem fun {one other} here there less =>
    less one (inside here) other (inside there) rfl rfl

variable (indices : (instances.map Instance.index).Nodup)

include indices

theorem ascending_filter_inOrder (keep : Instance → Bool) :
    ((inOrder instances).filter keep).Pairwise fun one other => one.index < other.index :=
  (ascending_inOrder indices).filter keep

theorem ascending_dependentsOf (id : String) :
    Ascending instances (dependentsOf jobs (inOrder instances) id) :=
  ⟨_, fun _ member => (perm_inOrder instances).subset (List.mem_of_mem_filter member), rfl,
    ascending_filter_inOrder indices _⟩

theorem pairwise_waitedFor_iff (sound : JobGraph.Sound jobs) {job : Job} (here : job ∈ jobs)
    {inst : Instance} (own : inst.job = job.name) :
    ((waitedFor jobs (inOrder instances) inst).Pairwise fun one other => one.index < other.index) ↔
      NamedInOrder instances job := by
  have mem_group {other : Instance} {need : String} :
      other ∈ (inOrder instances).filter (fun other => other.job == need) ↔
        other ∈ instances ∧ other.job = need := by
    rw [List.mem_filter, (perm_inOrder instances).mem_iff, beq_iff_eq]
  rw [waitedFor, own, needsOf_of_mem sound here, List.pairwise_flatMap,
    and_iff_right fun _ _ => ascending_filter_inOrder indices _, JobGraph.pairwise_distinct_iff]
  simp only [mem_group]
  constructor
  · intro all x x_known y y_known x_needed y_needed before
    exact all x.job x_needed y.job y_needed before x ⟨x_known, rfl⟩ y ⟨y_known, rfl⟩
  · rintro all _ one_needed _ other_needed before x ⟨x_known, rfl⟩ y ⟨y_known, rfl⟩
    exact all x x_known y y_known one_needed other_needed before

theorem listsAscend_build_iff (sound : JobGraph.Sound jobs)
    (distinct : (instances.map Instance.id).Nodup) :
    ListsAscend instances (build jobs instances) ↔
      ∀ job ∈ jobs, (∃ inst ∈ instances, inst.job = job.name) → NamedInOrder instances job := by
  have ascending_iff {job : Job} (here : job ∈ jobs) {inst : Instance} (own : inst.job = job.name) :
      Ascending instances (prereqsOf jobs (inOrder instances) inst) ↔ NamedInOrder instances job := by
    rw [prereqsOf_eq, ascending_map_iff distinct (waitedFor_subset inst)]
    exact pairwise_waitedFor_iff indices sound here own
  constructor
  · rintro ⟨prereqs, _⟩ job here ⟨inst, member, own⟩
    exact (ascending_iff here own).1 (prereqs _ _ (prereqs_build sound distinct member))
  · intro named
    refine ⟨fun id pre found => ?_, fun id post found => ?_⟩
    · obtain ⟨inst, member, _, rfl⟩ := exists_of_prereqs_build sound distinct found
      by_cases known : ∃ job ∈ jobs, inst.job = job.name
      · obtain ⟨job, here, own⟩ := known
        exact (ascending_iff here own).2 (named job here ⟨inst, member, own⟩)
      · -- An instance of no job waits for nothing.
        refine ⟨[], List.nil_subset _, ?_, .nil⟩
        rw [List.map_nil, eq_comm, List.eq_nil_iff_forall_not_mem]
        intro need waited
        obtain ⟨_, _, ⟨job, here, own, _⟩, _⟩ := (mem_prereqsOf_inOrder sound).1 waited
        exact known ⟨job, here, own.symm⟩
    · obtain ⟨inst, _, _, rfl⟩ := exists_of_dependents_build sound distinct found
      exact ascending_dependentsOf indices inst.id

end

end InstanceGraph

namespace Pipeline

theorem index_lt_of_grouped {start : Nat} {jobs : List Job} {groups : List (List Instance)}
    (grouped : Matrix.Grouped start jobs groups) (names : (jobs.map Job.name).Nodup) {x y : Instance}
    (x_member : x ∈ groups.flatten) (y_member : y ∈ groups.flatten)
    (before : (jobs.map Job.name).idxOf x.job < (jobs.map Job.name).idxOf y.job) :
    x.index < y.index := by
  induction grouped with
  | nil => cases x_member
  | @cons start first _ group jobs groups _ _ bound later ih =>
    rw [List.map_cons, List.nodup_cons] at names
    have not_first {inst : Instance} (there : inst ∈ groups.flatten) : first.name ≠ inst.job :=
      fun same => names.1 (same ▸ Matrix.job_mem_of_grouped later there)
    rw [List.map_cons] at before
    rcases List.mem_append.1 y_member with y_here | y_there
    · rw [bound.job y y_here, List.idxOf_cons_self] at before
      exact absurd before (Nat.not_lt_zero _)
    rcases List.mem_append.1 x_member with x_here | x_there
    · have x_index : x.index ∈ List.range' start group.length :=
        bound.index ▸ List.mem_map_of_mem x_here
      have y_index : y.index ∈ List.range' (start + group.length) groups.flatten.length :=
        index_of_grouped later ▸ List.mem_map_of_mem y_there
      rw [List.mem_range'_1] at x_index y_index
      omega
    · rw [List.idxOf_cons_ne _ (not_first x_there), List.idxOf_cons_ne _ (not_first y_there),
        Nat.succ_lt_succ_iff] at before
      exact ih names.2 x_there y_there before

/-- Of the instances of a whole pipeline, those of earlier jobs come first; so the needs of a job are named in
the order of their instances just where they are named in the order of the jobs. -/
theorem namedInOrder_iff {pipeline : Pipeline} {instances : List Instance}
    (expanded : pipeline.instances = .ok instances) (sound : JobGraph.Sound pipeline.jobs) {job : Job}
    (here : job ∈ pipeline.jobs) : InstanceGraph.NamedInOrder instances job ↔
      ∀ one ∈ job.needs, ∀ other ∈ job.needs, job.needs.idxOf one < job.needs.idxOf other →
        (pipeline.jobs.map Job.name).idxOf one < (pipeline.jobs.map Job.name).idxOf other := by
  obtain ⟨groups, _, flat, grouped, _⟩ := instancesOf_ok expanded
  have numbered {x y : Instance} (x_member : x ∈ instances) (y_member : y ∈ instances)
      (before : (pipeline.jobs.map Job.name).idxOf x.job < (pipeline.jobs.map Job.name).idxOf y.job) :
      x.index < y.index :=
    index_lt_of_grouped grouped sound.names (flat ▸ x_member) (flat ▸ y_member) before
  have exists_inst {need : String} (needed : need ∈ job.needs) :
      ∃ inst ∈ instances, inst.job = need := by
    obtain ⟨owner, there, same⟩ := List.mem_map.1 (sound.needs job here need needed).2
    exact same ▸ exists_instance expanded there
  constructor
  · intro named one one_needed other other_needed before
    obtain ⟨x, x_member, rfl⟩ := exists_inst one_needed
    obtain ⟨y, y_member, rfl⟩ := exists_inst other_needed
    have less : x.index < y.index := named x x_member y y_member one_needed other_needed before
    refine Nat.lt_of_not_le fun later => ?_
    rcases Nat.lt_or_eq_of_le later with after | same
    · exact absurd (numbered y_member x_member after) less.asymm
    · have known : y.job ∈ pipeline.jobs.map Job.name := (sound.needs job here y.job other_needed).2
      rw [List.idxOf_inj known] at same
      exact absurd before (same ▸ Nat.lt_irrefl _)
  · intro declared x x_member y y_member x_needed y_needed before
    exact numbered x_member y_member (declared x.job x_needed y.job y_needed before)

end Pipeline

namespace InstanceGraph

/-- The instances that wait for another one are listed in the order of their numbers. What an instance waits for
is, too, just where every job with an instance names its needs in this order; for the instances of a whole
pipeline, where it names them in the order in which the jobs are declared. -/
theorem listsAscend_iff {jobs : List Job} {instances : List Instance} {graph : InstanceGraph}
    (accepted : ofInstances jobs instances = .ok graph)
    (distinct : (instances.map Instance.id).Nodup)
    (indices : (instances.map Instance.index).Nodup) :
    (∀ id post, graph.dependents.get? id = some post → Ascending instances post) ∧
    (ListsAscend instances graph ↔
      ∀ job ∈ jobs, (∃ inst ∈ instances, inst.job = job.name) → NamedInOrder instances job) ∧
    ∀ pipeline : Pipeline, pipeline.jobs = jobs → pipeline.instances = .ok instances →
      (ListsAscend instances graph ↔ ∀ job ∈ jobs, ∀ one ∈ job.needs, ∀ other ∈ job.needs,
        job.needs.idxOf one < job.needs.idxOf other →
          (jobs.map Job.name).idxOf one < (jobs.map Job.name).idxOf other) := by
  obtain ⟨sound, rfl, _⟩ := ofInstances_ok accepted
  have ascend_iff := listsAscend_build_iff indices sound distinct
  refine ⟨fun id post found => ?_, ascend_iff, ?_⟩
  · obtain ⟨inst, _, _, rfl⟩ := exists_of_dependents_build sound distinct found
    exact ascending_dependentsOf indices inst.id
  · rintro pipeline rfl expanded
    rw [ascend_iff]
    refine forall₂_congr fun job here => ?_
    rw [Pipeline.namedInOrder_iff expanded sound here]
    exact ⟨fun named => named (Pipeline.exists_instance expanded here), fun named _ => named⟩

def testing (needs : List String) : Pipeline where
  name := "testing"
  jobs := [("build", []), ("check", ["build"]), ("test", needs)].map fun entry =>
    { name := entry.1, steps := [⟨"make", "make", none, none, [], none⟩], needs := entry.2
      matrix := [], env := [], title := none, runsOn := none }
  env := []
  triggers := []

def testingInstances : List Instance :=
  [("build", 0), ("check", 1), ("test", 2)].map fun entry =>
    ⟨entry.1, [], [⟨"make", "make", none, none, [], none⟩], entry.2, [], none, none⟩

theorem listsAscend_testing : ListsAscend testingInstances
    (build (testing ["build", "check", "build"]).jobs testingInstances) := by
  have accepted : ofInstances (testing ["build", "check", "build"]).jobs testingInstances =
      .ok (build (testing ["build", "check", "build"]).jobs testingInstances) := by
    with_unfolding_all rfl
  have expanded : (testing ["build", "check", "build"]).instances = .ok testingInstances := by
    with_unfolding_all rfl
  refine ((listsAscend_iff accepted (by decide +kernel) (by decide)).2.2 _ rfl expanded).2 ?_
  decide

theorem not_listsAscend :
    (testing ["check", "build"]).instances = .ok testingInstances ∧
    (testingInstances.map Instance.id).Nodup ∧ (testingInstances.map Instance.index).Nodup ∧
    ofInstances (testing ["check", "build"]).jobs testingInstances =
      .ok (build (testing ["check", "build"]).jobs testingInstances) ∧
    ¬ListsAscend testingInstances (build (testing ["check", "build"]).jobs testingInstances) := by
  have sound : JobGraph.Sound (testing ["check", "build"]).jobs := ⟨by decide, by decide⟩
  have distinct : (testingInstances.map Instance.id).Nodup := by decide +kernel
  have indices : (testingInstances.map Instance.index).Nodup := by decide
  refine ⟨by with_unfolding_all rfl, distinct, indices, by with_unfolding_all rfl, fun ascend => ?_⟩
  rw [listsAscend_build_iff indices sound distinct] at ascend
  have named := ascend _ (.tail _ (.tail _ (.head _))) ⟨_, .tail _ (.tail _ (.head _)), rfl⟩
  have less := named _ (.tail _ (.head _)) _ (.head _) (by decide) (by decide) (by decide)
  revert less
  decide

end InstanceGraph

end CiPipeline
