import CiPipeline.Proofs.Matrix.Expansion
import CiPipeline.Proofs.Schedule.Submission

/-! When instances are submitted: never twice, whatever the runner answers; and where no result is that of another
instance, never before everything that they wait for has succeeded, and as soon as it is possible. -/
namespace CiPipeline

instance (jobs : List Job) (inst need : Instance) : Decidable (inst.WaitsFor jobs need) :=
  inferInstanceAs (Decidable (∃ job ∈ jobs, job.name = inst.job ∧ need.job ∈ job.needs))

namespace Schedule

variable {ω : Type} {jobs : List Job} {instances : List Instance} {workers : Nat}

/-- What holds of submissions at the head of the loop, whatever the runner answers. -/
structure Sequenced (jobs : List Job) (instances : List Instance) (turns : List Turn) (state : State ω) :
    Prop where
  /-- Nothing is submitted twice, what is about to be submitted included. -/
  once : (submittedIn turns ++ state.ready.map (·.2)).Nodup
  /-- What is submitted in one turn comes with growing numbers. -/
  increasing : ∃ batch : List Instance, batch ⊆ instances ∧
    state.ready = batch.map (fun inst => (inst.index, inst.id)) ∧
    batch.Pairwise fun a b => a.index < b.index
  /-- What was submitted or is about to be waits for nothing but instances that have ended. -/
  behind : ∀ inst ∈ instances, inst.id ∈ submittedIn turns ++ state.ready.map (·.2) →
    ∀ need ∈ instances, inst.WaitsFor jobs need → need.id ∈ endedIn turns

/-- What the head of the loop looks like, in terms of the needs of jobs alone. -/
structure Gated (jobs : List Job) (instances : List Instance) (turns : List Turn)
    (state : State ω) : Prop extends Sequenced jobs instances turns state where
  /-- Counters count the prerequisites without a recorded success. -/
  pending : ∀ inst ∈ instances, state.pending.get? inst.id =
    some ((instances.filter fun need =>
      decide (inst.WaitsFor jobs need) && !hasSucceeded state.results need.id).length : Int)
  /-- What is about to be submitted waits for nothing any more. -/
  gated : ∀ inst ∈ instances, inst.id ∈ state.ready.map (·.2) →
    ∀ need ∈ instances, inst.WaitsFor jobs need → hasSucceeded state.results need.id = true
  /-- What is recorded as cancelled is neither free nor running, nor running after the submission. -/
  uncancelled : ∀ id result, state.results.get? id = some result → result.outcome = .cancelled →
    id ∉ state.ready.map (·.2) ∧ id ∉ state.running ∧ id ∉ state.submit.running
  /-- While the loop waits, exactly those have been submitted that wait for nothing any more. -/
  eager : ∀ inst ∈ instances, inst.id ∈ submittedIn turns ++ state.ready.map (·.2) ↔
    ∀ need ∈ instances, inst.WaitsFor jobs need → hasSucceeded state.results need.id = true

theorem prereqs_perm (sound : JobGraph.Sound jobs) (distinct : (instances.map Instance.id).Nodup)
    (planned : (Plan.ofJobs jobs instances workers).Sound) {inst : Instance}
    (member : inst ∈ instances) :
    ((Plan.ofJobs jobs instances workers).prereqs inst.id).Perm
      ((instances.filter fun need => decide (inst.WaitsFor jobs need)).map Instance.id) := by
  have nodup : ((instances.filter fun need => decide (inst.WaitsFor jobs need)).map
      Instance.id).Nodup := distinct.sublist (List.filter_sublist.map _)
  rw [List.perm_ext_iff_of_nodup (planned.prereqs_nodup _) nodup]
  intro id
  rw [Plan.mem_prereqs_ofJobs sound distinct member]
  simp [and_assoc]

theorem openNeeds_ofJobs_eq_nil_iff (sound : JobGraph.Sound jobs)
    (distinct : (instances.map Instance.id).Nodup) {results : Keyed JobResult} {inst : Instance}
    (member : inst ∈ instances) :
    openNeeds (Plan.ofJobs jobs instances workers) results inst.id = [] ↔
      ∀ need ∈ instances, inst.WaitsFor jobs need → hasSucceeded results need.id = true := by
  rw [openNeeds_eq_nil_iff]
  constructor
  · intro all need here waits
    exact all need.id ((Plan.mem_prereqs_ofJobs sound distinct member).2 ⟨need, here, waits, rfl⟩)
  · intro all id waited
    obtain ⟨need, here, waits, rfl⟩ := (Plan.mem_prereqs_ofJobs sound distinct member).1 waited
    exact all need here waits

theorem increasing_of_sorted {ready : List (Nat × String)} (sorted : Sorted ready)
    (distinct : (ready.map (·.2)).Nodup) (index_nodup : (instances.map Instance.index).Nodup)
    (known : ∀ entry ∈ ready, ∃ inst ∈ instances, entry = (inst.index, inst.id)) :
    ∃ batch : List Instance, batch ⊆ instances ∧
      ready = batch.map (fun inst => (inst.index, inst.id)) ∧
      batch.Pairwise fun a b => a.index < b.index := by
  induction ready with
  | nil => exact ⟨[], by simp, rfl, List.Pairwise.nil⟩
  | cons entry rest ih =>
    obtain ⟨least, sorted_rest⟩ := List.pairwise_cons.1 sorted
    rw [List.map_cons, List.nodup_cons] at distinct
    obtain ⟨inst, member, rfl⟩ := known entry (by simp)
    obtain ⟨batch, inside, rfl, growing⟩ :=
      ih sorted_rest distinct.2 (fun other there => known other (by simp [there]))
    refine ⟨inst :: batch, List.cons_subset.2 ⟨member, inside⟩, rfl,
      List.pairwise_cons.2 ⟨fun other there => ?_, growing⟩⟩
    have at_most : inst.index ≤ other.index :=
      least _ (List.mem_map_of_mem (f := fun inst : Instance => (inst.index, inst.id)) there)
    refine Nat.lt_of_le_of_ne at_most fun same => distinct.1 ?_
    rw [List.inj_on_of_nodup_map index_nodup member (inside there) same]
    simpa using ⟨other, there, rfl⟩

section

variable (sound : JobGraph.Sound jobs) (distinct : (instances.map Instance.id).Nodup)
  (planned : (Plan.ofJobs jobs instances workers).Sound) {turns : List Turn} {state : State ω}
  (orderly : Orderly (Plan.ofJobs jobs instances workers)
    (submittedIn turns ++ state.ready.map (·.2)) (endedIn turns) state.submit)

include sound distinct orderly

theorem submitted_iff {inst : Instance} (member : inst ∈ instances) :
    inst.id ∈ submittedIn turns ++ state.ready.map (·.2) ↔
      ∀ need ∈ instances, inst.WaitsFor jobs need → hasSucceeded state.results need.id = true := by
  have free : openNeeds (Plan.ofJobs jobs instances workers) state.results inst.id = [] ↔
      ∀ need ∈ instances, inst.WaitsFor jobs need → hasSucceeded state.results need.id = true :=
    openNeeds_ofJobs_eq_nil_iff sound distinct member
  refine ⟨fun there => free.1 (orderly.submitted_free there).2, fun all => ?_⟩
  have here : inst.id ∈ (Plan.ofJobs jobs instances workers).ids :=
    (Plan.mem_ids_ofJobs sound distinct).2 ⟨inst, member, rfl⟩
  by_contra fresh
  have ready := orderly.mem_ready.2 ⟨here, fresh, free.2 all⟩
  cases ready

include planned

theorem pending_ofJobs {inst : Instance} (member : inst ∈ instances) :
    state.pending.get? inst.id = some ((instances.filter fun need =>
      decide (inst.WaitsFor jobs need) && !hasSucceeded state.results need.id).length : Int) := by
  have here : inst.id ∈ (Plan.ofJobs jobs instances workers).ids :=
    (Plan.mem_ids_ofJobs sound distinct).2 ⟨inst, member, rfl⟩
  refine (orderly.pending here).trans ?_
  rw [openNeeds, ((prereqs_perm sound distinct planned member).filter _).length_eq, List.filter_map,
    List.length_map, List.filter_filter]
  simp only [Function.comp_def, Bool.and_comm]
  rfl

end

theorem sequenced_of_reaches (sound : JobGraph.Sound jobs)
    (distinct : (instances.map Instance.id).Nodup)
    (index_nodup : (instances.map Instance.index).Nodup)
    (planned : (Plan.ofJobs jobs instances workers).Sound) {runner : Runner ω}
    {console : Console} {world : ω} {turns : List Turn} {head : State ω}
    (reached : Reaches (Plan.ofJobs jobs instances workers) console runner
      (State.start (Plan.ofJobs jobs instances workers) world) turns head) :
    Sequenced jobs instances turns head := by
  obtain ⟨done, counted⟩ := counted_of_reaches planned reached
  refine ⟨counted.submit.submitted_nodup, ?_, fun inst member old need here waits => ?_⟩
  · refine increasing_of_sorted counted.ready_sorted counted.ready_nodup index_nodup ?_
    intro entry member
    obtain ⟨inst, here, same⟩ := (Plan.mem_ids_ofJobs sound distinct).1
      (counted.ready_free (List.mem_map_of_mem member)).2.1
    refine ⟨inst, here, ?_⟩
    rw [counted.ready_index member, entryOf, ← same, Plan.inst_ofGraph distinct here]
  · exact counted.submit.ended_behind
      ((Plan.mem_prereqs_ofJobs sound distinct member).2 ⟨need, here, waits, rfl⟩) old

theorem gated_of_reaches (sound : JobGraph.Sound jobs)
    (distinct : (instances.map Instance.id).Nodup)
    (index_nodup : (instances.map Instance.index).Nodup)
    (planned : (Plan.ofJobs jobs instances workers).Sound) {runner : Runner ω} (own : runner.Own)
    {console : Console} {world : ω} {turns : List Turn} {head : State ω}
    (reached : Reaches (Plan.ofJobs jobs instances workers) console runner
      (State.start (Plan.ofJobs jobs instances workers) world) turns head) :
    Gated jobs instances turns head := by
  have submitted := orderly_submit (orderly_of_reaches planned own reached)
  have settled {id : String} {result : JobResult} (found : head.results.get? id = some result) :
      id ∉ head.submit.running := by
    intro running
    have missing : head.results.get? id = none := submitted.running_open running
    rw [found] at missing
    cases missing
  refine ⟨sequenced_of_reaches sound distinct index_nodup planned reached,
    fun inst member => pending_ofJobs sound distinct planned submitted member, fun inst member ready => ?_,
    fun id result found _ => ⟨fun ready => settled found (List.mem_append_right _ ready),
      fun running => settled found (List.mem_append_left _ running), settled found⟩,
    fun inst member => submitted_iff sound distinct submitted member⟩
  exact (submitted_iff sound distinct submitted member).1 (List.mem_append_right _ ready)

/-- At the head of every turn of the loop nothing has been submitted twice or before what it waits for has ended,
whatever ran in which order with which result. Where no result is that of another instance, counters, queue and
running instances agree with the recorded successes. The loop itself is never anywhere else. -/
theorem gated_loop {pipeline : Pipeline} {instances : List Instance} {graph : InstanceGraph}
    (expanded : pipeline.instances = .ok instances)
    (distinct : (instances.map Instance.id).Nodup)
    (accepted : InstanceGraph.ofInstances pipeline.jobs instances = .ok graph)
    (runner : Runner ω) (console : Console) (workers : Nat) (world : ω) :
    (∀ turns head, Reaches (Plan.ofGraph instances graph workers) console runner
        (State.start (Plan.ofGraph instances graph workers) world) turns head →
      Sequenced pipeline.jobs instances turns head ∧
        (runner.Own → Gated pipeline.jobs instances turns head)) ∧
    ∀ policy bound head, runAll (Plan.ofGraph instances graph workers) console policy runner bound
        (State.start (Plan.ofGraph instances graph workers) world) = (head, none) →
      ∃ turns, Reaches (Plan.ofGraph instances graph workers) console runner
        (State.start (Plan.ofGraph instances graph workers) world) turns head := by
  obtain ⟨sound, rfl, depth, grows⟩ := InstanceGraph.ofInstances_ok accepted
  have planned : (Plan.ofJobs pipeline.jobs instances workers).Sound :=
    Plan.sound_ofJobs sound distinct grows
  have index_nodup : (instances.map Instance.index).Nodup := by
    rw [Pipeline.instances_index expanded]
    exact List.nodup_range
  refine ⟨fun turns head reached => ⟨sequenced_of_reaches sound distinct index_nodup planned reached,
    fun own => gated_of_reaches sound distinct index_nodup planned own reached⟩, fun policy bound head ran => ?_⟩
  obtain ⟨turns, reached, _⟩ := reaches_runAll .start ran
  exact ⟨turns, by simpa using reached⟩

def sample : Pipeline where
  name := "sample"
  jobs := [
    { name := "build", steps := [⟨"make", "make", none, none, [], none⟩], needs := []
      matrix := [("os", .list [.text "linux", .text "mac"])], env := [], title := none
      runsOn := none },
    { name := "test", steps := [⟨"check", "make check", none, none, [], none⟩]
      needs := ["build", "build"], matrix := [], env := [], title := none, runsOn := none }]
  env := []
  triggers := []

def sampleInstances : List Instance :=
  [⟨"build", [("os", .text "linux")], [⟨"make", "make", none, none, [], none⟩], 0, [], none, none⟩,
    ⟨"build", [("os", .text "mac")], [⟨"make", "make", none, none, [], none⟩], 1, [], none, none⟩,
    ⟨"test", [], [⟨"check", "make check", none, none, [], none⟩], 2, [], none, none⟩]

def sampleAnswers (inst : Instance) : Except Failure JobResult :=
  if inst.index = 0 then .error (.crash ⟨"RuntimeError", "no linker"⟩)
  else .ok ⟨inst, .succeeded, [], none⟩

def sampleRunner : Runner Unit where
  run inst world := (sampleAnswers inst, world)
  tell _ world := world

theorem sampleAnswers_ok {inst : Instance} {result : JobResult}
    (answer : sampleAnswers inst = .ok result) : result = ⟨inst, .succeeded, [], none⟩ := by
  rw [sampleAnswers] at answer
  split at answer
  · cases answer
  · exact (Except.ok.inj answer).symm

theorem own_sampleRunner : sampleRunner.Own := by
  intro inst world result ran
  rw [sampleAnswers_ok ran]

theorem instances_sample : sample.instances = .ok sampleInstances := by
  with_unfolding_all rfl

theorem accepted_sample : InstanceGraph.ofInstances sample.jobs sampleInstances =
    .ok (InstanceGraph.build sample.jobs sampleInstances) := by
  with_unfolding_all rfl

theorem calm_sampleAnswers (inst : Instance) (failure : Failure)
    (answer : sampleAnswers inst = .error failure) : failure.isInterrupt = false := by
  rw [sampleAnswers] at answer
  split at answer
  · rw [← Except.error.inj answer]
    decide
  · cases answer

theorem gated_loop_sample :
    let plan := Plan.ofJobs sample.jobs sampleInstances 2
    ∃ turns head, runAll plan ⟨false, false⟩ (fun _ _ _ => 1) sampleRunner 2 (State.start plan ()) =
        (head, none) ∧
      Reaches plan ⟨false, false⟩ sampleRunner (State.start plan ()) turns head ∧
      Gated sample.jobs sampleInstances turns head := by
  intro plan
  obtain ⟨gated, within⟩ := gated_loop instances_sample (by decide) accepted_sample sampleRunner
    ⟨false, false⟩ 2 ()
  have calm : sampleRunner.Calm := fun inst _ failure answer => calm_sampleAnswers inst failure answer
  have ran : runAll plan ⟨false, false⟩ (fun _ _ _ => 1) sampleRunner 2 (State.start plan ()) =
      (_, none) := Prod.ext rfl (runAll_calm calm 2 _)
  obtain ⟨turns, reached⟩ := within _ _ _ ran
  exact ⟨turns, _, ran, reached, (gated turns _ reached).2 own_sampleRunner⟩

def misnaming (outcome : JobOutcome) : Runner Unit where
  run _ world := (.ok ⟨sampleInstances[1], outcome, [], none⟩, world)
  tell _ world := world

theorem calm_misnaming (outcome : JobOutcome) : (misnaming outcome).Calm :=
  fun _ _ _ answer => by cases answer

def sampleGraph : InstanceGraph where
  prereqs := [("build (os=linux)", []), ("build (os=mac)", []), ("test", ["build (os=linux)", "build (os=mac)"])]
  dependents := [("build (os=linux)", ["test"]), ("build (os=mac)", ["test"]), ("test", [])]

theorem build_sample : InstanceGraph.build sample.jobs sampleInstances = sampleGraph := by
  have ordered : inOrder sampleInstances = sampleInstances := List.mergeSort_of_pairwise (by decide)
  rw [InstanceGraph.build, ordered]
  with_unfolding_all rfl

theorem accepted_sampleGraph : InstanceGraph.ofInstances sample.jobs sampleInstances = .ok sampleGraph :=
  build_sample ▸ accepted_sample

abbrev samplePlan : Plan := Plan.ofGraph sampleInstances sampleGraph 2

def afterTurns (runner : Runner Unit) (bound : Nat) : State Unit :=
  (runAll samplePlan ⟨false, false⟩ (fun _ _ _ => 0) runner bound (State.start samplePlan ())).1

theorem reaches_afterTurns {runner : Runner Unit} (calm : runner.Calm) (bound : Nat) :
    ∃ turns, Reaches samplePlan ⟨false, false⟩ runner (State.start samplePlan ()) turns
      (afterTurns runner bound) := by
  obtain ⟨more, reached, _⟩ := reaches_runAll .start (Prod.ext rfl (runAll_calm calm bound _))
  exact ⟨_, reached⟩

/-- Where results are those of another instance, the test of the sample is about to be submitted although a build
that it waits for has no result, and its counter is wrong; and a build is running that is recorded as cancelled. -/
theorem not_gated_of_misnaming :
    InstanceGraph.ofInstances sample.jobs sampleInstances = .ok sampleGraph ∧
    (∃ turns head, Reaches samplePlan ⟨false, false⟩ (misnaming .succeeded) (State.start samplePlan ()) turns head ∧
      sampleInstances[2].WaitsFor sample.jobs sampleInstances[0] ∧
      head.results.get? sampleInstances[0].id = none ∧ head.pending.get? sampleInstances[2].id = some 0 ∧
      sampleInstances[2].id ∈ head.ready.map (·.2) ∧ ¬Gated sample.jobs sampleInstances turns head) ∧
    ∃ turns head, Reaches samplePlan ⟨false, false⟩ (misnaming .cancelled) (State.start samplePlan ()) turns head ∧
      ∃ result, head.results.get? sampleInstances[1].id = some result ∧ result.outcome = .cancelled ∧
        sampleInstances[1].id ∈ head.running := by
  refine ⟨accepted_sampleGraph, ?_, ?_⟩
  · obtain ⟨turns, reached⟩ := reaches_afterTurns (calm_misnaming .succeeded) 2
    have waits : sampleInstances[2].WaitsFor sample.jobs sampleInstances[0] := by decide
    have missing : (afterTurns (misnaming .succeeded) 2).results.get? sampleInstances[0].id = none := by
      with_unfolding_all rfl
    have ready : sampleInstances[2].id ∈ (afterTurns (misnaming .succeeded) 2).ready.map (·.2) := by
      decide +kernel
    refine ⟨turns, _, reached, waits, missing, by with_unfolding_all rfl, ready, fun gated => ?_⟩
    have good := gated.gated _ (by decide) ready _ (by decide) waits
    rw [hasSucceeded_of_none missing] at good
    cases good
  · obtain ⟨turns, reached⟩ := reaches_afterTurns (calm_misnaming .cancelled) 1
    have stored : (afterTurns (misnaming .cancelled) 1).results = (cascade samplePlan.instances
        sampleGraph.dependents "build (os=linux)"
        [("build (os=mac)", ⟨sampleInstances[1], .cancelled, [], none⟩)] ["test"]).2 := by
      with_unfolding_all rfl
    refine ⟨turns, _, reached, ⟨sampleInstances[1], .cancelled, [], none⟩, ?_, rfl, by decide +kernel⟩
    rw [stored]
    exact (cascaded_cascade fun found => (Plan.mem_of_get?_ofGraph found).2).kept (by with_unfolding_all rfl)

end Schedule

end CiPipeline
