import CiPipeline.Proofs.Graph.PlanLevels
import CiPipeline.Proofs.Run.Verdict

/-! Runs that succeed although nothing was done. A run of a pipeline that hands no step to an executor is a
success exactly where no job has a step. -/
namespace CiPipeline

open CiPipeline.Matrix Schedule

namespace Matrix

theorem length_steps_of_bindJob {job : Job} {index : Nat} {assignment : Assignment} {inst : Instance}
    (bound : bindJob job index assignment = .ok inst) : inst.steps.length = job.steps.length := by
  obtain ⟨steps, read, bound⟩ := Success.bind_iff.1 bound
  obtain ⟨env, _, bound⟩ := Success.bind_iff.1 bound
  obtain ⟨runsOn, _, bound⟩ := Success.bind_iff.1 bound
  obtain ⟨title, _, bound⟩ := Success.bind_iff.1 bound
  obtain rfl := Except.ok.inj bound
  exact (Success.mapM_iff.1 read).length_eq.symm

theorem length_steps_of_bindJobs {job : Job} {start : Nat} {assignments : List Assignment}
    {instances : List Instance} (bound : bindJobs job start assignments = .ok instances) :
    ∀ inst ∈ instances, inst.steps.length = job.steps.length := by
  induction assignments generalizing start instances with
  | nil =>
    obtain rfl := Except.ok.inj bound
    exact fun inst member => absurd member List.not_mem_nil
  | cons assignment rest ih =>
    obtain ⟨first, read, bound⟩ := Success.bind_iff.1 bound
    obtain ⟨others, later, bound⟩ := Success.bind_iff.1 bound
    obtain rfl := Except.ok.inj bound
    exact List.forall_mem_cons.2 ⟨length_steps_of_bindJob read, ih later⟩

end Matrix

namespace Pipeline

theorem steps_eq_nil_iff_of_instancesOf {start : Nat} {owners : Keyed String} {jobs : List Job}
    {instances : List Instance} (made : instancesOf start owners jobs = .ok instances) :
    (∀ inst ∈ instances, inst.steps = []) ↔ ∀ job ∈ jobs, job.steps = [] := by
  induction jobs generalizing start owners instances with
  | nil =>
    obtain rfl := Except.ok.inj made
    simp
  | cons job rest ih =>
    obtain ⟨group, expanded, made⟩ := Success.bind_iff.1 made
    obtain ⟨middle, _, made⟩ := Success.bind_iff.1 made
    obtain ⟨others, later, made⟩ := Success.bind_iff.1 made
    obtain rfl := Except.ok.inj made
    obtain ⟨axes, checked, bound⟩ := instancesFrom_ok_iff.1 expanded
    have lengths := length_steps_of_bindJobs bound
    -- A job without instances would say nothing about its steps.
    have some_inst : group ≠ [] := by
      rintro rfl
      exact combinations_ne_nil (checkAxes_ok checked) (bindJobs_ok bound).assignments.symm
    have first : (∀ inst ∈ group, inst.steps = []) ↔ job.steps = [] := by
      constructor
      · intro none
        obtain ⟨inst, member⟩ := List.exists_mem_of_ne_nil group some_inst
        rw [← List.length_eq_zero_iff, ← lengths inst member, none inst member, List.length_nil]
      · intro none inst member
        rw [← List.length_eq_zero_iff, lengths inst member, none, List.length_nil]
    rw [List.forall_mem_append, List.forall_mem_cons, first, ih later]

end Pipeline

namespace Run

variable {σ : Type}

theorem Ordered.calls_eq_nil {jobs : List Job} {instances : List Instance} {calls : List Call}
    (ordered : Ordered jobs instances calls) (idle : ∀ inst ∈ instances, inst.steps = []) : calls = [] := by
  refine List.eq_nil_iff_forall_not_mem.2 fun call there => ?_
  obtain ⟨position, found⟩ := List.mem_iff_getElem?.1 there
  obtain ⟨inst, member, same, _⟩ := ordered.behind position call found
  have steps := ordered.in_order inst member
  rw [idle inst member, List.prefix_nil, List.map_eq_nil_iff] at steps
  have own : call ∈ callsOf inst.id calls := List.mem_filter.2 ⟨there, beq_iff_eq.2 same⟩
  rw [steps] at own
  cases own

section

variable {pipeline : Pipeline} {instances : List Instance} {graph : InstanceGraph}
  (expanded : pipeline.instances = .ok instances) (distinct : (instances.map Instance.id).Nodup)
  (accepted : InstanceGraph.ofInstances pipeline.jobs instances = .ok graph) {options : Options}
  (allowed : ∀ count ∈ options.workers, 0 ≤ count) {executorFor : Option String → Executor (World σ)}
  (calm : ∀ backend, (executorFor backend).Calm)

include expanded distinct accepted allowed calm

theorem exists_rest (context : Context) (world : World σ) :
    let workers := workersFor options.workers instances
    let plan := Plan.ofJobs pipeline.jobs instances workers.toNat
    ∃ turns head, plan.Sound ∧
      Reaches plan options.console
          (runner context options fun backend => (executorFor backend).noting)
          (State.start plan ((world.noting []).tell (announcement options.console workers instances)))
          turns head ∧ head.ready = [] ∧ head.running = [] ∧
      runPipeline pipeline context options (fun backend => (executorFor backend).noting)
        (world.noting []) = (.ok (Report.build pipeline.name instances head.results), head.world) := by
  intro workers plan
  obtain ⟨sound, rfl, depth, grows⟩ := InstanceGraph.ofInstances_ok accepted
  have planned : plan.Sound := Plan.sound_ofJobs sound distinct grows
  have unbroken : (runner context options fun backend => (executorFor backend).noting).Calm :=
    calm_runner context options _ fun backend => (calm backend).noting
  obtain ⟨turns, head, reached, ready, running, rests⟩ := exists_idle planned
    unbroken options.console options.policy
    ((world.noting []).tell (announcement options.console workers instances))
  refine ⟨turns, head, planned, reached, ready, running, ?_⟩
  rw [runPipeline, expanded]
  dsimp only [schedule]
  rw [run_eq accepted allowed]
  dsimp only [runner] at rests ⊢
  rw [rests _ (Nat.lt_succ_self _)]

theorem idle_iff {context : Context}
    (creatable : ∀ inst ∈ instances, ∃ path, context.workdirFor inst = .ok path) (world : World σ) :
    ∃ report, ∃ last : World σ, ∃ calls,
      runPipeline pipeline context options (fun backend => (executorFor backend).noting)
        (world.noting []) = (.ok report, last.noting calls) ∧
      (report.verdict = .success ∧ calls = [] ↔ ∀ job ∈ pipeline.jobs, job.steps = []) := by
  obtain ⟨turns, head, planned, reached, ready, running, ran⟩ :=
    exists_rest expanded distinct accepted allowed calm context world
  obtain ⟨sound, _⟩ := InstanceGraph.ofInstances_ok accepted
  have startable := startable_of_expanded expanded creatable
  have ordered : Ordered pipeline.jobs instances head.world.calls :=
    ordered_head sound distinct planned startable rfl reached
  refine ⟨_, head.world.bare, head.world.calls, ran, ?_⟩
  rw [Report.verdict_build, succeeded_iff_passed sound distinct planned startable rfl reached ready running,
    ← Pipeline.steps_eq_nil_iff_of_instancesOf expanded]
  constructor
  · rintro ⟨passed, none⟩ inst member
    obtain ⟨all, _⟩ := passed inst member
    rw [none] at all
    exact all.symm
  · intro idle
    have none := ordered.calls_eq_nil idle
    refine ⟨fun inst member => ?_, none⟩
    rw [none]
    exact ⟨(idle inst member).symm, fun call there => absurd there List.not_mem_nil⟩

end

end Run

end CiPipeline
