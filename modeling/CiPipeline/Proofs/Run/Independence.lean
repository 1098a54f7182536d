import CiPipeline.Proofs.Run.Verdict
import CiPipeline.Proofs.Schedule.Agreement

/-! Two runs of a pipeline. Where how a step ends depends on nothing but its instance and the step, the report
of a run depends neither on the order in which instances end nor on how many of them run at the same time. -/
namespace CiPipeline

open Schedule

def Attempt.timeless : Attempt → Attempt
  | .finished result => .finished result.timeless
  | other => other

def Report.settled (report : Report) : Report :=
  { report with results := report.results.mapValues JobResult.settled }

namespace Run

variable {σ : Type}

/-- How a step of an instance ends is known up to its times, whatever happened before and whatever else is
going on. -/
def Steady (context : Context) (executorFor : Option String → Executor (World σ))
    (instances : List Instance) (attempts : Instance → Step → Attempt) : Prop :=
  ∀ inst ∈ instances, ∀ environment, environmentFor context inst = .ok environment →
    ∀ step ∈ inst.steps, ∀ onLine world,
      (executorFor (context.backendFor inst) step environment onLine world).1.timeless =
        attempts inst step

def stepsOf (attempts : Step → Attempt) : List Step → Except Failure (List StepResult)
  | [] => .ok []
  | step :: rest =>
    match resultOf step (attempts step) with
    | .error failure => .error failure
    | .ok result =>
      if result.ok then (stepsOf attempts rest).map (result :: ·)
      else .ok (result :: rest.map fun skipped => .skipped skipped.name)

def answersOf (context : Context) (attempts : Instance → Step → Attempt) (inst : Instance) :
    Except Failure JobResult :=
  match context.workdirFor inst with
  | .error crash => .error (.crash crash)
  | .ok _ => (stepsOf (attempts inst) inst.steps).map (jobResult inst)

theorem resultOf_timeless (step : Step) (attempt : Attempt) :
    resultOf step attempt.timeless = (resultOf step attempt).map StepResult.timeless := by
  cases attempt <;> rfl

theorem timeless_jobResult (inst : Instance) (results : List StepResult) :
    (jobResult inst results).timeless = jobResult inst (results.map StepResult.timeless) := by
  have found : (results.map StepResult.timeless).find? (fun result => !result.ok) =
      (results.find? fun result => !result.ok).map StepResult.timeless := List.find?_map
  rw [jobResult, jobResult, found]
  cases results.find? fun result => !result.ok <;> rfl

theorem runSteps_steady (console : Console) (tailLines : Int) {executor : Executor (World σ)}
    {environment : StepEnvironment} {attempts : Step → Attempt} {steps : List Step}
    (steady : ∀ step ∈ steps, ∀ onLine world,
      (executor step environment onLine world).1.timeless = attempts step) (world : World σ) :
    (runSteps console tailLines executor environment steps world).1.map
      (List.map StepResult.timeless) = stepsOf attempts steps := by
  induction steps generalizing world with
  | nil => rfl
  | cons step rest ih =>
    obtain ⟨first, later⟩ := List.forall_mem_cons.1 steady
    rw [runSteps, stepsOf]
    dsimp only
    -- The world of a step is another one in every run; how the step ends does not depend on it.
    rw [← first (fun line world => world.tell (console.outputLine environment.job line))
      (world.tell (Console.step environment.job step.name)), resultOf_timeless]
    generalize executor step environment _ _ = ended
    cases resultOf step ended.1 with
    | error failure => rfl
    | ok result =>
      have mapped : (Except.ok result : Except Failure StepResult).map StepResult.timeless =
          .ok result.timeless := rfl
      have same : result.timeless.ok = result.ok := rfl
      rw [mapped]
      dsimp only
      rw [same]
      by_cases good : result.ok = true
      · rw [if_pos good, if_pos good, ← ih later ended.2]
        cases (runSteps console tailLines executor environment rest ended.2).1 <;> rfl
      · have skipped : (rest.map fun step => StepResult.skipped step.name).map StepResult.timeless =
            rest.map fun step => StepResult.skipped step.name := List.map_map
        rw [if_neg good, if_neg good]
        exact congrArg (fun others => Except.ok (result.timeless :: others)) skipped

section

variable {context : Context} {executorFor : Option String → Executor (World σ)}
  {instances : List Instance} {attempts : Instance → Step → Attempt}
  (steady : Steady context executorFor instances attempts)

include steady

theorem runJob_steady (console : Console) (tailLines : Int) {inst : Instance}
    (named : inst.isNamed = true) (member : inst ∈ instances) (world : World σ) :
    (runJob context console tailLines executorFor inst world).1.map JobResult.timeless =
      answersOf context attempts inst := by
  rw [runJob_named _ _ _ _ named, answersOf]
  cases creates : context.workdirFor inst with
  | error crash =>
    rw [environmentFor_error_iff.2 creates]
    rfl
  | ok path =>
    obtain ⟨environment, surroundings, _⟩ := exists_environmentFor creates
    have results := runSteps_steady console tailLines (steady inst member environment surroundings)
      (world.tell (Console.jobStarted inst.id inst.runsOn inst.title))
    rw [surroundings]
    dsimp only
    rw [← results]
    generalize runSteps console tailLines (executorFor (context.backendFor inst)) environment
      inst.steps (world.tell (Console.jobStarted inst.id inst.runsOn inst.title)) = ended
    obtain ⟨answer, later⟩ := ended
    cases answer with
    | error failure => rfl
    | ok results => exact congrArg Except.ok (timeless_jobResult inst results)

end

theorem calm_stepsOf {attempts : Step → Attempt} {steps : List Step}
    (calm : ∀ step ∈ steps, ∀ failure, attempts step = .raised failure → failure.isInterrupt = false)
    {failure : Failure} (broken : stepsOf attempts steps = .error failure) :
    failure.isInterrupt = false := by
  induction steps with
  | nil => cases broken
  | cons step rest ih =>
    obtain ⟨first, later⟩ := List.forall_mem_cons.1 calm
    rw [stepsOf] at broken
    split at broken
    · rename_i other raised
      rw [← Except.error.inj broken]
      exact first other (raised_of_resultOf_error raised)
    · split at broken
      · exact ih later (Success.map_error_iff.1 broken)
      · cases broken

theorem calm_answersOf {context : Context} {attempts : Instance → Step → Attempt} {inst : Instance}
    (calm : ∀ step ∈ inst.steps, ∀ failure, attempts inst step = .raised failure →
      failure.isInterrupt = false)
    {failure : Failure} (broken : answersOf context attempts inst = .error failure) :
    failure.isInterrupt = false := by
  rw [answersOf] at broken
  split at broken
  · rename_i crash refused
    rw [← Except.error.inj broken]
    exact calm_workdirFor refused
  · exact calm_stepsOf calm (Success.map_error_iff.1 broken)

/-- Of a context, answers need no more than which directories cannot be made. -/
theorem answersOf_congr {context context' : Context} (attempts : Instance → Step → Attempt)
    {inst : Instance} (placed : ∀ crash,
      context.workdirFor inst = .error crash ↔ context'.workdirFor inst = .error crash) :
    answersOf context' attempts inst = answersOf context attempts inst := by
  rw [answersOf, answersOf]
  cases creates : context.workdirFor inst with
  | error crash => rw [(placed crash).1 creates]
  | ok path =>
    cases creates' : context'.workdirFor inst with
    | error crash =>
      rw [(placed crash).2 creates'] at creates
      cases creates
    | ok path' => rfl

end Run

theorem hasSucceeded_settled (results : Keyed JobResult) (id : String) :
    hasSucceeded results id = ((results.get? id).map JobResult.settled).any JobResult.ok := by
  rw [hasSucceeded, Option.any_map]
  rfl

namespace Report

theorem settled_collect (instances : List Instance) (results : Keyed JobResult) :
    (collect instances results).mapValues JobResult.settled =
      Keyed.ofPairs (instances.filterMap fun inst =>
        ((results.get? inst.id).map JobResult.settled).map fun result => (inst.id, result)) := by
  rw [collect, Keyed.mapValues_ofPairs, Keyed.mapValues, List.map_filterMap]
  simp only [Option.map_map, Function.comp_def]

theorem settled_build (name : String) {instances : List Instance} {results results' : Keyed JobResult}
    (same : ∀ inst ∈ instances, (results.get? inst.id).map JobResult.settled =
      (results'.get? inst.id).map JobResult.settled) :
    (build name instances results).settled = (build name instances results').settled := by
  have perm : (inOrder instances).Perm instances := List.mergeSort_perm _ _
  have entries : (collect (inOrder instances) results).mapValues JobResult.settled =
      (collect (inOrder instances) results').mapValues JobResult.settled := by
    rw [settled_collect, settled_collect, List.filterMap_congr fun inst member => by
      rw [same inst (perm.mem_iff.1 member)]]
  have successes : (inOrder instances).all (succeeded results) =
      (inOrder instances).all (succeeded results') := by
    rw [Bool.eq_iff_iff, List.all_eq_true, List.all_eq_true]
    refine forall₂_congr fun inst member => ?_
    rw [succeeded_eq, succeeded_eq, hasSucceeded_settled, hasSucceeded_settled,
      same inst (perm.mem_iff.1 member)]
  rw [build, build, settled, settled]
  dsimp only
  rw [entries, verdictOf, verdictOf, successes]

end Report

namespace Run

variable {σ σ' : Type}

section

variable {pipeline : Pipeline} {instances : List Instance} {graph : InstanceGraph}
  (expanded : pipeline.instances = .ok instances)
  (accepted : InstanceGraph.ofInstances pipeline.jobs instances = .ok graph)

include expanded accepted

theorem runPipeline_ok_iff {options : Options} (allowed : ∀ count ∈ options.workers, 0 ≤ count)
    {context : Context} {executorFor : Option String → Executor (World σ)} {world last : World σ}
    {report : Report} :
    runPipeline pipeline context options executorFor world = (.ok report, last) ↔
      let workers := workersFor options.workers instances
      let plan := Plan.ofGraph instances graph workers.toNat
      ∃ head, runAll plan options.console options.policy (runner context options executorFor)
          (plan.ids.length + 1)
          (State.start plan (world.tell (announcement options.console workers instances))) =
            (head, none) ∧
        Report.build pipeline.name instances head.results = report ∧ head.world = last := by
  rw [runPipeline, expanded]
  dsimp only [schedule]
  rw [run_eq accepted allowed]
  dsimp only [runner]
  generalize runAll _ _ _ _ _ _ = ended
  obtain ⟨head, failure⟩ := ended
  cases failure with
  | some failure => simp
  | none => simp

end

def clockedResult (job : String) (step : Step) (time : Option Int) : StepResult :=
  if job = "build (os=mac)" then
    ⟨step.name, .failed, some 1, [], time, time, some .nonZeroExit, some "command exited with code 1"⟩
  else ⟨step.name, .succeeded, some 0, [], time, time, none, none⟩

def clockedExecutor : Executor (World Int) := fun step environment _ world =>
  (.finished (clockedResult environment.job step (some world.inner)), ⟨world.lines, world.inner + 1⟩)

theorem steady_clockedExecutor :
    Steady sampleContext (fun _ => clockedExecutor) sampleInstances
      (fun inst step => .finished (clockedResult inst.id step none)) := by
  intro inst member environment surroundings step here onLine world
  have timeless : (clockedResult environment.job step (some world.inner)).timeless =
      clockedResult environment.job step none := by
    rw [clockedResult, clockedResult]
    split <;> rfl
  dsimp only
  rw [← job_environmentFor surroundings, ← timeless]
  rfl

def eagerOptions : Options := ⟨⟨true, false⟩, 5, none, fun _ _ _ => 0⟩

end Run

end CiPipeline
