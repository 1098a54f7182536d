import CiPipeline.Run.Basic
import CiPipeline.Proofs.Matrix.Combinations
import CiPipeline.Proofs.Schedule.Outcome

/-! What is handed to executors. An executor can be given a list in which it notes every step that it was
handed; apart from the list nothing changes. An instance succeeds when all its steps have been handed
over, each of them once and in their order, and each of them succeeded. -/
namespace CiPipeline

/-- A step of an instance that was handed to an executor, and how it ended. -/
structure Call where
  job : String
  step : Step
  attempt : Attempt

namespace Attempt

def passed : Attempt → Bool
  | finished result => result.ok
  | notLaunched _ | raised _ => false

end Attempt

def callsOf (id : String) (calls : List Call) : List Call := calls.filter (·.job == id)

/-- All steps of an instance have been handed over, once and in their order, and succeeded. -/
def Instance.Passed (inst : Instance) (calls : List Call) : Prop :=
  (callsOf inst.id calls).map Call.step = inst.steps ∧
    ∀ call ∈ callsOf inst.id calls, call.attempt.passed = true

namespace World

variable {σ : Type}

def bare {α : Type} (world : World (σ × α)) : World σ := ⟨world.lines, world.inner.1⟩

def noting (calls : List Call) (world : World σ) : World (σ × List Call) :=
  ⟨world.lines, (world.inner, calls)⟩

def calls (world : World (σ × List Call)) : List Call := world.inner.2

end World

variable {σ : Type}

def Executor.noting (executor : Executor (World σ)) : Executor (World (σ × List Call)) :=
  fun step environment onLine world =>
    let ended := executor step environment
      (fun line bare => (onLine line (bare.noting world.calls)).bare) world.bare
    (ended.1, ended.2.noting (world.calls ++ [⟨environment.job, step, ended.1⟩]))

def Executor.Calm {ω : Type} (executor : Executor ω) : Prop :=
  ∀ step environment onLine world failure,
    (executor step environment onLine world).1 = .raised failure → failure.isInterrupt = false

theorem Executor.Calm.noting {executor : Executor (World σ)} (calm : executor.Calm) :
    executor.noting.Calm :=
  fun _ _ _ _ _ raised => calm _ _ _ _ _ raised

namespace Run

theorem passed_of_resultOf_ok {step : Step} {attempt : Attempt} {result : StepResult}
    (read : resultOf step attempt = .ok result) : attempt.passed = result.ok := by
  cases attempt with
  | finished other => rw [← Except.ok.inj read, Attempt.passed]
  | notLaunched message => rw [← Except.ok.inj read]; rfl
  | raised failure => cases read

theorem raised_of_resultOf_error {step : Step} {attempt : Attempt} {failure : Failure}
    (broken : resultOf step attempt = .error failure) : attempt = .raised failure := by
  cases attempt with
  | finished result => cases broken
  | notLaunched message => cases broken
  | raised other => rw [Except.error.inj broken]

/-- The calls for some steps of an instance: in the order of the steps and none twice, and all is well
exactly when every step was handed over and succeeded. -/
structure Handed (id : String) (steps : List Step) (well : Prop) (made : List Call) : Prop where
  own : ∀ call ∈ made, call.job = id
  in_order : made.map Call.step <+: steps
  well_iff : well ↔ made.map Call.step = steps ∧ ∀ call ∈ made, call.attempt.passed = true

namespace Handed

variable {id : String} {steps : List Step} {well : Prop} {made : List Call}

theorem nil (holds : well) : Handed id [] well [] :=
  ⟨by simp, List.prefix_rfl, by simp [holds]⟩

theorem stop {step : Step} {attempt : Attempt} (bad : attempt.passed = false) (fails : ¬well) :
    Handed id (step :: steps) well [⟨id, step, attempt⟩] := by
  refine ⟨by simp, ⟨steps, rfl⟩, iff_of_false fails fun both => ?_⟩
  have passed := both.2 _ List.mem_cons_self
  rw [bad] at passed
  cases passed

theorem cons (handed : Handed id steps well made) {step : Step} {attempt : Attempt}
    (passed : attempt.passed = true) :
    Handed id (step :: steps) well (⟨id, step, attempt⟩ :: made) := by
  refine ⟨List.forall_mem_cons.2 ⟨rfl, handed.own⟩,
    (List.prefix_cons_inj step).2 handed.in_order, handed.well_iff.trans ?_⟩
  simp [passed]

theorem congr (handed : Handed id steps well made) {other : Prop} (same : other ↔ well) :
    Handed id steps other made :=
  ⟨handed.own, handed.in_order, same.trans handed.well_iff⟩

end Handed

section

variable (console : Console) (tailLines : Int) (executor : Executor (World σ))
  (environment : StepEnvironment)

theorem exists_attempt (step : Step) (world : World (σ × List Call)) :
    ∃ attempt later,
      executor step environment
          (fun line world => world.tell (console.outputLine environment.job line))
          (world.bare.tell (Console.step environment.job step.name)) = (attempt, later) ∧
        executor.noting step environment
          (fun line world => world.tell (console.outputLine environment.job line))
          (world.tell (Console.step environment.job step.name)) =
            (attempt, later.noting (world.calls ++ [⟨environment.job, step, attempt⟩])) :=
  ⟨_, _, rfl, rfl⟩

theorem runSteps_noting (steps : List Step) (world : World (σ × List Call)) :
    runSteps console tailLines executor environment steps world.bare =
      ((runSteps console tailLines executor.noting environment steps world).1,
        (runSteps console tailLines executor.noting environment steps world).2.bare) := by
  induction steps generalizing world with
  | nil => rfl
  | cons step rest ih =>
    obtain ⟨attempt, later, ran, noted⟩ := exists_attempt console executor environment step world
    rw [runSteps, runSteps]
    dsimp only
    rw [ran, noted]
    dsimp only
    cases resultOf step attempt with
    | error failure => rfl
    | ok result =>
      have behind := ih (later.noting (world.calls ++ [⟨environment.job, step, attempt⟩]))
      have same (calls : List Call) : (later.noting calls).bare = later := rfl
      rw [same] at behind
      dsimp only
      split
      · rw [behind]
      · rfl

theorem calls_runSteps (steps : List Step) (world : World (σ × List Call)) :
    ∃ made, (runSteps console tailLines executor.noting environment steps world).2.calls =
        world.calls ++ made ∧
      Handed environment.job steps (∃ results,
        (runSteps console tailLines executor.noting environment steps world).1 = .ok results ∧
          ∀ result ∈ results, result.ok = true) made := by
  induction steps generalizing world with
  | nil => exact ⟨[], (List.append_nil _).symm, .nil ⟨[], rfl, by simp⟩⟩
  | cons step rest ih =>
    obtain ⟨attempt, later, _, noted⟩ := exists_attempt console executor environment step world
    rw [runSteps]
    dsimp only
    rw [noted]
    dsimp only
    cases read : resultOf step attempt with
    | error failure =>
      have bad : attempt.passed = false := by rw [raised_of_resultOf_error read, Attempt.passed]
      exact ⟨_, rfl, .stop bad (by simp)⟩
    | ok result =>
      have passed := passed_of_resultOf_ok read
      dsimp only
      split
      · rename_i good
        obtain ⟨made, noted', handed⟩ :=
          ih (later.noting (world.calls ++ [⟨environment.job, step, attempt⟩]))
        refine ⟨⟨environment.job, step, attempt⟩ :: made, noted'.trans (List.append_assoc _ _ _),
          (handed.cons (passed.trans good)).congr ?_⟩
        simp only [Success.map_iff]
        constructor
        · rintro ⟨_, ⟨results, ran, rfl⟩, all⟩
          exact ⟨results, ran, fun other member => all other (List.mem_cons_of_mem _ member)⟩
        · rintro ⟨results, ran, all⟩
          exact ⟨_, ⟨results, ran, rfl⟩, List.forall_mem_cons.2 ⟨good, all⟩⟩
      · rename_i bad
        refine ⟨_, rfl, .stop (passed.trans (Bool.eq_false_iff.2 bad)) ?_⟩
        rintro ⟨_, ⟨⟩, all⟩
        exact bad (all result List.mem_cons_self)

end

theorem job_environmentFor {context : Context} {inst : Instance} {environment : StepEnvironment}
    (surroundings : environmentFor context inst = .ok environment) : environment.job = inst.id := by
  obtain ⟨cwd, _, rfl⟩ := Success.map_iff.1 surroundings
  rfl

theorem environmentFor_error_iff {context : Context} {inst : Instance} {crash : Crash} :
    environmentFor context inst = .error crash ↔ context.workdirFor inst = .error crash :=
  Success.map_error_iff

theorem exists_environmentFor {context : Context} {inst : Instance} {path : Files.Path}
    (creates : context.workdirFor inst = .ok path) :
    ∃ environment, environmentFor context inst = .ok environment ∧ environment.job = inst.id :=
  ⟨_, Success.map_iff.2 ⟨path, creates, rfl⟩, rfl⟩

theorem calm_workdirFor {context : Context} {inst : Instance} {crash : Crash}
    (refused : context.workdirFor inst = .error crash) : (Failure.crash crash).isInterrupt = false := by
  rw [Context.workdirFor] at refused
  split at refused
  · rw [Context.isolatedDir] at refused
    split at refused
    · rw [← Except.error.inj refused]
      rfl
    · cases refused
  · cases refused

theorem calm_runSteps {console : Console} {tailLines : Int} {executor : Executor (World σ)}
    (calm : executor.Calm) {environment : StepEnvironment} {steps : List Step} {world : World σ}
    {failure : Failure}
    (broken : (runSteps console tailLines executor environment steps world).1 = .error failure) :
    failure.isInterrupt = false := by
  induction steps generalizing world with
  | nil => cases broken
  | cons step rest ih =>
    rw [runSteps] at broken
    dsimp only at broken
    split at broken
    · rename_i other raised
      rw [← Except.error.inj broken]
      exact calm _ _ _ _ _ (raised_of_resultOf_error raised)
    · split at broken
      · exact ih (Success.map_error_iff.1 broken)
      · cases broken

theorem inst_jobResult (inst : Instance) (results : List StepResult) :
    (jobResult inst results).inst = inst := by
  rw [jobResult]
  split <;> rfl

theorem ok_jobResult (inst : Instance) (results : List StepResult) :
    (jobResult inst results).ok = true ↔ ∀ result ∈ results, result.ok = true := by
  rw [jobResult]
  split
  · rename_i none
    rw [List.find?_eq_none] at none
    exact iff_of_true rfl fun result member => by simpa using none result member
  · rename_i failure some
    refine iff_of_false (by simp [JobResult.ok]) fun all => ?_
    have bad := List.find?_some some
    rw [all failure (List.mem_of_find?_eq_some some)] at bad
    cases bad

def Startable (context : Context) (inst : Instance) : Prop :=
  inst.isNamed = true ∧ ∃ path, context.workdirFor inst = .ok path

theorem startable_of_expanded {pipeline : Pipeline} {instances : List Instance} {context : Context}
    (expanded : pipeline.instances = .ok instances)
    (creatable : ∀ inst ∈ instances, ∃ path, context.workdirFor inst = .ok path) :
    ∀ inst ∈ instances, Startable context inst :=
  fun inst member => ⟨Pipeline.isNamed_of_mem expanded member, creatable inst member⟩

section

variable (context : Context) (console : Console) (tailLines : Int)
  (executorFor : Option String → Executor (World σ))

theorem runJob_unnamed {inst : Instance} (unnamed : inst.isNamed = false) (world : World σ) :
    runJob context console tailLines executorFor inst world = (.error (.crash .longNumber), world) := by
  rw [runJob, unnamed]
  rfl

theorem runJob_named {inst : Instance} (named : inst.isNamed = true) (world : World σ) :
    runJob context console tailLines executorFor inst world =
      match environmentFor context inst with
      | .error crash =>
        (.error (.crash crash), world.tell (Console.jobStarted inst.id inst.runsOn inst.title))
      | .ok environment =>
        match runSteps console tailLines (executorFor (context.backendFor inst)) environment inst.steps
            (world.tell (Console.jobStarted inst.id inst.runsOn inst.title)) with
        | (.error failure, world) => (.error failure, world)
        | (.ok results, world) => (.ok (jobResult inst results),
            world.tell (Console.jobFinished inst.id (jobResult inst results).outcome)) := by
  rw [runJob, named]
  rfl

theorem runJob_noting (inst : Instance) (world : World (σ × List Call)) :
    runJob context console tailLines executorFor inst world.bare =
      ((runJob context console tailLines (fun backend => (executorFor backend).noting) inst world).1,
        (runJob context console tailLines (fun backend => (executorFor backend).noting) inst
          world).2.bare) := by
  have told (lines : List Line) (world : World (σ × List Call)) :
      world.bare.tell lines = (world.tell lines).bare := rfl
  cases named : inst.isNamed with
  | false =>
    rw [runJob_unnamed _ _ _ _ named, runJob_unnamed _ _ _ _ named]
  | true =>
    rw [runJob_named _ _ _ _ named, runJob_named _ _ _ _ named, told]
    cases environmentFor context inst with
    | error crash => rfl
    | ok environment =>
      dsimp only
      rw [runSteps_noting]
      generalize runSteps console tailLines (executorFor (context.backendFor inst)).noting environment
        inst.steps (world.tell (Console.jobStarted inst.id inst.runsOn inst.title)) = ended
      obtain ⟨answer, later⟩ := ended
      cases answer <;> rfl

theorem calls_runJob {inst : Instance} (startable : Startable context inst) (world : World (σ × List Call)) :
    let ended := runJob context console tailLines (fun backend => (executorFor backend).noting) inst
      world
    ∃ made, ended.2.calls = world.calls ++ made ∧
      Handed inst.id inst.steps ((Schedule.answerOf inst ended.1).ok = true) made := by
  obtain ⟨named, path, creates⟩ := startable
  obtain ⟨environment, surroundings, job⟩ := exists_environmentFor creates
  obtain ⟨made, noted, handed⟩ := calls_runSteps console tailLines
    (executorFor (context.backendFor inst)) environment inst.steps
    (world.tell (Console.jobStarted inst.id inst.runsOn inst.title))
  rw [job] at handed
  dsimp only
  rw [runJob_named _ _ _ _ named, surroundings]
  dsimp only
  generalize runSteps console tailLines (executorFor (context.backendFor inst)).noting environment
    inst.steps (world.tell (Console.jobStarted inst.id inst.runsOn inst.title)) = ended
    at noted handed ⊢
  obtain ⟨answer, later⟩ := ended
  cases answer with
  | error failure =>
    refine ⟨made, noted, handed.congr ?_⟩
    exact iff_of_false (by simp [Schedule.answerOf, Schedule.brokenOff, JobResult.ok]) (by simp)
  | ok results =>
    refine ⟨made, noted, handed.congr ?_⟩
    rw [Schedule.answerOf, ok_jobResult]
    simp

variable {context console tailLines executorFor}

theorem exists_results {inst : Instance} {world : World σ} {result : JobResult}
    (ran : (runJob context console tailLines executorFor inst world).1 = .ok result) :
    ∃ environment first results, (runSteps console tailLines (executorFor (context.backendFor inst)) environment
      inst.steps first).1 = .ok results ∧ result = jobResult inst results := by
  cases named : inst.isNamed with
  | false =>
    rw [runJob_unnamed _ _ _ _ named] at ran
    cases ran
  | true =>
    rw [runJob_named _ _ _ _ named] at ran
    split at ran
    · cases ran
    · split at ran
      · cases ran
      · rename_i ended
        exact ⟨_, _, _, congrArg Prod.fst ended, (Except.ok.inj ran).symm⟩

end

section

variable (context : Context) (options : Options) (executorFor : Option String → Executor (World σ))

theorem maps_noting :
    (runner context options fun backend => (executorFor backend).noting).Maps World.bare
      (runner context options executorFor) :=
  ⟨fun inst world => runJob_noting _ _ _ _ inst world, fun _ _ => rfl⟩

theorem own_runner : (runner context options executorFor).Own := by
  intro inst world result ran
  obtain ⟨_, _, _, _, rfl⟩ := exists_results ran
  rw [inst_jobResult]

theorem calm_runner (calm : ∀ backend, (executorFor backend).Calm) :
    (runner context options executorFor).Calm := by
  intro inst world failure ran
  dsimp only [runner] at ran
  cases named : inst.isNamed with
  | false =>
    rw [runJob_unnamed _ _ _ _ named] at ran
    rw [← Except.error.inj ran]
    rfl
  | true =>
    rw [runJob_named _ _ _ _ named] at ran
    split at ran
    · rename_i crash refused
      rw [← Except.error.inj ran]
      exact calm_workdirFor (environmentFor_error_iff.1 refused)
    · split at ran
      · rename_i other later broken
        rw [← Except.error.inj ran]
        exact calm_runSteps (calm _) (congrArg Prod.fst broken)
      · cases ran

end

end Run

end CiPipeline
