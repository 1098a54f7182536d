import CiPipeline.Proofs.Run.Isolation

/-! The trace of one instance. Its steps are handed to the executor in their order up to the first one that
does not succeed; what is recorded are the answers to these calls, and every step behind them as skipped.
The outcome of the instance, its reason and its failed step all tell of the same entry. -/
namespace CiPipeline

variable {σ : Type}

def Executor.Unbroken {ω : Type} (executor : Executor ω) : Prop :=
  ∀ step environment onLine world failure,
    (executor step environment onLine world).1 ≠ .raised failure

/-- What is recorded for a call: its answer, or that the command could not be started. -/
def Call.Records (call : Call) (entry : StepResult) : Prop :=
  match call.attempt with
  | .finished result => entry = result
  | .notLaunched message =>
    entry = ⟨call.step.name, .failed, none, [], none, none, some .launchError, some message⟩
  | .raised _ => False

structure Followed (id : String) (steps : List Step) (made : List Call) (entries : List StepResult) :
    Prop where
  own : ∀ call ∈ made, call.job = id
  in_order : made.map Call.step = steps.take made.length
  passed : ∀ call ∈ made.dropLast, call.attempt.passed = true
  stopped : made.length < steps.length →
    ∃ call, made.getLast? = some call ∧ call.attempt.passed = false
  entries : ∃ recorded, List.Forall₂ Call.Records made recorded ∧
    entries = recorded ++ (steps.drop made.length).map fun step =>
      ⟨step.name, .skipped, none, [], none, none, none, none⟩

namespace Call

theorem records_of_resultOf_ok (id : String) {step : Step} {attempt : Attempt} {result : StepResult}
    (read : Run.resultOf step attempt = .ok result) : Records ⟨id, step, attempt⟩ result := by
  cases attempt with
  | finished other => exact (Except.ok.inj read).symm
  | notLaunched message => exact (Except.ok.inj read).symm
  | raised failure => cases read

theorem Records.ok {call : Call} {entry : StepResult} (records : call.Records entry) :
    entry.ok = call.attempt.passed := by
  obtain ⟨id, step, attempt⟩ := call
  cases attempt with
  | finished result => rw [show entry = result from records, Attempt.passed]
  | notLaunched message => rw [show entry = _ from records]; rfl
  | raised failure => exact records.elim

theorem Records.ne_skipped {call : Call} {entry : StepResult} (records : call.Records entry)
    (plain : ∀ answer, call.attempt = .finished answer → answer.outcome ≠ .skipped) :
    entry.outcome ≠ .skipped := by
  obtain ⟨id, step, attempt⟩ := call
  cases attempt with
  | finished result =>
    rw [show entry = result from records]
    exact plain result rfl
  | notLaunched message =>
    rw [show entry = _ from records]
    exact StepOutcome.noConfusion
  | raised failure => exact records.elim

end Call

namespace Followed

variable {id : String} {steps : List Step} {made : List Call} {entries : List StepResult}

theorem nil : Followed id [] [] [] :=
  ⟨by simp, rfl, by simp, by simp, [], .nil, rfl⟩

theorem stop {step : Step} {attempt : Attempt} {entry : StepResult} (bad : attempt.passed = false)
    (records : Call.Records ⟨id, step, attempt⟩ entry) :
    Followed id (step :: steps) [⟨id, step, attempt⟩]
      (entry :: steps.map fun skipped => .skipped skipped.name) :=
  ⟨by simp, rfl, by simp, fun _ => ⟨_, rfl, bad⟩, [entry], .cons records .nil, rfl⟩

theorem cons (followed : Followed id steps made entries) {step : Step} {attempt : Attempt}
    {entry : StepResult} (good : attempt.passed = true)
    (records : Call.Records ⟨id, step, attempt⟩ entry) :
    Followed id (step :: steps) (⟨id, step, attempt⟩ :: made) (entry :: entries) := by
  obtain ⟨own, in_order, passed, stopped, recorded, all, rfl⟩ := followed
  refine ⟨List.forall_mem_cons.2 ⟨rfl, own⟩, ?_, fun call member => ?_, fun short => ?_,
    entry :: recorded, .cons records all, rfl⟩
  · rw [List.map_cons, in_order, List.length_cons, List.take_succ_cons]
  · cases made with
    | nil => cases member
    | cons first rest =>
      rcases List.mem_cons.1 member with rfl | there
      · exact good
      · exact passed call there
  · obtain ⟨call, last, bad⟩ := stopped (Nat.lt_of_succ_lt_succ short)
    exact ⟨call, by rw [List.getLast?_cons, last]; rfl, bad⟩

theorem length_le (followed : Followed id steps made entries) : made.length ≤ steps.length := by
  have same := congrArg List.length followed.in_order
  rw [List.length_map, List.length_take] at same
  omega

theorem length_eq (followed : Followed id steps made entries) : entries.length = steps.length := by
  have fits := followed.length_le
  obtain ⟨recorded, all, rfl⟩ := followed.entries
  rw [List.length_append, List.length_map, List.length_drop, ← all.length_eq]
  omega

theorem drop_eq_nil (followed : Followed id steps made entries)
    (all : ∀ call ∈ made, call.attempt.passed = true) : steps.drop made.length = [] := by
  rw [List.drop_eq_nil_iff]
  by_contra short
  obtain ⟨call, last, bad⟩ := followed.stopped (Nat.lt_of_not_le short)
  rw [all call (List.mem_of_getLast? last)] at bad
  cases bad

theorem exists_call (followed : Followed id steps made entries) {failure : StepResult}
    (first : entries.find? (fun entry => !entry.ok) = some failure) :
    ∃ call ∈ made, call.Records failure := by
  obtain ⟨recorded, all, same⟩ := followed.entries
  rw [same, List.find?_append] at first
  cases found : recorded.find? (fun entry => !entry.ok) with
  | some entry =>
    rw [found, Option.some_or, Option.some.injEq] at first
    exact first ▸ Success.exists_left all (List.mem_of_find?_eq_some found)
  | none =>
    -- Without a failure among the calls nothing was skipped.
    have fine := List.find?_eq_none.1 found
    have passed : ∀ call ∈ made, call.attempt.passed = true := by
      intro call member
      obtain ⟨entry, there, records⟩ := Success.exists_right all member
      have good := fine entry there
      rw [← records.ok]
      simpa using good
    rw [found, followed.drop_eq_nil passed] at first
    cases first

end Followed

/-- What the result of an instance says about its entries. -/
structure Concluded (inst : Instance) (made : List Call) (result : JobResult) : Prop where
  own : result.inst = inst
  length : result.steps.length = inst.steps.length
  succeeded_iff : result.outcome = .succeeded ∧ result.reason = none ↔
    ∀ entry ∈ result.steps, entry.outcome = .succeeded
  failed_iff : result.outcome = .failed ↔ ∃ entry ∈ result.steps, entry.outcome ≠ .succeeded
  /-- Unless a call was answered as skipped, the first entry that is no success is the failed step, and it
  is the one that the reason names. -/
  named : (∀ call ∈ made, ∀ answer, call.attempt = .finished answer → answer.outcome ≠ .skipped) →
    result.outcome = .failed → ∃ front failure back, result.steps = front ++ failure :: back ∧
      (∀ entry ∈ front, entry.outcome = .succeeded) ∧ failure.outcome ≠ .succeeded ∧
      result.failedStep = some failure ∧
      result.reason = some ("step '" ++ failure.name ++ "' " ++ failure.outcome.name)

namespace Run

theorem ok_iff {entry : StepResult} : entry.ok = true ↔ entry.outcome = .succeeded := beq_iff_eq

theorem followed_runSteps (console : Console) (tailLines : Int) {executor : Executor (World σ)}
    (unbroken : executor.Unbroken) (environment : StepEnvironment) (steps : List Step)
    (world : World (σ × List Call)) :
    ∃ made entries,
      (runSteps console tailLines executor.noting environment steps world).1 = .ok entries ∧
      (runSteps console tailLines executor.noting environment steps world).2.calls =
        world.calls ++ made ∧
      Followed environment.job steps made entries := by
  induction steps generalizing world with
  | nil => exact ⟨[], [], rfl, (List.append_nil _).symm, .nil⟩
  | cons step rest ih =>
    obtain ⟨attempt, later, ran, noted⟩ := exists_attempt console executor environment step world
    rw [runSteps]
    dsimp only
    rw [noted]
    dsimp only
    cases read : resultOf step attempt with
    | error failure =>
      rw [raised_of_resultOf_error read] at ran
      exact absurd (congrArg Prod.fst ran) (unbroken _ _ _ _ _)
    | ok result =>
      have passed := passed_of_resultOf_ok read
      have records := Call.records_of_resultOf_ok environment.job read
      dsimp only
      split
      · rename_i good
        obtain ⟨made, entries, answered, noted', followed⟩ :=
          ih (later.noting (world.calls ++ [⟨environment.job, step, attempt⟩]))
        exact ⟨_, _, Success.map_iff.2 ⟨entries, answered, rfl⟩,
          noted'.trans (List.append_assoc _ _ _), followed.cons (passed.trans good) records⟩
      · rename_i bad
        exact ⟨_, _, rfl, rfl, .stop (passed.trans (Bool.eq_false_iff.2 bad)) records⟩

theorem concluded_jobResult {inst : Instance} {made : List Call} {entries : List StepResult}
    (followed : Followed inst.id inst.steps made entries) :
    Concluded inst made (jobResult inst entries) ∧ (jobResult inst entries).steps = entries := by
  rw [jobResult]
  cases first : entries.find? (fun entry => !entry.ok) with
  | none =>
    have good : ∀ entry ∈ entries, entry.outcome = .succeeded := by
      intro entry member
      rw [← ok_iff]
      simpa using List.find?_eq_none.1 first entry member
    refine ⟨⟨rfl, followed.length_eq, iff_of_true ⟨rfl, rfl⟩ good, iff_of_false ?_ ?_, ?_⟩, rfl⟩
    · exact JobOutcome.noConfusion
    · rintro ⟨entry, member, bad⟩
      exact bad (good entry member)
    · exact fun _ => JobOutcome.noConfusion
  | some failure =>
    have bad : failure.outcome ≠ .succeeded := by
      rw [Ne, ← ok_iff]
      simpa using List.find?_some first
    have member := List.mem_of_find?_eq_some first
    refine ⟨⟨rfl, followed.length_eq, iff_of_false ?_ ?_, iff_of_true rfl ⟨failure, member, bad⟩,
      fun plain _ => ?_⟩, rfl⟩
    · exact fun both => JobOutcome.noConfusion both.1
    · exact fun all => bad (all failure member)
    · obtain ⟨call, made_member, records⟩ := followed.exists_call first
      obtain ⟨_, front, back, split, good⟩ := List.find?_eq_some_iff_append.1 first
      have succeeded : ∀ entry ∈ front, entry.outcome = .succeeded := by
        intro entry there
        rw [← ok_iff]
        simpa using good entry there
      have told : failure.outcome = .failed ∨ failure.outcome = .timedOut := by
        have other := records.ne_skipped (plain call made_member)
        cases outcome : failure.outcome <;> simp_all
      refine ⟨front, failure, back, split, succeeded, bad, ?_, rfl⟩
      rw [JobResult.failedStep, List.find?_eq_some_iff_append]
      refine ⟨by simpa using told, front, back, split, fun entry there => ?_⟩
      rw [succeeded entry there]
      rfl

section

variable (context : Context) (console : Console) (tailLines : Int)
  (executorFor : Option String → Executor (World σ))

/-- A run of an instance hands over its steps as it should, and its result tells of them. -/
def RunsThrough (inst : Instance) (world : World (σ × List Call)) : Prop :=
  let ended := runJob context console tailLines (fun backend => (executorFor backend).noting) inst world
  ∃ made result, ended.1 = .ok result ∧ ended.2.calls = world.calls ++ made ∧
    Followed inst.id inst.steps made result.steps ∧ Concluded inst made result

variable {context console tailLines executorFor}

theorem runsThrough_of_startable (unbroken : ∀ backend, (executorFor backend).Unbroken)
    {inst : Instance} (startable : Startable context inst) (world : World (σ × List Call)) :
    RunsThrough context console tailLines executorFor inst world := by
  obtain ⟨named, path, creates⟩ := startable
  obtain ⟨environment, surroundings, job⟩ := exists_environmentFor creates
  obtain ⟨made, entries, answered, noted, followed⟩ := followed_runSteps console tailLines
    (unbroken (context.backendFor inst)) environment inst.steps
    (world.tell (Console.jobStarted inst.id inst.runsOn inst.title))
  rw [job] at followed
  obtain ⟨concluded, same⟩ := concluded_jobResult followed
  rw [RunsThrough, runJob_named _ _ _ _ named, surroundings]
  dsimp only
  generalize runSteps console tailLines (executorFor (context.backendFor inst)).noting environment
    inst.steps (world.tell (Console.jobStarted inst.id inst.runsOn inst.title)) = ended
    at answered noted ⊢
  obtain ⟨answer, later⟩ := ended
  dsimp only at answered noted
  subst answered
  exact ⟨made, jobResult inst entries, rfl, noted, same.symm ▸ followed, concluded⟩

theorem runJob_refused {inst : Instance} (named : inst.isNamed = true) {crash : Crash}
    (refused : context.workdirFor inst = .error crash) (world : World σ) :
    runJob context console tailLines executorFor inst world =
      (.error (.crash crash), world.tell (Console.jobStarted inst.id inst.runsOn inst.title)) := by
  rw [runJob_named _ _ _ _ named, environmentFor_error_iff.2 refused]

theorem RunsThrough.startable {inst : Instance} {world : World (σ × List Call)}
    (through : RunsThrough context console tailLines executorFor inst world) : Startable context inst := by
  obtain ⟨made, result, answered, _⟩ := through
  cases named : inst.isNamed with
  | false =>
    rw [runJob_unnamed _ _ _ _ named] at answered
    cases answered
  | true =>
    refine ⟨named, ?_⟩
    cases creates : context.workdirFor inst with
    | ok path => exact ⟨path, rfl⟩
    | error crash =>
      rw [runJob_refused named creates] at answered
      cases answered

end

def oneCommand : Executor (World Unit) := fun step _ _ world =>
  (if step.run = "make" then .finished ⟨step.name, .succeeded, some 0, [], none, none, none, none⟩
    else .notLaunched "no such command", world)

theorem unbroken_oneCommand : oneCommand.Unbroken := by
  intro step environment onLine world failure raised
  dsimp only [oneCommand] at raised
  split at raised <;> cases raised

def stumbling : Instance :=
  ⟨"build", [],
    [⟨"make", "make", none, none, [], none⟩, ⟨"check", "mkae check", none, none, [], none⟩,
      ⟨"pack", "make pack", none, none, [], none⟩], 0, [], none, none⟩

def longNamed : Instance :=
  ⟨String.ofList (List.replicate 256 'x'), [], [⟨"make", "make", none, none, [], none⟩], 0, [], none,
    none⟩

def unnamed : Instance :=
  ⟨"build", [("n", .int (Nat.pow 10 Number.digitLimit))], [⟨"make", "make", none, none, [], none⟩], 0, [], none,
    none⟩

end Run

end CiPipeline
