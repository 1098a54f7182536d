import CiPipeline.Proofs.Run.Idle
import CiPipeline.Proofs.Schema.WellFormed
import CiPipeline.Workflow

/-! What comes of a workflow. Its pipeline has the jobs that the workflow offers, whatever their number is and
with or without steps; so, other than with a document, there may be nothing to do in it. -/
namespace CiPipeline

open Schedule

namespace Workflow

/-- The jobs that a workflow offers once it has run to its end: those that its routine returns, or those that
are bound if there is no routine. -/
inductive Offers (workflow : Workflow) (jobs : List Job) : Prop
  | returned (ended : workflow.failure = none)
    (returns : workflow.routine = some (.returns (.items (jobs.map some))))
  | bound (ended : workflow.failure = none)
    (uncalled : workflow.routine = none ∨ workflow.routine = some .value)
    (binds : workflow.jobs = some (.items (jobs.map some)))

theorem mapM_id_eq_some_iff {α : Type} {entries : List (Option α)} {values : List α} :
    entries.mapM id = some values ↔ entries = values.map some := by
  induction entries generalizing values with
  | nil => cases values <;> simp
  | cons entry rest ih =>
    rw [List.mapM_cons]
    cases entry with
    | none => cases values <;> simp
    | some value => cases values <;> simp [Option.bind_eq_some_iff, ih, and_comm]

theorem jobsOf?_eq_some_iff {listing : Option Listing} {jobs : List Job} :
    jobsOf? listing = some jobs ↔ listing = some (.items (jobs.map some)) := by
  cases listing with
  | none => simp [jobsOf?]
  | some listing =>
    cases listing with
    | other => simp [jobsOf?]
    | items entries =>
      rw [jobsOf?, mapM_id_eq_some_iff, Option.some.injEq, Listing.items.injEq]

theorem listing_ok_iff {path : String} {workflow : Workflow} {jobs : List Job} :
    workflow.listing path = .ok (some (.items (jobs.map some))) ↔ workflow.Offers jobs := by
  constructor
  · intro listed
    rw [listing] at listed
    split at listed
    · cases listed
    · rename_i ended
      split at listed
      · rename_i returns
        exact .returned ended (Option.some.inj (Except.ok.inj listed) ▸ returns)
      · cases listed
      · -- A routine that is no routine at all is passed over like a missing one.
        rename_i not_returns not_raises
        refine .bound ended ?_ (Except.ok.inj listed)
        cases called : workflow.routine with
        | none => exact .inl rfl
        | some routine =>
          cases routine with
          | value => exact .inr rfl
          | returns listing => exact absurd called (not_returns listing)
          | raises failure => exact absurd called (not_raises failure)
  · rintro (⟨ended, returns⟩ | ⟨ended, uncalled, binds⟩)
    · rw [listing, ended, returns]
    · rw [listing, ended, ← binds]
      rcases uncalled with none | value
      · rw [none]
      · rw [value]

theorem offers_iff {path : Files.Path} {workflow : Workflow} {pipeline : Pipeline}
    (loaded : workflow.toPipeline path = .ok pipeline) {jobs : List Job} :
    workflow.Offers jobs ↔ pipeline.jobs = jobs := by
  obtain ⟨listing, listed, loaded⟩ := Success.bind_iff.1 loaded
  cases named : jobsOf? listing with
  | none =>
    rw [named] at loaded
    cases loaded
  | some offered =>
    rw [named] at loaded
    obtain ⟨name, _, made⟩ := Success.bind_iff.1 loaded
    obtain ⟨env, _, made⟩ := Success.bind_iff.1 made
    obtain rfl := Except.ok.inj made
    obtain rfl := jobsOf?_eq_some_iff.1 named
    rw [← listing_ok_iff, listed, Except.ok.injEq, Option.some.injEq, Listing.items.injEq,
      List.map_inj_right fun _ _ => Option.some.inj]

/-- The jobs of a pipeline made from a workflow are those that the workflow offers, and whether there is
something to do depends on nothing else. A run of it succeeds without a step exactly where no offered job
has one, as is the case where no job is offered. -/
theorem hasWork_iff {path : Files.Path} {workflow : Workflow} {pipeline : Pipeline}
    (loaded : workflow.toPipeline path = .ok pipeline) :
    (∀ jobs, workflow.Offers jobs ↔ pipeline.jobs = jobs) ∧
    (pipeline.HasWork ↔ ∃ jobs, workflow.Offers jobs ∧ jobs ≠ [] ∧ ∀ job ∈ jobs, job.steps ≠ []) ∧
    ∀ (σ : Type) (instances : List Instance) (graph : InstanceGraph) (context : Context) (options : Run.Options)
      (executorFor : Option String → Executor (World σ)) (world : World σ),
      pipeline.instances = .ok instances → (instances.map Instance.id).Nodup →
      InstanceGraph.ofInstances pipeline.jobs instances = .ok graph →
      (∀ inst ∈ instances, ∃ path, context.workdirFor inst = .ok path) →
      (∀ count ∈ options.workers, 0 ≤ count) → (∀ backend, (executorFor backend).Calm) →
      ∃ report, ∃ last : World σ, ∃ calls,
        Run.runPipeline pipeline context options (fun backend => (executorFor backend).noting)
          (world.noting []) = (.ok report, last.noting calls) ∧
        (report.verdict = .success ∧ calls = [] ↔
          ∀ jobs, workflow.Offers jobs → ∀ job ∈ jobs, job.steps = []) ∧
        (pipeline.HasWork → report.verdict = .success → calls ≠ []) := by
  have offered (jobs : List Job) : workflow.Offers jobs ↔ pipeline.jobs = jobs := offers_iff loaded
  refine ⟨offered, ?_, ?_⟩
  · simp only [offered, exists_eq_left']
    exact ⟨fun work => ⟨work.some_job, work.some_step⟩, fun both => ⟨both.1, both.2⟩⟩
  · intro σ instances graph context options executorFor world expanded distinct accepted creatable allowed calm
    obtain ⟨report, last, calls, ran, idle⟩ :=
      Run.idle_iff expanded distinct accepted allowed calm creatable world
    refine ⟨report, last, calls, ran, ?_, fun work success none => ?_⟩
    · simp only [offered, forall_eq', idle]
    · obtain ⟨job, member⟩ := List.exists_mem_of_ne_nil _ work.some_job
      exact work.some_step job member (idle.1 ⟨success, none⟩ job member)

def sampleBound : Workflow := { empty with jobs := some (.items (sample.jobs.map some)) }

theorem hasWork_iff_sample : sampleBound.toPipeline (Files.Path.ofText "/ws/sample.py") = .ok sample ∧
    sampleBound.Offers sample.jobs ∧ sample.HasWork ∧ ∃ report, ∃ last : World Nat, ∃ calls,
      Run.runPipeline sample Run.sampleContext Run.sampleOptions (fun _ => Run.sampleExecutor.noting)
        (World.noting [] ⟨[], 0⟩) = (.ok report, last.noting calls) ∧
      ¬(report.verdict = .success ∧ calls = []) := by
  have loaded : sampleBound.toPipeline (Files.Path.ofText "/ws/sample.py") = .ok sample := by
    with_unfolding_all rfl
  have creatable : ∀ inst ∈ sampleInstances, ∃ path, Run.sampleContext.workdirFor inst = .ok path :=
    fun _ _ => ⟨_, rfl⟩
  have allowed : ∀ count ∈ Run.sampleOptions.workers, 0 ≤ count := by decide
  obtain ⟨offered, work, runs⟩ := hasWork_iff loaded
  obtain ⟨report, last, calls, ran, _, busy⟩ := runs Nat sampleInstances _ Run.sampleContext Run.sampleOptions
    (fun _ => Run.sampleExecutor) ⟨[], 0⟩ instances_sample (by decide) accepted_sample creatable allowed
    (fun _ => Run.calm_sampleExecutor)
  have offers := (offered sample.jobs).2 rfl
  have filled : sample.HasWork :=
    work.2 ⟨sample.jobs, offers, List.cons_ne_nil _ _, by simp [sample]⟩
  exact ⟨loaded, offers, filled, report, last, calls, ran, fun both => busy filled both.1 both.2⟩

def forgetful : Workflow := { sampleBound with routine := some (.returns (.items [])) }

def nothing : Pipeline := ⟨"sample", [], [], []⟩

/-- The bound jobs are lost without a word, and a run that does nothing at all is a success. -/
theorem not_hasWork : forgetful.jobs = some (.items (sample.jobs.map some)) ∧ sample.jobs ≠ [] ∧
    forgetful.toPipeline (Files.Path.ofText "/ws/sample.py") = .ok nothing ∧ ¬nothing.HasWork ∧
    ∃ report, ∃ last : World Nat,
      Run.runPipeline nothing Run.sampleContext Run.sampleOptions (fun _ => Run.sampleExecutor.noting)
        (World.noting [] ⟨[], 0⟩) = (.ok report, last.noting []) ∧ report.verdict = .success := by
  have loaded : forgetful.toPipeline (Files.Path.ofText "/ws/sample.py") = .ok nothing := by
    with_unfolding_all rfl
  have expanded : nothing.instances = .ok [] := rfl
  have distinct : (([] : List Instance).map Instance.id).Nodup := List.nodup_nil
  have accepted : InstanceGraph.ofInstances nothing.jobs [] =
      .ok (InstanceGraph.build [] []) := by with_unfolding_all rfl
  have creatable : ∀ inst ∈ ([] : List Instance), ∃ path, Run.sampleContext.workdirFor inst = .ok path :=
    fun inst member => absurd member List.not_mem_nil
  have allowed : ∀ count ∈ Run.sampleOptions.workers, 0 ≤ count := by decide
  obtain ⟨report, last, calls, ran, idle⟩ := Run.idle_iff expanded distinct accepted allowed
    (fun _ => Run.calm_sampleExecutor) creatable ⟨[], 0⟩
  obtain ⟨success, rfl⟩ := idle.2 fun job member => absurd member List.not_mem_nil
  exact ⟨rfl, List.cons_ne_nil _ _, loaded, fun work => work.some_job rfl, report, last, ran, success⟩

end Workflow

end CiPipeline
