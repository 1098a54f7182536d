import CiPipeline.Proofs.Workflow

/-! How loading a workflow fails. What its program raises is told as a problem, interrupts apart, and so is a
workflow that offers no jobs. But what it binds to the name and the environment of the pipeline is taken as it
comes, and a value that cannot be taken ends in a crash. -/
namespace CiPipeline.Workflow

/-- A failure that the program of a workflow ends with, and the problem that is made of it if it is a crash: it
failed to load, or its routine failed. -/
inductive Raises (path : String) (workflow : Workflow) : (String → Problem) → Failure → Prop
  | loading {failure} (raised : workflow.failure = some failure) :
    Raises path workflow (.workflowBroken path) failure
  | routine {failure} (loaded : workflow.failure = none) (raised : workflow.routine = some (.raises failure)) :
    Raises path workflow (.workflowFailed path) failure

inductive Breaks (workflow : Workflow) : Crash → Prop
  /-- A number in the name is too long to be written out. -/
  | name {value} (bound : workflow.name = some value) (long : value.hasLongNumber = true) :
    Breaks workflow .longNumber
  /-- A number in the variables is too long to be written out. -/
  | number {value entries} (bound : workflow.env = some value) (mapping : value.opened = .map entries)
    (long : Document.anyLongEntry entries = true) : Breaks workflow .longNumber
  /-- The environment is no mapping, and the name could be taken. -/
  | noMapping {value} (bound : workflow.env = some value) (given : value.isGiven = true)
    (other : ∀ entries, value.opened ≠ .map entries)
    (short : ∀ name, workflow.name = some name → name.hasLongNumber = false) :
    Breaks workflow (.noAttribute value "items")

inductive Fails (path : Files.Path) (workflow : Workflow) : Failure → Prop
  | passed {wrap problem} (raised : Raises path.text workflow wrap (.problem problem)) :
    Fails path workflow (.problem problem)
  | wrapped {wrap crash} (raised : Raises path.text workflow wrap (.crash crash))
    (calm : crash.isInterrupt = false) : Fails path workflow (.problem (wrap crash.labelled))
  | interrupted {wrap crash} (raised : Raises path.text workflow wrap (.crash crash))
    (interrupt : crash.isInterrupt = true) : Fails path workflow (.crash crash)
  | idle (ended : ∀ wrap failure, ¬Raises path.text workflow wrap failure)
    (none : ∀ jobs, ¬workflow.Offers jobs) : Fails path workflow (.problem (.workflowWithoutJobs path.text))
  | broken {jobs crash} (offers : workflow.Offers jobs) (breaks : workflow.Breaks crash) :
    Fails path workflow (.crash crash)

def Told (path : Files.Path) (workflow : Workflow) : Prop :=
  (∃ pipeline, workflow.toPipeline path = .ok pipeline) ∨
    ∃ problem, workflow.toPipeline path = .error (.problem problem)

theorem nameOf_error_iff {path : Files.Path} {name : Option Document} {crash : Crash} :
    nameOf path name = .error crash ↔
      ∃ value, name = some value ∧ value.hasLongNumber = true ∧ crash = .longNumber := by
  constructor
  · intro failed
    cases name with
    | none => cases failed
    | some value =>
      rw [nameOf] at failed
      split at failed
      · rename_i long
        exact ⟨value, rfl, long, (Except.error.inj failed).symm⟩
      · cases failed
  · rintro ⟨value, rfl, long, rfl⟩
    rw [nameOf, if_pos long]

theorem nameOf_ok_iff {path : Files.Path} {name : Option Document} :
    (∃ text, nameOf path name = .ok text) ↔ ∀ value, name = some value → value.hasLongNumber = false := by
  constructor
  · rintro ⟨text, named⟩ value rfl
    rw [nameOf] at named
    split at named
    · cases named
    · rename_i short
      exact Bool.eq_false_iff.2 short
  · intro short
    cases name with
    | none => exact ⟨_, rfl⟩
    | some value => exact ⟨_, by rw [nameOf, short value rfl]; rfl⟩

theorem envOf_error_iff {env : Option Document} {crash : Crash} :
    envOf env = .error crash ↔ ∃ value, env = some value ∧
      ((∃ entries, value.opened = .map entries ∧ Document.anyLongEntry entries = true ∧
          crash = .longNumber) ∨
        (∀ entries, value.opened ≠ .map entries) ∧ value.isGiven = true ∧
          crash = .noAttribute value "items") := by
  constructor
  · intro failed
    cases env with
    | none => cases failed
    | some value =>
      refine ⟨value, rfl, ?_⟩
      rw [envOf] at failed
      split at failed
      · rename_i entries mapping
        split at failed
        · rename_i long
          exact .inl ⟨entries, mapping, long, (Except.error.inj failed).symm⟩
        · cases failed
      · rename_i other
        split at failed
        · rename_i given
          exact .inr ⟨other, given, (Except.error.inj failed).symm⟩
        · cases failed
  · rintro ⟨value, rfl, ⟨entries, mapping, long, rfl⟩ | ⟨other, given, rfl⟩⟩
    · rw [envOf, mapping]
      exact if_pos long
    · rw [envOf]
      split
      · rename_i entries mapping
        exact absurd mapping (other entries)
      · rw [if_pos given]

section

variable {path : Files.Path} {workflow : Workflow}

theorem listing_error_iff {failure : Failure} : workflow.listing path.text = .error failure ↔
    ∃ wrap raised, Raises path.text workflow wrap raised ∧ guarded wrap raised = failure := by
  constructor
  · intro failed
    rw [listing] at failed
    split at failed
    · rename_i raised here
      exact ⟨_, raised, .loading here, Except.error.inj failed⟩
    · rename_i loaded
      split at failed
      · cases failed
      · rename_i raised there
        exact ⟨_, raised, .routine loaded there, Except.error.inj failed⟩
      · cases failed
  · rintro ⟨_, raised, ⟨here⟩ | ⟨loaded, there⟩, rfl⟩
    · rw [listing, here]
    · rw [listing, loaded, there]

theorem not_raises_of_listing {offered : Option Listing} (listed : workflow.listing path.text = .ok offered)
    (wrap : String → Problem) (failure : Failure) : ¬Raises path.text workflow wrap failure := by
  intro raised
  rw [listing_error_iff.2 ⟨wrap, failure, raised, rfl⟩] at listed
  cases listed

theorem not_raises_of_offers {jobs : List Job} (offers : workflow.Offers jobs) (wrap : String → Problem)
    (failure : Failure) : ¬Raises path.text workflow wrap failure :=
  not_raises_of_listing (listing_ok_iff.2 offers) wrap failure

theorem fails_of_raises {wrap : String → Problem} {raised : Failure}
    (raises : Raises path.text workflow wrap raised) : Fails path workflow (guarded wrap raised) := by
  cases raised with
  | problem problem => exact .passed raises
  | crash crash =>
    rw [guarded]
    split
    · rename_i interrupt
      exact .interrupted raises interrupt
    · rename_i calm
      exact .wrapped raises (Bool.eq_false_iff.2 calm)

theorem breaks_iff (path : Files.Path) {crash : Crash} : workflow.Breaks crash ↔
    nameOf path workflow.name = .error crash ∨
      (∃ name, nameOf path workflow.name = .ok name) ∧ envOf workflow.env = .error crash := by
  rw [nameOf_error_iff, nameOf_ok_iff, envOf_error_iff]
  constructor
  · rintro (⟨bound, long⟩ | ⟨bound, mapping, long⟩ | ⟨bound, given, other, short⟩)
    · exact .inl ⟨_, bound, long, rfl⟩
    · by_cases short : ∀ name, workflow.name = some name → name.hasLongNumber = false
      · exact .inr ⟨short, _, bound, .inl ⟨_, mapping, long, rfl⟩⟩
      · push Not at short
        obtain ⟨name, named, long⟩ := short
        exact .inl ⟨name, named, Bool.eq_true_of_not_eq_false long, rfl⟩
    · exact .inr ⟨short, _, bound, .inr ⟨other, given, rfl⟩⟩
  · rintro (⟨value, bound, long, rfl⟩ |
      ⟨short, value, bound, ⟨entries, mapping, long, rfl⟩ | ⟨other, given, rfl⟩⟩)
    · exact .name bound long
    · exact .number bound mapping long
    · exact .noMapping bound given other short

theorem toPipeline_of_offers {jobs : List Job} (offers : workflow.Offers jobs) :
    workflow.toPipeline path = (do
      let name ← (nameOf path workflow.name).mapError .crash
      let env ← (envOf workflow.env).mapError .crash
      return ⟨name, jobs, env, []⟩) := by
  rw [toPipeline, listing_ok_iff.2 offers]
  dsimp only [bind, Except.bind]
  rw [jobsOf?_eq_some_iff.2 rfl]

theorem toPipeline_of_offers_error_iff {jobs : List Job} (offers : workflow.Offers jobs) {failure : Failure} :
    workflow.toPipeline path = .error failure ↔ ∃ crash, workflow.Breaks crash ∧ failure = .crash crash := by
  simp only [toPipeline_of_offers offers, breaks_iff path]
  cases named : nameOf path workflow.name with
  | error crash => simp [bind, Except.bind, Except.mapError, eq_comm]
  | ok name =>
    cases bound : envOf workflow.env with
    | error crash => simp [bind, Except.bind, Except.mapError, eq_comm]
    | ok env => simp [bind, Except.bind, Except.mapError, pure, Except.pure]

theorem toPipeline_of_raises {wrap : String → Problem} {raised : Failure}
    (raises : Raises path.text workflow wrap raised) :
    workflow.toPipeline path = .error (guarded wrap raised) := by
  rw [toPipeline, listing_error_iff.2 ⟨wrap, raised, raises, rfl⟩]
  rfl

theorem toPipeline_of_idle (ended : ∀ wrap failure, ¬Raises path.text workflow wrap failure)
    (none : ∀ jobs, ¬workflow.Offers jobs) :
    workflow.toPipeline path = .error (.problem (.workflowWithoutJobs path.text)) := by
  rw [toPipeline]
  cases listed : workflow.listing path.text with
  | error failure =>
    obtain ⟨wrap, raised, raises, _⟩ := listing_error_iff.1 listed
    exact absurd raises (ended wrap raised)
  | ok offered =>
    cases named : jobsOf? offered with
    | none => simp only [bind, Except.bind, named]; rfl
    | some jobs =>
      rw [jobsOf?_eq_some_iff.1 named] at listed
      exact absurd (listing_ok_iff.1 listed) (none jobs)

theorem toPipeline_error_iff {failure : Failure} :
    workflow.toPipeline path = .error failure ↔ Fails path workflow failure := by
  constructor
  · intro failed
    by_cases raises : ∃ wrap raised, Raises path.text workflow wrap raised
    · obtain ⟨wrap, raised, raises⟩ := raises
      rw [toPipeline_of_raises raises] at failed
      exact Except.error.inj failed ▸ fails_of_raises raises
    · have ended : ∀ wrap failure, ¬Raises path.text workflow wrap failure :=
        fun wrap raised here => raises ⟨wrap, raised, here⟩
      by_cases offers : ∃ jobs, workflow.Offers jobs
      · obtain ⟨jobs, offers⟩ := offers
        obtain ⟨crash, breaks, rfl⟩ := (toPipeline_of_offers_error_iff offers).1 failed
        exact .broken offers breaks
      · have none : ∀ jobs, ¬workflow.Offers jobs := fun jobs here => offers ⟨jobs, here⟩
        rw [toPipeline_of_idle ended none] at failed
        exact Except.error.inj failed ▸ .idle ended none
  · intro fails
    cases fails with
    | passed raises => exact toPipeline_of_raises raises
    | wrapped raises calm =>
      rw [toPipeline_of_raises raises, guarded, calm]
      rfl
    | interrupted raises interrupt => rw [toPipeline_of_raises raises, guarded, if_pos interrupt]
    | idle ended none => exact toPipeline_of_idle ended none
    | broken offers breaks => exact (toPipeline_of_offers_error_iff offers).2 ⟨_, breaks, rfl⟩

theorem told_iff_forall : Told path workflow ↔ ∀ crash, ¬Fails path workflow (.crash crash) := by
  simp only [← toPipeline_error_iff]
  rw [Told]
  cases workflow.toPipeline path with
  | ok pipeline => simp
  | error failure => cases failure <;> simp

end

/-- The promise is kept unless the program of the workflow is interrupted, or jobs are offered but the values for
name or environment cannot be taken. Problems that the program raises pass through as they are, its other
failures become problems of parsing with their kind and text in the message, and so do workflows without jobs. -/
theorem told_iff (path : Files.Path) (workflow : Workflow) :
    (Told path workflow ↔
      (∀ wrap crash, Raises path.text workflow wrap (.crash crash) → crash.isInterrupt = false) ∧
        ∀ jobs, workflow.Offers jobs → ∀ crash, ¬workflow.Breaks crash) ∧
    (∀ failure, workflow.toPipeline path = .error failure ↔ Fails path workflow failure) ∧
    ∀ wrap raised, Raises path.text workflow wrap raised →
      ∀ text, (wrap text).kind = .parse ∧ ∃ front, (wrap text).message = front ++ text := by
  refine ⟨?_, fun _ => toPipeline_error_iff, fun wrap raised raises text => ?_⟩
  · rw [told_iff_forall]
    constructor
    · refine fun told => ⟨fun wrap crash raises => Bool.eq_false_iff.2 fun interrupt => ?_,
        fun jobs offers crash breaks => told crash (.broken offers breaks)⟩
      exact told crash (.interrupted raises interrupt)
    · rintro ⟨calm, fit⟩ crash fails
      cases fails with
      | interrupted raises interrupt =>
        rw [calm _ _ raises] at interrupt
        cases interrupt
      | broken offers breaks => exact fit _ offers _ breaks
  · cases raises with
    | loading => exact ⟨rfl, _, rfl⟩
    | routine => exact ⟨rfl, _, rfl⟩

def unmapped : Workflow := { sampleBound with env := some (.list [.text "A=1"]) }

/-- Nothing is raised, and jobs are offered, but the environment ends in a crash. -/
theorem not_told : (∀ wrap failure, ¬Raises "/ws/sample.py" unmapped wrap failure) ∧
    unmapped.Offers Schedule.sample.jobs ∧
    unmapped.toPipeline (Files.Path.ofText "/ws/sample.py") =
      .error (.crash ⟨"AttributeError", "'list' object has no attribute 'items'"⟩) ∧
    ¬∀ path workflow, (∀ wrap crash, Raises (Files.Path.text path) workflow wrap (.crash crash) →
      crash.isInterrupt = false) → Told path workflow := by
  have offers : unmapped.Offers Schedule.sample.jobs := .bound rfl (.inl rfl) rfl
  have broken : unmapped.toPipeline (Files.Path.ofText "/ws/sample.py") =
      .error (.crash ⟨"AttributeError", "'list' object has no attribute 'items'"⟩) := by
    with_unfolding_all rfl
  have calm : ∀ wrap failure, ¬Raises "/ws/sample.py" unmapped wrap failure := by
    rintro _ _ (raised | ⟨_, raised⟩) <;> cases raised
  refine ⟨calm, offers, broken, fun promised => ?_⟩
  have told := promised (Files.Path.ofText "/ws/sample.py") unmapped fun wrap crash raises =>
    absurd raises (not_raises_of_offers offers wrap _)
  exact told_iff_forall.1 told _ (toPipeline_error_iff.1 broken)

end CiPipeline.Workflow
