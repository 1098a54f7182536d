import CiPipeline.Proofs.Schedule.Order

/-! Storing the result of an instance that has been taken out. A success frees what waits for nothing else,
anything else cancels what waits for it, and the order of the schedule is kept either way. -/
namespace CiPipeline.Schedule

variable {ω : Type} {plan : Plan} {submitted ended : List String}

theorem hasSucceeded_put {results : Keyed JobResult} {id need : String} {result : JobResult} :
    hasSucceeded (results.put id result) need =
      if need = id then result.ok else hasSucceeded results need := by
  rw [hasSucceeded, Keyed.get?_put]
  split <;> rfl

theorem length_openNeeds_put (sound : plan.Sound) {results : Keyed JobResult} {id : String}
    {result : JobResult} (good : result.ok = true) (missing : results.get? id = none)
    (other : String) :
    (openNeeds plan results other).length =
      (openNeeds plan (results.put id result) other).length +
        if other ∈ plan.dependents id then 1 else 0 := by
  refine length_awaited sound (hasSucceeded_of_none missing) ?_ (fun need different => ?_) other
  · rw [hasSucceeded_put, if_pos rfl, good]
  · rw [hasSucceeded_put, if_neg different]

structure Taken (plan : Plan) (submitted ended : List String) (state : State ω) (id : String)
    (rest : List String) : Prop where
  orderly : Orderly plan submitted ended state
  ready : state.ready = []
  running : state.running.Perm (id :: rest)

namespace Taken

variable {state : State ω} {id : String} {rest : List String}

theorem mem_running (taken : Taken plan submitted ended state id rest) : id ∈ state.running :=
  taken.running.mem_iff.2 List.mem_cons_self

theorem missing (taken : Taken plan submitted ended state id rest) :
    state.results.get? id = none :=
  taken.orderly.running_open taken.mem_running

theorem mem_submitted (taken : Taken plan submitted ended state id rest) : id ∈ submitted :=
  taken.orderly.partition.mem_iff.2 (List.mem_append_right _ taken.mem_running)

theorem partition (taken : Taken plan submitted ended state id rest) :
    submitted.Perm (ended ++ [id] ++ rest) := by
  rw [List.append_assoc, List.singleton_append]
  exact taken.orderly.partition.trans (taken.running.append_left _)

theorem rest_apart (taken : Taken plan submitted ended state id rest) {other : String}
    (member : other ∈ rest) : other ≠ id ∧ other ∈ state.running ∧ other ∈ submitted := by
  have distinct := taken.partition.nodup_iff.1 taken.orderly.submitted_nodup
  have apart := (List.nodup_append.1 distinct).2.2 id (by simp) other member
  exact ⟨apart.symm, taken.running.mem_iff.2 (List.mem_cons_of_mem _ member),
    taken.partition.mem_iff.2 (List.mem_append_right _ member)⟩

theorem waits (taken : Taken plan submitted ended state id rest) {other : String}
    (here : other ∈ plan.ids) (fresh : other ∉ submitted) :
    openNeeds plan state.results other ≠ [] := by
  intro empty
  have ready := taken.orderly.mem_ready.2 ⟨here, fresh, empty⟩
  rw [taken.ready] at ready
  cases ready

end Taken

section

variable {state later : State ω} {id : String} {rest : List String} {result : JobResult}

theorem get?_put_of_ne {results : Keyed JobResult} {other : String} (different : other ≠ id) :
    (results.put id result).get? other = results.get? other := by
  rw [Keyed.get?_put, if_neg different]

theorem Taken.get?_put (taken : Taken plan submitted ended state id rest) {other : String}
    {stored : JobResult} (found : state.results.get? other = some stored) :
    (state.results.put id result).get? other = some stored := by
  rw [get?_put_of_ne, found]
  rintro rfl
  rw [taken.missing] at found
  cases found

theorem spoiled_put_iff (taken : Taken plan submitted ended state id rest) (good : result.ok = true)
    {need : String} : Spoiled (state.results.put id result) need ↔ Spoiled state.results need := by
  constructor
  · rintro ⟨other, found, bad⟩
    refine ⟨other, ?_, bad⟩
    rwa [get?_put_of_ne] at found
    rintro rfl
    rw [Keyed.get?_put_self, Option.some.injEq] at found
    rw [← found, good] at bad
    cases bad
  · rintro ⟨other, found, bad⟩
    exact ⟨other, taken.get?_put found, bad⟩

theorem recorded_succeeded (taken : Taken plan submitted ended state id rest)
    (own : result.inst.id = id) (good : result.ok = true) :
    Recorded plan submitted (ended ++ [id]) (state.results.put id result) := by
  have orderly := taken.orderly
  refine ⟨fun {other} member => ⟨(orderly.submitted_free member).1, ?_⟩, fun {other} member => ?_,
    fun {other stored} found => ?_, fun {other stored} found fresh => ?_, fun waited spoiled => ?_,
    Keyed.nodup_names_put orderly.names_nodup _ _⟩
  · refine openNeeds_eq_nil_iff.2 fun need waited => ?_
    rw [hasSucceeded_put, openNeeds_eq_nil_iff.1 (orderly.submitted_free member).2 need waited, good, ite_self]
  · rcases List.mem_append.1 member with old | new
    · obtain ⟨stored, found⟩ := Option.isSome_iff_exists.1 (orderly.ended_settled old)
      rw [taken.get?_put found]
      rfl
    · rw [List.mem_singleton.1 new, Keyed.get?_put_self]
      rfl
  · rw [Keyed.get?_put] at found
    split at found
    · rename_i here
      obtain rfl := Option.some.inj found
      exact ⟨(orderly.submitted_free (here ▸ taken.mem_submitted)).1, own.trans here.symm⟩
    · exact orderly.known found
  · have different : other ≠ id := fun same => fresh (same ▸ taken.mem_submitted)
    rw [get?_put_of_ne different] at found
    obtain ⟨cancelled, need, waited, spoiled⟩ := orderly.spared found fresh
    exact ⟨cancelled, need, waited, (spoiled_put_iff taken good).2 spoiled⟩
  · obtain ⟨stored, found⟩ := Option.isSome_iff_exists.1
      (orderly.closed waited ((spoiled_put_iff taken good).1 spoiled))
    rw [taken.get?_put found]
    rfl

theorem freed_iff (sound : plan.Sound) (taken : Taken plan submitted ended state id rest)
    (good : result.ok = true) {other : String} :
    (other ∈ plan.dependents id ∧ state.pending.get? other = some 1 ∧
        (state.results.put id result).get? other = none) ↔
      other ∈ plan.ids ∧ other ∉ submitted ∧ openNeeds plan (state.results.put id result) other = [] := by
  have orderly := taken.orderly
  have count := length_openNeeds_put sound good taken.missing other
  constructor
  · rintro ⟨waiting, one, _⟩
    have here := (sound.known (sound.mem_dependents.1 waiting)).2
    rw [if_pos waiting] at count
    rw [orderly.pending here, Option.some.injEq] at one
    refine ⟨here, fun old => ?_, ?_⟩
    · rw [(orderly.submitted_free old).2] at one
      cases one
    · rw [← List.length_eq_zero_iff]
      omega
  · rintro ⟨here, fresh, empty⟩
    have some_open := List.length_pos_iff.2 (taken.waits here fresh)
    have waiting : other ∈ plan.dependents id := by
      by_contra apart
      rw [if_neg apart, empty, List.length_nil] at count
      omega
    rw [if_pos waiting, empty, List.length_nil] at count
    refine ⟨waiting, ?_, ?_⟩
    · rw [orderly.pending here]
      congr 1
      omega
    · have different : other ≠ id := fun same => fresh (same ▸ taken.mem_submitted)
      rw [get?_put_of_ne different]
      cases found : state.results.get? other with
      | none => rfl
      | some stored =>
        obtain ⟨_, need, waited, spoiled⟩ := orderly.spared found fresh
        have still := (spoiled_put_iff taken good).2 spoiled
        exact absurd empty (openNeeds_ne_nil waited (not_hasSucceeded_of_spoiled still))

theorem queued_succeeded (sound : plan.Sound) (taken : Taken plan submitted ended state id rest)
    (good : result.ok = true) {world : ω}
    (unlocked : Unlocked plan (plan.dependents id)
      { state with running := rest, results := state.results.put id result, world := world } later) :
    Queued plan submitted later := by
  have names := unlocked.names_ready taken.ready
  refine ⟨fun {other} here => ?_, unlocked.ready_index taken.ready,
    unlocked.sorted (taken.ready ▸ List.Pairwise.nil),
    names.nodup_iff.2 ((sound.dependents_nodup id).filter _), fun {other} => ?_⟩
  · rw [unlocked.results]
    exact unlocked.get?_pending (taken.orderly.pending here)
      (length_openNeeds_put sound good taken.missing other)
  · rw [names.mem_iff, List.mem_filter, Bool.and_eq_true, decide_eq_true_eq,
      Option.isNone_iff_eq_none, freed_iff sound taken good, unlocked.results]

theorem orderly_succeeded (sound : plan.Sound) (taken : Taken plan submitted ended state id rest)
    (own : result.inst.id = id) (good : result.ok = true) {world : ω}
    (unlocked : Unlocked plan (plan.dependents id)
      { state with running := rest, results := state.results.put id result, world := world } later) :
    Orderly plan submitted (ended ++ [id]) later := by
  refine ⟨queued_succeeded sound taken good unlocked, ?_, taken.orderly.submitted_nodup, ?_,
    fun {other} member => ?_⟩
  · rw [unlocked.results]
    exact recorded_succeeded taken own good
  · rw [unlocked.running]
    exact taken.partition
  · rw [unlocked.running] at member
    obtain ⟨different, still, _⟩ := taken.rest_apart member
    rw [unlocked.results, get?_put_of_ne different]
    exact taken.orderly.running_open still

end

section

variable {results later : Keyed JobResult} {id culprit : String} {result : JobResult}

theorem exists_cause (sound : plan.Sound)
    (cascaded : Cascaded plan.instances plan.graph.dependents culprit results (plan.dependents id)
      later) {other : String} (fresh : Fresh results later other) :
    ∃ need ∈ plan.prereqs other, need = id ∨ Fresh results later need := by
  cases (cascaded.fresh fresh).1 with
  | top member => exact ⟨id, sound.mem_dependents.1 member, .inl rfl⟩
  | @behind need _ _ cancelled member => exact ⟨need, sound.mem_dependents.1 member, .inr cancelled⟩

theorem get?_of_fresh (sound : plan.Sound)
    (cascaded : Cascaded plan.instances plan.graph.dependents culprit results (plan.dependents id)
      later) {other : String} (fresh : Fresh results later other) :
    other ∈ plan.ids ∧ later.get? other = some (.cancelled (plan.inst other) culprit) := by
  obtain ⟨need, waited, _⟩ := exists_cause sound cascaded fresh
  have here := (sound.known waited).2
  obtain ⟨_, inst, found, read⟩ := cascaded.fresh fresh
  rw [sound.found here, Option.some.injEq] at found
  exact ⟨here, found ▸ read⟩

theorem spoiled_of_fresh (sound : plan.Sound)
    (cascaded : Cascaded plan.instances plan.graph.dependents culprit results (plan.dependents id)
      later) {other : String} (fresh : Fresh results later other) : Spoiled later other :=
  ⟨_, (get?_of_fresh sound cascaded fresh).2, rfl⟩

end

section

variable {state : State ω} {id culprit : String} {rest : List String} {result : JobResult}
  {later : Keyed JobResult} {other : String} (sound : plan.Sound)
  (taken : Taken plan submitted ended state id rest) (bad : result.ok = false)
  (cascaded : Cascaded plan.instances plan.graph.dependents culprit (state.results.put id result)
    (plan.dependents id) later)

include cascaded

theorem get?_culprit : later.get? id = some result := cascaded.kept (Keyed.get?_put_self ..)

include taken

theorem cases_cascaded {stored : JobResult} (found : later.get? other = some stored) :
    state.results.get? other = some stored ∨ other = id ∨
      Fresh (state.results.put id result) later other := by
  by_cases same : other = id
  · exact .inr (.inl same)
  · cases before : state.results.get? other with
    | some old =>
      rw [cascaded.kept (taken.get?_put before)] at found
      exact .inl found
    | none =>
      refine .inr (.inr ⟨?_, by rw [found]; rfl⟩)
      rw [get?_put_of_ne same, before]

omit taken

include sound bad

theorem exists_spoiled_of_fresh (fresh : Fresh (state.results.put id result) later other) :
    ∃ need ∈ plan.prereqs other, Spoiled later need := by
  obtain ⟨need, waited, rfl | cancelled⟩ := exists_cause sound cascaded fresh
  · exact ⟨need, waited, result, get?_culprit cascaded, bad⟩
  · exact ⟨need, waited, spoiled_of_fresh sound cascaded cancelled⟩

include taken

theorem hasSucceeded_cascaded (other : String) :
    hasSucceeded later other = hasSucceeded state.results other := by
  cases before : state.results.get? other with
  | some old =>
    rw [hasSucceeded_of_get? (cascaded.kept (taken.get?_put before)), hasSucceeded_of_get? before]
  | none =>
    rw [hasSucceeded_of_none before]
    cases found : later.get? other with
    | none => rw [hasSucceeded_of_none found]
    | some stored =>
      rcases cases_cascaded taken cascaded found with old | rfl | fresh
      · rw [before] at old
        cases old
      · rw [hasSucceeded_of_get? (get?_culprit cascaded), bad]
      · exact not_hasSucceeded_of_spoiled (spoiled_of_fresh sound cascaded fresh)

theorem openNeeds_cascaded (other : String) :
    openNeeds plan later other = openNeeds plan state.results other :=
  List.filter_congr fun need _ => by rw [hasSucceeded_cascaded sound taken bad cascaded]

theorem not_fresh_of_submitted (old : other ∈ submitted) :
    ¬Fresh (state.results.put id result) later other := by
  intro fresh
  obtain ⟨need, waited, spoiled⟩ := exists_spoiled_of_fresh sound bad cascaded fresh
  refine openNeeds_ne_nil waited (not_hasSucceeded_of_spoiled spoiled) ?_
  rw [openNeeds_cascaded sound taken bad cascaded]
  exact (taken.orderly.submitted_free old).2

theorem recorded_spoiled (own : result.inst.id = id) :
    Recorded plan submitted (ended ++ [id]) later := by
  have orderly := taken.orderly
  refine ⟨fun {other} member => ?_, fun {other} member => ?_, fun {other stored} found => ?_,
    fun {other stored} found fresh => ?_, fun {need other} waited spoiled => ?_,
    cascaded.nodup (Keyed.nodup_names_put orderly.names_nodup _ _)⟩
  · rw [openNeeds_cascaded sound taken bad cascaded]
    exact orderly.submitted_free member
  · rcases List.mem_append.1 member with old | new
    · obtain ⟨stored, found⟩ := Option.isSome_iff_exists.1 (orderly.ended_settled old)
      rw [cascaded.kept (taken.get?_put found)]
      rfl
    · rw [List.mem_singleton.1 new, get?_culprit cascaded]
      rfl
  · rcases cases_cascaded taken cascaded found with before | rfl | fresh
    · exact orderly.known before
    · rw [get?_culprit cascaded, Option.some.injEq] at found
      exact ⟨(orderly.submitted_free taken.mem_submitted).1, found ▸ own⟩
    · obtain ⟨there, read⟩ := get?_of_fresh sound cascaded fresh
      rw [read, Option.some.injEq] at found
      exact ⟨there, found ▸ sound.id_inst there⟩
  · rcases cases_cascaded taken cascaded found with before | rfl | new
    · obtain ⟨cancelled, need, waited, other, found', worse⟩ := orderly.spared before fresh
      exact ⟨cancelled, need, waited, other, cascaded.kept (taken.get?_put found'), worse⟩
    · exact absurd taken.mem_submitted fresh
    · obtain ⟨_, read⟩ := get?_of_fresh sound cascaded new
      rw [read, Option.some.injEq] at found
      exact ⟨⟨culprit, found.symm⟩, exists_spoiled_of_fresh sound bad cascaded new⟩
  · have there : (plan.instances.get? other).isSome := by
      rw [sound.found (sound.known waited).2]
      rfl
    have waiting := sound.mem_dependents.2 waited
    obtain ⟨stored, found, worse⟩ := spoiled
    rcases cases_cascaded taken cascaded found with before | rfl | fresh
    · obtain ⟨old, found'⟩ :=
        Option.isSome_iff_exists.1 (orderly.closed waited ⟨stored, before, worse⟩)
      rw [cascaded.kept (taken.get?_put found')]
      rfl
    · exact cascaded.top waiting there
    · exact cascaded.below fresh waiting there

end

theorem orderly_spoiled (sound : plan.Sound) {state later : State ω} {id culprit : String}
    {rest : List String} {result : JobResult} (taken : Taken plan submitted ended state id rest)
    (own : result.inst.id = id) (bad : result.ok = false)
    (cascaded : Cascaded plan.instances plan.graph.dependents culprit
      (state.results.put id result) (plan.dependents id) later.results)
    (pending : later.pending = state.pending) (ready : later.ready = state.ready)
    (running : later.running = rest) : Orderly plan submitted (ended ++ [id]) later := by
  have orderly := taken.orderly
  have same_open := openNeeds_cascaded sound taken bad cascaded
  refine ⟨⟨fun here => ?_, fun member => orderly.ready_index (ready ▸ member),
      ready ▸ orderly.ready_sorted, ready ▸ orderly.ready_nodup, fun {other} => ?_⟩,
    recorded_spoiled sound taken bad cascaded own, orderly.submitted_nodup,
    running ▸ taken.partition, fun {other} member => ?_⟩
  · rw [pending, same_open]
    exact orderly.pending here
  · rw [ready, same_open]
    exact orderly.mem_ready
  · obtain ⟨different, still, old⟩ := taken.rest_apart (running ▸ member)
    cases found : later.results.get? other with
    | none => rfl
    | some stored =>
      rcases cases_cascaded taken cascaded found with before | same | fresh
      · rw [orderly.running_open still] at before
        cases before
      · exact absurd same different
      · exact absurd fresh (not_fresh_of_submitted sound taken bad cascaded old)

end CiPipeline.Schedule
