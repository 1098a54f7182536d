import CiPipeline.Proofs.Schedule.Outcome

/-! Why instances are cancelled. A schedule goes from one instance that ends to the next; each of these
episodes stores the result, unless there is one under its name, then a cancellation for everything that is out of
reach because of it, and announces those cancellations. So the culprit that a cancellation names has run and failed
before. -/
namespace CiPipeline.Schedule

variable {ω : Type} {plan : Plan} {console : Console} {runner : Runner ω}

/-- What is seen of a schedule from outside. -/
inductive Event
  | ended (inst : Instance) (answer : Except Failure JobResult)
  | told (line : Line)

def Runner.chronicled (runner : Runner ω) : Runner (ω × List Event) where
  run inst world :=
    let ended := runner.run inst world.1
    (ended.1, (ended.2, world.2 ++ [.ended inst ended.1]))
  tell lines world := (runner.tell lines world.1, world.2 ++ lines.map .told)

theorem maps_chronicled (runner : Runner ω) : runner.chronicled.Maps Prod.fst runner :=
  ⟨fun _ _ => rfl, fun _ _ => rfl⟩

def farewell (culprit : String) (inst : Instance) : List Line :=
  Console.jobCancelled inst.id ("prerequisite '" ++ culprit ++ "' did not succeed")

/-- One turn of a schedule, seen from outside: who ended, with which answer, what was stored of it, and who was
cancelled. -/
structure Episode where
  inst : Instance
  answer : Except Failure JobResult
  stored : Keyed JobResult
  cancelled : List Instance

namespace Episode

def result (episode : Episode) : JobResult := answerOf episode.inst episode.answer

def results (episode : Episode) : Keyed JobResult :=
  episode.stored ++ cancellations episode.inst.id episode.cancelled

def complaint (console : Console) : Except Failure JobResult → List Line
  | .ok _ => []
  | .error failure => console.failure failure

def events (console : Console) (episode : Episode) : List Event :=
  .ended episode.inst episode.answer ::
    (complaint console episode.answer ++
      episode.cancelled.flatMap (farewell episode.inst.id)).map .told

/-- An episode of a plan: it stores nothing but its answer, and this for certain where no result is that of another
instance, and it cancels only behind an instance that did not succeed. -/
structure Of (plan : Plan) (runner : Runner ω) (episode : Episode) : Prop where
  here : episode.inst.id ∈ plan.ids
  found : plan.instances.get? episode.inst.id = some episode.inst
  answered : ∃ world, (runner.run episode.inst world).1 = episode.answer
  stores : ∀ entry ∈ episode.stored, entry.2 = episode.result
  kept : runner.Own → (episode.inst.id, episode.result) ∈ episode.stored
  cancels : ∀ inst ∈ episode.cancelled, episode.result.ok = false ∧
    plan.Precedes episode.inst.id inst.id ∧ plan.instances.get? inst.id = some inst

end Episode

theorem Hit.precedes (sound : plan.Sound) {fresh : String → Prop} {need id : String}
    (hit : Hit plan.graph.dependents fresh (plan.dependents need) id) : plan.Precedes need id := by
  induction hit with
  | top member => exact .single (sound.mem_dependents.1 member)
  | behind _ _ member ih => exact .tail ih (sound.mem_dependents.1 member)

theorem precedes_of_cancelled (sound : plan.Sound) {culprit id : String} {results : Keyed JobResult}
    {cancelled : List Instance} (distinct : results.names.Nodup)
    (same : (cascade plan.instances plan.graph.dependents culprit results (plan.dependents id)).2 =
      results ++ cancellations culprit cancelled)
    {inst : Instance} (member : inst ∈ cancelled) : plan.Precedes id inst.id := by
  have cascaded : Cascaded plan.instances plan.graph.dependents culprit results (plan.dependents id)
      (results ++ cancellations culprit cancelled) := same ▸ cascaded_cascade sound.own
  have names : Keyed.names (results ++ cancellations culprit cancelled) =
      results.names ++ cancelled.map Instance.id := by
    rw [Keyed.names_append, names_cancellations]
  have added : inst.id ∈ cancelled.map Instance.id := List.mem_map_of_mem member
  have apart := cascaded.nodup distinct
  rw [names] at apart
  have fresh : Fresh results (results ++ cancellations culprit cancelled) inst.id := by
    refine ⟨Keyed.get?_eq_none_iff.2 fun old => List.disjoint_of_nodup_append apart old added, ?_⟩
    rw [Keyed.isSome_get?_iff, names]
    exact List.mem_append_right _ added
  exact (cascaded.fresh fresh).1.precedes sound

theorem tell_chronicled (lines : List Line) (world : ω × List Event) :
    (runner.chronicled.tell lines world).2 = world.2 ++ lines.map .told := rfl

theorem exists_stored (state : State ω) (result : JobResult) (distinct : state.results.names.Nodup) :
    ∃ stored : Keyed JobResult, (state.store result).results = state.results ++ stored ∧
      (∀ entry ∈ stored, entry.2 = result) ∧
      (state.results.get? result.inst.id = none → (result.inst.id, result) ∈ stored) ∧
      (state.store result).results.names.Nodup := by
  cases found : state.results.get? result.inst.id with
  | some old =>
    have kept : (state.store result).results = state.results := by
      rw [State.store, record, found]
      rfl
    exact ⟨[], by rw [kept, List.append_nil], fun _ none => absurd none List.not_mem_nil,
      fun none => (Option.some_ne_none _ none).elim, kept ▸ distinct⟩
  | none =>
    have put : (state.store result).results = state.results.put result.inst.id result := by
      rw [store_results found]
    refine ⟨[(result.inst.id, result)], ?_, fun entry member => ?_, fun _ => List.mem_singleton_self _, ?_⟩
    · rw [put, Keyed.put_of_not_mem (Keyed.get?_eq_none_iff.1 found)]
    · rw [List.mem_singleton.1 member]
    · rw [put]
      exact Keyed.nodup_names_put distinct _ _

variable (runner) in
theorem settle_chronicled (sound : plan.Sound) (state : State (ω × List Event)) (id : String)
    (result : JobResult) (distinct : state.results.names.Nodup) :
    ∃ (stored : Keyed JobResult) (cancelled : List Instance),
      (state.settle plan runner.chronicled id result).results =
        state.results ++ (stored ++ cancellations id cancelled) ∧
      (state.settle plan runner.chronicled id result).results.names.Nodup ∧
      (state.settle plan runner.chronicled id result).world.2 = state.world.2 ++
        (cancelled.flatMap (farewell id)).map .told ∧
      (∀ entry ∈ stored, entry.2 = result) ∧
      (state.results.get? result.inst.id = none → (result.inst.id, result) ∈ stored) ∧
      ∀ inst ∈ cancelled, result.ok = false ∧ plan.Precedes id inst.id ∧
        plan.instances.get? inst.id = some inst := by
  obtain ⟨stored, same, stores, kept, distinct_store⟩ := exists_stored state result distinct
  rw [State.settle]
  split
  · refine ⟨stored, [], ?_, ?_, ?_, stores, kept, fun _ none => absurd none List.not_mem_nil⟩
    · rw [(frame_foldl_unlock _ _).1, same]
      exact congrArg (state.results ++ ·) (List.append_nil stored).symm
    · rwa [(frame_foldl_unlock _ _).1]
    · rw [(frame_foldl_unlock _ _).2]
      exact (List.append_nil _).symm
  · rename_i bad
    obtain ⟨cancelled, fallen, known⟩ := exists_cancelled plan.graph.dependents id
      (state.store result).results (plan.dependents id) sound.own
    have cascaded : Cascaded plan.instances plan.graph.dependents id (state.store result).results
        (plan.dependents id) _ := cascaded_cascade sound.own
    refine ⟨stored, cancelled, ?_, cascaded.nodup distinct_store, ?_, stores, kept,
      fun inst member => ⟨Bool.not_eq_true _ ▸ bad,
        precedes_of_cancelled sound distinct_store (congrArg Prod.snd fallen) member, known inst member⟩⟩
    · dsimp only [State.say]
      rw [fallen, same, List.append_assoc]
    · dsimp only [State.say]
      rw [tell_chronicled, fallen, List.flatMap_map]
      rfl

theorem complete_chronicled {state later : State (ω × List Event)} {id : String}
    {answer : Except Failure JobResult}
    (answered : (runner.run (plan.inst id) state.world.1).1 = answer)
    (completed : complete plan console runner.chronicled id state = (later, none)) :
    ∃ world, later = State.settle plan runner.chronicled id (answerOf (plan.inst id) answer)
      { state with world := (world, state.world.2 ++
        .ended (plan.inst id) answer :: (Episode.complaint console answer).map .told) } := by
  have ran : runner.chronicled.run (plan.inst id) state.world =
      (answer, (runner.run (plan.inst id) state.world.1).2,
        state.world.2 ++ [.ended (plan.inst id) answer]) := by
    rw [← answered]
    rfl
  rw [complete, ran] at completed
  cases answer with
  | ok result => exact ⟨_, (Prod.mk.inj completed).1.symm⟩
  | error failure =>
    dsimp only at completed
    split at completed
    · cases (Prod.mk.inj completed).2
    · refine ⟨(runner.tell (console.failure failure) (runner.run (plan.inst id) state.world.1).2), ?_⟩
      rw [← (Prod.mk.inj completed).1, State.say, Runner.chronicled]
      dsimp only
      rw [List.append_assoc]
      rfl

theorem exists_episode (sound : plan.Sound) (state : State (ω × List Event))
    {later : State (ω × List Event)} {id : String} (here : id ∈ plan.ids)
    (distinct : state.results.names.Nodup) (missing : runner.Own → state.results.get? id = none)
    (completed : complete plan console runner.chronicled id state = (later, none)) :
    ∃ episode : Episode, episode.Of plan runner ∧ episode.inst.id = id ∧
      later.results = state.results ++ episode.results ∧ later.results.names.Nodup ∧
      later.world.2 = state.world.2 ++ episode.events console := by
  have named := sound.id_inst here
  obtain ⟨world, rfl⟩ := complete_chronicled rfl completed
  obtain ⟨stored, cancelled, results, distinct_later, log, stores, kept, cancels⟩ := settle_chronicled runner sound
    { state with world := (world, _) } id
    (answerOf (plan.inst id) (runner.run (plan.inst id) state.world.1).1) distinct
  refine ⟨⟨plan.inst id, (runner.run (plan.inst id) state.world.1).1, stored, cancelled⟩,
    ⟨named.symm ▸ here, ?_, ⟨_, rfl⟩, stores, fun own => ?_, ?_⟩, named, ?_, distinct_later, ?_⟩
  · rw [named]
    exact sound.found here
  · have result_own := own.answer (plan.inst id) state.world.1
    rw [result_own, named] at kept
    rw [named]
    exact kept (missing own)
  · rw [named]
    exact cancels
  · rw [Episode.results, named]
    exact results
  · refine log.trans ?_
    rw [Episode.events, named, List.map_append, List.append_assoc, List.cons_append]

theorem own_chronicled (own : runner.Own) : runner.chronicled.Own :=
  fun inst world => own inst world.1

theorem exists_episodes (sound : plan.Sound) {world : ω × List Event}
    {turns : List Turn} {state : State (ω × List Event)}
    (reached : Reaches plan console runner.chronicled (State.start plan world) turns state) :
    ∃ episodes : List Episode, (∀ episode ∈ episodes, episode.Of plan runner) ∧
      episodes.map (fun episode => episode.inst.id) = endedIn turns ∧
      state.results = episodes.flatMap Episode.results ∧ state.results.names.Nodup ∧
      state.world.2 = world.2 ++ episodes.flatMap (Episode.events console) := by
  induction reached with
  | start =>
    exact ⟨[], fun _ none => absurd none List.not_mem_nil, rfl, rfl, List.nodup_nil, (List.append_nil _).symm⟩
  | @turn turns state position id later before ends completed ih =>
    obtain ⟨done, counted⟩ := counted_of_reaches sound before
    have running := List.mem_of_getElem? ends
    have missing (own : runner.Own) : state.results.get? id = none :=
      (orderly_submit (orderly_of_reaches sound (own_chronicled own) before)).running_open running
    obtain ⟨episodes, of, ended, results, distinct, log⟩ := ih
    obtain ⟨episode, new, rfl, results', distinct', log'⟩ := exists_episode sound
      (state.takeOut position) (counted.submit.submitted_free (counted.submit.mem_submitted running)).1 distinct
      missing completed
    have taken : (state.takeOut position).results = state.results ∧
        (state.takeOut position).world = state.world := ⟨rfl, rfl⟩
    refine ⟨episodes ++ [episode], ?_, ?_, ?_, distinct', ?_⟩
    · simpa [or_imp, forall_and] using ⟨of, new⟩
    · rw [endedIn, List.map_append, List.map_append, ended]
      rfl
    · rw [results', taken.1, results, List.flatMap_append, List.flatMap_singleton]
    · rw [log', taken.2, log, List.flatMap_append, List.flatMap_singleton, List.append_assoc]

/-- A runner that gives results which are no cancellations, or breaks off without an interrupt. -/
structure Runner.Conclusive (runner : Runner ω) : Prop where
  uncancelled : ∀ inst world result,
    (runner.run inst world).1 = .ok result → result.outcome ≠ .cancelled
  calm : runner.Calm

section

variable {episode : Episode} (of : episode.Of plan runner) (conclusive : runner.Conclusive)

include of conclusive

theorem Episode.Of.uncancelled : episode.result.outcome ≠ .cancelled := by
  obtain ⟨world, answered⟩ := of.answered
  rw [Episode.result]
  cases answer : episode.answer with
  | ok result => exact conclusive.uncancelled _ _ _ (answered.trans answer)
  | error failure => simp [answerOf, brokenOff]

theorem Episode.Of.failed {inst : Instance} (member : inst ∈ episode.cancelled) :
    episode.result.outcome = .failed := by
  have bad := (of.cancels inst member).1
  have other := of.uncancelled conclusive
  rw [JobResult.ok] at bad
  cases outcome : episode.result.outcome with
  | succeeded => simp [outcome] at bad
  | failed => rfl
  | cancelled => exact absurd outcome other

end

/-- What an event says to the reader of the console, if anything. Breakdowns are told on the other channel. -/
def Event.spoken? : Event → Option Line
  | .ended _ _ => none
  | .told line => if line.channel = .out then some line else none

def Event.ran? : Event → Option String
  | .ended inst _ => some inst.id
  | .told _ => none

theorem filterMap_spoken?_told (lines : List Line) :
    (lines.map Event.told).filterMap Event.spoken? = lines.filter fun line => line.channel = .out := by
  rw [List.filterMap_map, ← List.filterMap_eq_filter]
  refine List.filterMap_congr fun line _ => ?_
  rw [Function.comp_apply, Event.spoken?, Option.guard]
  simp

theorem complaint_unspoken (console : Console) (answer : Except Failure JobResult) :
    (Episode.complaint console answer).filter (fun line => line.channel = .out) = [] := by
  rw [List.filter_eq_nil_iff]
  intro line member
  cases answer with
  | ok result => cases member
  | error failure =>
    rw [Episode.complaint, Console.failure] at member
    split at member <;> simp_all [Console.err]

theorem farewell_spoken (culprit : String) (cancelled : List Instance) :
    (cancelled.flatMap (farewell culprit)).filter (fun line => line.channel = .out) =
      cancelled.flatMap (farewell culprit) := by
  rw [List.filter_eq_self]
  intro line member
  obtain ⟨inst, _, there⟩ := List.mem_flatMap.1 member
  simp_all [farewell, Console.jobCancelled, Console.out]

theorem spoken_events (console : Console) (episode : Episode) :
    (episode.events console).filterMap Event.spoken? =
      episode.cancelled.flatMap (farewell episode.inst.id) := by
  rw [Episode.events, List.filterMap_cons_none rfl, filterMap_spoken?_told, List.filter_append,
    complaint_unspoken, farewell_spoken, List.nil_append]

theorem filterMap_ran?_told (lines : List Line) :
    (lines.map Event.told).filterMap Event.ran? = [] := by
  rw [List.filterMap_map]
  exact List.filterMap_eq_nil_iff.2 fun _ _ => rfl

theorem ran_events (console : Console) (episode : Episode) :
    (episode.events console).filterMap Event.ran? = [episode.inst.id] := by
  rw [Episode.events, List.filterMap_cons, filterMap_ran?_told]
  rfl

def isCancelled (results : Keyed JobResult) (inst : Instance) : Bool :=
  (results.get? inst.id).any fun result => result.outcome == .cancelled

/-- Why instances were cancelled, in terms of the needs of jobs, the results and all that happened, where results
may be known to be those of the instances that were run. -/
structure Explained (own : Prop) (jobs : List Job) (instances : List Instance) (results : Keyed JobResult)
    (log : List Event) : Prop where
  ran_once : (log.filterMap Event.ran?).Nodup
  /-- A cancellation names a prerequisite that ran and failed, before the cancellation was announced. -/
  reasoned : ∀ inst ∈ instances, ∀ result, results.get? inst.id = some result →
    result.outcome = .cancelled → ∃ culprit ∈ instances, culprit.Precedes jobs instances inst ∧
      result.reason = some ("prerequisite '" ++ culprit.id ++ "' did not succeed") ∧
      ∃ answer, (answerOf culprit answer).outcome = .failed ∧
        (own → results.get? culprit.id = some (answerOf culprit answer)) ∧
        ∃ before between after, log = before ++ .ended culprit answer ::
          (between ++ (farewell culprit.id inst).map .told ++ after)
  /-- All that is said are the announcements of the cancelled instances, one of each. -/
  announced_once : ∃ cancelled : List Instance,
    cancelled.Perm (instances.filter (isCancelled results)) ∧
      log.filterMap Event.spoken? = cancelled.flatMap fun inst =>
        Console.jobCancelled inst.id (((results.get? inst.id).bind JobResult.reason).getD "")

theorem names_cancelled_sublist (episodes : List Episode) :
    ((episodes.flatMap Episode.cancelled).map Instance.id).Sublist
      (Keyed.names (episodes.flatMap Episode.results)) := by
  induction episodes with
  | nil => exact .slnil
  | cons episode rest ih =>
    rw [List.flatMap_cons, List.flatMap_cons, List.map_append, Keyed.names_append]
    refine List.Sublist.append ?_ ih
    rw [Episode.results, Keyed.names_append, names_cancellations]
    exact List.sublist_append_right _ _

section

variable {episodes : List Episode}
  (distinct : (Keyed.names (episodes.flatMap Episode.results)).Nodup)
  {episode : Episode} (member : episode ∈ episodes)

include distinct member

theorem get?_ended (of : episode.Of plan runner) (own : runner.Own) :
    Keyed.get? (episodes.flatMap Episode.results) episode.inst.id = some episode.result :=
  Keyed.get?_of_mem distinct (List.mem_flatMap.2 ⟨episode, member, List.mem_append_left _ (of.kept own)⟩)

theorem get?_cancelled {inst : Instance} (dropped : inst ∈ episode.cancelled) :
    Keyed.get? (episodes.flatMap Episode.results) inst.id =
      some (.cancelled inst episode.inst.id) :=
  Keyed.get?_of_mem distinct (List.mem_flatMap.2
    ⟨episode, member, List.mem_append_right _ (mem_cancellations dropped)⟩)

end

section

variable {episodes : List Episode} (of : ∀ episode ∈ episodes, episode.Of plan runner)
  (conclusive : runner.Conclusive)

include of conclusive

/-- A recorded cancellation is one of the cancellations of an episode. -/
theorem exists_episode_of_cancelled {id : String} {result : JobResult}
    (found : Keyed.get? (episodes.flatMap Episode.results) id = some result)
    (cancelled : result.outcome = .cancelled) :
    ∃ episode ∈ episodes, ∃ inst ∈ episode.cancelled,
      inst.id = id ∧ result = .cancelled inst episode.inst.id := by
  obtain ⟨episode, member, entry⟩ := List.mem_flatMap.1 (Keyed.mem_of_get? found)
  rcases List.mem_append.1 entry with stored | later
  · obtain rfl : result = episode.result := (of episode member).stores _ stored
    exact absurd cancelled ((of episode member).uncancelled conclusive)
  · obtain ⟨inst, dropped, same⟩ := List.mem_map.1 later
    obtain ⟨rfl, rfl⟩ := Prod.mk.inj same
    exact ⟨episode, member, inst, dropped, rfl, rfl⟩

end

theorem exists_split {episodes : List Episode} {episode : Episode} (member : episode ∈ episodes)
    {inst : Instance} (dropped : inst ∈ episode.cancelled) (console : Console)
    (opening : List Event) :
    ∃ before between after, opening ++ episodes.flatMap (Episode.events console) =
      before ++ .ended episode.inst episode.answer ::
        (between ++ (farewell episode.inst.id inst).map .told ++ after) := by
  obtain ⟨earlier, later, rfl⟩ := List.append_of_mem member
  obtain ⟨front, back, split⟩ := List.append_of_mem dropped
  refine ⟨opening ++ earlier.flatMap (Episode.events console),
    (Episode.complaint console episode.answer ++ front.flatMap (farewell episode.inst.id)).map .told,
    (back.flatMap (farewell episode.inst.id)).map .told ++
      later.flatMap (Episode.events console), ?_⟩
  simp [Episode.events, split, List.append_assoc]

theorem spoken_episodes {episodes : List Episode}
    (distinct : (Keyed.names (episodes.flatMap Episode.results)).Nodup) (console : Console)
    {opening : List Line} (quiet : opening.filter (fun line => line.channel = .out) = []) :
    (opening.map Event.told ++ episodes.flatMap (Episode.events console)).filterMap Event.spoken? =
      (episodes.flatMap Episode.cancelled).flatMap fun inst => Console.jobCancelled inst.id
        (((Keyed.get? (episodes.flatMap Episode.results) inst.id).bind JobResult.reason).getD "") := by
  rw [List.filterMap_append, filterMap_spoken?_told, quiet, List.filterMap_flatMap,
    List.flatMap_assoc, List.nil_append]
  refine List.flatMap_congr fun episode here => ?_
  rw [spoken_events]
  refine List.flatMap_congr fun inst dropped => ?_
  rw [get?_cancelled distinct here dropped]
  rfl

section

variable {jobs : List Job} {instances : List Instance} {workers : Nat}

section

variable (sound : JobGraph.Sound jobs) (distinct : (instances.map Instance.id).Nodup)

include sound distinct

theorem Episode.Of.precedes {episode : Episode}
    (of : episode.Of (Plan.ofJobs jobs instances workers) runner) {inst : Instance}
    (dropped : inst ∈ episode.cancelled) : episode.inst ∈ instances ∧ inst ∈ instances ∧
      episode.inst.Precedes jobs instances inst := by
  obtain ⟨_, behind, found⟩ := of.cancels inst dropped
  obtain ⟨one, here, other, there, same, same', path⟩ :=
    Plan.exists_of_precedes_ofJobs sound distinct behind
  have found_one := of.found
  rw [← same, Plan.get?_ofGraph distinct here, Option.some.injEq] at found_one
  rw [← same', Plan.get?_ofGraph distinct there, Option.some.injEq] at found
  subst found_one found
  exact ⟨here, there, path⟩

variable {episodes : List Episode}
  (of : ∀ episode ∈ episodes, episode.Of (Plan.ofJobs jobs instances workers) runner)
  (conclusive : runner.Conclusive)
  (names : (Keyed.names (episodes.flatMap Episode.results)).Nodup)

include of conclusive names

theorem perm_cancelled : (episodes.flatMap Episode.cancelled).Perm
    (instances.filter (isCancelled (episodes.flatMap Episode.results))) := by
  have nodup : (episodes.flatMap Episode.cancelled).Nodup :=
    .of_map _ (names.sublist (names_cancelled_sublist episodes))
  rw [List.perm_ext_iff_of_nodup nodup (distinct.of_map.filter _)]
  intro inst
  rw [List.mem_flatMap, List.mem_filter, isCancelled]
  constructor
  · rintro ⟨episode, here, dropped⟩
    rw [get?_cancelled names here dropped]
    exact ⟨((of episode here).precedes sound distinct dropped).2.1, rfl⟩
  · rintro ⟨member, recorded⟩
    obtain ⟨result, found, cancelled⟩ := (Option.any_eq_true _ _).1 recorded
    obtain ⟨episode, here, other, dropped, same, _⟩ :=
      exists_episode_of_cancelled of conclusive found (beq_iff_eq.1 cancelled)
    have other_member := ((of episode here).precedes sound distinct dropped).2.1
    obtain rfl := List.inj_on_of_nodup_map distinct other_member member same
    exact ⟨episode, here, dropped⟩

theorem explained_of_episodes (ran_once : (episodes.map fun episode => episode.inst.id).Nodup)
    (console : Console) {opening : List Line}
    (quiet : opening.filter (fun line => line.channel = .out) = []) :
    Explained runner.Own jobs instances (episodes.flatMap Episode.results)
      (opening.map .told ++ episodes.flatMap (Episode.events console)) := by
  refine ⟨?_, fun inst member result found cancelled => ?_,
    episodes.flatMap Episode.cancelled, perm_cancelled sound distinct of conclusive names,
    spoken_episodes names console quiet⟩
  · rw [List.filterMap_append, filterMap_ran?_told, List.filterMap_flatMap]
    simpa only [ran_events, List.nil_append, ← List.map_eq_flatMap] using ran_once
  · obtain ⟨episode, here, other, dropped, same, rfl⟩ :=
      exists_episode_of_cancelled of conclusive found cancelled
    obtain ⟨culprit_member, other_member, path⟩ := (of episode here).precedes sound distinct dropped
    obtain rfl := List.inj_on_of_nodup_map distinct other_member member same
    exact ⟨episode.inst, culprit_member, path, rfl, episode.answer, (of episode here).failed conclusive dropped,
      get?_ended names here (of episode here), exists_split here dropped console _⟩

end

theorem calm_chronicled (calm : runner.Calm) : runner.chronicled.Calm :=
  fun inst world => calm inst world.1

theorem announcement_unspoken (console : Console) (workers : Int) (instances : List Instance) :
    (announcement console workers instances).filter (fun line => line.channel = .out) = [] := by
  rw [announcement, Console.detail]
  split <;> rfl

/-- However a schedule goes, its cancellations are explained by what failed before; and this is what is stored of
the culprits, where no result is that of another instance. -/
theorem run_explained {graph : InstanceGraph} (distinct : (instances.map Instance.id).Nodup)
    (accepted : InstanceGraph.ofInstances jobs instances = .ok graph) (conclusive : runner.Conclusive)
    (limit : Option Int) (console : Console) (policy : Policy) (world : ω) :
    ∃ results failure last log,
      run jobs instances limit console policy runner world = ⟨results, failure, last⟩ ∧
      run jobs instances limit console policy runner.chronicled (world, []) =
        ⟨results, failure, (last, log)⟩ ∧
      (failure = none ↔ ∀ count ∈ limit, 0 ≤ count) ∧
      Explained runner.Own jobs instances results log := by
  obtain ⟨sound, rfl, depth, grows⟩ := InstanceGraph.ofInstances_ok accepted
  have planned : (Plan.ofJobs jobs instances (workersFor limit instances).toNat).Sound :=
    Plan.sound_ofJobs sound distinct grows
  have quiet := announcement_unspoken console (workersFor limit instances) instances
  have image := run_map (maps_chronicled runner) jobs instances limit console policy (world, [])
  rw [← workersFor_nonneg_iff instances]
  by_cases negative : workersFor limit instances < 0
  · -- The pool refuses to start: nothing but the announcement has happened.
    have chronicled_run : run jobs instances limit console policy runner.chronicled (world, []) =
        ⟨[], some (.crash (.badValue "max_workers must be greater than 0")),
          runner.chronicled.tell (announcement console (workersFor limit instances) instances)
            (world, [])⟩ := by
      rw [run, accepted]
      exact if_pos negative
    rw [chronicled_run] at image
    have none_ended : ∀ episode ∈ ([] : List Episode),
        episode.Of (Plan.ofJobs jobs instances 0) runner :=
      fun _ none => absurd none List.not_mem_nil
    have explained := explained_of_episodes sound distinct none_ended conclusive List.nodup_nil
      List.nodup_nil console quiet
    rw [List.flatMap_nil, List.flatMap_nil, List.append_nil] at explained
    exact ⟨_, _, _, _, image, chronicled_run, by simpa using negative, explained⟩
  · rw [Int.not_lt] at negative
    obtain ⟨turns, head, reached, ready, running, rests⟩ :=
      exists_idle planned (calm_chronicled conclusive.calm) console policy (runner.chronicled.tell
          (announcement console (workersFor limit instances) instances) (world, []))
    obtain ⟨done, counted⟩ := counted_of_reaches planned reached
    obtain ⟨episodes, of, ended, results, names, log⟩ := exists_episodes planned reached
    rw [tell_chronicled, List.nil_append] at log
    have chronicled_run : run jobs instances limit console policy runner.chronicled (world, []) =
        ⟨head.results, none, head.world⟩ := by
      rw [run_eq accepted ((workersFor_nonneg_iff instances).1 negative)]
      dsimp only
      rw [rests _ (Nat.lt_succ_self _)]
    rw [chronicled_run] at image
    have explained := explained_of_episodes sound distinct of conclusive
      (results ▸ names) (ended ▸ counted.ended_nodup) console quiet
    rw [← results, ← log] at explained
    exact ⟨_, _, _, _, image, chronicled_run, by simpa using negative, explained⟩

end

theorem conclusive_sampleRunner : sampleRunner.Conclusive where
  uncancelled inst world result ran := by
    rw [sampleAnswers_ok ran]
    exact JobOutcome.noConfusion
  calm inst world := calm_sampleAnswers inst

theorem run_explained_sample : sampleRunner.Own ∧ ∃ results failure last log,
    run sample.jobs sampleInstances (some 2) ⟨false, false⟩ (fun _ _ _ => 1) sampleRunner () =
      ⟨results, failure, last⟩ ∧
    run sample.jobs sampleInstances (some 2) ⟨false, false⟩ (fun _ _ _ => 1) sampleRunner.chronicled
      ((), []) = ⟨results, failure, (last, log)⟩ ∧
    (failure = none ↔ ∀ count ∈ some (2 : Int), 0 ≤ count) ∧
    Explained sampleRunner.Own sample.jobs sampleInstances results log :=
  ⟨own_sampleRunner, run_explained (by decide) accepted_sample conclusive_sampleRunner (some 2) ⟨false, false⟩
    (fun _ _ _ => 1) ()⟩

theorem conclusive_misnaming : (misnaming .failed).Conclusive where
  uncancelled _ _ _ ran := by
    rw [← Except.ok.inj ran]
    exact JobOutcome.noConfusion
  calm := calm_misnaming .failed

def misnamedResults : Keyed JobResult :=
  [("build (os=mac)", ⟨samplePlan.inst "build (os=mac)", .failed, [], none⟩),
    ("test", .cancelled (samplePlan.inst "test") "build (os=linux)")]

theorem run_misnaming : run sample.jobs sampleInstances (some 2) ⟨false, false⟩ (fun _ _ _ => 0)
    (misnaming .failed) () = ⟨misnamedResults, none, ()⟩ := by
  have test : samplePlan.instances.get? "test" = some sampleInstances[2] := by with_unfolding_all rfl
  have cancelled : cascade samplePlan.instances sampleGraph.dependents "build (os=linux)"
      [("build (os=mac)", ⟨sampleInstances[1], .failed, [], none⟩)] ["test"] =
        ([.cancelled sampleInstances[2] "build (os=linux)"], misnamedResults) := by
    have none_behind : (sampleGraph.dependents.get? "test").getD [] ++ [] = [] := by with_unfolding_all rfl
    rw [cascade_of_missing test (by with_unfolding_all rfl), none_behind, cascade_nil]
    with_unfolding_all rfl
  have cancelled_before : cascade samplePlan.instances sampleGraph.dependents "build (os=mac)" misnamedResults
      ["test"] = ([], misnamedResults) := by
    rw [cascade_of_recorded test (by with_unfolding_all rfl), cascade_nil]
  have linux_ended : runAll samplePlan ⟨false, false⟩ (fun _ _ _ => 0) (misnaming .failed) 4
      (State.start samplePlan ()) = runAll samplePlan ⟨false, false⟩ (fun _ _ _ => 0) (misnaming .failed) 3
        ⟨(State.start samplePlan ()).pending, [], ["build (os=mac)"],
          (cascade samplePlan.instances sampleGraph.dependents "build (os=linux)"
            [("build (os=mac)", ⟨sampleInstances[1], .failed, [], none⟩)] ["test"]).2, ()⟩ := by
    with_unfolding_all rfl
  have mac_ended : runAll samplePlan ⟨false, false⟩ (fun _ _ _ => 0) (misnaming .failed) 3
        ⟨(State.start samplePlan ()).pending, [], ["build (os=mac)"], misnamedResults, ()⟩ =
      (⟨(State.start samplePlan ()).pending, [], [],
          (cascade samplePlan.instances sampleGraph.dependents "build (os=mac)" misnamedResults ["test"]).2, ()⟩,
        none) := by
    with_unfolding_all rfl
  rw [cancelled] at linux_ended
  rw [cancelled_before] at mac_ended
  rw [run_eq accepted_sampleGraph (by decide)]
  exact congrArg (fun ended : State Unit × Option Failure =>
    (⟨ended.1.results, ended.2, ended.1.world⟩ : Ended Unit)) (linux_ended.trans mac_ended)

/-- Where a result is that of another instance, the test of the sample is cancelled because of a build that has no
result, and so of nothing that failed by the results. -/
theorem not_explained_of_misnaming : (misnaming .failed).Conclusive ∧ ∃ results last,
    run sample.jobs sampleInstances (some 2) ⟨false, false⟩ (fun _ _ _ => 0) (misnaming .failed) () =
      ⟨results, none, last⟩ ∧
    ∃ result, results.get? sampleInstances[2].id = some result ∧ result.outcome = .cancelled ∧
      ∀ culprit ∈ sampleInstances,
        result.reason = some ("prerequisite '" ++ culprit.id ++ "' did not succeed") →
          results.get? culprit.id = none := by
  refine ⟨conclusive_misnaming, misnamedResults, (), run_misnaming,
    .cancelled sampleInstances[2] "build (os=linux)", by with_unfolding_all rfl, rfl, ?_⟩
  have named : ∀ culprit ∈ sampleInstances, some ("prerequisite 'build (os=linux)' did not succeed") =
      some ("prerequisite '" ++ culprit.id ++ "' did not succeed") → (misnamedResults.get? culprit.id).isNone := by
    decide +kernel
  intro culprit member reason
  exact Option.isNone_iff_eq_none.1 (named culprit member reason)

end CiPipeline.Schedule
