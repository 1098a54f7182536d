import CiPipeline.Proofs.Keyed
import CiPipeline.Schedule.Cascade

/-! What a cascade leaves behind. Results that were there stay, every new one is a cancellation that some
name of the stack led to, and nothing that waits for a cancelled instance is left without a result. -/
namespace CiPipeline.Schedule

variable {instances : Keyed Instance} {dependents : Keyed (List String)} {culprit : String}
  {results : Keyed JobResult} {stack : List String}

def Fresh (before later : Keyed JobResult) (id : String) : Prop :=
  before.get? id = none ∧ (later.get? id).isSome

/-- A stack leads to a name through names that were cancelled on the way. -/
inductive Hit (dependents : Keyed (List String)) (fresh : String → Prop) (stack : List String) :
    String → Prop
  | top {id} (member : id ∈ stack) : Hit dependents fresh stack id
  | behind {need id} (hit : Hit dependents fresh stack need) (cancelled : fresh need)
    (member : id ∈ (dependents.get? need).getD []) : Hit dependents fresh stack id

structure Cascaded (instances : Keyed Instance) (dependents : Keyed (List String))
    (culprit : String) (results : Keyed JobResult) (stack : List String)
    (later : Keyed JobResult) : Prop where
  kept : ∀ {id result}, results.get? id = some result → later.get? id = some result
  nodup : results.names.Nodup → later.names.Nodup
  fresh : ∀ {id}, Fresh results later id → Hit dependents (Fresh results later) stack id ∧
    ∃ inst, instances.get? id = some inst ∧ later.get? id = some (.cancelled inst culprit)
  top : ∀ {id}, id ∈ stack → (instances.get? id).isSome → (later.get? id).isSome
  below : ∀ {need id}, Fresh results later need → id ∈ (dependents.get? need).getD [] →
    (instances.get? id).isSome → (later.get? id).isSome

theorem cancelled_inst (inst : Instance) (culprit : String) :
    (JobResult.cancelled inst culprit).inst = inst := rfl

theorem record_eq_none_iff {result : JobResult} :
    record results result = none ↔ (results.get? result.inst.id).isSome := by
  rw [record]
  cases results.get? result.inst.id <;> simp

theorem record_eq_some_iff {result : JobResult} {later : Keyed JobResult} :
    record results result = some later ↔
      results.get? result.inst.id = none ∧ later = results.put result.inst.id result := by
  rw [record]
  cases results.get? result.inst.id <;> simp [eq_comm]

theorem cascade_nil : cascade instances dependents culprit results [] = ([], results) := by
  rw [cascade]

theorem cascade_of_recorded {id : String} {inst : Instance} (found : instances.get? id = some inst)
    (recorded : (results.get? inst.id).isSome) :
    cascade instances dependents culprit results (id :: stack) =
      cascade instances dependents culprit results stack := by
  rw [cascade]
  split
  · rfl
  · rename_i other found'
    obtain rfl := Option.some.inj (found.symm.trans found')
    split
    · rfl
    · rename_i later stored
      cases (record_eq_none_iff.2 recorded).symm.trans stored

theorem cascade_of_missing {id : String} {inst : Instance} (found : instances.get? id = some inst)
    (missing : results.get? inst.id = none) :
    cascade instances dependents culprit results (id :: stack) =
      (.cancelled inst culprit ::
          (cascade instances dependents culprit (results.put inst.id (.cancelled inst culprit))
            ((dependents.get? id).getD [] ++ stack)).1,
        (cascade instances dependents culprit (results.put inst.id (.cancelled inst culprit))
          ((dependents.get? id).getD [] ++ stack)).2) := by
  have stored : record results (.cancelled inst culprit) = some (results.put inst.id (.cancelled inst culprit)) :=
    record_eq_some_iff.2 ⟨missing, rfl⟩
  rw [cascade]
  split
  · rename_i none
    cases found.symm.trans none
  · rename_i other found'
    obtain rfl := Option.some.inj (found.symm.trans found')
    split
    · rename_i none
      cases stored.symm.trans none
    · rename_i later stored'
      obtain rfl := Option.some.inj (stored.symm.trans stored')
      rfl

theorem cascaded_skip {later : Keyed JobResult} {id : String}
    (settled : (instances.get? id).isSome → (results.get? id).isSome)
    (cascaded : Cascaded instances dependents culprit results stack later) :
    Cascaded instances dependents culprit results (id :: stack) later := by
  refine ⟨cascaded.kept, cascaded.nodup, fun fresh => ?_, fun member known => ?_, cascaded.below⟩
  · obtain ⟨hit, result⟩ := cascaded.fresh fresh
    refine ⟨?_, result⟩
    clear result fresh
    induction hit with
    | top member => exact .top (List.mem_cons_of_mem _ member)
    | behind _ cancelled member ih => exact .behind ih cancelled member
  · rcases List.mem_cons.1 member with rfl | there
    · obtain ⟨result, found⟩ := Option.isSome_iff_exists.1 (settled known)
      rw [cascaded.kept found]
      rfl
    · exact cascaded.top there known

theorem cascaded_cancel {later : Keyed JobResult} {id : String} {inst : Instance}
    (found : instances.get? id = some inst) (own : inst.id = id) (missing : results.get? id = none)
    (cascaded : Cascaded instances dependents culprit (results.put id (.cancelled inst culprit))
      ((dependents.get? id).getD [] ++ stack) later) :
    Cascaded instances dependents culprit results (id :: stack) later := by
  have here : later.get? id = some (.cancelled inst culprit) :=
    cascaded.kept (Keyed.get?_put_self ..)
  have elsewhere {other : String} (different : other ≠ id) :
      (results.put id (.cancelled inst culprit)).get? other = results.get? other := by
    rw [Keyed.get?_put, if_neg different]
  have fresh_iff {other : String} (different : other ≠ id) :
      Fresh (results.put id (.cancelled inst culprit)) later other ↔ Fresh results later other := by
    rw [Fresh, Fresh, elsewhere different]
  have fresh_here : Fresh results later id := ⟨missing, by rw [here]; rfl⟩
  have hit_here : Hit dependents (Fresh results later) (id :: stack) id :=
    .top List.mem_cons_self
  have widen {other : String} (hit : Hit dependents
      (Fresh (results.put id (.cancelled inst culprit)) later)
      ((dependents.get? id).getD [] ++ stack) other) :
      Hit dependents (Fresh results later) (id :: stack) other := by
    induction hit with
    | top member =>
      rcases List.mem_append.1 member with waiting | there
      · exact .behind hit_here fresh_here waiting
      · exact .top (List.mem_cons_of_mem _ there)
    | @behind need other _ cancelled member ih =>
      by_cases same : need = id
      · exact .behind hit_here fresh_here (same ▸ member)
      · exact .behind ih ((fresh_iff same).1 cancelled) member
  refine ⟨fun {other result} stored => ?_, fun distinct => ?_, fun {other} fresh => ?_,
    fun {other} member known => ?_, fun {need other} fresh member known => ?_⟩
  · have different : other ≠ id := fun same => by simp [same, missing] at stored
    exact cascaded.kept ((elsewhere different).trans stored)
  · exact cascaded.nodup (Keyed.nodup_names_put distinct _ _)
  · by_cases same : other = id
    · subst same
      exact ⟨hit_here, inst, found, here⟩
    · obtain ⟨hit, result⟩ := cascaded.fresh ((fresh_iff same).2 fresh)
      exact ⟨widen hit, result⟩
  · rcases List.mem_cons.1 member with rfl | there
    · rw [here]
      rfl
    · exact cascaded.top (List.mem_append_right _ there) known
  · by_cases same : need = id
    · exact cascaded.top (List.mem_append_left _ (same ▸ member)) known
    · exact cascaded.below ((fresh_iff same).2 fresh) member known

theorem cascaded_cascade (own : ∀ {id inst}, instances.get? id = some inst → inst.id = id) :
    Cascaded instances dependents culprit results stack
      (cascade instances dependents culprit results stack).2 := by
  fun_induction cascade instances dependents culprit results stack with
  | case1 results =>
    refine ⟨id, id, fun fresh => ?_, fun none => absurd none List.not_mem_nil, fun fresh => ?_⟩
    · rw [Fresh, fresh.1] at fresh
      simp at fresh
    · rw [Fresh, fresh.1] at fresh
      simp at fresh
  | case2 results id rest missing ih =>
    exact cascaded_skip (by simp [missing]) ih
  | case3 results id rest inst found stored ih =>
    refine cascaded_skip (fun _ => ?_) ih
    have recorded := record_eq_none_iff.1 stored
    rwa [cancelled_inst, own found] at recorded
  | case4 results id rest inst found later stored below ih =>
    obtain ⟨missing, rfl⟩ := record_eq_some_iff.1 stored
    obtain rfl := own found
    exact cascaded_cancel found rfl missing ih

def cancellations (culprit : String) (cancelled : List Instance) : Keyed JobResult :=
  cancelled.map fun inst => (inst.id, .cancelled inst culprit)

theorem names_cancellations (culprit : String) (cancelled : List Instance) :
    (cancellations culprit cancelled).names = cancelled.map Instance.id := by
  simp [cancellations, Keyed.names, Function.comp_def]

theorem mem_cancellations {cancelled : List Instance} {inst : Instance} (member : inst ∈ cancelled) :
    (inst.id, .cancelled inst culprit) ∈ cancellations culprit cancelled :=
  List.mem_map_of_mem (f := fun inst => (inst.id, JobResult.cancelled inst culprit)) member

variable (dependents culprit results stack) in
theorem exists_cancelled (own : ∀ {id inst}, instances.get? id = some inst → inst.id = id) :
    ∃ cancelled : List Instance,
      cascade instances dependents culprit results stack =
        (cancelled.map (JobResult.cancelled · culprit),
          results ++ cancellations culprit cancelled) ∧
      ∀ inst ∈ cancelled, instances.get? inst.id = some inst := by
  fun_induction cascade instances dependents culprit results stack with
  | case1 results => exact ⟨[], by simp [cancellations], by simp⟩
  | case2 results id rest missing ih => exact ih
  | case3 results id rest inst found stored ih => exact ih
  | case4 results id rest inst found later stored below ih =>
    obtain ⟨missing, rfl⟩ := record_eq_some_iff.1 stored
    obtain rfl := own found
    obtain ⟨cancelled, same, known⟩ := ih
    refine ⟨inst :: cancelled, ?_, List.forall_mem_cons.2 ⟨found, known⟩⟩
    have fresh : inst.id ∉ results.names := Keyed.get?_eq_none_iff.1 missing
    dsimp only [below]
    rw [same, cancelled_inst, Keyed.put_of_not_mem fresh, List.append_assoc]
    rfl

end CiPipeline.Schedule
