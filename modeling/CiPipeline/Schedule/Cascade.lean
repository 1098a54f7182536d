import CiPipeline.Graph.Instances
import CiPipeline.Result

/-! Cancellation. When an instance does not succeed, everything that waits for it, directly or through
other instances, is cancelled depth first. A result that is already there is never replaced. -/
namespace CiPipeline.Schedule

def record (results : Keyed JobResult) (result : JobResult) : Option (Keyed JobResult) :=
  match results.get? result.inst.id with
  | some _ => none
  | none => some (results.put result.inst.id result)

def missing (instances : Keyed Instance) (results : Keyed JobResult) : List (String × Instance) :=
  instances.filter fun entry => (results.get? entry.2.id).isNone

theorem record_get? {results later : Keyed JobResult} {result : JobResult}
    (stored : record results result = some later) (id : String) :
    later.get? id = if id = result.inst.id then some result else results.get? id := by
  unfold record at stored
  split at stored
  · cases stored
  · cases stored
    exact Keyed.get?_put ..

theorem filter_length_lt {α : Type} {keep less : α → Bool} {items : List α} (item : α)
    (member : item ∈ items) (kept : keep item = true) (dropped : less item = false)
    (fewer : ∀ other, less other = true → keep other = true) :
    (items.filter less).length < (items.filter keep).length := by
  induction items with
  | nil => cases member
  | cons first rest ih =>
    have atMost : ∀ others : List α, (others.filter less).length ≤ (others.filter keep).length := by
      intro others
      induction others with
      | nil => simp
      | cons other others ih =>
        simp only [List.filter_cons]
        split
        · rename_i is_less
          simp [fewer other is_less, ih]
        · split
          · simp only [List.length_cons]
            omega
          · exact ih
    simp only [List.filter_cons]
    rcases List.mem_cons.1 member with rfl | later
    · simp only [kept, dropped, ite_true, Bool.false_eq_true, ite_false, List.length_cons]
      have := atMost rest
      omega
    · have := ih later
      split
      · rename_i is_less
        simp only [fewer first is_less, ite_true, List.length_cons]
        omega
      · split
        · simp only [List.length_cons]
          omega
        · exact this

theorem missing_record {instances : Keyed Instance} {results later : Keyed JobResult}
    {inst : Instance} {id culprit : String} (found : instances.get? id = some inst)
    (stored : record results (.cancelled inst culprit) = some later) :
    (missing instances later).length < (missing instances results).length := by
  have absent : results.get? inst.id = none := by
    unfold record at stored
    split at stored
    · cases stored
    · assumption
  refine filter_length_lt (id, inst) ?_ (by simp [absent]) ?_ ?_
  · induction instances with
    | nil => cases found
    | cons entry rest ih =>
      rw [Keyed.get?_cons] at found
      split at found
      · rename_i same
        cases found
        simp [same]
      · exact List.mem_cons_of_mem _ (ih found)
  · simp [record_get? stored, JobResult.cancelled]
  · intro other still
    rw [record_get? stored] at still
    split at still
    · simp at still
    · exact still

/-- Cancels the instances of a stack, and below each newly cancelled one everything that waits for it.
The cancelled ones come in the order in which they were recorded. -/
def cascade (instances : Keyed Instance) (dependents : Keyed (List String)) (culprit : String)
    (results : Keyed JobResult) (stack : List String) : List JobResult × Keyed JobResult :=
  match stack with
  | [] => ([], results)
  | id :: rest =>
    match _found : instances.get? id with
    | none => cascade instances dependents culprit results rest
    | some inst =>
      match _stored : record results (.cancelled inst culprit) with
      | none => cascade instances dependents culprit results rest
      | some later =>
        let below :=
          cascade instances dependents culprit later ((dependents.get? id).getD [] ++ rest)
        (.cancelled inst culprit :: below.1, below.2)
termination_by ((missing instances results).length, stack.length)
decreasing_by
  · exact Prod.Lex.right _ (by simp)
  · exact Prod.Lex.right _ (by simp)
  · exact Prod.Lex.left _ _ (missing_record _found _stored)

end CiPipeline.Schedule
