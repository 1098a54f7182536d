import CiPipeline.Proofs.Run.Verdict
import CiPipeline.Report.Data

/-! In which order a report holds its results. Instances with different numbers can be put in order in one
way only, and of the results nothing is read but what stands under the names of instances; so neither the
order of the instances nor that of the results leaves a trace. -/
namespace CiPipeline.Report

variable {instances : List Instance} {results : Keyed JobResult}

def listed? (results : Keyed JobResult) (inst : Instance) : Option (String × JobResult) :=
  (results.get? inst.id).map fun result => (inst.id, result)

theorem listed?_eq_some_iff {inst : Instance} {entry : String × JobResult} :
    listed? results inst = some entry ↔ entry.1 = inst.id ∧ results.get? inst.id = some entry.2 := by
  obtain ⟨id, result⟩ := entry
  rw [listed?, Option.map_eq_some_iff]
  constructor
  · rintro ⟨stored, found, same⟩
    obtain ⟨rfl, rfl⟩ := Prod.mk.inj same
    exact ⟨rfl, found⟩
  · rintro ⟨rfl, found⟩
    exact ⟨result, found, rfl⟩

theorem names_filterMap_sublist (instances : List Instance) (results : Keyed JobResult) :
    (Keyed.names (instances.filterMap (listed? results))).Sublist (instances.map Instance.id) := by
  induction instances with
  | nil => exact .slnil
  | cons inst rest ih =>
    rw [List.filterMap_cons, List.map_cons]
    cases kept : listed? results inst with
    | none => exact ih.cons _
    | some entry =>
      rw [Keyed.names_cons, (listed?_eq_some_iff.1 kept).1]
      exact ih.cons_cons _

theorem collect_eq (distinct : (instances.map Instance.id).Nodup) (results : Keyed JobResult) :
    collect instances results = instances.filterMap (listed? results) :=
  Keyed.ofPairs_of_nodup (distinct.sublist (names_filterMap_sublist instances results))

theorem forall₂_entries (instances : List Instance) (results : Keyed JobResult) :
    List.Forall₂ (fun inst entry => listed? results inst = some entry)
      (instances.filter fun inst => (results.get? inst.id).isSome)
      (instances.filterMap (listed? results)) := by
  induction instances with
  | nil => exact .nil
  | cons inst rest ih =>
    rw [List.filter_cons, List.filterMap_cons]
    cases found : results.get? inst.id with
    | none =>
      have none : listed? results inst = none := by rw [listed?, found, Option.map_none]
      rw [none]
      exact ih
    | some result =>
      have some : listed? results inst = some (inst.id, result) := listed?_eq_some_iff.2 ⟨rfl, found⟩
      rw [some]
      exact .cons some ih

theorem build_eq_of_agree (indices : (instances.map Instance.index).Nodup)
    {instances' : List Instance} (perm : instances.Perm instances') {results' : Keyed JobResult}
    (agree : ∀ inst ∈ instances, results'.get? inst.id = results.get? inst.id) (pipeline : String) :
    build pipeline instances' results' = build pipeline instances results := by
  have inside {inst : Instance} (member : inst ∈ inOrder instances) :
      results'.get? inst.id = results.get? inst.id :=
    agree inst ((InstanceGraph.perm_inOrder instances).mem_iff.1 member)
  have collected : collect (inOrder instances) results' = collect (inOrder instances) results := by
    refine congrArg Keyed.ofPairs (List.filterMap_congr fun inst member => ?_)
    rw [inside member]
  have judged : verdictOf (inOrder instances) results' = verdictOf (inOrder instances) results := by
    have same : (inOrder instances).all (succeeded results') =
        (inOrder instances).all (succeeded results) := by
      rw [Bool.eq_iff_iff, List.all_eq_true, List.all_eq_true]
      refine forall₂_congr fun inst member => ?_
      rw [succeeded_eq, succeeded_eq, Schedule.hasSucceeded, Schedule.hasSucceeded, inside member]
    rw [verdictOf, verdictOf, same]
  rw [build, build, ← InstanceGraph.inOrder_eq_of_perm indices perm, collected, judged]

/-- What a report lists, in terms of the instances and the results alone. -/
structure Lists (report : Report) (instances : List Instance) (results : Keyed JobResult) : Prop where
  /-- Exactly the instances with a result are listed, each with that result, and their numbers grow. -/
  entries : ∃ listed : List Instance,
    (∀ inst, inst ∈ listed ↔ inst ∈ instances ∧ ∃ result, results.get? inst.id = some result) ∧
      listed.Pairwise (fun one other => one.index < other.index) ∧
      List.Forall₂ (fun inst entry => entry.1 = inst.id ∧ results.get? inst.id = some entry.2) listed
        report.results
  verdict : report.verdict = .success ↔ ∀ inst ∈ instances, ∃ result,
    results.get? inst.id = some result ∧ result.outcome = .succeeded

theorem lists_build (distinct : (instances.map Instance.id).Nodup)
    (indices : (instances.map Instance.index).Nodup) (pipeline : String) (results : Keyed JobResult) :
    (build pipeline instances results).Lists instances results := by
  refine ⟨⟨(inOrder instances).filter fun inst => (results.get? inst.id).isSome, fun inst => ?_,
    (InstanceGraph.ascending_inOrder indices).filter _, ?_⟩, ?_⟩
  · rw [List.mem_filter, (InstanceGraph.perm_inOrder instances).mem_iff, Option.isSome_iff_exists]
  · have entries : (build pipeline instances results).results =
        (inOrder instances).filterMap (listed? results) :=
      collect_eq (InstanceGraph.nodup_ids_inOrder distinct) results
    rw [entries]
    exact (forall₂_entries (inOrder instances) results).imp fun _ _ => listed?_eq_some_iff.1
  · rw [verdict_build]
    refine forall₂_congr fun inst _ => ?_
    rw [Schedule.hasSucceeded, Option.any_eq_true]
    simp only [JobResult.ok, beq_iff_eq]

variable (results) in
/-- A report depends neither on the order of the instances, nor on the order in which results came, nor on
results that belong to no instance; it lists the instances that have a result by their numbers. -/
theorem build_independent (distinct : (instances.map Instance.id).Nodup)
    (indices : (instances.map Instance.index).Nodup) (pipeline : String) :
    (∀ (instances' : List Instance) (results' surplus : Keyed JobResult),
      instances.Perm instances' → (results ++ surplus).Perm results' → results'.names.Nodup →
      (∀ id ∈ surplus.names, id ∉ instances.map Instance.id) →
      build pipeline instances' results' = build pipeline instances results ∧
        (build pipeline instances' results').tree = (build pipeline instances results).tree ∧
        (build pipeline instances' results').data = (build pipeline instances results).data) ∧
    (build pipeline instances results).Lists instances results := by
  refine ⟨fun instances' results' surplus perm arrived distinct' unknown => ?_,
    lists_build distinct indices pipeline results⟩
  have together : (Keyed.names (results ++ surplus)).Nodup :=
    (arrived.map Prod.fst).nodup_iff.2 distinct'
  have agree : ∀ inst ∈ instances, results'.get? inst.id = results.get? inst.id := by
    intro inst member
    have absent : surplus.get? inst.id = none :=
      Keyed.get?_eq_none_iff.2 fun known => unknown _ known (List.mem_map_of_mem member)
    rw [← Keyed.get?_eq_of_perm together arrived, Keyed.get?_append, absent, Option.or_none]
  have same := build_eq_of_agree indices perm agree pipeline
  exact ⟨same, congrArg tree same, congrArg data same⟩

def sampleArrivals : Keyed JobResult :=
  [("lint", ⟨Instance.bare "lint" [], .succeeded, [], none⟩),
    ("test", .cancelled (Instance.bare "test" []) "build (os=linux)"),
    ("build (os=linux)", ⟨Instance.bare "build" [("os", .text "linux")], .failed, [], none⟩)]

theorem build_independent_sample :
    build "sample" Schedule.sampleInstances.reverse sampleArrivals =
      build "sample" Schedule.sampleInstances (sampleArrivals.reverse.take 2) ∧
    (build "sample" Schedule.sampleInstances (sampleArrivals.reverse.take 2)).Lists
      Schedule.sampleInstances (sampleArrivals.reverse.take 2) := by
  have distinct : (Schedule.sampleInstances.map Instance.id).Nodup := by decide
  have indices : (Schedule.sampleInstances.map Instance.index).Nodup := by decide
  obtain ⟨same, lists⟩ :=
    build_independent (sampleArrivals.reverse.take 2) distinct indices "sample"
  have arrived : (sampleArrivals.reverse.take 2 ++ sampleArrivals.take 1).Perm sampleArrivals :=
    List.reverse_perm sampleArrivals
  exact ⟨(same _ _ _ (List.reverse_perm _).symm arrived (by decide) (by decide)).1, lists⟩

end CiPipeline.Report
