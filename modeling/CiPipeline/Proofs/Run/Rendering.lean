import CiPipeline.Proofs.Matrix.Binding
import CiPipeline.Proofs.Run.AxisVariables

/-! Whether the value of an axis has one text wherever it can be met: in the name of the instance, in the place of
references, in the variable of the axis, and as the name of the backend that it is sent to. The first two use the
spelling of documents and the last two the plain one, which differ for truth values. -/
namespace CiPipeline

open CiPipeline.Matrix

theorem Scalar.spelled_eq_plain_iff {value : Scalar} :
    value.spelled = value.plain ↔ ∀ truth, value ≠ .bool truth := by
  refine ⟨?_, spelled_eq_plain value⟩
  rintro same truth rfl
  revert same truth
  decide

/-- An axis has a text where documents are concerned: in the map that the name of the instance is written from, and
in the place of all references to the axis. -/
structure Instance.SpelledAs (inst : Instance) (axis text : String) : Prop where
  id : inst.spelledValues.get? axis = some text
  reference : ∀ found : Reference, found.WellFormed → String.ofList found.axis = axis →
    ∀ front back front' back', bindText inst.job inst.assignment front = .ok front' →
      bindText inst.job inst.assignment back = .ok back' →
        bindText inst.job inst.assignment (front ++ String.ofList found.source ++ back) =
          .ok (front' ++ text ++ back')

theorem Instance.spelledAs_spelled {inst : Instance} (distinct : inst.assignment.names.Nodup)
    (short : ∀ entry ∈ inst.assignment, entry.2.isLong = false) {axis : String} {value : Scalar}
    (member : (axis, value) ∈ inst.assignment) : inst.SpelledAs axis value.spelled := by
  have known : inst.assignment.get? axis = some value := Keyed.get?_of_mem distinct member
  refine ⟨?_, fun found formed here front back front' back' before after => ?_⟩
  · rw [spelledValues, Keyed.get?_mapValues, known, Option.map_some]
  · exact bindText_reference formed (here ▸ known) (short _ member) before after

namespace Context

/-- Where the backend is taken from an axis, it is the one that has the given name, if there is such a one. -/
def RoutedBy (context : Context) (inst : Instance) (axis text : String) : Prop :=
  context.backendAxis = axis →
    ∀ name, context.backendFor inst = some name ↔ name = text ∧ name ∈ context.backends

/-- An axis has one text wherever it can be met. -/
structure ShownAs (context : Context) (inst : Instance) (axis text : String) : Prop where
  spelled : inst.SpelledAs axis text
  seen : (context.envFor inst).get? (axisVariable axis) = some text
  routed : context.RoutedBy inst axis text

section

variable {inst : Instance} (distinct : inst.assignment.names.Nodup)
include distinct

theorem routedBy_plain (context : Context) {axis : String} {value : Scalar}
    (member : (axis, value) ∈ inst.assignment) : context.RoutedBy inst axis value.plain := by
  rintro rfl name
  have known : inst.matrix.get? context.backendAxis = some value := by
    rw [Instance.matrix, Keyed.ofPairs_of_nodup distinct]
    exact Keyed.get?_of_mem distinct member
  rw [backendFor, known, Option.map_some, Option.filter_eq_some_iff, Option.some.injEq,
    List.contains_iff_mem]
  exact and_congr_left' eq_comm

/-- Some context shows a truth value in two ways: it has a backend under the plain text of the value. -/
theorem ne_bool_of_shownAs (short : ∀ entry ∈ inst.assignment, entry.2.isLong = false)
    {entry : String × Scalar} (member : entry ∈ inst.assignment)
    (shown : ∀ context : Context, ∃ text, context.ShownAs inst entry.1 text) (truth : Bool) :
    entry.2 ≠ .bool truth := by
  let around := { Run.sampleContext with backends := [entry.2.plain], backendAxis := entry.1 }
  obtain ⟨text, both⟩ := shown around
  have routed : around.backendFor inst = some entry.2.plain :=
    (routedBy_plain distinct around member rfl _).2 ⟨rfl, List.mem_singleton_self _⟩
  have spelled := (Instance.spelledAs_spelled distinct short member).id
  rw [both.spelled.id, ← ((both.routed rfl _).1 routed).1] at spelled
  exact Scalar.spelled_eq_plain_iff.1 (Option.some.inj spelled).symm truth

theorem forall_shownAs_iff (short : ∀ entry ∈ inst.assignment, entry.2.isLong = false) :
    (∀ context : Context, ∀ axis ∈ inst.assignment.names, ∃ text, context.ShownAs inst axis text) ↔
      (∀ entry ∈ inst.assignment, ∀ truth, entry.2 ≠ .bool truth) ∧
        inst.assignment.Pairwise Unhidden := by
  constructor
  · intro all
    have words : ∀ entry ∈ inst.assignment, ∀ truth, entry.2 ≠ .bool truth := fun entry member =>
      ne_bool_of_shownAs distinct short member fun context => all context _ (List.mem_map_of_mem member)
    refine ⟨words, (showsAxes_iff_pairwise Run.sampleContext).1 fun entry member => ?_⟩
    obtain ⟨text, shown⟩ := all Run.sampleContext entry.1 (List.mem_map_of_mem member)
    have spelled := (Instance.spelledAs_spelled distinct short member).id
    rw [shown.spelled.id, Scalar.spelled_eq_plain_iff.2 (words entry member)] at spelled
    rw [shown.seen, spelled]
  · rintro ⟨words, clear⟩ context axis known
    obtain ⟨entry, member, rfl⟩ := List.mem_map.1 known
    have same : entry.2.spelled = entry.2.plain := Scalar.spelled_eq_plain_iff.2 (words entry member)
    exact ⟨entry.2.plain, same ▸ Instance.spelledAs_spelled distinct short member,
      (showsAxes_iff_pairwise context).2 clear entry member, routedBy_plain distinct context member⟩

end

/-- In the instances of an accepted pipeline every axis has one text wherever it can be met, whatever the context,
exactly if no job has an axis with a truth value, or axes that hide each other. In any case the name of the
instance and the references have the spelling of documents, and the variable and the backend the plain one. -/
theorem shownAs_iff {pipeline : Pipeline} {instances : List Instance}
    (expanded : pipeline.instances = .ok instances) (named : ∀ job ∈ pipeline.jobs, job.matrix.names.Nodup) :
    ((∀ inst ∈ instances, ∀ context : Context, ∀ axis ∈ inst.assignment.names,
        ∃ text, context.ShownAs inst axis text) ↔
      ∀ job ∈ pipeline.jobs, ∀ axes, checkAxes job.name job.matrix = .ok axes →
        (∀ axis ∈ axes, ∀ value ∈ axis.2, ∀ truth, value ≠ .bool truth) ∧
          axes.Pairwise fun one other => ∀ value ∈ one.2, ∀ value' ∈ other.2,
            Unhidden (one.1, value) (other.1, value')) ∧
    (∀ inst ∈ instances, ∀ entry ∈ inst.assignment, ∀ context : Context,
      inst.SpelledAs entry.1 entry.2.spelled ∧ context.RoutedBy inst entry.1 entry.2.plain ∧
        ∃ other ∈ inst.assignment, axisVariable other.1 = axisVariable entry.1 ∧
          (context.envFor inst).get? (axisVariable entry.1) = some other.2.plain) ∧
    ∀ value : Scalar, value.spelled = value.plain ↔ ∀ truth, value ≠ .bool truth := by
  have distinct := pipeline.nodup_assignment_names expanded named
  have short : ∀ inst ∈ instances, ∀ entry ∈ inst.assignment, entry.2.isLong = false :=
    fun inst member => Instance.isNamed_iff.1 (Pipeline.isNamed_of_mem expanded member)
  refine ⟨?_, fun inst member entry here context =>
    ⟨Instance.spelledAs_spelled (distinct inst member) (short inst member) here,
      routedBy_plain (distinct inst member) context here, exists_get?_envFor context here⟩,
    fun _ => Scalar.spelled_eq_plain_iff⟩
  obtain ⟨groups, _, rfl, grouped, _⟩ := Pipeline.instancesOf_ok expanded
  rw [forall₂_congr fun inst member => forall_shownAs_iff (distinct inst member) (short inst member),
    forall_assignments_iff grouped fun assignment =>
      (∀ entry ∈ assignment, ∀ truth, entry.2 ≠ .bool truth) ∧ assignment.Pairwise Unhidden]
  refine forall₂_congr fun job _ => forall₂_congr fun axes checked => ?_
  rw [forall₂_and, forall_mem_combinations_iff (checkAxes_ok checked) fun entry => ∀ truth, entry.2 ≠ .bool truth,
    forall_combinations_pairwise (checkAxes_ok checked)]

theorem shownAs_sample : Schedule.sample.instances = .ok Schedule.sampleInstances ∧
    (∀ job ∈ Schedule.sample.jobs, job.matrix.names.Nodup) ∧
    ∀ inst ∈ Schedule.sampleInstances, ∀ context : Context, ∀ axis ∈ inst.assignment.names,
      ∃ text, context.ShownAs inst axis text := by
  have named : ∀ job ∈ Schedule.sample.jobs, job.matrix.names.Nodup := by decide
  refine ⟨Schedule.instances_sample, named,
    (shownAs_iff Schedule.instances_sample named).1.2 fun job member axes checked => ?_⟩
  have read : checkAxes job.name job.matrix = .ok [("os", [.text "linux", .text "mac"])] ∨
      checkAxes job.name job.matrix = .ok [] := by
    rcases List.mem_cons.1 member with rfl | later
    · exact .inl (by with_unfolding_all rfl)
    · obtain rfl := List.mem_singleton.1 later
      exact .inr rfl
  rcases read with read | read
  · obtain rfl := Except.ok.inj (read.symm.trans checked)
    exact ⟨by decide, List.pairwise_singleton _ _⟩
  · obtain rfl := Except.ok.inj (read.symm.trans checked)
    exact ⟨by decide, .nil⟩

def switchedDocument : Document :=
  .map [(.text "jobs", .map [(.text "build", .map [
    (.text "matrix", .map [(.text "fast", .list [.bool true, .bool false])]),
    (.text "steps", .list [.map [(.text "name", .text "make"), (.text "run", .text "make")]])])])]

def switchedInstance (index : Nat) (fast : Bool) : Instance :=
  ⟨"build", [("fast", .bool fast)], [⟨"make", "make", none, none, [], none⟩], index, [], none, none⟩

def switched : Pipeline where
  name := "pipeline"
  jobs := [
    { name := "build", steps := (switchedInstance 0 true).steps, needs := []
      matrix := [("fast", .list [.bool true, .bool false])], env := [], title := none, runsOn := none }]
  env := []
  triggers := []

def switchedContext : Context := { Run.sampleContext with backends := ["true"], backendAxis := "fast" }

/-- The job is loaded, expanded and accepted. The value of its axis is spelled in one way in the names of the
instances and in another one in the variable, and the backend that has the former for its name is not taken. -/
theorem not_shownAs : Pipeline.ofDocument "switched" switchedDocument = .ok switched ∧
    switched.instances = .ok [switchedInstance 0 true, switchedInstance 1 false] ∧
    InstanceGraph.ofInstances switched.jobs [switchedInstance 0 true, switchedInstance 1 false] =
      .ok (InstanceGraph.build switched.jobs [switchedInstance 0 true, switchedInstance 1 false]) ∧
    (switchedInstance 0 true).id = "build (fast=true)" ∧
    (switchedContext.envFor (switchedInstance 0 true)).get? (axisVariable "fast") = some "True" ∧
    switchedContext.backendFor (switchedInstance 0 true) = none ∧
    ¬∃ text, switchedContext.ShownAs (switchedInstance 0 true) "fast" text := by
  have seen : (switchedContext.envFor (switchedInstance 0 true)).get? (axisVariable "fast") = some "True" := by
    decide +kernel
  refine ⟨by with_unfolding_all rfl, by with_unfolding_all rfl, by with_unfolding_all rfl, by decide +kernel,
    seen, by decide +kernel, fun ⟨text, shown⟩ => ?_⟩
  have spelled := shown.spelled.id
  rw [← shown.seen, seen] at spelled
  exact absurd spelled (by decide +kernel)

end Context

end CiPipeline
