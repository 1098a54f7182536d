import CiPipeline.Proofs.Matrix.Combinations
import CiPipeline.Proofs.Run.Variables

/-! Whether the steps of an instance can see the values of its axes. Every axis has a variable, which is named after
the axis in upper case and with underscores for hyphens. Axes whose names are alike in this way share a variable,
and of them only the last one can be seen. -/
namespace CiPipeline

open CiPipeline.Matrix

namespace Context

/-- Every axis stands in its variable with the text of its own value. -/
def ShowsAxes (context : Context) (inst : Instance) : Prop :=
  ∀ entry ∈ inst.assignment, (context.envFor inst).get? (axisVariable entry.1) = some entry.2.plain

/-- Neither of two axes hides the other: they have different variables, or values with the same text. -/
def Unhidden (one other : String × Scalar) : Prop :=
  axisVariable one.1 = axisVariable other.1 → one.2.plain = other.2.plain

section

variable (context : Context) {inst : Instance}

theorem get?_envFor_axis {name text : String} (found : (axisVariables inst).last? name = some text) :
    (context.envFor inst).get? name = some text := by
  rw [get?_envFor, found, Option.some_or]

theorem get?_envFor_last {axis : String} {value : Scalar} {front back : Assignment}
    (split : inst.assignment = front ++ (axis, value) :: back)
    (last : ∀ later ∈ back, axisVariable later.1 ≠ axisVariable axis) :
    (context.envFor inst).get? (axisVariable axis) = some value.plain := by
  refine get?_envFor_axis context (Keyed.last?_eq_some_iff.2 ?_)
  rw [axisVariables, split, List.map_append, List.map_cons]
  refine ⟨_, _, rfl, fun known => ?_⟩
  obtain ⟨_, inside, same⟩ := List.mem_map.1 known
  obtain ⟨later, member, rfl⟩ := List.mem_map.1 inside
  exact last later member same

theorem exists_get?_envFor {entry : String × Scalar} (member : entry ∈ inst.assignment) :
    ∃ other ∈ inst.assignment, axisVariable other.1 = axisVariable entry.1 ∧
      (context.envFor inst).get? (axisVariable entry.1) = some other.2.plain := by
  cases found : (axisVariables inst).last? (axisVariable entry.1) with
  | none =>
    rw [Keyed.last?_eq_none_iff, names_axisVariables] at found
    exact absurd (List.mem_map_of_mem (List.mem_map_of_mem member)) found
  | some text =>
    obtain ⟨front, back, split, _⟩ := Keyed.last?_eq_some_iff.1 found
    have inside : (axisVariable entry.1, text) ∈ axisVariables inst := by simp [split]
    obtain ⟨other, there, same⟩ := List.mem_map.1 inside
    obtain ⟨name, rfl⟩ := Prod.mk.inj same
    exact ⟨other, there, name, get?_envFor_axis context found⟩

theorem showsAxes_iff_forall : context.ShowsAxes inst ↔
    ∀ one ∈ inst.assignment, ∀ other ∈ inst.assignment, Unhidden one other := by
  constructor
  · intro shows one here other there same
    have first := shows one here
    rw [same, shows other there] at first
    exact (Option.some.inj first).symm
  · intro all entry member
    obtain ⟨other, there, same, found⟩ := exists_get?_envFor context member
    rw [found, all other there entry member same]

theorem showsAxes_iff_pairwise : context.ShowsAxes inst ↔ inst.assignment.Pairwise Unhidden := by
  have symm : Std.Symm Unhidden := ⟨fun _ _ clear same => (clear same.symm).symm⟩
  rw [showsAxes_iff_forall]
  exact ⟨List.pairwise_of_forall_mem_list, fun pairwise => pairwise.forall_of_forall fun _ _ _ => rfl⟩

end

/-- In the instances of an accepted pipeline every axis can be seen exactly if no axis shares its variable with a
later one, but for axes that have one text only between them. Of axes that share a variable the last one is seen,
whatever the others are; where all variables differ nothing is hidden. -/
theorem showsAxes_iff {pipeline : Pipeline} {instances : List Instance}
    (expanded : pipeline.instances = .ok instances) (context : Context) :
    ((∀ inst ∈ instances, context.ShowsAxes inst) ↔
      ∀ job ∈ pipeline.jobs, ∀ axes, checkAxes job.name job.matrix = .ok axes →
        axes.Pairwise fun one other => ∀ value ∈ one.2, ∀ value' ∈ other.2,
          Unhidden (one.1, value) (other.1, value')) ∧
    (∀ inst ∈ instances, context.ShowsAxes inst ↔
      ∀ one ∈ inst.assignment, ∀ other ∈ inst.assignment, Unhidden one other) ∧
    (∀ inst ∈ instances, ∀ front axis value back, inst.assignment = front ++ (axis, value) :: back →
      (∀ later ∈ back, axisVariable later.1 ≠ axisVariable axis) →
        (context.envFor inst).get? (axisVariable axis) = some value.plain) ∧
    ((∀ job ∈ pipeline.jobs, (job.matrix.names.map axisVariable).Nodup) →
      ∀ inst ∈ instances, context.ShowsAxes inst) := by
  obtain ⟨groups, _, rfl, grouped, _⟩ := Pipeline.instancesOf_ok expanded
  have exact_iff : (∀ inst ∈ groups.flatten, context.ShowsAxes inst) ↔
      ∀ job ∈ pipeline.jobs, ∀ axes, checkAxes job.name job.matrix = .ok axes →
        axes.Pairwise fun one other => ∀ value ∈ one.2, ∀ value' ∈ other.2,
          Unhidden (one.1, value) (other.1, value') := by
    simp only [showsAxes_iff_pairwise]
    rw [forall_assignments_iff grouped fun assignment => assignment.Pairwise Unhidden]
    refine forall₂_congr fun job _ => forall₂_congr fun axes checked => ?_
    exact forall_combinations_pairwise (checkAxes_ok checked) Unhidden
  refine ⟨exact_iff, fun inst _ => showsAxes_iff_forall context,
    fun inst _ front axis value back split last => get?_envFor_last context split last, fun distinct => ?_⟩
  refine exact_iff.2 fun job member axes checked => ?_
  have apart := distinct job member
  rw [← (checkAxes_ok_iff.1 checked).names, Keyed.names, List.map_map] at apart
  exact (List.pairwise_map.1 apart).imp fun differ _ _ _ _ same => absurd same differ

example : axisVariable "straße" = axisVariable "STRASSE" := by decide +kernel

def crossedPipeline : Pipeline where
  name := "pipeline"
  jobs := [
    { name := "test", steps := [⟨"make", "make", none, none, [], none⟩], needs := []
      matrix := [("os", .list [.text "linux", .text "mac"]), ("py-level", .list [.bool true, .text "no"])]
      env := [], title := none, runsOn := none }]
  env := []
  triggers := []

def crossedInstances : List Instance :=
  [("linux", .bool true), ("linux", .text "no"), ("mac", .bool true), ("mac", .text "no")].mapIdx
    fun index (os, level) => ⟨"test", [("os", .text os), ("py-level", level)],
      [⟨"make", "make", none, none, [], none⟩], index, [], none, none⟩

theorem showsAxes_crossed : crossedPipeline.instances = .ok crossedInstances ∧
    ∀ inst ∈ crossedInstances, Run.sampleContext.ShowsAxes inst :=
  have expanded : crossedPipeline.instances = .ok crossedInstances := by with_unfolding_all rfl
  ⟨expanded, (showsAxes_iff expanded Run.sampleContext).2.2.2 (by decide +kernel)⟩

def foldedDocument : Document :=
  .map [(.text "jobs", .map [(.text "build", .map [
    (.text "matrix", .map [(.text "a-b", .list [.text "x"]), (.text "a_b", .list [.text "y"])]),
    (.text "steps", .list [.map [(.text "name", .text "make"), (.text "run", .text "make")]])])])]

def foldedInstance : Instance :=
  ⟨"build", [("a-b", .text "x"), ("a_b", .text "y")], [⟨"make", "make", none, none, [], none⟩], 0, [], none, none⟩

def folded : Pipeline where
  name := "pipeline"
  jobs := [
    { name := "build", steps := foldedInstance.steps, needs := []
      matrix := [("a-b", .list [.text "x"]), ("a_b", .list [.text "y"])], env := [], title := none
      runsOn := none }]
  env := []
  triggers := []

/-- The job is loaded, expanded and accepted, and the value of its first axis can be seen nowhere. -/
theorem not_showsAxes : Pipeline.ofDocument "folded" foldedDocument = .ok folded ∧
    folded.instances = .ok [foldedInstance] ∧
    InstanceGraph.ofInstances folded.jobs [foldedInstance] =
      .ok (InstanceGraph.build folded.jobs [foldedInstance]) ∧
    (Run.sampleContext.envFor foldedInstance).get? (axisVariable "a-b") = some "y" ∧
    ¬Run.sampleContext.ShowsAxes foldedInstance := by
  have hidden : (Run.sampleContext.envFor foldedInstance).get? (axisVariable "a-b") = some "y" := by
    decide +kernel
  refine ⟨by with_unfolding_all rfl, by with_unfolding_all rfl, by with_unfolding_all rfl, hidden,
    fun shows => ?_⟩
  have seen := shows ("a-b", .text "x") List.mem_cons_self
  rw [hidden] at seen
  exact absurd (Option.some.inj seen) (by decide)

end Context

end CiPipeline
