import CiPipeline.Proofs.Run.Isolation
import CiPipeline.Schema.Pipeline

/-! Where the directory of an instance lies. A slug is a single name in which dots are kept, so that it
leads to a direct child of the scratch directory unless it is empty or made of one or two dots; and that
happens exactly for a job of such a name without axes. -/
namespace CiPipeline

open Files

namespace Instance

theorem mem_label_of_ne_nil {inst : Instance} (axes : inst.assignment ≠ []) : '_' ∈ inst.label := by
  obtain ⟨entry, rest, split⟩ := List.exists_cons_of_ne_nil axes
  rw [label, parts, spelledValues, split, String.toList_intercalate, Keyed.mapValues, List.map_cons,
    List.map_cons, List.map_cons, List.map_cons, List.intercalate_cons_cons]
  exact List.mem_append_left _ (List.mem_append_right _ List.mem_cons_self)

theorem slug_eq_dots_iff_job {inst : Instance} (count : Nat) :
    inst.slug = String.ofList (List.replicate count '.') ↔
      inst.assignment = [] ∧ inst.job = String.ofList (List.replicate count '.') := by
  rw [slug_eq_dots_iff]
  by_cases plain : inst.assignment = []
  · rw [and_iff_right plain, label_of_nil plain, ← String.toList_inj, String.toList_ofList]
  · refine iff_of_false (fun dots => ?_) fun both => plain both.1
    have member := mem_label_of_ne_nil plain
    rw [dots] at member
    cases List.eq_of_mem_replicate member

theorem slug_mem_strayNames_iff {inst : Instance} :
    inst.slug ∈ Path.strayNames ↔ inst.assignment = [] ∧ inst.job ∈ Path.strayNames := by
  have empty : inst.slug = "" ↔ inst.assignment = [] ∧ inst.job = "" := slug_eq_dots_iff_job 0
  have single : inst.slug = "." ↔ inst.assignment = [] ∧ inst.job = "." := slug_eq_dots_iff_job 1
  have double : inst.slug = ".." ↔ inst.assignment = [] ∧ inst.job = ".." := slug_eq_dots_iff_job 2
  simp only [Path.strayNames, List.mem_cons, List.not_mem_nil, or_false, empty, single, double,
    and_or_left]

end Instance

namespace Context

/-- The directory of an instance can be made, and is a direct child of the scratch directory. -/
def Confines (context : Context) (inst : Instance) : Prop :=
  ∃ path name, context.workdirFor inst = .ok path ∧
    path.place = ⟨context.scratch.anchor, context.scratch.place.names ++ [name]⟩

section

variable {context : Context} (isolated : context.isolate = true) {inst : Instance}

include isolated

theorem exists_place (fits : Path.isLongName inst.slug = false) :
    ∃ path, context.workdirFor inst = .ok path ∧
      path.place = ⟨context.scratch.anchor, Path.below context.scratch.place.names inst.slug⟩ :=
  ⟨_, (workdirFor_ok isolated).2 ⟨fits, rfl⟩,
    Path.place_join_ofText context.scratch inst.single_slug⟩

theorem confines_iff_slug : context.Confines inst ↔
    Path.isLongName inst.slug = false ∧ inst.slug ∉ Path.strayNames := by
  constructor
  · rintro ⟨path, name, made, child⟩
    obtain ⟨fits, joined⟩ := (workdirFor_ok isolated).1 made
    rw [joined, Path.place_join_ofText context.scratch inst.single_slug, Files.Path.mk.injEq] at child
    exact ⟨fits, Path.exists_below_iff.1 ⟨name, child.2⟩⟩
  · rintro ⟨fits, plain⟩
    obtain ⟨path, made, place⟩ := exists_place isolated fits
    obtain ⟨name, child⟩ := Path.exists_below_iff.2 plain
    exact ⟨path, name, made, child ▸ place⟩

end

/-- The directory of an instance that is kept apart is a direct child of the scratch directory, unless its
name is too long, so that it cannot be made, or the instance is that of a job without axes that is named
by no character or by dots. Such a job works in the scratch directory itself, or in the one above. -/
theorem confines_iff {context : Context} (isolated : context.isolate = true) (inst : Instance) :
    (context.Confines inst ↔ Path.isLongName inst.slug = false ∧
      ¬(inst.assignment = [] ∧ (inst.job = "" ∨ inst.job = "." ∨ inst.job = ".."))) ∧
    (∀ path, context.workdirFor inst = .ok path → inst.assignment = [] →
      (inst.job = "" ∨ inst.job = "." → path.place = context.scratch.place) ∧
      (inst.job = ".." → path.place =
        ⟨context.scratch.anchor, context.scratch.place.names.dropLast⟩)) ∧
    (Path.isLongName inst.slug = true → ∃ path, context.workdirFor inst = .error (.longPath path)) := by
  have job_mem : inst.job ∈ Path.strayNames ↔ inst.job = "" ∨ inst.job = "." ∨ inst.job = ".." := by
    simp only [Path.strayNames, List.mem_cons, List.not_mem_nil, or_false]
  refine ⟨?_, fun path made plain => ?_, fun long => ⟨_, workdirFor_error isolated long⟩⟩
  · rw [confines_iff_slug isolated, Instance.slug_mem_strayNames_iff, job_mem]
  · obtain ⟨_, joined⟩ := (workdirFor_ok isolated).1 made
    rw [joined, Path.place_join_ofText context.scratch inst.single_slug]
    constructor
    · intro here
      have slug : inst.slug = "" ∨ inst.slug = "." :=
        here.imp (fun same => (Instance.slug_eq_dots_iff_job 0).2 ⟨plain, same⟩)
          fun same => (Instance.slug_eq_dots_iff_job 1).2 ⟨plain, same⟩
      have unnamed : Path.isName inst.slug = false := by
        rcases slug with same | same <;> rw [same] <;> rfl
      rw [Path.below_of_unnamed unnamed]
      rfl
    · intro above
      have slug : inst.slug = ".." := (Instance.slug_eq_dots_iff_job 2).2 ⟨plain, above⟩
      rw [slug, Path.below, if_pos rfl]

theorem confines_sample : sampleApart.isolate = true ∧
    ∀ inst ∈ Schedule.sampleInstances, sampleApart.Confines inst := by
  refine ⟨rfl, fun inst member => (confines_iff rfl inst).1.2 ?_⟩
  have named : ∀ inst ∈ Schedule.sampleInstances, Path.isLongName inst.slug = false ∧
      ¬(inst.assignment = [] ∧ (inst.job = "" ∨ inst.job = "." ∨ inst.job = "..")) := by
    decide +kernel
  exact named inst member

def upwardDocument : Document :=
  .map [(.text "jobs", .map [(.text "..", .map [(.text "steps",
    .list [.map [(.text "name", .text "where"), (.text "run", .text "pwd")]])])])]

def upwardInstance : Instance :=
  ⟨"..", [], [⟨"where", "pwd", none, none, [], none⟩], 0, [], none, none⟩

def upward : Pipeline where
  name := "pipeline"
  jobs := [
    { name := "..", steps := upwardInstance.steps, needs := [], matrix := [], env := [], title := none
      runsOn := none }]
  env := []
  triggers := []

/-- The job is loaded, expanded and accepted, and works above the scratch directory. -/
theorem not_confines : Pipeline.ofDocument "upward" upwardDocument = .ok upward ∧
    upward.instances = .ok [upwardInstance] ∧
    InstanceGraph.ofInstances upward.jobs [upwardInstance] =
      .ok (InstanceGraph.build upward.jobs [upwardInstance]) ∧
    sampleApart.isolate = true ∧ ¬sampleApart.Confines upwardInstance ∧
    ∃ path, sampleApart.workdirFor upwardInstance = .ok path ∧ path.place = Path.ofText "/tmp" := by
  have slug : upwardInstance.slug = ".." := (Instance.slug_eq_dots_iff_job 2).2 ⟨rfl, rfl⟩
  have fits : Path.isLongName upwardInstance.slug = false := by
    rw [slug]
    decide +kernel
  have isolated : sampleApart.isolate = true := rfl
  obtain ⟨path, made, place⟩ := exists_place isolated fits
  refine ⟨by with_unfolding_all rfl, by with_unfolding_all rfl, by with_unfolding_all rfl, isolated, ?_,
    path, made, place.trans ?_⟩
  · rw [confines_iff_slug isolated, slug]
    exact fun both => both.2 (by decide)
  · rw [slug]
    decide +kernel

end Context

end CiPipeline
