import CiPipeline.Proofs.Files.Path
import CiPipeline.Proofs.Graph.PlanLevels
import CiPipeline.Proofs.Run.Verdict
import Mathlib.Data.String.Basic

/-! Which instances have a directory of their own below the scratch directory. The directory is named after
the job and the spelled values of its axes, put together without any escape; and every character that
does not suit a name becomes a hyphen. Two instances work in the same place exactly where their texts look
alike once this is done. -/
namespace CiPipeline

open CiPipeline.Matrix Files

namespace Instance

def parts (inst : Instance) : List String :=
  inst.job :: inst.spelledValues.map fun entry => entry.1 ++ "-" ++ entry.2

def label (inst : Instance) : List Char := ("_".intercalate inst.parts).toList

def shown (c : Char) : Char := if isSlugChar c then c else '-'

/-- Two characters that stand for the same one in the name of a directory. -/
def LooksLike (c d : Char) : Prop :=
  c = d ∨ (c = '-' ∨ isSlugChar c = false) ∧ (d = '-' ∨ isSlugChar d = false)

/-- Two instances whose texts look alike, or are such that neither names anything below a directory. -/
def Confusable (one other : Instance) : Prop :=
  List.Forall₂ LooksLike one.label other.label ∨
    one.label ∈ [[], ['.']] ∧ other.label ∈ [[], ['.']]

theorem toList_slug (inst : Instance) : inst.slug.toList = inst.label.map shown :=
  String.toList_ofList

theorem label_of_nil {inst : Instance} (plain : inst.assignment = []) :
    inst.label = inst.job.toList := by
  rw [label, parts, spelledValues, plain, String.toList_intercalate]
  exact List.intercalate_singleton

theorem length_le_utf8Len (cs : List Char) : cs.length ≤ String.utf8Len cs := by
  induction cs with
  | nil => exact Nat.zero_le _
  | cons c rest ih =>
    have unfolded : String.utf8Len (c :: rest) = String.utf8Len rest + c.utf8Size := rfl
    rw [unfolded, List.length_cons]
    have := c.utf8Size_pos
    omega

theorem isLongName_slug {inst : Instance} (long : Path.longestName < inst.label.length) :
    Path.isLongName inst.slug = true := by
  have at_least := length_le_utf8Len inst.slug.toList
  rw [← String.utf8ByteSize_ofList, String.ofList_toList, toList_slug, List.length_map] at at_least
  exact decide_eq_true (Nat.lt_of_lt_of_le long at_least)

theorem shown_eq_hyphen_iff {c : Char} : shown c = '-' ↔ c = '-' ∨ isSlugChar c = false := by
  rw [shown]
  split
  · rename_i kept
    simp [kept]
  · rename_i blurred
    simp [blurred]

theorem shown_of_isSlugChar {c : Char} (kept : isSlugChar c = true) : shown c = c := if_pos kept

theorem shown_inj {c d : Char} : shown c = shown d ↔ LooksLike c d := by
  constructor
  · intro same
    by_cases hyphen : shown c = '-'
    · exact .inr ⟨shown_eq_hyphen_iff.1 hyphen, shown_eq_hyphen_iff.1 (same ▸ hyphen)⟩
    · -- Only a hyphen stands for more than one character.
      have kept {e : Char} (plain : shown e ≠ '-') : shown e = e := by
        rw [Ne, shown_eq_hyphen_iff, not_or, Bool.not_eq_false] at plain
        exact shown_of_isSlugChar plain.2
      have hyphen' : shown d ≠ '-' := same ▸ hyphen
      rw [kept hyphen, kept hyphen'] at same
      exact .inl same
  · rintro (rfl | ⟨blurred, blurred'⟩)
    · rfl
    · rw [shown_eq_hyphen_iff.2 blurred, shown_eq_hyphen_iff.2 blurred']

theorem slug_inj {one other : Instance} :
    one.slug = other.slug ↔ List.Forall₂ LooksLike one.label other.label := by
  rw [← String.toList_inj, toList_slug, toList_slug, ← List.forall₂_eq_eq_eq,
    List.forall₂_map_left_iff, List.forall₂_map_right_iff]
  simp only [shown_inj]

theorem isSlugChar_shown (c : Char) : isSlugChar (shown c) = true := by
  rw [shown]
  split
  · assumption
  · decide +kernel

theorem single_slug (inst : Instance) : '/' ∉ inst.slug.toList := by
  rw [toList_slug, List.mem_map]
  rintro ⟨c, _, slash⟩
  have kept := isSlugChar_shown c
  rw [slash] at kept
  revert kept
  decide +kernel

theorem shown_eq_dot_iff {c : Char} : shown c = '.' ↔ c = '.' := by
  have kept : isSlugChar '.' = true := by decide +kernel
  rw [← shown_of_isSlugChar kept, shown_inj, shown_of_isSlugChar kept, LooksLike]
  simp [kept]

theorem slug_eq_dots_iff {inst : Instance} (count : Nat) :
    inst.slug = String.ofList (List.replicate count '.') ↔ inst.label = List.replicate count '.' := by
  rw [← String.toList_inj, toList_slug, String.toList_ofList, List.eq_replicate_iff,
    List.eq_replicate_iff, List.length_map, List.forall_mem_map]
  simp only [shown_eq_dot_iff]

theorem isName_slug_iff {inst : Instance} :
    Path.isName inst.slug = false ↔ inst.label ∈ [[], ['.']] := by
  have empty : inst.slug = "" ↔ inst.label = [] := slug_eq_dots_iff 0
  have single : inst.slug = "." ↔ inst.label = ['.'] := slug_eq_dots_iff 1
  rw [List.mem_cons, List.mem_singleton, ← empty, ← single, Path.isName]
  by_cases none : inst.slug = "" <;> by_cases alone : inst.slug = "." <;> simp [none, alone]

end Instance

namespace Context

/-- Instances with different names never work in the same place. -/
def KeepsApart (context : Context) (instances : List Instance) : Prop :=
  ∀ one ∈ instances, ∀ other ∈ instances, one.id ≠ other.id → ∀ path path',
    context.workdirFor one = .ok path → context.workdirFor other = .ok path' → path.place ≠ path'.place

theorem isolatedDir_ok {scratch : Path} {inst : Instance} {path : Path} :
    isolatedDir scratch inst = .ok path ↔
      Path.isLongName inst.slug = false ∧ path = scratch.join (Path.ofText inst.slug) := by
  rw [isolatedDir]
  split
  · rename_i long
    simp [long]
  · rename_i fits
    simp [fits, eq_comm]

theorem place_eq_iff {scratch : Path} (forward : ".." ∉ scratch.names) (filled : scratch.names ≠ [])
    {one other : Instance} :
    (scratch.join (Path.ofText one.slug)).place = (scratch.join (Path.ofText other.slug)).place ↔
      one.Confusable other := by
  rw [Path.place_join_ofText scratch one.single_slug, Path.place_join_ofText scratch other.single_slug,
    Files.Path.mk.injEq, and_iff_right rfl, Path.place, Path.climb_of_not_mem forward,
    Path.below_inj filled, Instance.slug_inj, Instance.isName_slug_iff, Instance.isName_slug_iff,
    Instance.Confusable]

theorem workdirFor_ok {context : Context} (isolated : context.isolate = true) {inst : Instance}
    {path : Path} : context.workdirFor inst = .ok path ↔
      Path.isLongName inst.slug = false ∧ path = context.scratch.join (Path.ofText inst.slug) := by
  rw [workdirFor, if_pos isolated, isolatedDir_ok]

theorem exists_workdirFor_iff {context : Context} {inst : Instance} :
    (∃ path, context.workdirFor inst = .ok path) ↔
      (context.isolate = true → Path.isLongName inst.slug = false) := by
  by_cases isolated : context.isolate = true
  · simp only [workdirFor_ok isolated, isolated, true_implies]
    exact ⟨fun ⟨_, fits, _⟩ => fits, fun fits => ⟨_, fits, rfl⟩⟩
  · refine iff_of_true ⟨context.workspace, ?_⟩ fun apart => absurd apart isolated
    rw [workdirFor, if_neg isolated]

theorem workdirFor_error {context : Context} (isolated : context.isolate = true) {inst : Instance}
    (long : Path.isLongName inst.slug = true) : context.workdirFor inst =
      .error (.longPath (context.scratch.join (Path.ofText inst.slug)).text) := by
  rw [workdirFor, if_pos isolated, isolatedDir, if_pos long]

theorem keepsApart_iff_confusable {context : Context} (isolated : context.isolate = true)
    (forward : ".." ∉ context.scratch.names) (filled : context.scratch.names ≠ [])
    {instances : List Instance} :
    context.KeepsApart instances ↔ ∀ one ∈ instances, ∀ other ∈ instances, one.id ≠ other.id →
      Path.isLongName one.slug = false → Path.isLongName other.slug = false →
        ¬one.Confusable other := by
  constructor
  · intro apart one here other there distinct fits fits'
    rw [← place_eq_iff forward filled]
    exact apart one here other there distinct _ _ ((workdirFor_ok isolated).2 ⟨fits, rfl⟩)
      ((workdirFor_ok isolated).2 ⟨fits', rfl⟩)
  · intro clear one here other there distinct path path' made made'
    obtain ⟨fits, below⟩ := (workdirFor_ok isolated).1 made
    obtain ⟨fits', below'⟩ := (workdirFor_ok isolated).1 made'
    rw [below, below', Ne, place_eq_iff forward filled]
    exact clear one here other there distinct fits fits'

end Context

namespace Matrix

theorem names_of_grouped {start : Nat} {jobs : List Job} {groups : List (List Instance)}
    (grouped : Grouped start jobs groups) (distinct : (jobs.map Job.name).Nodup)
    {one other : Instance} (here : one ∈ groups.flatten) (there : other ∈ groups.flatten)
    (same : one.job = other.job) : one.assignment.names = other.assignment.names := by
  induction grouped with
  | nil => cases here
  | @cons start job axes group jobs groups _ checked bound later ih =>
    rw [List.map_cons, List.nodup_cons] at distinct
    have apart {inst inst' : Instance} (first : inst ∈ group) (behind : inst' ∈ groups.flatten) :
        inst.job ≠ inst'.job := by
      intro same
      rw [bound.job inst first] at same
      exact distinct.1 (same ▸ job_mem_of_grouped later behind)
    rw [List.flatten_cons, List.mem_append] at here there
    -- Instances of different jobs are not in question, since no two jobs have the same name.
    rcases here with first | behind <;> rcases there with first' | behind'
    · rw [names_of_bound bound first, names_of_bound bound first']
    · exact absurd same (apart first behind')
    · exact absurd same.symm (apart first' behind)
    · exact ih distinct.2 behind behind'

end Matrix

namespace Instance

def IsWord (text : String) : Prop := ∀ c ∈ text.toList, isSlugChar c = true ∧ c ≠ '_'

instance (text : String) : Decidable (IsWord text) := List.decidableBAll _ text.toList

structure Legible (inst : Instance) : Prop where
  some_job : inst.job ≠ ""
  job : IsWord inst.job
  axes : ∀ entry ∈ inst.spelledValues, IsWord entry.1 ∧ IsWord entry.2

theorem isSlugChar_intercalate {texts : List (List Char)}
    (kept : ∀ text ∈ texts, ∀ c ∈ text, isSlugChar c = true) :
    ∀ c ∈ ['_'].intercalate texts, isSlugChar c = true := by
  induction texts with
  | nil => exact fun c member => absurd member List.not_mem_nil
  | cons text rest ih =>
    rw [List.forall_mem_cons] at kept
    cases rest with
    | nil => rw [List.intercalate_singleton]; exact kept.1
    | cons next others =>
      rw [List.intercalate_cons_cons]
      intro c member
      rcases List.mem_append.1 member with front | back
      · rcases List.mem_append.1 front with inside | between
        · exact kept.1 c inside
        · rw [List.mem_singleton.1 between]
          decide +kernel
      · exact ih kept.2 c back

namespace Legible

variable {inst : Instance} (legible : inst.Legible)

include legible

theorem parts {part : String} (member : part ∈ inst.parts) : IsWord part := by
  rcases List.mem_cons.1 member with rfl | axis
  · exact legible.job
  · obtain ⟨entry, there, rfl⟩ := List.mem_map.1 axis
    intro c inside
    rw [String.toList_append, String.toList_append, List.mem_append, List.mem_append] at inside
    rcases inside with (name | hyphen) | value
    · exact (legible.axes entry there).1 c name
    · rw [List.mem_singleton.1 hyphen]
      decide +kernel
    · exact (legible.axes entry there).2 c value

theorem splitOn_label : inst.label.splitOn '_' = inst.parts.map String.toList := by
  rw [label, String.toList_intercalate]
  refine List.splitOn_intercalate '_' (fun text member => ?_) (List.cons_ne_nil _ _)
  obtain ⟨part, there, rfl⟩ := List.mem_map.1 member
  exact fun inside => (legible.parts there _ inside).2 rfl

theorem toList_slug : inst.slug.toList = inst.label := by
  have kept : ∀ c ∈ inst.label, isSlugChar c = true := by
    rw [label, String.toList_intercalate]
    refine isSlugChar_intercalate fun text member => ?_
    obtain ⟨part, there, rfl⟩ := List.mem_map.1 member
    exact fun c inside => (legible.parts there c inside).1
  rw [Instance.toList_slug]
  exact (List.map_congr_left fun c member => shown_of_isSlugChar (kept c member)).trans (List.map_id' _)

theorem label_ne_nil : inst.label ≠ [] := by
  intro empty
  have split := legible.splitOn_label
  rw [empty, Instance.parts, List.map_cons] at split
  have first := (List.cons.inj split).1
  exact legible.some_job (String.toList_inj.1 first.symm)

end Legible

theorem values_eq_of_joined {one other : Keyed String} (names : one.names = other.names)
    (joined : (one.map fun entry => entry.1 ++ "-" ++ entry.2) =
      other.map fun entry => entry.1 ++ "-" ++ entry.2) : one = other := by
  induction one generalizing other with
  | nil => exact (List.map_eq_nil_iff.1 joined.symm).symm
  | cons entry rest ih =>
    cases other with
    | nil => cases joined
    | cons entry' rest' =>
      rw [Keyed.names_cons, Keyed.names_cons, List.cons.injEq] at names
      rw [List.map_cons, List.map_cons, List.cons.injEq, names.1, String.append_right_inj] at joined
      rw [ih names.2 joined.2, Prod.ext names.1 joined.1]

theorem id_eq_of_confusable {one other : Instance} (legible : one.Legible)
    (legible' : other.Legible)
    (axes : one.job = other.job → one.assignment.names = other.assignment.names)
    (confusable : one.Confusable other) : one.id = other.id := by
  have same : one.label = other.label := by
    rcases confusable with alike | ⟨unnamed, unnamed'⟩
    · rw [← legible.toList_slug, ← legible'.toList_slug, slug_inj.2 alike]
    · have dot {inst : Instance} (legible : inst.Legible) (unnamed : inst.label ∈ [[], ['.']]) :
          inst.label = ['.'] := by
        rcases List.mem_cons.1 unnamed with empty | single
        · exact absurd empty legible.label_ne_nil
        · exact List.mem_singleton.1 single
      rw [dot legible unnamed, dot legible' unnamed']
  -- No part holds the character between the parts, so that the parts can be read off the label.
  have split : one.parts = other.parts := by
    rw [← List.map_inj_right fun _ _ => String.toList_inj.1, ← legible.splitOn_label, same,
      legible'.splitOn_label]
  obtain ⟨job, values⟩ := List.cons.inj split
  have names : one.spelledValues.names = other.spelledValues.names := by
    rw [spelledValues, spelledValues, Keyed.names_mapValues, Keyed.names_mapValues, axes job]
  rw [Instance.id, Instance.id, job, values_eq_of_joined names values]

end Instance

namespace Context

/-- Instances that are kept apart share a directory exactly where their texts look alike. Where nothing is
lost in the names of the directories, every instance has one of its own. -/
theorem keepsApart_iff {pipeline : Pipeline} {instances : List Instance} {graph : InstanceGraph}
    (expanded : pipeline.instances = .ok instances)
    (accepted : InstanceGraph.ofInstances pipeline.jobs instances = .ok graph) {context : Context}
    (isolated : context.isolate = true) (forward : ".." ∉ context.scratch.names)
    (filled : context.scratch.names ≠ []) :
    (context.KeepsApart instances ↔ ∀ one ∈ instances, ∀ other ∈ instances, one.id ≠ other.id →
      Path.isLongName one.slug = false → Path.isLongName other.slug = false →
        ¬one.Confusable other) ∧
    ((∀ inst ∈ instances, inst.Legible) → context.KeepsApart instances) := by
  refine ⟨keepsApart_iff_confusable isolated forward filled, fun legible => ?_⟩
  rw [keepsApart_iff_confusable isolated forward filled]
  intro one here other there distinct _ _ confusable
  have names : (pipeline.jobs.map Job.name).Nodup := (InstanceGraph.ofInstances_ok accepted).1.names
  obtain ⟨groups, _, rfl, grouped, _⟩ := Pipeline.instancesOf_ok expanded
  exact distinct (Instance.id_eq_of_confusable (legible one here) (legible other there)
    (names_of_grouped grouped names here there) confusable)

def sampleApart : Context :=
  { Run.sampleContext with isolate := true, scratch := Path.ofText "/tmp/scratch" }

theorem keepsApart_sample :
    sampleApart.KeepsApart Schedule.sampleInstances ∧
      ∀ inst ∈ Schedule.sampleInstances, ∃ path, sampleApart.workdirFor inst = .ok path := by
  have legible : ∀ inst ∈ Schedule.sampleInstances, inst.Legible := by
    intro inst member
    have words : ∀ inst ∈ Schedule.sampleInstances, inst.job ≠ "" ∧ Instance.IsWord inst.job ∧
        ∀ entry ∈ inst.spelledValues, Instance.IsWord entry.1 ∧ Instance.IsWord entry.2 := by
      decide +kernel
    obtain ⟨some_job, job, axes⟩ := words inst member
    exact ⟨some_job, job, axes⟩
  refine ⟨(keepsApart_iff Schedule.instances_sample Schedule.accepted_sample rfl (by decide +kernel)
    (by decide +kernel)).2 legible, fun inst member => ?_⟩
  have fits : ∀ inst ∈ Schedule.sampleInstances, Path.isLongName inst.slug = false := by
    decide +kernel
  exact ⟨_, (workdirFor_ok rfl).2 ⟨fits inst member, rfl⟩⟩

def blurred : Pipeline where
  name := "blurred"
  jobs := ["a/b", "a-b"].map fun name =>
    { name := name, steps := [⟨"make", "make", none, none, [], none⟩], needs := [], matrix := []
      env := [], title := none, runsOn := none }
  env := []
  triggers := []

def blurredInstances : List Instance :=
  [⟨"a/b", [], [⟨"make", "make", none, none, [], none⟩], 0, [], none, none⟩,
    ⟨"a-b", [], [⟨"make", "make", none, none, [], none⟩], 1, [], none, none⟩]

/-- Two instances of an accepted pipeline work in the same directory although each should have its own. -/
theorem not_keepsApart : blurred.instances = .ok blurredInstances ∧
    InstanceGraph.ofInstances blurred.jobs blurredInstances =
      .ok (InstanceGraph.build blurred.jobs blurredInstances) ∧
    (blurredInstances.map Instance.id).Nodup ∧ sampleApart.isolate = true ∧
    ¬sampleApart.KeepsApart blurredInstances := by
  obtain ⟨graph, made⟩ : ∃ graph, JobGraph.ofJobs blurred.jobs = .ok graph :=
    ⟨_, by with_unfolding_all rfl⟩
  have free : ∀ job ∈ blurred.jobs, job.needs = [] := by decide
  have grows (need name : String) (edge : JobGraph.NeededBy blurred.jobs need name) :
      need.length < name.length := by
    obtain ⟨job, member, _, needed⟩ := edge
    rw [free job member] at needed
    cases needed
  have acyclic : ¬Cyclic (JobGraph.NeededBy blurred.jobs) := not_cyclic_of_grows grows
  refine ⟨by with_unfolding_all rfl, ofInstances_eq made acyclic, by decide, rfl, fun apart => ?_⟩
  have made : ∀ inst ∈ blurredInstances,
      sampleApart.workdirFor inst = .ok (Path.ofText "/tmp/scratch/a-b") := by decide +kernel
  exact apart _ List.mem_cons_self _ (List.mem_cons_of_mem _ List.mem_cons_self) (by decide) _ _
    (made _ List.mem_cons_self) (made _ (List.mem_cons_of_mem _ List.mem_cons_self)) rfl

end Context

end CiPipeline
