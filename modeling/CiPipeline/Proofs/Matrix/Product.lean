import CiPipeline.Proofs.Matrix.Acceptance

/-! The order of instances. The combinations of the values of all axes are counted through like the digits of a
number: the last axis runs fastest, and the number of an instance tells its value of each axis. -/
namespace CiPipeline

open CiPipeline.Matrix

namespace Matrix

theorem getElem?_flatMap {α β : Type} {f : α → List β} {n : Nat} (uniform : ∀ a, (f a).length = n)
    (items : List α) (i : Nat) :
    (items.flatMap f)[i]? = items[i / n]?.bind fun a => (f a)[i % n]? := by
  induction items generalizing i with
  | nil => simp
  | cons a rest ih =>
    rw [List.flatMap_cons]
    by_cases here : i < n
    · rw [List.getElem?_append_left (uniform a ▸ here), Nat.div_eq_of_lt here, Nat.mod_eq_of_lt here]
      rfl
    · rw [List.getElem?_append_right (uniform a ▸ Nat.le_of_not_lt here), uniform, ih]
      rcases Nat.eq_zero_or_pos n with rfl | some_length
      · have empty (b : α) : f b = [] := List.length_eq_zero_iff.1 (uniform b)
        cases rest <;> simp [empty]
      · rw [Nat.div_eq_sub_div some_length (Nat.le_of_not_lt here),
          Nat.mod_eq_sub_mod (Nat.le_of_not_lt here), List.getElem?_cons_succ]

theorem getElem?_combinations_cons {axis : String} {values : List Scalar} {rest : Keyed (List Scalar)}
    {i : Nat} {assignment : Assignment} :
    (combinations ((axis, values) :: rest))[i]? = some assignment ↔
      ∃ value later, values[i / combinationCount rest]? = some value ∧
        (combinations rest)[i % combinationCount rest]? = some later ∧
        assignment = (axis, value) :: later := by
  have uniform (value : Scalar) :
      ((combinations rest).map ((axis, value) :: ·)).length = combinationCount rest := by
    rw [List.length_map, combinations_length]
  rw [combinations, getElem?_flatMap uniform]
  simp only [Option.bind_eq_some_iff, List.getElem?_map, Option.map_eq_some_iff]
  constructor
  · rintro ⟨value, first, later, behind, rfl⟩
    exact ⟨value, later, first, behind, rfl⟩
  · rintro ⟨value, later, first, behind, rfl⟩
    exact ⟨value, first, later, behind, rfl⟩

theorem combinationCount_cons (axis : String × List Scalar) (rest : Keyed (List Scalar)) :
    combinationCount (axis :: rest) = axis.2.length * combinationCount rest := rfl

theorem combinationCount_drop {axes : Keyed (List Scalar)} {k : Nat} {axis : String × List Scalar}
    (there : axes[k]? = some axis) :
    combinationCount (axes.drop k) = axis.2.length * combinationCount (axes.drop (k + 1)) := by
  obtain ⟨bound, rfl⟩ := List.getElem?_eq_some_iff.1 there
  rw [List.drop_eq_getElem_cons bound, combinationCount_cons]

theorem combinationCount_drop_dvd (axes : Keyed (List Scalar)) (k : Nat) :
    combinationCount (axes.drop k) ∣ combinationCount axes := by
  induction axes generalizing k with
  | nil => simp
  | cons axis rest ih =>
    cases k with
    | zero => exact Nat.dvd_refl _
    | succ k => exact Nat.dvd_trans (ih k) (Nat.dvd_mul_left _ _)

/-- The value that a combination gives to an axis stands on the axis at the digit of this axis in the number of
the combination. -/
theorem getElem?_of_combinations {axes : Keyed (List Scalar)} {i k : Nat} {assignment : Assignment}
    {axis : String × List Scalar} (found : (combinations axes)[i]? = some assignment)
    (there : axes[k]? = some axis) :
    ∃ value, axis.2[i / combinationCount (axes.drop (k + 1)) % axis.2.length]? = some value ∧
      assignment[k]? = some (axis.1, value) := by
  induction axes generalizing i k assignment with
  | nil => cases there
  | cons first rest ih =>
    obtain ⟨value, later, here, behind, rfl⟩ := getElem?_combinations_cons.1 found
    cases k with
    | zero =>
      obtain rfl := Option.some.inj there
      refine ⟨value, ?_, rfl⟩
      rw [List.drop_succ_cons, List.drop_zero, Nat.mod_eq_of_lt (List.getElem?_eq_some_iff.1 here).1]
      exact here
    | succ k =>
      rw [List.getElem?_cons_succ] at there
      obtain ⟨other, digit, same⟩ := ih behind there
      refine ⟨other, ?_, same⟩
      -- The later digits do not see the first one, which counts in multiples of all later axes.
      have whole : combinationCount (rest.drop (k + 1)) * axis.2.length ∣ combinationCount rest := by
        rw [Nat.mul_comm, ← combinationCount_drop there]
        exact combinationCount_drop_dvd rest k
      rwa [← Nat.mod_mul_right_div_self, Nat.mod_mod_of_dvd _ whole, Nat.mod_mul_right_div_self] at digit

/-- Instances that are the ordered product of axes, numbered from a start, with the last axis running fastest and
no two of them with values that are all spelled alike. -/
structure OrderedProduct (job : Job) (start : Nat) (axes : Keyed (List Scalar)) (instances : List Instance) :
    Prop where
  length : instances.length = combinationCount axes
  numbered : ∀ i inst, instances[i]? = some inst → inst.job = job.name ∧ inst.index = start + i
  named : ∀ inst ∈ instances, inst.assignment.names = axes.names
  value : ∀ i inst k axis, instances[i]? = some inst → axes[k]? = some axis →
    ∃ value, axis.2[i / combinationCount (axes.drop (k + 1)) % axis.2.length]? = some value ∧
      inst.assignment[k]? = some (axis.1, value)
  apart : (instances.map fun inst => inst.spelledValues.values).Nodup

theorem product_of_bound {job : Job} {start : Nat} {axes : Keyed (List Scalar)} {group : List Instance}
    (checked : Checked axes) (bound : Bound job start (combinations axes) group) :
    OrderedProduct job start axes group := by
  have assigned {i : Nat} {inst : Instance} (found : group[i]? = some inst) :
      (combinations axes)[i]? = some inst.assignment := by
    rw [← bound.assignments, List.getElem?_map, found, Option.map_some]
  constructor
  case length => rw [← combinations_length, ← bound.assignments, List.length_map]
  case numbered =>
    intro i inst found
    have index : (group.map Instance.index)[i]? = some inst.index := by
      rw [List.getElem?_map, found, Option.map_some]
    rw [bound.index, List.getElem?_eq_some_iff] at index
    obtain ⟨_, same⟩ := index
    rw [List.getElem_range', Nat.one_mul] at same
    exact ⟨bound.job inst (List.mem_of_getElem? found), same.symm⟩
  case named => exact fun inst member => names_of_bound bound member
  case value => exact fun i inst k axis found there => getElem?_of_combinations (assigned found) there
  case apart =>
    have distinct := nodup_spelled_combinations checked
    rwa [← bound.assignments, List.map_map] at distinct

end Matrix

namespace Job

theorem exists_product {job : Job} {axes : Keyed (List Scalar)}
    (checked : checkAxes job.name job.matrix = .ok axes)
    (declared : ∀ text ∈ job.texts, Declared job.matrix.names text) (start : Nat) :
    ∃ instances, job.instancesFrom start = .ok instances ∧ OrderedProduct job start axes instances := by
  obtain ⟨instances, bound⟩ := (decided_combinations checked start).ok_iff.2 declared
  exact ⟨instances, instancesFrom_ok_iff.2 ⟨axes, checked, bound⟩,
    product_of_bound (checkAxes_ok checked) (bindJobs_ok bound)⟩

end Job

namespace Pipeline

theorem groups_of_grouped {start : Nat} {jobs : List Job} {groups : List (List Instance)}
    (grouped : Grouped start jobs groups) : groups.length = jobs.length ∧
      ∀ (j : Nat) (job : Job) (group : List Instance), jobs[j]? = some job → groups[j]? = some group →
        job.instancesFrom (start + (groups.take j).flatten.length) = .ok group := by
  induction grouped with
  | nil => exact ⟨rfl, fun _ _ _ none => by cases none⟩
  | @cons start first _ own jobs groups expanded _ _ _ ih =>
    obtain ⟨length, each⟩ := ih
    refine ⟨congrArg Nat.succ length, fun j job group here there => ?_⟩
    cases j with
    | zero =>
      obtain rfl := Option.some.inj here
      obtain rfl := Option.some.inj there
      exact expanded
    | succ j =>
      rw [List.take_succ_cons, List.flatten_cons, List.length_append, ← Nat.add_assoc]
      exact each j job group here there

end Pipeline

/-- A job whose axes are in order and whose texts refer to its axes only is expanded into the ordered product of
the axes. The instances of a pipeline are those of its jobs one after the other, and each one has its place for
its number. -/
theorem Pipeline.expansion_product :
    (∀ (job : Job) (start : Nat) (axes : Keyed (List Scalar)),
      checkAxes job.name job.matrix = .ok axes →
      (∀ text ∈ job.texts, ∀ axis, Refers text axis → axis ∈ job.matrix.names) →
        Keyed.Alike Fits job.matrix axes ∧
        ∃ instances, job.instancesFrom start = .ok instances ∧ OrderedProduct job start axes instances) ∧
    ∀ (pipeline : Pipeline) (instances : List Instance), pipeline.instances = .ok instances →
      (∃ groups : List (List Instance), instances = groups.flatten ∧ groups.length = pipeline.jobs.length ∧
        ∀ (j : Nat) (job : Job) (group : List Instance), pipeline.jobs[j]? = some job → groups[j]? = some group →
          job.instancesFrom (groups.take j).flatten.length = .ok group) ∧
      ∀ (p : Nat) (inst : Instance), instances[p]? = some inst → inst.index = p := by
  refine ⟨fun job start axes checked declared =>
    ⟨checkAxes_ok_iff.1 checked, Job.exists_product checked declared start⟩,
    fun pipeline instances expanded => ⟨?_, fun p inst found => ?_⟩⟩
  · obtain ⟨groups, _, same, grouped, _⟩ := instancesOf_ok expanded
    obtain ⟨length, each⟩ := groups_of_grouped grouped
    simp only [Nat.zero_add] at each
    exact ⟨groups, same, length, each⟩
  · have index : (instances.map Instance.index)[p]? = some inst.index := by
      rw [List.getElem?_map, found, Option.map_some]
    rw [instances_index expanded, List.getElem?_eq_some_iff] at index
    obtain ⟨_, same⟩ := index
    rw [List.getElem_range] at same
    exact same.symm

def crossedJob : Job where
  name := "test"
  steps := [⟨"on $\x7b\x7b matrix.os \x7d\x7d", "make", none, none, [], none⟩]
  needs := []
  matrix := [("os", .list [.text "linux", .text "mac"]), ("level", .tuple [.text "high"]),
    ("fast", .list [.bool true, .text "no"])]
  env := []
  title := none
  runsOn := none

def crossedAxes : Keyed (List Scalar) :=
  [("os", [.text "linux", .text "mac"]), ("level", [.text "high"]), ("fast", [.bool true, .text "no"])]

theorem Pipeline.product_crossed : ∃ instances, crossedJob.instancesFrom 5 = .ok instances ∧
    OrderedProduct crossedJob 5 crossedAxes instances ∧
    ∀ inst, instances[2]? = some inst → inst.index = 7 ∧
      inst.assignment[0]? = some ("os", .text "mac") ∧ inst.assignment[2]? = some ("fast", .bool true) := by
  have checked : checkAxes crossedJob.name crossedJob.matrix = .ok crossedAxes := by
    with_unfolding_all rfl
  have declared : ∀ text ∈ crossedJob.texts, Declared crossedJob.matrix.names text := by
    decide +kernel
  obtain ⟨instances, expanded, product⟩ := (expansion_product.1 crossedJob 5 crossedAxes checked declared).2
  refine ⟨instances, expanded, product, fun inst found => ⟨(product.numbered 2 inst found).2, ?_, ?_⟩⟩
  · obtain ⟨value, digit, same⟩ := product.value 2 inst 0 _ found rfl
    obtain rfl : Scalar.text "mac" = value := Option.some.inj digit
    exact same
  · obtain ⟨value, digit, same⟩ := product.value 2 inst 2 _ found rfl
    obtain rfl : Scalar.bool true = value := Option.some.inj digit
    exact same

end CiPipeline
