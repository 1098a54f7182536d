import CiPipeline.Proofs.Run.Verdict
import CiPipeline.Run.Execution
import CiPipeline.Schema.Pipeline

/-! Which variables a step finds. They come in layers: the surroundings of the run, the pipeline, the job, what the
runner sets for the instance, and the step itself. Every layer wins over those before it, so that a step sees what
the runner says about it exactly if it does not say otherwise itself. -/
namespace CiPipeline

namespace Context

def IsAxisVariable (name : String) : Prop := "TINYCI_MATRIX_".toList <+: name.toList

theorem isAxisVariable (axis : String) : IsAxisVariable (axisVariable axis) := by
  rw [IsAxisVariable, axisVariable, String.toList_append]
  exact List.prefix_append _ _

def whereabouts (context : Context) (inst : Instance) : Env :=
  [("TINYCI_WORKSPACE", context.workspace.text), ("TINYCI_JOB", inst.job),
    ("TINYCI_JOB_INSTANCE", inst.id)]

/-- The value of a variable in the innermost layer that defines it: the step, else the job, else the pipeline, else
the surroundings. -/
def innermost? (context : Context) (inst : Instance) (step : Step) (name : String) : Option String :=
  (step.env.last? name).or ((inst.env.last? name).or ((context.pipelineEnv.last? name).or
    (context.environ.get? name)))

variable (context : Context) (inst : Instance)

theorem names_axisVariables : (axisVariables inst).names = inst.assignment.names.map axisVariable := by
  rw [Keyed.names, axisVariables, List.map_map, Keyed.names, List.map_map]
  rfl

theorem names_reserved : (context.reserved inst).names =
    ["CI", "TINYCI_WORKSPACE", "TINYCI_JOB", "TINYCI_JOB_INSTANCE"] := rfl

theorem nodup_names_reserved : (context.reserved inst).names.Nodup := by
  rw [names_reserved]
  decide

theorem last?_axisVariables_of_reserved {name : String} (reserved : name ∈ (context.reserved inst).names) :
    (axisVariables inst).last? name = none := by
  rw [Keyed.last?_eq_none_iff, names_axisVariables, List.mem_map]
  rintro ⟨axis, _, rfl⟩
  have apart : ∀ name ∈ (context.reserved inst).names, ¬"TINYCI_MATRIX_".toList <+: name.toList := by
    rw [names_reserved]
    decide
  exact apart _ reserved (isAxisVariable axis)

theorem get?_envFor (name : String) : (context.envFor inst).get? name =
    ((axisVariables inst).last? name).or (((context.reserved inst).last? name).or ((inst.env.last? name).or
      ((context.pipelineEnv.last? name).or (context.environ.get? name)))) := by
  simp only [envFor, List.foldl_cons, List.foldl_nil, Keyed.get?_putAll]

theorem get?_envFor_reserved {entry : String × String} (reserved : entry ∈ context.reserved inst) :
    (context.envFor inst).get? entry.1 = some entry.2 := by
  have known : entry.1 ∈ (context.reserved inst).names := List.mem_map_of_mem reserved
  have distinct := nodup_names_reserved context inst
  rw [get?_envFor, last?_axisVariables_of_reserved context inst known, Option.none_or,
    Keyed.last?_eq_get? distinct, Keyed.get?_of_mem distinct reserved, Option.some_or]

theorem get?_envFor_innermost {name : String} (free : name ∉ (context.reserved inst).names)
    (plain : ¬IsAxisVariable name) : (context.envFor inst).get? name =
      (inst.env.last? name).or ((context.pipelineEnv.last? name).or (context.environ.get? name)) := by
  have outside : (axisVariables inst).last? name = none := by
    rw [Keyed.last?_eq_none_iff, names_axisVariables, List.mem_map]
    rintro ⟨axis, _, rfl⟩
    exact plain (isAxisVariable axis)
  rw [get?_envFor, outside, Keyed.last?_eq_none_iff.2 free, Option.none_or, Option.none_or]

end Context

namespace Run

/-- What is promised of the variables of a step: the runner has the last word about where the step runs, and any
other variable, but for the general mark of a pipeline and those of the axes, comes from the innermost layer. -/
structure Layered (context : Context) (inst : Instance) (step : Step) (found : Env) : Prop where
  own : ∀ entry ∈ context.whereabouts inst, found.get? entry.1 = some entry.2
  innermost : ∀ name, name ∉ (context.reserved inst).names → ¬Context.IsAxisVariable name →
    found.get? name = context.innermost? inst step name

variable {context : Context} {inst : Instance} {environment : StepEnvironment}

theorem env_environmentFor (made : environmentFor context inst = .ok environment) :
    environment.env = context.envFor inst := by
  obtain ⟨cwd, _, rfl⟩ := Success.map_iff.1 made
  rfl

theorem get?_variablesOf (step : Step) (environment : StepEnvironment) (name : String) :
    (variablesOf step environment).get? name = (step.env.last? name).or (environment.env.get? name) :=
  Keyed.get?_putAll environment.env step.env name

/-- The variables that the process of a step is given are layered as promised exactly if the step does not set a
variable that says where it runs to something else. The runner wins over everything but the step. -/
theorem layered_iff (made : environmentFor context inst = .ok environment) (step : Step) :
    (∀ wrapper limit, (launchOf wrapper step environment limit).environ =
      (variablesOf step environment).map fun entry =>
        (Shell.Octets.ofText entry.1, Shell.Octets.ofText entry.2)) ∧
    (Layered context inst step (variablesOf step environment) ↔
      ∀ entry ∈ context.whereabouts inst, ∀ text, step.env.last? entry.1 = some text → text = entry.2) ∧
    (∀ entry ∈ context.reserved inst, environment.env.get? entry.1 = some entry.2 ∧
      (variablesOf step environment).get? entry.1 = some ((step.env.last? entry.1).getD entry.2)) ∧
    (∀ name, name ∉ (context.reserved inst).names → ¬Context.IsAxisVariable name →
      (variablesOf step environment).get? name = context.innermost? inst step name) := by
  have reserved : ∀ entry ∈ context.reserved inst, environment.env.get? entry.1 = some entry.2 ∧
      (variablesOf step environment).get? entry.1 = some ((step.env.last? entry.1).getD entry.2) := by
    intro entry member
    have around : environment.env.get? entry.1 = some entry.2 := by
      rw [env_environmentFor made, Context.get?_envFor_reserved context inst member]
    refine ⟨around, ?_⟩
    rw [get?_variablesOf, around]
    cases step.env.last? entry.1 <;> rfl
  have innermost : ∀ name, name ∉ (context.reserved inst).names → ¬Context.IsAxisVariable name →
      (variablesOf step environment).get? name = context.innermost? inst step name := by
    intro name free plain
    rw [get?_variablesOf, env_environmentFor made, Context.get?_envFor_innermost context inst free plain,
      Context.innermost?]
  refine ⟨fun _ _ => rfl,
    ⟨fun layered entry member text said => ?_, fun silent => ⟨fun entry member => ?_, innermost⟩⟩,
    reserved, innermost⟩
  · have seen := layered.own entry member
    rw [(reserved entry (List.mem_cons_of_mem _ member)).2, said] at seen
    exact Option.some.inj seen
  · rw [(reserved entry (List.mem_cons_of_mem _ member)).2]
    cases said : step.env.last? entry.1 with
    | none => rfl
    | some text => exact congrArg some (silent entry member text said)

def layeredContext : Context :=
  { sampleContext with
    pipelineEnv := [("LEVEL", "pipeline"), ("TINYCI_JOB", "mine")]
    environ := [("LEVEL", "around"), ("TINYCI_WORKSPACE", "/elsewhere"), ("HOME", "/root")] }

def layeredInstance : Instance :=
  { Instance.bare "build" [("os", .text "linux")] with env := [("LEVEL", "job"), ("CI", "no")] }

theorem layered_sample : ∃ environment, environmentFor layeredContext layeredInstance = .ok environment ∧
    Layered layeredContext layeredInstance ⟨"make", "make", none, none, [("LEVEL", "step")], none⟩
      (variablesOf ⟨"make", "make", none, none, [("LEVEL", "step")], none⟩ environment) := by
  refine ⟨_, rfl, (layered_iff rfl _).2.1.2 ?_⟩
  decide +kernel

def disguisedDocument : Document :=
  .map [(.text "jobs", .map [(.text "build", .map [(.text "steps", .list [.map
    [(.text "name", .text "who"), (.text "run", .text "echo $TINYCI_JOB"),
      (.text "env", .map [(.text "TINYCI_JOB", .text "other")])]])])])]

def disguisedStep : Step := ⟨"who", "echo $TINYCI_JOB", none, none, [("TINYCI_JOB", "other")], none⟩

def disguisedInstance : Instance := ⟨"build", [], [disguisedStep], 0, [], none, none⟩

def disguised : Pipeline where
  name := "pipeline"
  jobs := [
    { name := "build", steps := [disguisedStep], needs := [], matrix := [], env := [], title := none
      runsOn := none }]
  env := []
  triggers := []

theorem not_layered : Pipeline.ofDocument "disguised" disguisedDocument = .ok disguised ∧
    disguised.instances = .ok [disguisedInstance] ∧
    InstanceGraph.ofInstances disguised.jobs [disguisedInstance] =
      .ok (InstanceGraph.build disguised.jobs [disguisedInstance]) ∧
    ∃ environment, environmentFor sampleContext disguisedInstance = .ok environment ∧
      (variablesOf disguisedStep environment).get? "TINYCI_JOB" = some "other" ∧
      ¬Layered sampleContext disguisedInstance disguisedStep (variablesOf disguisedStep environment) := by
  refine ⟨by with_unfolding_all rfl, by with_unfolding_all rfl, by with_unfolding_all rfl, _, rfl, ?_,
    fun layered => ?_⟩
  · decide +kernel
  · have seen := layered.own ("TINYCI_JOB", "build") (by decide)
    revert seen
    decide +kernel

end Run

end CiPipeline
