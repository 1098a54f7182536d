import CiPipeline.CommandLine.Basic
import CiPipeline.Proofs.Graph.Refusal
import CiPipeline.Proofs.Matrix.Acceptance
import CiPipeline.Proofs.Run.Verdict

/-! Running a pipeline and showing its stages begin alike: the pipeline is loaded, its jobs are expanded and
its stages are asked for. Where this ends with a problem both tell it and nothing has run; otherwise no problem
can come up any more, but both break off alike at a number that is too long to be written out. -/
namespace CiPipeline.CommandLine

open Files

variable {settings : Settings} {tree : Tree} {home : Path}

theorem checkWorkers_ok {count result : Int} (checked : checkWorkers count = .ok result) :
    result = count ∧ 1 ≤ count := by
  rw [checkWorkers] at checked
  split at checked
  · cases checked
  · rename_i enough
    exact ⟨(Except.ok.inj checked).symm, Int.not_lt.1 enough⟩

theorem readWorkers_ok {text : String} {count : Int} (read : readWorkers text = .ok count) :
    1 ≤ count := by
  rw [readWorkers] at read
  split at read
  · cases read
  · obtain ⟨rfl, enough⟩ := checkWorkers_ok read
    exact enough

theorem leftOut_of_pipelineArgument {parsed : Parsed} {leftOut : Except Usage Unit} {path : Path}
    (read : pipelineArgument tree home parsed leftOut = .ok path) : leftOut = .ok () := by
  rw [pipelineArgument] at read
  split at read
  · cases read
  · obtain ⟨_, _, read⟩ := Success.bind_iff.1 read
    split at read
    · cases read
    · obtain ⟨_, _, read⟩ := Success.bind_iff.1 read
      obtain ⟨_, done, _⟩ := Success.bind_iff.1 read
      exact done

theorem workers_of_readRun {arguments : List String} {request : RunRequest}
    (read : readRun settings tree home arguments = .ok request) :
    ∀ count ∈ request.workers, 1 ≤ count := by
  obtain ⟨parsed, _, read⟩ := Success.bind_iff.1 read
  obtain ⟨pipeline, argument, read⟩ := Success.bind_iff.1 read
  obtain ⟨workers, read_workers, read⟩ := Success.bind_iff.1 read
  obtain ⟨timeout, _, read⟩ := Success.bind_iff.1 read
  obtain rfl := Except.ok.inj read
  have checked := leftOut_of_pipelineArgument argument
  intro count asked
  -- A number that was given is checked when it is read, one of the settings only where none is given.
  rw [checkSettings] at checked
  cases given : parsed.value? "workers" with
  | some text =>
    rw [given] at read_workers
    obtain ⟨other, read_text, rfl⟩ := Success.mapM_some_iff.1 read_workers
    have chosen : other = count := Option.some.inj asked
    exact chosen ▸ readWorkers_ok read_text
  | none =>
    rw [given] at read_workers checked
    obtain rfl := Except.ok.inj read_workers
    have set : settings.maxWorkers = some count := asked
    rw [set] at checked
    obtain ⟨_, kept, _⟩ := Success.map_iff.1 checked
    exact (checkWorkers_ok kept).2

theorem readRun_of_readRequest {arguments : List String} {debug : Bool} {request : RunRequest}
    (read : readRequest settings tree home arguments = .ok (debug, .run request)) :
    ∃ rest, readRun settings tree home rest = .ok request := by
  obtain ⟨program, _, read⟩ := Success.bind_iff.1 read
  dsimp only at read
  by_cases none : arguments.isEmpty = true
  · rw [if_pos none] at read
    cases read
  by_cases help : program.isOn "help" = true
  · rw [if_neg none, if_pos help] at read
    cases read
  rw [if_neg none, if_neg help] at read
  split at read
  · cases read
  · rename_i rest _
    obtain ⟨run, made, read⟩ := Success.bind_iff.1 read
    obtain ⟨_, same⟩ := Prod.mk.inj (Except.ok.inj read)
    exact ⟨rest, Request.run.inj same ▸ made⟩
  · obtain ⟨plan, _, read⟩ := Success.bind_iff.1 read
    cases read
  · cases read

section

variable {around : Surroundings} {path : Path} {prepared : Prepared}

theorem prepare_ok_iff : prepare around path = .ok prepared ↔
    Pipeline.load around.tree around.home path = .ok prepared.pipeline ∧
      prepared.pipeline.instances = .ok prepared.instances ∧
      planLevels prepared.pipeline.jobs prepared.instances = .ok prepared.levels := by
  constructor
  · intro made
    obtain ⟨pipeline, loaded, made⟩ := Success.bind_iff.1 made
    obtain ⟨instances, expanded, made⟩ := Success.bind_iff.1 made
    obtain ⟨levels, leveled, same⟩ := Success.bind_iff.1 made
    obtain rfl := Except.ok.inj same
    exact ⟨loaded, expanded, leveled⟩
  · rintro ⟨loaded, expanded, leveled⟩
    exact Success.bind_iff.2 ⟨_, loaded, Success.bind_iff.2 ⟨_, expanded,
      Success.bind_iff.2 ⟨_, leveled, rfl⟩⟩⟩

/-- Unless loading a pipeline breaks off, all that can go wrong before a run is a problem or a number on an axis
that is too long to be written out. -/
theorem prepare_ends
    (loads : ∀ crash, Pipeline.load around.tree around.home path ≠ .error (.crash crash)) :
    (∃ prepared, prepare around path = .ok prepared) ∨
      (∃ problem, prepare around path = .error (.problem problem)) ∨
      prepare around path = .error (.crash .longNumber) := by
  rw [prepare]
  cases loaded : Pipeline.load around.tree around.home path with
  | error failure =>
    cases failure with
    | problem problem => exact .inr (.inl ⟨problem, rfl⟩)
    | crash crash => exact absurd loaded (loads crash)
  | ok pipeline =>
    dsimp only [bind, Except.bind]
    cases expanded : pipeline.instances with
    | error failure =>
      cases failure with
      | problem problem => exact .inr (.inl ⟨problem, rfl⟩)
      | crash crash =>
        obtain rfl := Pipeline.instances_crash expanded
        exact .inr (.inr rfl)
    | ok instances =>
      dsimp only
      rcases planLevels_ok_or_problem pipeline.jobs instances with ⟨levels, leveled⟩ | ⟨problem, refused⟩
      · rw [leveled]
        exact .inl ⟨_, rfl⟩
      · rw [refused]
        exact .inr (.inl ⟨problem, rfl⟩)

end

section

variable {σ : Type} {pipeline : Pipeline} {instances : List Instance} {levels : List (List String)}

theorem runPipeline_ok (expanded : pipeline.instances = .ok instances)
    (leveled : planLevels pipeline.jobs instances = .ok levels) (context : Context)
    {options : Run.Options} (allowed : ∀ count ∈ options.workers, 0 ≤ count)
    {executorFor : Option String → Executor (World σ)} (calm : ∀ backend, (executorFor backend).Calm)
    (world : World σ) :
    ∃ report last, Run.runPipeline pipeline context options executorFor world = (.ok report, last) := by
  obtain ⟨graph, accepted, _⟩ := Success.bind_iff.1 leveled
  have unbroken : (Run.runner context options executorFor).Calm := Run.calm_runner context options _ calm
  rw [Run.runPipeline, expanded]
  dsimp only [Run.schedule]
  rw [Schedule.run_eq accepted allowed]
  dsimp only
  rw [Schedule.runAll_calm unbroken]
  exact ⟨_, _, rfl⟩

end

theorem channel_problemLines (path : Path) (problem : Problem) :
    ∀ line ∈ problemLines path problem, line.channel = .err := by
  intro line told
  obtain ⟨text, _, rfl⟩ := List.mem_map.1 told
  rfl

theorem channel_startLines (request : RunRequest) (prepared : Prepared) :
    ∀ line ∈ startLines request prepared, line.channel = .out := by
  intro line told
  obtain ⟨text, _, rfl⟩ := List.mem_map.1 told
  rfl

theorem disjoint_startLines (request : RunRequest) (prepared : Prepared) (path : Path)
    (problem : Problem) : (startLines request prepared).Disjoint (problemLines path problem) := by
  intro line start told
  have both := (channel_startLines request prepared line start).symm.trans
    (channel_problemLines path problem line told)
  cases both

section

variable {σ : Type} {around : Surroundings}

def Exit.Refused (path : Path) (problem : Problem) (world : World σ) (exit : Exit σ) : Prop :=
  exit = .plain Settings.exitConfigError (world.tell (problemLines path problem))

structure Exit.Reported (request : RunRequest) (report : Report) (last : World σ) (exit : Exit σ) :
    Prop where
  unbroken : exit.failure = none
  told : exit.world = last.tell (reportLines request.asJson report)
  success : report.verdict = .success → exit.code = 0
  failure : report.verdict = .failure → exit.code = 1

theorem reported_exitCode (request : RunRequest) (report : Report) (last : World σ) :
    (Exit.plain (exitCode report) (last.tell (reportLines request.asJson report))).Reported request
      report last := by
  constructor
  case unbroken => rfl
  case told => rfl
  all_goals
    intro verdict
    rw [Exit.plain, exitCode, Report.ok, verdict]
    rfl

theorem Exit.Reported.code_ne {request : RunRequest} {report : Report} {last : World σ} {exit : Exit σ}
    (reported : exit.Reported request report last) : exit.code ≠ 2 := by
  cases verdict : report.verdict with
  | success =>
    rw [reported.success verdict]
    decide
  | failure =>
    rw [reported.failure verdict]
    decide

section

variable {path : Path} {problem : Problem} (made : prepare around path = .error (.problem problem))

include made

theorem refused_plan (world : World σ) : (plan around path world).Refused path problem world := by
  rw [plan, made]
  rfl

theorem refused_run {request : RunRequest} (same : request.pipeline = path) (debug : Bool)
    (backends : Keyed String) (executorFor : Option String → Executor (World σ)) (world : World σ) :
    (run around debug request backends executorFor world).Refused path problem world := by
  rw [run, same, made]
  rfl

end

section

variable {path : Path} (made : prepare around path = .error (.crash .longNumber))

include made

theorem broken_plan (world : World σ) :
    plan around path world = ⟨Settings.exitFailure, some (.crash .longNumber), world⟩ := by
  rw [plan, made]
  rfl

theorem broken_run {request : RunRequest} (same : request.pipeline = path) (debug : Bool)
    (backends : Keyed String) (executorFor : Option String → Executor (World σ)) (world : World σ) :
    run around debug request backends executorFor world =
      ⟨Settings.exitFailure, some (.crash .longNumber), world⟩ := by
  rw [run, same, made]
  rfl

end

theorem reported_run {request : RunRequest} {prepared : Prepared}
    (made : prepare around request.pipeline = .ok prepared)
    (allowed : ∀ count ∈ request.workers, 0 ≤ count) (debug : Bool) (backends : Keyed String)
    {executorFor : Option String → Executor (World σ)} (calm : ∀ command, (executorFor command).Calm)
    (world : World σ) :
    ∃ report last, Run.runPipeline prepared.pipeline
        (contextFor around request prepared.pipeline backends) (optionsFor around debug request)
        (fun backend => executorFor (backend.bind backends.get?))
        (world.tell (startLines request prepared)) = (.ok report, last) ∧
      (run around debug request backends executorFor world).Reported request report last := by
  obtain ⟨_, expanded, leveled⟩ := prepare_ok_iff.1 made
  obtain ⟨report, last, ran⟩ := runPipeline_ok expanded leveled
    (contextFor around request prepared.pipeline backends)
    (show ∀ count ∈ (optionsFor around debug request).workers, 0 ≤ count from allowed)
    (fun backend : Option String => calm (backend.bind backends.get?))
    (world.tell (startLines request prepared))
  refine ⟨report, last, ran, ?_⟩
  rw [run, made]
  dsimp only
  rw [ran]
  exact reported_exitCode request report last

end

def sampleJob : Job where
  name := "build"
  steps := [⟨"make", "make", none, none, [], none⟩]
  needs := []
  matrix := []
  env := []
  title := none
  runsOn := none

def sampleAround : Surroundings where
  tree := ⟨[(⟨"/", []⟩, .directory), (⟨"/", ["ws"]⟩, .directory), (⟨"/", ["ws", "sample.py"]⟩,
    .workflow { Workflow.empty with jobs := some (.items [some sampleJob]) })]⟩
  home := ⟨"/", ["ws"]⟩
  scratch := ⟨"/", ["tmp"]⟩
  environ := []
  settings := ⟨.infinite false, some 2, "os", 30⟩
  policy := fun _ _ _ => 0

def sampleRequest : RunRequest :=
  ⟨⟨"", ["sample.py"]⟩, some 2, none, ⟨"", []⟩, true, [], "os", false, true⟩

theorem pipelineArgument_sample {parsed : Parsed} (named : parsed.others = ["sample.py"])
    (no_help : parsed.isOn "help" = false)
    (checked : parsed.order.forM (checkOption sampleAround.tree sampleAround.home parsed) = .ok ()) :
    pipelineArgument sampleAround.tree sampleAround.home parsed (.ok ()) = .ok sampleRequest.pipeline := by
  have file : checkFile sampleAround.tree sampleAround.home "sample.py" = .ok () := by
    rw [checkFile, show checkPath "sample.py" = .ok () by simp [checkPath]]
    with_unfolding_all rfl
  rw [pipelineArgument, no_help, checked, named]
  dsimp only
  rw [file]
  with_unfolding_all rfl

theorem readRun_sample : readRun sampleAround.settings sampleAround.tree sampleAround.home
    ["sample.py", "--isolate", "--json"] = .ok sampleRequest := by
  have parsed : read runOptions true ["sample.py", "--isolate", "--json"] =
      .ok ⟨[("isolate", .switch true), ("json", .switch true)], ["sample.py"]⟩ := by decide +kernel
  exact Success.bind_iff.2 ⟨_, parsed,
    Success.bind_iff.2 ⟨_, pipelineArgument_sample rfl rfl rfl, by with_unfolding_all rfl⟩⟩

theorem readPlan_sample : readPlan sampleAround.tree sampleAround.home ["sample.py"] =
    .ok sampleRequest.pipeline := by
  have parsed : read planOptions true ["sample.py"] = .ok ⟨[], ["sample.py"]⟩ := by decide +kernel
  exact Success.bind_iff.2 ⟨_, parsed, pipelineArgument_sample rfl rfl rfl⟩

theorem readRequest_sample :
    readRequest sampleAround.settings sampleAround.tree sampleAround.home
      ["run", "sample.py", "--isolate", "--json"] = .ok (false, .run sampleRequest) ∧
    readRequest sampleAround.settings sampleAround.tree sampleAround.home ["plan", "sample.py"] =
      .ok (false, .plan sampleRequest.pipeline) := by
  have run : read programOptions false ["run", "sample.py", "--isolate", "--json"] =
      .ok ⟨[], ["run", "sample.py", "--isolate", "--json"]⟩ := by decide +kernel
  have plan : read programOptions false ["plan", "sample.py"] = .ok ⟨[], ["plan", "sample.py"]⟩ := by
    decide +kernel
  exact ⟨Success.bind_iff.2 ⟨_, run, Success.bind_iff.2 ⟨_, readRun_sample, rfl⟩⟩,
    Success.bind_iff.2 ⟨_, plan, Success.bind_iff.2 ⟨_, readPlan_sample, rfl⟩⟩⟩

end CiPipeline.CommandLine
