import CiPipeline.Keyed
import CiPipeline.Document

/-! What can be wrong with the description of a pipeline. A problem is found before any step runs.
Each has a kind, a message, the job it concerns, and details. -/
namespace CiPipeline

structure Issue where
  path : List String
  message : String
deriving DecidableEq, Repr

def Issue.text (issue : Issue) : String :=
  ".".intercalate issue.path ++ ": " ++ issue.message

inductive ProblemKind
  | spec
  | parse
  | matrix
  | unknownNeed
  | cycle
deriving DecidableEq, Repr

def ProblemKind.name : ProblemKind → String
  | spec => "SpecError"
  | parse => "ParseError"
  | matrix => "InvalidMatrix"
  | unknownNeed => "UnknownDependency"
  | cycle => "CyclicDependency"

def ProblemKind.all : List ProblemKind := [.spec, .parse, .matrix, .unknownNeed, .cycle]

def ProblemKind.ofName? (name : String) : Option ProblemKind :=
  ProblemKind.all.find? (·.name == name)

inductive Problem
  | emptyDocument (source : String)
  | notYaml (source : String)
  | notMapping (source kind : String)
  | invalidFields (source : String) (issues : List Issue)
  | missingFile (path : String)
  | unreadableFile (path : String)
  | workflowBroken (path failure : String)
  | workflowFailed (path failure : String)
  | workflowWithoutJobs (path : String)
  | axisNoList (job axis kind : String)
  | axisEmpty (job axis : String)
  | axisCollection (job axis : String) (value : Document)
  | axisRepeats (job axis spelled : String) (first second : Document)
  | unknownAxis (job axis text : String) (axes : List String)
  | sharedInstance (id owner job : String)
  | duplicateJobs (names : List String)
  | needsItself (job : String)
  | needsUnknown (job need : String) (known : List String)
  | cycle (stuck : List String)
  | declared (kind : ProblemKind) (message : String)

structure Notice where
  kind : String
  message : String
  job : String
  step : Option String
  details : Keyed Document

/-- One line for the message, one for the job, one for the step if it has a name, and one for each
detail. -/
def Notice.text (notice : Notice) : String :=
  let stepLine :=
    match notice.step with
    | some step => if step = "" then [] else ["step=" ++ step]
    | none => []
  let details := notice.details.map fun entry => entry.1 ++ "=" ++ entry.2.render
  "\n".intercalate
    ([notice.kind ++ ": " ++ notice.message, "job=" ++ notice.job] ++ stepLine ++ details)

/-- What stands in the place of a job where a problem concerns the whole pipeline. -/
def wholePipeline : String := "<pipeline>"

def Notice.ofKind (kind : ProblemKind) (message : String) (job : Option String)
    (details : Keyed Document) : Notice :=
  ⟨kind.name, message, job.getD wholePipeline, none, details⟩

def Notice.ofLaunch (job step message : String) (details : Keyed Document) : Notice :=
  ⟨"LaunchError", message, job, some step, details⟩

def textList (names : List String) : Document := .list (names.map .text)

namespace Problem

def kind : Problem → ProblemKind
  | emptyDocument .. | notYaml .. | notMapping .. | invalidFields .. | missingFile ..
  | unreadableFile .. | workflowBroken .. | workflowFailed .. | workflowWithoutJobs ..
  | duplicateJobs .. => .parse
  | axisNoList .. | axisEmpty .. | axisCollection .. | axisRepeats .. | unknownAxis ..
  | sharedInstance .. => .matrix
  | needsUnknown .. => .unknownNeed
  | needsItself .. | cycle .. => .cycle
  | declared kind _ => kind

def message : Problem → String
  | emptyDocument source => "Empty pipeline document: " ++ source
  | notYaml source => "Invalid YAML in " ++ source
  | notMapping source kind => "Expected a mapping in " ++ source ++ ", got " ++ kind
  | invalidFields source _ => "Validation failed for " ++ source
  | missingFile path => "Pipeline file not found: " ++ path
  | unreadableFile path => "Cannot read " ++ path
  | workflowBroken path failure => "Cannot load workflow " ++ path ++ ": " ++ failure
  | workflowFailed path failure => "workflow() in " ++ path ++ " failed: " ++ failure
  | workflowWithoutJobs _ =>
    "Workflow must return/define a List[Job]. " ++
      "Define workflow() -> List[Job] or JOBS = [Job, ...]."
  | axisNoList _ axis _ => "Matrix axis '" ++ axis ++ "' must be a list of values"
  | axisEmpty _ axis => "Matrix axis '" ++ axis ++ "' has no values"
  | axisCollection _ axis value =>
    "Matrix axis '" ++ axis ++ "' has a non-scalar value: " ++ value.display
  | axisRepeats _ axis spelled _ _ =>
    "Matrix axis '" ++ axis ++ "' repeats the value " ++ Text.quoted spelled
  | unknownAxis _ axis _ _ => "Reference to unknown matrix axis '" ++ axis ++ "'"
  | sharedInstance id _ _ =>
    "Job instance name '" ++ id ++ "' is produced by more than one job"
  | duplicateJobs names => "Duplicate job names found: " ++ (textList names).display
  | needsItself job => "Job '" ++ job ++ "' needs itself"
  | needsUnknown job need _ => "Job '" ++ job ++ "' needs missing job '" ++ need ++ "'"
  | cycle stuck => "Dependency cycle between jobs: " ++ (textList stuck).display
  | declared _ message => message

def job : Problem → String
  | axisNoList job .. | axisEmpty job .. | axisCollection job .. | axisRepeats job ..
  | unknownAxis job .. | sharedInstance _ _ job | needsItself job | needsUnknown job .. => job
  | _ => wholePipeline

def details : Problem → Keyed Document
  | invalidFields _ issues => [("errors", .text ("; ".intercalate (issues.map Issue.text)))]
  | workflowBroken path _ | workflowFailed path _ | workflowWithoutJobs path =>
    [("path", .text path)]
  | axisNoList _ axis kind => [("axis", .text axis), ("got", .text kind)]
  | axisEmpty _ axis | axisCollection _ axis _ => [("axis", .text axis)]
  | axisRepeats _ axis _ first second =>
    [("axis", .text axis), ("values", .list [first, second])]
  | unknownAxis _ _ text axes => [("text", .text text), ("axes", textList axes)]
  | sharedInstance _ owner job => [("jobs", textList [owner, job])]
  | duplicateJobs names => [("duplicates", textList names)]
  | needsUnknown _ _ known => [("known_jobs", textList known)]
  | cycle stuck => [("stuck", textList stuck)]
  | _ => []

def notice (problem : Problem) : Notice :=
  ⟨problem.kind.name, problem.message, problem.job, none, problem.details⟩

def text (problem : Problem) : String := problem.notice.text

end Problem

end CiPipeline
