import CiPipeline.Keyed
import CiPipeline.Scalar

/-! Pipelines as they are described: jobs made of ordered steps, the jobs that each of them needs, and
the matrix that turns one job into several. -/
namespace CiPipeline

abbrev Env := Keyed String

structure Step where
  name : String
  run : String
  cwd : Option String
  timeout : Option Scalar
  env : Env
  shell : Option String
deriving DecidableEq

/-- A job. The axes of its matrix are checked when it is expanded, not before. -/
structure Job where
  name : String
  steps : List Step
  needs : List String
  matrix : Keyed Document
  env : Env
  title : Option String
  runsOn : Option String

/-- A pipeline. Its triggers have no meaning here and are kept as they are. -/
structure Pipeline where
  name : String
  jobs : List Job
  env : Env
  triggers : Keyed Document

def givenText (text : Option String) : Option String := text.filter (· != "")

namespace Job

def displayName (job : Job) : String := (givenText job.title).getD job.name

end Job

namespace Pipeline

def job? (pipeline : Pipeline) (name : String) : Option Job :=
  pipeline.jobs.find? (·.name == name)

end Pipeline

end CiPipeline
