import CiPipeline.Pipeline.Basic
import CiPipeline.Text.Alphanumeric

/-! Instances of jobs. An instance is one job with a value for each of its axes; its steps, its
environment and its labels have these values filled in. -/
namespace CiPipeline

abbrev Assignment := Keyed Scalar

structure Instance where
  job : String
  assignment : Assignment
  steps : List Step
  index : Nat
  env : Env
  runsOn : Option String
  title : Option String
deriving DecidableEq

namespace Instance

def bare (job : String) (assignment : Assignment) : Instance :=
  ⟨job, assignment, [], 0, [], none, none⟩

def idOf (job : String) (values : Keyed String) : String :=
  if values.isEmpty then job
  else
    job ++ " (" ++ ", ".intercalate (values.map fun entry => entry.1 ++ "=" ++ entry.2) ++ ")"

def spelledValues (inst : Instance) : Keyed String := inst.assignment.mapValues Scalar.spelled

def id (inst : Instance) : String := idOf inst.job inst.spelledValues

/-- Whether all values can be written out; an instance with any other value has no name. -/
def isNamed (inst : Instance) : Bool := inst.assignment.all fun entry => !entry.2.isLong

def matrix (inst : Instance) : Keyed Scalar := Keyed.ofPairs inst.assignment

def isSlugChar (c : Char) : Bool :=
  Text.isAlphanumeric c || c == '-' || c == '_' || c == '.'

def slugOf (job : String) (values : Keyed String) : String :=
  let parts := job :: values.map fun entry => entry.1 ++ "-" ++ entry.2
  String.ofList (("_".intercalate parts).toList.map fun c => if isSlugChar c then c else '-')

def slug (inst : Instance) : String := slugOf inst.job inst.spelledValues

def key (inst : Instance) : String × Assignment := (inst.job, inst.assignment)

end Instance

end CiPipeline
