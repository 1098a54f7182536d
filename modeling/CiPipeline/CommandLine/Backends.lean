import CiPipeline.Keyed
import CiPipeline.Text.Blank
import CiPipeline.Text.Quoted

/-! Backends of a run: each value of the backend axis may have a command through which the steps of its
instances are run. -/
namespace CiPipeline.CommandLine

open Text

def readBackend (spec : String) : Except String (String × String) :=
  let cs := spec.toList
  let value := trim (String.ofList (cs.takeWhile (· != '=')))
  let wrapper := trim (String.ofList ((cs.dropWhile (· != '=')).drop 1))
  if value = "" ∨ wrapper = "" then
    .error ("expected VALUE=COMMAND_PREFIX, got " ++ quoted spec)
  else .ok (value, wrapper)

def readBackends (specs : List String) : Except String (Keyed String) :=
  (specs.mapM readBackend).map Keyed.ofPairs

end CiPipeline.CommandLine
