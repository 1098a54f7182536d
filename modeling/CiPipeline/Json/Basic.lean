import CiPipeline.Keyed
import CiPipeline.Scalar

/-! Values of the JSON data format. Numbers keep the difference between whole ones and doubles. -/
namespace CiPipeline

open Number

inductive Json
  | null
  | bool (value : Bool)
  | int (value : Int)
  | float (value : Binary64)
  | text (value : String)
  | list (items : List Json)
  | object (entries : List (String × Json))
deriving Inhabited

namespace Json

def ofText? : Option String → Json
  | some value => text value
  | none => null

def ofScalar : Scalar → Json
  | .text value => text value
  | .int value => int value
  | .float value => float value
  | .bool value => bool value

end Json

end CiPipeline
