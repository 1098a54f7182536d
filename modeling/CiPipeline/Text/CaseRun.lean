/-! Runs of letters whose other case lies at a fixed distance. Case mappings are lists of such runs. -/
namespace CiPipeline.Text

/-- Code points from first to last in the given stride, all moved by one distance. -/
structure CaseRun where
  first : Nat
  last : Nat
  stride : Nat
  distance : Int

namespace CaseRun

def contains (run : CaseRun) (code : Nat) : Bool :=
  run.first ≤ code && code ≤ run.last && (code - run.first) % run.stride == 0

def move (run : CaseRun) (code : Nat) : Nat := ((code : Int) + run.distance).toNat

end CaseRun

end CiPipeline.Text
