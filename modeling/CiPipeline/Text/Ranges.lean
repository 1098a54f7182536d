/-! Sets of characters given as closed ranges of code points. The tables of the character
properties are lists of such ranges, and membership is decided by comparing code points. -/
namespace CiPipeline.Text

structure Ranges where
  bounds : List (Nat × Nat)

namespace Ranges

def contains (table : Ranges) (c : Char) : Bool :=
  table.bounds.any fun bound => bound.1 ≤ c.toNat && c.toNat ≤ bound.2

def find? (table : Ranges) (c : Char) : Option (Nat × Nat) :=
  table.bounds.find? fun bound => bound.1 ≤ c.toNat && c.toNat ≤ bound.2

end Ranges

end CiPipeline.Text
