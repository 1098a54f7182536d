/-! How alike two texts are, and the words that someone who mistyped one may have meant. Texts share the
letters of their longest common stretch, and what they share before it and behind it. -/
namespace CiPipeline.Text

structure Stretch where
  left : Nat
  right : Nat
  size : Nat
deriving DecidableEq, Repr

def agreement : List Char → List Char → Nat
  | a :: as, b :: bs => if a = b then agreement as bs + 1 else 0
  | _, _ => 0

def Stretch.longer (found next : Stretch) : Stretch :=
  if found.size < next.size then next else found

def longestStretch (a b : List Char) : Stretch :=
  (List.range a.length).foldl (fun found left =>
    (List.range b.length).foldl (fun found right =>
      found.longer ⟨left, right, agreement (a.drop left) (b.drop right)⟩) found) ⟨0, 0, 0⟩

/-- The number of letters that two texts share, where the bound is not less than their common
stretches. -/
def sharedUpTo : Nat → List Char → List Char → Nat
  | 0, _, _ => 0
  | bound + 1, a, b =>
    let found := longestStretch a b
    if found.size = 0 then 0
    else sharedUpTo bound (a.take found.left) (b.take found.right) + found.size +
      sharedUpTo bound (a.drop (found.left + found.size)) (b.drop (found.right + found.size))

structure Likeness where
  word : String
  shared : Nat
  whole : Nat
deriving DecidableEq, Repr

def likeness (meant given : String) : Likeness :=
  ⟨meant, sharedUpTo meant.length meant.toList given.toList, meant.length + given.length⟩

namespace Likeness

def isClose (likeness : Likeness) : Bool := 3 * likeness.whole ≤ 10 * likeness.shared

def precedes (a b : Likeness) : Bool :=
  b.shared * a.whole < a.shared * b.whole ||
    (b.shared * a.whole == a.shared * b.whole && b.word ≤ a.word)

end Likeness

/-- At most three of the words that are close to a given one, in alphabetical order. -/
def closest (given : String) (words : List String) : List String :=
  let close := (words.map (likeness · given)).filter Likeness.isClose
  (((close.mergeSort Likeness.precedes).take 3).map Likeness.word).mergeSort (· ≤ ·)

end CiPipeline.Text
