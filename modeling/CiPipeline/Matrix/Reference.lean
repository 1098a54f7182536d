import CiPipeline.Failure
import CiPipeline.Scalar
import CiPipeline.Text.Blank
import CiPipeline.Text.Digit

/-! References to the axes of a matrix inside a text. A text falls into pieces, from left to right: single
characters that stand for themselves, and references. The written form of all pieces is the text
again; binding replaces every reference by the value of its axis and leaves the rest alone. -/
namespace CiPipeline.Matrix

open Text

structure Reference where
  before : List Char
  axis : List Char
  after : List Char
deriving DecidableEq, Repr

inductive Piece
  | literal (c : Char)
  | reference (reference : Reference)
deriving DecidableEq, Repr

def opening : List Char := ['$', '\x7b', '\x7b']

def closing : List Char := ['\x7d', '\x7d']

def marker : List Char := "matrix.".toList

def isAxisChar (c : Char) : Bool :=
  ('A' ≤ c && c ≤ 'Z') || ('a' ≤ c && c ≤ 'z') || isAsciiDigit c || c == '_' || c == '-'

def Reference.source (reference : Reference) : List Char :=
  opening ++ reference.before ++ marker ++ reference.axis ++ reference.after ++ closing

def Piece.source : Piece → List Char
  | literal c => [c]
  | reference found => found.source

def strip? : List Char → List Char → Option (List Char)
  | [], rest => some rest
  | _ :: _, [] => none
  | want :: wanted, c :: rest => if want = c then strip? wanted rest else none

theorem strip?_eq_some_iff {wanted cs rest : List Char} :
    strip? wanted cs = some rest ↔ cs = wanted ++ rest := by
  induction wanted generalizing cs with
  | nil => simp [strip?, eq_comm]
  | cons want wanted ih =>
    cases cs with
    | nil => simp [strip?]
    | cons c cs =>
      simp only [strip?, List.cons_append, List.cons.injEq]
      split
      · rename_i same
        simp [ih, same]
      · rename_i different
        simp only [reduceCtorEq, false_iff, not_and]
        exact fun same => absurd same.symm different

def reference? (cs : List Char) : Option (Reference × List Char) := do
  let inside ← strip? opening cs
  let before := inside.takeWhile isBlank
  let named ← strip? marker (inside.dropWhile isBlank)
  let axis := named.takeWhile isAxisChar
  let behind := named.dropWhile isAxisChar
  let rest ← strip? closing (behind.dropWhile isBlank)
  if axis.isEmpty then none
  else some (⟨before, axis, behind.takeWhile isBlank⟩, rest)

theorem reference?_source {cs rest : List Char} {found : Reference}
    (matched : reference? cs = some (found, rest)) : cs = found.source ++ rest := by
  simp only [reference?, Option.bind_eq_bind, Option.bind_eq_some_iff] at matched
  obtain ⟨inside, inside_eq, named, named_eq, after, after_eq, ending⟩ := matched
  rw [strip?_eq_some_iff] at inside_eq named_eq after_eq
  split at ending
  · exact absurd ending (by simp)
  · simp only [Option.some.injEq, Prod.mk.injEq] at ending
    obtain ⟨rfl, rfl⟩ := ending
    have inside_split := List.takeWhile_append_dropWhile (p := isBlank) (l := inside)
    have named_split := List.takeWhile_append_dropWhile (p := isAxisChar) (l := named)
    have behind_split :=
      List.takeWhile_append_dropWhile (p := isBlank) (l := named.dropWhile isAxisChar)
    rw [after_eq] at behind_split
    rw [← behind_split] at named_split
    rw [named_eq, ← named_split] at inside_split
    rw [inside_eq]
    simp only [Reference.source, List.append_assoc]
    rw [inside_split]

theorem reference?_shorter {cs rest : List Char} {found : Reference}
    (matched : reference? cs = some (found, rest)) : rest.length < cs.length := by
  rw [reference?_source matched]
  simp only [Reference.source, opening, List.length_append, List.length_cons]
  omega

def pieces (cs : List Char) : List Piece :=
  match cs with
  | [] => []
  | c :: tail =>
    match _matched : reference? (c :: tail) with
    | some (found, rest) => .reference found :: pieces rest
    | none => .literal c :: pieces tail
termination_by cs.length
decreasing_by
  · exact reference?_shorter _matched
  · simp

theorem pieces_source (cs : List Char) : (pieces cs).flatMap Piece.source = cs := by
  fun_induction pieces cs with
  | case1 => rfl
  | case2 c tail found rest matched ih =>
    simp [Piece.source, ih, reference?_source matched]
  | case3 c tail unmatched ih => simp [Piece.source, ih]

def sortedNames (names : List String) : List String :=
  names.mergeSort fun a b => !(b < a)

/-- What becomes of a piece of a text where the axes have values. The value of a reference is written out here,
and a number that is too long for this breaks off. -/
def Piece.bind (job text : String) (values : Keyed Scalar) : Piece → Except Failure (List Char)
  | literal c => .ok [c]
  | reference found =>
    let axis := String.ofList found.axis
    match values.get? axis with
    | none => .error (.problem (.unknownAxis job axis text (sortedNames values.names)))
    | some value => if value.isLong then .error (.crash .longNumber) else .ok value.spelled.toList

def bindText (job : String) (values : Keyed Scalar) (text : String) : Except Failure String :=
  ((pieces text.toList).mapM (Piece.bind job text values)).map fun parts =>
    String.ofList parts.flatten

def bindText? (job : String) (values : Keyed Scalar) :
    Option String → Except Failure (Option String)
  | none => .ok none
  | some text => (bindText job values text).map some

end CiPipeline.Matrix
