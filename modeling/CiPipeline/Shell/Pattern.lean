import CiPipeline.Shell.Octets

/-! Patterns for texts and file names: a question mark stands for one character, an asterisk for any number
of them, and brackets for one out of a set. -/
namespace CiPipeline.Shell

structure Marked where
  char : Char
  isLiteral : Bool
deriving DecidableEq, Repr

inductive Pattern
  | literal (c : Char)
  | one
  | many
  | oneOf (negated : Bool) (test : Char → Bool)

namespace Pattern

def classTest (name : String) (c : Char) : Bool :=
  match name with
  | "alpha" => c.isAlpha
  | "digit" => c.isDigit
  | "alnum" => c.isAlphanum
  | "upper" => c.isUpper
  | "lower" => c.isLower
  | "space" => [' ', '\t', '\n', '\r', '\x0b', '\x0c'].contains c
  | "blank" => c == ' ' || c == '\t'
  | "punct" => 32 < c.toNat && c.toNat < 127 && !c.isAlphanum
  | "xdigit" => c.isDigit || ('a' ≤ c && c ≤ 'f') || ('A' ≤ c && c ≤ 'F')
  | "cntrl" => c.toNat < 32 || c.toNat == 127
  | "print" => 32 ≤ c.toNat && c.toNat < 127
  | "graph" => 32 < c.toNat && c.toNat < 127
  | _ => false

def className? (text : List Marked) : Option (String × List Marked) :=
  let name := text.takeWhile fun marked => marked.char.isAlpha
  match text.drop name.length with
  | ⟨':', _⟩ :: ⟨']', _⟩ :: rest => some (String.ofList (name.map (·.char)), rest)
  | _ => none

def bracket : Nat → Bool → (Char → Bool) → List Marked → Option ((Char → Bool) × List Marked)
  | 0, _, _, _ => none
  | _, _, _, [] => none
  | bound + 1, isFirst, test, ⟨c, isLiteral⟩ :: rest =>
    if c = ']' && !isLiteral && !isFirst then some (test, rest)
    else
      let found :=
        match c, rest with
        | '[', ⟨':', _⟩ :: inside => if isLiteral then none else className? inside
        | _, _ => none
      match found with
      | some (name, rest) => bracket bound false (fun x => test x || classTest name x) rest
      | none =>
        match rest with
        | ⟨'-', false⟩ :: ⟨last, lastLiteral⟩ :: others =>
          if last = ']' && !lastLiteral then
            bracket bound false (fun x => test x || x == c) rest
          else bracket bound false (fun x => test x || (c ≤ x && x ≤ last)) others
        | rest => bracket bound false (fun x => test x || x == c) rest

def readUpTo : Nat → List Marked → List Pattern
  | 0, _ => []
  | _, [] => []
  | bound + 1, ⟨c, isLiteral⟩ :: rest =>
    if isLiteral then .literal c :: readUpTo bound rest
    else if c = '?' then .one :: readUpTo bound rest
    else if c = '*' then .many :: readUpTo bound rest
    else if c = '[' then
      let (negated, inside) :=
        match rest with
        | ⟨'!', false⟩ :: inside => (true, inside)
        | ⟨'^', false⟩ :: inside => (true, inside)
        | inside => (false, inside)
      match bracket (inside.length + 1) true (fun _ => false) inside with
      | some (test, others) => .oneOf negated test :: readUpTo bound others
      | none => .literal c :: readUpTo bound rest
    else .literal c :: readUpTo bound rest

def read (text : List Marked) : List Pattern := readUpTo (text.length + 1) text

def accepts : List Pattern → Octets → Bool
  | [], text => text.isEmpty
  | .many :: rest, text =>
    accepts rest text ||
      match text with
      | [] => false
      | _ :: others => accepts (.many :: rest) others
  | .one :: rest, text =>
    match text with
    | [] => false
    | _ :: others => accepts rest others
  | .literal c :: rest, text =>
    match text with
    | [] => false
    | d :: others => c == d && accepts rest others
  | .oneOf negated test :: rest, text =>
    match text with
    | [] => false
    | d :: others => (test d != negated) && accepts rest others
termination_by pattern text => pattern.length + text.length

def isMeaningful (text : List Marked) : Bool :=
  text.any fun marked => !marked.isLiteral && ['*', '?', '['].contains marked.char

def front? (pattern : List Pattern) (longest : Bool) (text : Octets) : Option Nat :=
  let lengths := List.range (text.length + 1)
  (if longest then lengths.reverse else lengths).find? fun n => accepts pattern (text.take n)

def dropFront (pattern : List Pattern) (longest : Bool) (text : Octets) : Octets :=
  text.drop ((front? pattern longest text).getD 0)

def dropEnd (pattern : List Pattern) (longest : Bool) (text : Octets) : Octets :=
  let starts := List.range (text.length + 1)
  let found := (if longest then starts else starts.reverse).find? fun n =>
    accepts pattern (text.drop n)
  text.take (found.getD text.length)

end Pattern

end CiPipeline.Shell
