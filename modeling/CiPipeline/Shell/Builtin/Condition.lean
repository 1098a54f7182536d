import CiPipeline.Shell.State

/-! Conditions on texts, numbers and files. A word counts as an operator only where what stands around it
leaves it that role, so that a condition on one word asks whether that word is empty. -/
namespace CiPipeline.Shell.Condition

def unaryOperators : List String :=
  ["-r", "-w", "-x", "-e", "-f", "-d", "-c", "-b", "-p", "-u", "-g", "-k", "-s", "-t", "-z", "-n",
    "-h", "-L", "-O", "-G", "-S"]

def binaryOperators : List String :=
  ["=", "!=", "<", ">", "-eq", "-ne", "-ge", "-gt", "-le", "-lt", "-nt", "-ot", "-ef"]

inductive Role
  | missing
  | operand
  | unary
  | binary
  | not
  | conjunction
  | disjunction
  | opening
  | closing
deriving DecidableEq

abbrev Probe := String → Octets → Bool

abbrev Outcome := Except Octets

def isBinary (word : Octets) : Bool := binaryOperators.contains (String.ofList word)

def isOperand (rest : List Octets) : Bool :=
  match rest with
  | [] => true
  | [_] => false
  | next :: _ => isBinary next

def role (words : List Octets) : Role :=
  match words with
  | [] => .missing
  | word :: rest =>
    match String.ofList word with
    | "!" => .not
    | "-a" => .conjunction
    | "-o" => .disjunction
    | "(" => if rest.isEmpty then .operand else .opening
    | ")" => .closing
    | text =>
      if binaryOperators.contains text then .binary
      else if unaryOperators.contains text && !isOperand rest then .unary
      else .operand

def illegalNumber (word : Octets) : Octets := "Illegal number: ".toList ++ word

def number (word : Octets) : Outcome Int :=
  let blank (c : Char) : Bool := isBlank c
  let trimmed := ((word.dropWhile blank).reverse.dropWhile blank).reverse
  match Octets.toInt? trimmed with
  | some n =>
    if n.natAbs < Nat.pow 2 63 then .ok n else .error (illegalNumber word)
  | none => .error (illegalNumber word)
where
  isBlank (c : Char) : Bool := c == ' ' || c == '\t' || c == '\n'

def compare (operator : String) (left right : Octets) : Outcome Bool := do
  match operator with
  | "=" => return left == right
  | "!=" => return left != right
  | "<" => return left < right
  | ">" => return right < left
  | "-eq" => return (← number left) == (← number right)
  | "-ne" => return (← number left) != (← number right)
  | "-ge" => return (← number left) ≥ (← number right)
  | "-gt" => return (← number left) > (← number right)
  | "-le" => return (← number left) ≤ (← number right)
  | "-lt" => return (← number left) < (← number right)
  | "-ef" => return left == right
  | _ => return false

def argumentExpected (operator : Octets) : Octets := operator ++ ": argument expected".toList

def binary (words : List Octets) : Outcome (Bool × List Octets) :=
  match words with
  | left :: operator :: right :: rest => do
    return (← compare (String.ofList operator) left right, right :: rest)
  | _ :: operator :: _ => .error (argumentExpected operator)
  | _ => .error []

mutual

def primary (probe : Probe) : Nat → List Octets → Outcome (Bool × List Octets)
  | 0, words => .ok (false, words)
  | bound + 1, words =>
    match role words with
    | .missing => .ok (false, words)
    | .opening =>
      let inside := words.drop 1
      if role inside = .closing then .ok (false, inside)
      else do
        let (holds, rest) ← disjunction probe bound inside
        if role (rest.drop 1) = .closing then return (holds, rest.drop 1)
        else throw "closing paren expected".toList
    | .unary =>
      match words with
      | operator :: operand :: rest =>
        match String.ofList operator with
        | "-z" => .ok (operand.isEmpty, operand :: rest)
        | "-n" => .ok (!operand.isEmpty, operand :: rest)
        | "-t" => (number operand).map fun _ => (false, operand :: rest)
        | operator => .ok (probe operator operand, operand :: rest)
      | operator :: _ => .error (argumentExpected operator)
      | [] => .ok (false, [])
    | _ =>
      if role (words.drop 1) = .binary then binary words
      else .ok (!(words.head?.getD []).isEmpty, words)

def negation (probe : Probe) : Nat → List Octets → Outcome (Bool × List Octets)
  | 0, words => .ok (false, words)
  | bound + 1, words =>
    if role words = .not then do
      let rest := if role (words.drop 1) = .missing then words else words.drop 1
      let (holds, rest) ←
        if role (words.drop 1) = .missing then pure (false, rest) else negation probe bound rest
      return (!holds, rest)
    else primary probe bound words

def conjunction (probe : Probe) : Nat → List Octets → Outcome (Bool × List Octets)
  | 0, words => .ok (false, words)
  | bound + 1, words => do
    let (holds, rest) ← negation probe bound words
    if role (rest.drop 1) = .conjunction then
      let (others, rest) ← conjunction probe bound (rest.drop 2)
      return (holds && others, rest)
    else return (holds, rest)

def disjunction (probe : Probe) : Nat → List Octets → Outcome (Bool × List Octets)
  | 0, words => .ok (false, words)
  | bound + 1, words => do
    let (holds, rest) ← conjunction probe bound words
    if role (rest.drop 1) = .disjunction then
      let (others, rest) ← disjunction probe bound (rest.drop 2)
      return (holds || others, rest)
    else return (holds, rest)

end

def whole (probe : Probe) (words : List Octets) : Outcome Bool := do
  let (holds, rest) ← disjunction probe (5 * words.length + 5) words
  match rest with
  | word :: _ :: _ => throw (word ++ ": unexpected operator".toList)
  | _ => return holds

/-- Whether a condition holds. Short ones are read by their length first. -/
def holds (probe : Probe) (words : List Octets) : Outcome Bool :=
  match words with
  | [] => .ok false
  | [_, operator, _] =>
    if isBinary operator then do
      let (holds, _) ← binary words
      return holds
    else shortened words
  | [_, _, _, _] => shortened words
  | words => whole probe words
where
  shortened (words : List Octets) : Outcome Bool :=
    if words.head? == some ['('] && words.getLast? == some [')'] then
      whole probe (words.drop 1).dropLast
    else if words.head? == some ['!'] then (whole probe (words.drop 1)).map Bool.not
    else whole probe words

end CiPipeline.Shell.Condition
