import CiPipeline.Shell.Octets

/-! Arithmetic of shells: whole numbers of 64 bits, which wrap around, with the operators of C apart from
those that count up and down. -/
namespace CiPipeline.Shell

inductive Binary
  | add | subtract | multiply | divide | remainder
  | shiftLeft | shiftRight
  | less | lessOrEqual | greater | greaterOrEqual | equal | notEqual
  | bitAnd | bitOr | bitXor
deriving DecidableEq, Repr

inductive Unary
  | minus | plus | not | complement
deriving DecidableEq, Repr

inductive Formula
  | number (value : Int)
  | named (name : Octets)
  | assign (name : Octets) (operator : Option Binary) (value : Formula)
  | unary (operator : Unary) (operand : Formula)
  | binary (operator : Binary) (left right : Formula)
  | both (left right : Formula)
  | either (left right : Formula)
  | choice (condition yes no : Formula)
deriving Repr

namespace Formula

inductive Lexeme
  | number (value : Int)
  | named (name : Octets)
  | operator (text : String)
deriving DecidableEq, Repr

def operators : List String :=
  ["<<=", ">>=", "<<", ">>", "<=", ">=", "==", "!=", "&&", "||", "+=", "-=", "*=", "/=", "%=", "&=",
    "|=", "^=", "+", "-", "*", "/", "%", "<", ">", "=", "!", "~", "&", "|", "^", "?", ":", "(", ")"]

def digitValue (c : Char) : Nat :=
  if c.isDigit then c.toNat - '0'.toNat
  else if 'a' ≤ c && c ≤ 'f' then c.toNat - 'a'.toNat + 10
  else if 'A' ≤ c && c ≤ 'F' then c.toNat - 'A'.toNat + 10
  else 99

def readBase (base : Nat) (digits : Octets) : Nat :=
  digits.foldl (fun n c => n * base + digitValue c) 0

def greatest : Int := 9223372036854775807

def readNumber (text : Octets) : Int × Octets :=
  let take (base : Nat) (text : Octets) : Int × Octets :=
    let digits := text.takeWhile fun c => digitValue c < base
    (min (readBase base digits : Int) greatest, text.drop digits.length)
  match text with
  | '0' :: 'x' :: rest | '0' :: 'X' :: rest => take 16 rest
  | '0' :: rest => take 8 ('0' :: rest)
  | rest => take 10 rest

def lexemes : Nat → Octets → Option (List Lexeme)
  | 0, _ => some []
  | _, [] => some []
  | bound + 1, c :: rest =>
    if [' ', '\t', '\n'].contains c then lexemes bound rest
    else if c.isDigit then
      let (value, others) := readNumber (c :: rest)
      (lexemes bound others).map (.number value :: ·)
    else if isNameStart c then
      let name := (c :: rest).takeWhile isNameChar
      (lexemes bound ((c :: rest).drop name.length)).map (.named name :: ·)
    else
      match operators.find? fun text => text.toList.isPrefixOf (c :: rest) with
      | some text => (lexemes bound ((c :: rest).drop text.length)).map (.operator text :: ·)
      | none => none

def levels : List (List (String × Binary)) :=
  [[("|", .bitOr)], [("^", .bitXor)], [("&", .bitAnd)], [("==", .equal), ("!=", .notEqual)],
    [("<", .less), ("<=", .lessOrEqual), (">", .greater), (">=", .greaterOrEqual)],
    [("<<", .shiftLeft), (">>", .shiftRight)], [("+", .add), ("-", .subtract)],
    [("*", .multiply), ("/", .divide), ("%", .remainder)]]

def assignments : List (String × Option Binary) :=
  [("=", none), ("+=", some .add), ("-=", some .subtract), ("*=", some .multiply),
    ("/=", some .divide), ("%=", some .remainder), ("<<=", some .shiftLeft),
    (">>=", some .shiftRight), ("&=", some .bitAnd), ("|=", some .bitOr), ("^=", some .bitXor)]

abbrev Reading := Except String (Formula × List Lexeme)

def chain (operand : List Lexeme → Reading) (level : List (String × Binary)) :
    Nat → Formula → List Lexeme → Reading
  | 0, left, rest => .ok (left, rest)
  | bound + 1, left, rest =>
    match rest with
    | .operator text :: others =>
      match level.lookup text with
      | some operator => do
        let (right, others) ← operand others
        chain operand level bound (.binary operator left right) others
      | none => .ok (left, rest)
    | _ => .ok (left, rest)

def binaries (operand : List Lexeme → Reading) :
    List (List (String × Binary)) → List Lexeme → Reading
  | [], rest => operand rest
  | level :: stronger, rest => do
    let next := binaries operand stronger
    let (left, others) ← next rest
    chain next level others.length left others

def conjunctions (operand : List Lexeme → Reading) : Nat → Formula → List Lexeme → Reading
  | bound + 1, left, .operator "&&" :: rest => do
    let (right, others) ← operand rest
    conjunctions operand bound (.both left right) others
  | _, left, rest => .ok (left, rest)

def disjunctions (operand : List Lexeme → Reading) : Nat → Formula → List Lexeme → Reading
  | bound + 1, left, .operator "||" :: rest => do
    let (right, others) ← operand rest
    disjunctions operand bound (.either left right) others
  | _, left, rest => .ok (left, rest)

mutual

def readPrimary : Nat → List Lexeme → Reading
  | 0, _ => .error "expecting primary"
  | bound + 1, lexemes =>
    match lexemes with
    | .number value :: rest => .ok (.number value, rest)
    | .named name :: rest => .ok (.named name, rest)
    | .operator "(" :: rest => do
      let (inside, rest) ← readAssignment bound rest
      match rest with
      | .operator ")" :: rest => return (inside, rest)
      | _ => throw "expecting ')'"
    | .operator "-" :: rest => (readPrimary bound rest).map fun (f, rest) => (.unary .minus f, rest)
    | .operator "+" :: rest => (readPrimary bound rest).map fun (f, rest) => (.unary .plus f, rest)
    | .operator "!" :: rest => (readPrimary bound rest).map fun (f, rest) => (.unary .not f, rest)
    | .operator "~" :: rest =>
      (readPrimary bound rest).map fun (f, rest) => (.unary .complement f, rest)
    | _ => .error "expecting primary"

def readChoice : Nat → List Lexeme → Reading
  | 0, _ => .error "expecting primary"
  | bound + 1, lexemes => do
    let operand := binaries (readPrimary bound) levels
    let conjunction (lexemes : List Lexeme) : Reading := do
      let (left, rest) ← operand lexemes
      conjunctions operand rest.length left rest
    let (left, rest) ← conjunction lexemes
    let (condition, rest) ← disjunctions conjunction rest.length left rest
    match rest with
    | .operator "?" :: rest => do
      let (yes, rest) ← readAssignment bound rest
      match rest with
      | .operator ":" :: rest => do
        let (no, rest) ← readChoice bound rest
        return (.choice condition yes no, rest)
      | _ => throw "expecting ':'"
    | rest => return (condition, rest)

def readAssignment : Nat → List Lexeme → Reading
  | 0, _ => .error "expecting primary"
  | bound + 1, lexemes =>
    match lexemes with
    | .named name :: .operator text :: rest =>
      match assignments.lookup text with
      | some operator => (readAssignment bound rest).map fun (f, rest) =>
          (.assign name operator f, rest)
      | none => readChoice bound lexemes
    | lexemes => readChoice bound lexemes

end

def read (text : Octets) : Except String Formula :=
  match lexemes (text.length + 1) text with
  | none => .error "expecting EOF"
  | some lexemes => do
    let (formula, rest) ← readAssignment (3 * lexemes.length + 3) lexemes
    if rest.isEmpty then return formula else throw "expecting EOF"

def wrapped (n : Int) : Int := n.bmod (Nat.pow 2 64)

def truth (holds : Bool) : Int := if holds then 1 else 0

def bits (n : Int) : Nat := (n.emod (Nat.pow 2 64 : Nat)).toNat

def Binary.result? (operator : Binary) (a b : Int) : Option Int :=
  match operator with
  | .add => some (wrapped (a + b))
  | .subtract => some (wrapped (a - b))
  | .multiply => some (wrapped (a * b))
  | .divide => if b = 0 then none else some (wrapped (a.tdiv b))
  | .remainder => if b = 0 then none else some (a.tmod b)
  | .shiftLeft => some (wrapped (bits a <<< (bits b % 64) : Nat))
  | .shiftRight => some (a.shiftRight (bits b % 64))
  | .less => some (truth (a < b))
  | .lessOrEqual => some (truth (a ≤ b))
  | .greater => some (truth (a > b))
  | .greaterOrEqual => some (truth (a ≥ b))
  | .equal => some (truth (a = b))
  | .notEqual => some (truth (a ≠ b))
  | .bitAnd => some (wrapped (bits a &&& bits b : Nat))
  | .bitOr => some (wrapped (bits a ||| bits b : Nat))
  | .bitXor => some (wrapped (bits a ^^^ bits b : Nat))

def Unary.result (operator : Unary) (a : Int) : Int :=
  match operator with
  | .minus => wrapped (-a)
  | .plus => a
  | .not => truth (a = 0)
  | .complement => -a - 1

structure Surface (m : Type → Type) where
  get : Octets → m Int
  set : Octets → Int → m Unit
  divisionByZero : m Int

/-- The value of a formula; sides that do not count are not evaluated. -/
def evaluate {m : Type → Type} [Monad m] (surface : Surface m) : Formula → m Int
  | number value => pure value
  | named name => surface.get name
  | assign name operator value => do
    let right ← evaluate surface value
    let result ←
      match operator with
      | none => pure right
      | some operator => do
        let left ← surface.get name
        match Binary.result? operator left right with
        | some result => pure result
        | none => surface.divisionByZero
    surface.set name result
    return result
  | unary operator operand => do return Unary.result operator (← evaluate surface operand)
  | binary operator left right => do
    let a ← evaluate surface left
    let b ← evaluate surface right
    match Binary.result? operator a b with
    | some result => pure result
    | none => surface.divisionByZero
  | both left right => do
    if (← evaluate surface left) = 0 then return 0
    else return truth ((← evaluate surface right) ≠ 0)
  | either left right => do
    if (← evaluate surface left) ≠ 0 then return 1
    else return truth ((← evaluate surface right) ≠ 0)
  | choice condition yes no => do
    if (← evaluate surface condition) ≠ 0 then evaluate surface yes else evaluate surface no

end Formula

end CiPipeline.Shell
