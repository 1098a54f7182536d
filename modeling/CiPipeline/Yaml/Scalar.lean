import CiPipeline.Yaml.Spot
import CiPipeline.Yaml.Token
import CiPipeline.Text.Digit
import CiPipeline.Text.Surrogate

/-! Scalars as they are written: block scalars, quoted scalars, and plain scalars, each read with
what follows it. Line breaks inside a scalar fold to a space unless a blank line or the style of the
scalar keeps them. -/
namespace CiPipeline.Yaml

open Spots

inductive Chomp
  | strip
  | clip
  | keep
deriving DecidableEq

structure BlockHeader where
  chomp : Chomp
  increment : Option Nat

def chompSign? (c : Char) : Option Chomp :=
  if c == '+' then some .keep else if c == '-' then some .strip else none

/-- A digit of the header; zero is no indentation. -/
def headerDigit? (c : Char) : Option (Except Fault Nat) :=
  if Text.isAsciiDigit c then
    let digit := c.toNat - '0'.toNat
    some (if digit = 0 then .error .malformed else .ok digit)
  else none

def blockHeader (spots : Spots) : Except Fault (BlockHeader × Spots) := do
  let (header, rest) ←
    match chompSign? (current spots) with
    | some chomp =>
      let rest := spots.drop 1
      match headerDigit? (current rest) with
      | some digit => pure (⟨chomp, some (← digit)⟩, rest.drop 1)
      | none => pure (⟨chomp, none⟩, rest)
    | none =>
      match headerDigit? (current spots) with
      | some digit =>
        let increment ← digit
        let rest := spots.drop 1
        match chompSign? (current rest) with
        | some chomp => pure (⟨chomp, some increment⟩, rest.drop 1)
        | none => pure (⟨.clip, some increment⟩, rest)
      | none => pure ((⟨.clip, none⟩ : BlockHeader), spots)
  if isSpaceBreakOrEnd (current rest) then pure (header, rest) else throw .malformed

def restOfLine (spots : Spots) : Except Fault Spots :=
  let rest := skipComment (skipSpaces spots)
  if isBreakOrEnd (current rest) then
    pure ((takeBreak? rest).elim rest (·.2))
  else throw .malformed

def blankLines : Nat → Nat → List Char → Spots → List Char × Nat × Spots
  | 0, widest, breaks, spots => (breaks.reverse, widest, spots)
  | fuel + 1, widest, breaks, spots =>
    if (current spots) == ' ' then
      let rest := spots.drop 1
      blankLines fuel (max widest (columnAt rest)) breaks rest
    else
      match takeBreak? spots with
      | some (c, rest) => blankLines fuel widest (c :: breaks) rest
      | none => (breaks.reverse, widest, spots)

/-- Line breaks between two lines of a block scalar; spaces count as indentation up to the column. -/
def indentedBreaks (column : Nat) : Nat → List Char → Spots → List Char × Spots
  | 0, breaks, spots => (breaks.reverse, spots)
  | fuel + 1, breaks, spots =>
    let spots := skipSpacesTo column spots
    match takeBreak? spots with
    | some (c, rest) => indentedBreaks column fuel (c :: breaks) rest
    | none => (breaks.reverse, spots)

def blockLines (folded : Bool) (column : Nat) :
    Nat → List (List Char) → List Char → Spots →
      List (List Char) × Option Char × List Char × Spots
  | 0, pieces, breaks, spots => (pieces, none, breaks, spots)
  | fuel + 1, pieces, breaks, spots =>
    let startsWithText := !isHorizontal (current spots)
    let content := run (fun c => !isBreakOrEnd c) spots
    let rest := skip (fun c => !isBreakOrEnd c) spots
    let pieces := content :: breaks :: pieces
    let (lineBreak, rest) :=
      match takeBreak? rest with
      | some (c, rest) => (some c, rest)
      | none => (none, rest)
    let (breaks, rest) := indentedBreaks column rest.length [] rest
    if (columnAt rest) == column && (current rest) != endMark then
      let joint : List Char :=
        if folded && lineBreak == some '\n' && startsWithText && !isHorizontal (current rest) then
          if breaks.isEmpty then [' '] else []
        else lineBreak.toList
      blockLines folded column fuel (joint :: pieces) breaks rest
    else (pieces, lineBreak, breaks, rest)

def blockScalar (folded : Bool) (indent : Int) (spots : Spots) : Except Fault (Token × Spots) := do
  let (header, rest) ← blockHeader spots
  let rest ← restOfLine rest
  let least := max 1 (indent + 1).toNat
  let (breaks, column, rest) :=
    match header.increment with
    | some increment =>
      let column := least + increment - 1
      let (breaks, rest) := indentedBreaks column rest.length [] rest
      (breaks, column, rest)
    | none =>
      let (breaks, widest, rest) := blankLines rest.length 0 [] rest
      (breaks, max least widest, rest)
  let (pieces, lineBreak, breaks, rest) :=
    if (columnAt rest) == column && (current rest) != endMark then
      blockLines folded column rest.length [] breaks rest
    else ([], none, breaks, rest)
  let pieces := if header.chomp = .strip then pieces else lineBreak.toList :: pieces
  let pieces := if header.chomp = .keep then breaks :: pieces else pieces
  pure (.scalar (String.ofList pieces.reverse.flatten) false, rest)

def escapedChar? : Char → Option Char
  | '0' => some '\x00'
  | 'a' => some '\x07'
  | 'b' => some '\x08'
  | 't' => some '\t'
  | '\t' => some '\t'
  | 'n' => some '\n'
  | 'v' => some '\x0B'
  | 'f' => some '\x0C'
  | 'r' => some '\r'
  | 'e' => some '\x1B'
  | ' ' => some ' '
  | '"' => some '"'
  | '\\' => some '\\'
  | '/' => some '/'
  | 'N' => some '\u0085'
  | '_' => some '\u00A0'
  | 'L' => some '\u2028'
  | 'P' => some '\u2029'
  | _ => none

def escapeWidth? : Char → Option Nat
  | 'x' => some 2
  | 'u' => some 4
  | 'U' => some 8
  | _ => none

def hexNumber? (cs : List Char) : Option Nat :=
  cs.foldlM (fun value c => (Text.hexDigitValue? c).map (value * 16 + ·)) 0

def numberedChar (width : Nat) (spots : Spots) : Except Fault (Char × Spots) :=
  match hexNumber? ((spots.take width).map (·.char)) with
  | none => throw .malformed
  | some code =>
    if 0x80000000 ≤ code then throw .beyondWord
    else if 0x110000 ≤ code then throw .beyondLastChar
    else pure (Text.charOfCode code, spots.drop width)

/-- Blank lines inside a quoted scalar; a document boundary may not stand there. -/
def quotedBreaks : Nat → List Char → Spots → Except Fault (List Char × Spots)
  | 0, breaks, spots => pure (breaks.reverse, spots)
  | fuel + 1, breaks, spots =>
    if (atDocumentBoundary spots) then throw .malformed
    else
      let spots := skip isHorizontal spots
      match takeBreak? spots with
      | some (c, rest) => quotedBreaks fuel (c :: breaks) rest
      | none => pure (breaks.reverse, spots)

/-- White space inside a quoted scalar: kept within a line, folded across lines. -/
def quotedGap (spots : Spots) : Except Fault (List Char × Spots) := do
  let blanks := run isHorizontal spots
  let rest := skip isHorizontal spots
  if (current rest) == endMark then throw .malformed
  match takeBreak? rest with
  | none => pure (blanks, rest)
  | some (c, rest) =>
    let (breaks, rest) ← quotedBreaks (rest.length + 1) [] rest
    let joint : List Char := if c != '\n' then [c] else if breaks.isEmpty then [' '] else []
    pure (joint ++ breaks, rest)

def escape (spots : Spots) : Except Fault (List Char × Spots) := do
  let c := (current spots)
  match escapedChar? c with
  | some plain => pure ([plain], spots.drop 1)
  | none =>
    match escapeWidth? c with
    | some width =>
      let (numbered, rest) ← numberedChar width (spots.drop 1)
      pure ([numbered], rest)
    | none =>
      match takeBreak? spots with
      | some (_, rest) => quotedBreaks (rest.length + 1) [] rest
      | none => throw .malformed

def quotedPieces (quote : Char) : Nat → List (List Char) → Spots → Except Fault (List (List Char) × Spots)
  | 0, _, _ => throw .malformed
  | fuel + 1, pieces, spots => do
    let c := (current spots)
    if c == quote then
      if quote == '\'' && peek spots 1 == '\'' then
        quotedPieces quote fuel (['\''] :: pieces) (spots.drop 2)
      else pure (pieces, spots.drop 1)
    else if quote == '"' && c == '\\' then
      let (piece, rest) ← escape (spots.drop 1)
      quotedPieces quote fuel (piece :: pieces) rest
    else if isGap c then
      let (piece, rest) ← quotedGap spots
      quotedPieces quote fuel (piece :: pieces) rest
    else quotedPieces quote fuel ([c] :: pieces) (spots.drop 1)

def quotedScalar (quote : Char) (spots : Spots) : Except Fault (Token × Spots) := do
  let (pieces, rest) ← quotedPieces quote (spots.length + 1) [] spots
  pure (.scalar (String.ofList pieces.reverse.flatten) false, rest)

def isFlowIndicator (c : Char) : Bool :=
  c == ',' || c == '[' || c == ']' || c == '\x7b' || c == '\x7d'

/-- Where a run of a plain scalar stops: at a gap, at a colon before a gap, and inside a flow
collection at its indicators. -/
def stopsPlain (inFlow : Bool) (c next : Char) : Bool :=
  isGap c || (c == ':' && (isGap next || (inFlow && isFlowIndicator next))) ||
    (inFlow && (isFlowIndicator c || c == '?'))

def plainRun (inFlow : Bool) : Spots → List Char × Spots
  | [] => ([], [])
  | spot :: rest =>
    if stopsPlain inFlow spot.char (current rest) then ([], spot :: rest)
    else
      let tail := plainRun inFlow rest
      (spot.char :: tail.1, tail.2)

def plainBreaks : Nat → List Char → Spots → Option (List Char) × Spots
  | 0, breaks, spots => (some breaks.reverse, spots)
  | fuel + 1, breaks, spots =>
    if (current spots) == ' ' then plainBreaks fuel breaks (spots.drop 1)
    else
      match takeBreak? spots with
      | some (c, rest) =>
        if (atDocumentBoundary rest) then (none, rest) else plainBreaks fuel (c :: breaks) rest
      | none => (some breaks.reverse, spots)

structure PlainGap where
  text : List Char
  brokeLine : Bool
  rest : Spots

def plainGap (spots : Spots) : PlainGap :=
  let blanks := run (· == ' ') spots
  let rest := (skipSpaces spots)
  match takeBreak? rest with
  | none => ⟨blanks, false, rest⟩
  | some (c, rest) =>
    if (atDocumentBoundary rest) then ⟨[], true, rest⟩
    else
      match plainBreaks rest.length [] rest with
      | (none, rest) => ⟨[], true, rest⟩
      | (some breaks, rest) =>
        let joint : List Char := if c != '\n' then [c] else if breaks.isEmpty then [' '] else []
        ⟨joint ++ breaks, true, rest⟩

def plainPieces (inFlow : Bool) (column : Int) :
    Nat → List Char → Bool → List (List Char) → Spots → List (List Char) × Bool × Spots
  | 0, _, broke, pieces, spots => (pieces, broke, spots)
  | fuel + 1, gap, broke, pieces, spots =>
    if (current spots) == '#' then (pieces, broke, spots)
    else
      let (content, rest) := plainRun inFlow spots
      if content.isEmpty then (pieces, broke, spots)
      else
        let pieces := content :: gap :: pieces
        let next := plainGap rest
        if next.text.isEmpty || (current next.rest) == '#' ||
            (!inFlow && ((columnAt next.rest) : Int) < column) then
          (pieces, next.brokeLine, next.rest)
        else plainPieces inFlow column fuel next.text next.brokeLine pieces next.rest

def plainScalar (inFlow : Bool) (indent : Int) (spots : Spots) : Token × Bool × Spots :=
  let (pieces, broke, rest) :=
    plainPieces inFlow (indent + 1) (spots.length + 1) [] false [] spots
  (.scalar (String.ofList pieces.reverse.flatten) true, broke, rest)

end CiPipeline.Yaml
