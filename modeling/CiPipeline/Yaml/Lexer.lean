import CiPipeline.Number.Reading
import CiPipeline.Yaml.Scalar
import CiPipeline.Text.Utf8

/-! From a text to its tokens. Indentation is tracked as a stack of columns, and a collection opens
or closes where the column leaves the stack. A key that is not announced by a question mark is known
only at its colon: every token that could begin one is remembered as a candidate, and the colon puts
the key in front of it. A token is therefore settled only when all candidates lie behind it. -/
namespace CiPipeline.Yaml

open Spots

/-- A token that may turn out to begin a key: where it stands among the tokens and in the text, and
whether nothing but a key may stand there. -/
structure Candidate where
  position : Nat
  required : Bool
  index : Nat
  line : Nat
  column : Nat

/-- State between two tokens. There is at most one candidate for each depth of flow collections. -/
structure Lexer where
  /-- How many characters the whole text has. -/
  size : Nat
  rest : Spots
  tokens : Array Token
  depth : Nat
  indent : Int
  indents : List Int
  keyAllowed : Bool
  candidates : List (Nat × Candidate)

namespace Lexer

def ofSpots (rest : Spots) : Lexer := ⟨rest.length, rest, #[], 0, -1, [], true, []⟩

def inFlow (lexer : Lexer) : Bool := lexer.depth != 0

def emit (token : Token) (lexer : Lexer) : Lexer :=
  { lexer with tokens := lexer.tokens.push token }

/-- A key lies on one line and within this many characters. -/
def keyReach : Nat := 1024

def isStale (lexer : Lexer) (candidate : Candidate) : Bool :=
  candidate.line != lineAt lexer.rest || keyReach < indexAt lexer.rest - candidate.index

/-- Candidates that can no longer become keys are dropped; a required one is an error. -/
def dropStale (lexer : Lexer) : Except Fault Lexer :=
  if lexer.candidates.any fun entry => lexer.isStale entry.2 && entry.2.required then
    .error .malformed
  else
    .ok { lexer with candidates := lexer.candidates.filter fun entry => !lexer.isStale entry.2 }

def candidate? (lexer : Lexer) : Option Candidate :=
  (lexer.candidates.find? fun entry => entry.1 == lexer.depth).map (·.2)

def withoutCandidate (lexer : Lexer) : Lexer :=
  { lexer with candidates := lexer.candidates.filter fun entry => entry.1 != lexer.depth }

def dropCandidate (lexer : Lexer) : Except Fault Lexer :=
  match lexer.candidate? with
  | some candidate => if candidate.required then .error .malformed else .ok lexer.withoutCandidate
  | none => .ok lexer

def addCandidate (lexer : Lexer) : Except Fault Lexer := do
  if lexer.keyAllowed then
    let column := columnAt lexer.rest
    let required := !lexer.inFlow && lexer.indent == (column : Int)
    let lexer ← lexer.dropCandidate
    let candidate : Candidate :=
      ⟨lexer.tokens.size, required, indexAt lexer.rest, lineAt lexer.rest, column⟩
    pure { lexer with candidates := (lexer.depth, candidate) :: lexer.candidates }
  else pure lexer

def unwindTo (column : Int) : List Int → Int → Array Token → List Int × Int × Array Token
  | [], indent, tokens => ([], indent, tokens)
  | outer :: indents, indent, tokens =>
    if column < indent then unwindTo column indents outer (tokens.push .blockEnd)
    else (outer :: indents, indent, tokens)

def unwind (column : Int) (lexer : Lexer) : Lexer :=
  if lexer.inFlow then lexer
  else
    let (indents, indent, tokens) := unwindTo column lexer.indents lexer.indent lexer.tokens
    { lexer with indents, indent, tokens }

def openAt (column : Nat) (position : Nat) (opening : Token) (lexer : Lexer) : Lexer :=
  if lexer.indent < (column : Int) then
    { lexer with
      indents := lexer.indent :: lexer.indents
      indent := column
      tokens := lexer.tokens.insertIdxIfInBounds position opening }
  else lexer

def advance (count : Nat) (lexer : Lexer) : Lexer :=
  { lexer with rest := lexer.rest.drop count }

def allowKey (allowed : Bool) (lexer : Lexer) : Lexer :=
  { lexer with keyAllowed := allowed }

def skipBlank : Nat → Lexer → Lexer
  | 0, lexer => lexer
  | fuel + 1, lexer =>
    let rest := skipComment (skipSpaces lexer.rest)
    match takeBreak? rest with
    | some (_, behind) =>
      skipBlank fuel
        { lexer with rest := behind, keyAllowed := lexer.keyAllowed || !lexer.inFlow }
    | none => { lexer with rest }

def skipGap (lexer : Lexer) : Lexer := skipBlank (lexer.size + 1) lexer

def isNameChar (c : Char) : Bool :=
  ('0' ≤ c && c ≤ '9') || ('A' ≤ c && c ≤ 'Z') || ('a' ≤ c && c ≤ 'z') || c == '-' || c == '_'

def isUriChar (c : Char) : Bool :=
  isNameChar c || "-;/?:@&=+$,_.!~*'()[]".toList.contains c

def uriByte? (spots : Spots) : Option UInt8 :=
  if peek spots 0 == '%' then
    (hexNumber? [peek spots 1, peek spots 2]).map Nat.toUInt8
  else none

def uriBytes : Nat → List UInt8 → Spots → Except Fault (List UInt8 × Spots)
  | 0, bytes, spots => pure (bytes.reverse, spots)
  | fuel + 1, bytes, spots =>
    if current spots == '%' then
      match uriByte? spots with
      | some byte => uriBytes fuel (byte :: bytes) (spots.drop 3)
      | none => throw .malformed
    else pure (bytes.reverse, spots)

def uri : Nat → List Char → Spots → Except Fault (List Char × Spots)
  | 0, read, spots => pure (read, spots)
  | fuel + 1, read, spots => do
    if current spots == '%' then
      let (bytes, rest) ← uriBytes spots.length [] spots
      match Text.decodeStrict? bytes with
      | some decoded => uri fuel (read ++ decoded) rest
      | none => throw .malformed
    else if isUriChar (current spots) then uri fuel (read ++ [current spots]) (spots.drop 1)
    else pure (read, spots)

def nonemptyUri (spots : Spots) : Except Fault (String × Spots) := do
  let start := spots
  let (read, rest) ← uri spots.length [] spots
  if rest.length = start.length then throw .malformed
  pure (String.ofList read, rest)

def tagHandle (spots : Spots) : Except Fault (String × Spots) := do
  if current spots != '!' then throw .malformed
  let behind := spots.drop 1
  if current behind == ' ' then pure ("!", behind)
  else
    let name := run isNameChar behind
    let rest := behind.drop name.length
    if current rest == '!' then pure (String.ofList ('!' :: name ++ ['!']), rest.drop 1)
    else throw .malformed

def number (spots : Spots) : Except Fault (Nat × Spots) :=
  let digits := run Text.isAsciiDigit spots
  if digits.isEmpty then .error .malformed
  else if Number.digitLimit < digits.length then .error (.longNumber digits.length)
  else
    .ok (digits.foldl (fun n c => n * 10 + (c.toNat - '0'.toNat)) 0, spots.drop digits.length)

def directiveContent (name : String) (spots : Spots) : Except Fault (Directive × Spots) := do
  if name = "YAML" then
    let (major, rest) ← number (skipSpaces spots)
    if current rest != '.' then throw .malformed
    let (minor, rest) ← number (rest.drop 1)
    if isSpaceBreakOrEnd (current rest) then pure (.version major minor, rest)
    else throw .malformed
  else if name = "TAG" then
    let (handle, rest) ← tagHandle (skipSpaces spots)
    if current rest != ' ' then throw .malformed
    let (start, rest) ← nonemptyUri (skipSpaces rest)
    if isSpaceBreakOrEnd (current rest) then pure (.tagHandle handle start, rest)
    else throw .malformed
  else pure (.reserved name, skip (fun c => !isBreakOrEnd c) spots)

def directive (spots : Spots) : Except Fault (Token × Spots) := do
  let behind := spots.drop 1
  let name := run isNameChar behind
  let rest := behind.drop name.length
  if name.isEmpty || !isSpaceBreakOrEnd (current rest) then throw .malformed
  let (content, rest) ← directiveContent (String.ofList name) rest
  let rest ← restOfLine rest
  pure (.directive content, rest)

def referenceName (spots : Spots) : Except Fault (String × Spots) :=
  let behind := spots.drop 1
  let name := run isNameChar behind
  let rest := behind.drop name.length
  if name.isEmpty then .error .malformed
  else if isGap (current rest) || "?:,]\x7d%@`".toList.contains (current rest) then
    .ok (String.ofList name, rest)
  else .error .malformed

def hasHandle (spots : Spots) : Bool :=
  current (skip (fun c => !isSpaceBreakOrEnd c && c != '!') spots) == '!'

def tag (spots : Spots) : Except Fault (Token × Spots) := do
  let c := peek spots 1
  let (token, rest) ←
    if c == '<' then do
      let (address, rest) ← nonemptyUri (spots.drop 2)
      if current rest != '>' then throw .malformed
      pure (Token.tag none address, rest.drop 1)
    else if isGap c then pure (Token.tag none "!", spots.drop 1)
    else if hasHandle (spots.drop 1) then do
      let (handle, rest) ← tagHandle spots
      let (suffix, rest) ← nonemptyUri rest
      pure (Token.tag (some handle) suffix, rest)
    else do
      let (suffix, rest) ← nonemptyUri (spots.drop 1)
      pure (Token.tag (some "!") suffix, rest)
  if isSpaceBreakOrEnd (current rest) then pure (token, rest) else throw .malformed

def isIndicator (c : Char) : Bool :=
  "-?:,[]\x7b\x7d#&*!|>'\"%@`".toList.contains c

def beginsPlain (lexer : Lexer) : Bool :=
  let c := current lexer.rest
  (!isGap c && !isIndicator c) ||
    (!isGap (peek lexer.rest 1) && (c == '-' || (!lexer.inFlow && (c == '?' || c == ':'))))

/-- Puts in front what a colon says about an earlier token, or begins a value without a key. -/
def valueIndicator (lexer : Lexer) : Except Fault Lexer := do
  let lexer ←
    match lexer.candidate? with
    | some candidate =>
      let lexer := lexer.withoutCandidate
      let lexer :=
        { lexer with tokens := lexer.tokens.insertIdxIfInBounds candidate.position .key }
      let lexer :=
        if lexer.inFlow then lexer
        else lexer.openAt candidate.column candidate.position .blockMappingStart
      pure (lexer.allowKey false)
    | none =>
      if !lexer.inFlow && !lexer.keyAllowed then throw .malformed
      let lexer :=
        if lexer.inFlow then lexer
        else lexer.openAt (columnAt lexer.rest) lexer.tokens.size .blockMappingStart
      (lexer.allowKey !lexer.inFlow).dropCandidate
  pure ((lexer.advance 1).emit .value)

def blockIndicator (opening token : Token) (lexer : Lexer) : Except Fault Lexer := do
  if !lexer.inFlow && !lexer.keyAllowed then throw .malformed
  let lexer :=
    if lexer.inFlow then lexer
    else lexer.openAt (columnAt lexer.rest) lexer.tokens.size opening
  let lexer ← (lexer.allowKey (token == .blockEntry || !lexer.inFlow)).dropCandidate
  pure ((lexer.advance 1).emit token)

def openFlow (token : Token) (lexer : Lexer) : Except Fault Lexer := do
  let lexer ← lexer.addCandidate
  pure (({ lexer with depth := lexer.depth + 1, keyAllowed := true }.advance 1).emit token)

def closeFlow (token : Token) (lexer : Lexer) : Except Fault Lexer := do
  let lexer ← lexer.dropCandidate
  pure (({ lexer with depth := lexer.depth - 1, keyAllowed := false }.advance 1).emit token)

def keyable (read : Spots → Except Fault (Token × Spots)) (lexer : Lexer) : Except Fault Lexer := do
  let lexer ← lexer.addCandidate
  let (token, rest) ← read lexer.rest
  pure ({ lexer with rest, keyAllowed := false }.emit token)

def plain (lexer : Lexer) : Except Fault Lexer := do
  let lexer ← lexer.addCandidate
  let (token, broke, rest) := plainScalar lexer.inFlow lexer.indent lexer.rest
  pure ({ lexer with rest, keyAllowed := broke }.emit token)

def block (folded : Bool) (lexer : Lexer) : Except Fault Lexer := do
  let lexer ← (lexer.allowKey true).dropCandidate
  let (token, rest) ← blockScalar folded lexer.indent (lexer.rest.drop 1)
  pure ({ lexer with rest }.emit token)

def leaveBlocks (lexer : Lexer) : Except Fault Lexer :=
  ((lexer.unwind (-1)).dropCandidate).map (allowKey false)

def documentBoundary (token : Token) (lexer : Lexer) : Except Fault Lexer := do
  let lexer ← lexer.leaveBlocks
  pure ((lexer.advance 3).emit token)

def step (lexer : Lexer) : Except Fault Lexer := do
  let lexer := lexer.skipGap
  let lexer ← lexer.dropStale
  let lexer := lexer.unwind (columnAt lexer.rest)
  let c := current lexer.rest
  let atLineStart := columnAt lexer.rest == 0
  let gapBehind := isGap (peek lexer.rest 1)
  if c == '%' && atLineStart then
    let lexer ← lexer.leaveBlocks
    let (token, rest) ← directive lexer.rest
    pure ({ lexer with rest }.emit token)
  else if atLineStart && atMarker '-' lexer.rest then lexer.documentBoundary .documentStart
  else if atLineStart && atMarker '.' lexer.rest then lexer.documentBoundary .documentEnd
  else if c == '[' then lexer.openFlow .flowSequenceStart
  else if c == '\x7b' then lexer.openFlow .flowMappingStart
  else if c == ']' then lexer.closeFlow .flowSequenceEnd
  else if c == '\x7d' then lexer.closeFlow .flowMappingEnd
  else if c == ',' then
    let lexer ← (lexer.allowKey true).dropCandidate
    pure ((lexer.advance 1).emit .flowEntry)
  else if c == '-' && gapBehind then lexer.blockIndicator .blockSequenceStart .blockEntry
  else if c == '?' && (lexer.inFlow || gapBehind) then
    lexer.blockIndicator .blockMappingStart .key
  else if c == ':' && (lexer.inFlow || gapBehind) then lexer.valueIndicator
  else if c == '*' then
    lexer.keyable fun spots => (referenceName spots).map fun read => (.alias read.1, read.2)
  else if c == '&' then
    lexer.keyable fun spots => (referenceName spots).map fun read => (.anchor read.1, read.2)
  else if c == '!' then lexer.keyable tag
  else if c == '|' && !lexer.inFlow then lexer.block false
  else if c == '>' && !lexer.inFlow then lexer.block true
  else if c == '\'' || c == '"' then lexer.keyable fun spots => quotedScalar c (spots.drop 1)
  else if lexer.beginsPlain then lexer.plain
  else throw .malformed

def finish (lexer : Lexer) : Except Fault (Array Token) := do
  let lexer := lexer.skipGap
  let lexer ← lexer.dropStale
  let lexer ← lexer.leaveBlocks
  pure (lexer.tokens.push .streamEnd)

def atEnd (lexer : Lexer) : Bool :=
  current lexer.skipGap.rest == endMark

def stepOn (lexer : Lexer) : Except Fault Lexer :=
  lexer.step.bind dropStale

/-- The tokens that no later colon can change: those in front of all candidates. -/
def settled (lexer : Lexer) : Array Token :=
  lexer.candidates.foldl (fun tokens entry => tokens.take entry.2.position) lexer.tokens

def tokensFrom : Nat → Lexer → Array Token × Option Fault
  | 0, lexer => (lexer.settled, some .malformed)
  | fuel + 1, lexer =>
    if lexer.atEnd then
      match lexer.finish with
      | .ok tokens => (tokens, none)
      | .error fault => (lexer.settled, some fault)
    else
      match lexer.stepOn with
      | .ok next => tokensFrom fuel next
      | .error fault => (lexer.settled, some fault)

end Lexer

def isContentChar (c : Char) : Bool :=
  let code := c.toNat
  code == 9 || code == 0x0A || code == 0x0D || (0x20 ≤ code && code ≤ 0x7E) || code == 0x85 ||
    (0xA0 ≤ code && code ≤ 0xD7FF) || (0xE000 ≤ code && code ≤ 0xFFFD) || 0x10000 ≤ code

/-- The tokens of a text. A fault cuts them short, at the first candidate that is still open there. -/
def tokens (cs : List Char) : List Token × Option Fault :=
  if cs.all isContentChar then
    let spots := Spots.ofChars cs
    let spots := if current spots == byteOrderMark then spots.drop 1 else spots
    let read := (Lexer.ofSpots spots).tokensFrom (2 * spots.length + 2)
    (read.1.toList, read.2)
  else ([], some .malformed)

end CiPipeline.Yaml
