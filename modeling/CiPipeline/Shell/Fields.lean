import CiPipeline.Shell.Pattern
import CiPipeline.Shell.State

/-! Fields. What is left of a word once its expansions are done is split where results of expansions hold
separators, and fields that are patterns are replaced by the file names that they match. -/
namespace CiPipeline.Shell

open Files

inductive Glyph
  /-- A character of the word itself. -/
  | own (c : Char) (isQuoted : Bool)
  /-- A character that an expansion gave. -/
  | given (c : Char)
  /-- Quotes, which make a field even where there is nothing between them. -/
  | quotes
  /-- All positional parameters where there are none, which make no field even between quotes. -/
  | absent
  /-- The border between two positional parameters. -/
  | border
deriving DecidableEq, Repr

namespace Glyph

def ownText (text : Octets) (isQuoted : Bool) : List Glyph := text.map fun c => own c isQuoted

def result (underQuotes : Bool) (text : Octets) : List Glyph :=
  if underQuotes then ownText text true else text.map given

def asGiven : Glyph → Glyph
  | own c false => given c
  | other => other

def mark : Glyph → Option Marked
  | own c isQuoted => some ⟨c, isQuoted⟩
  | given c => some ⟨c, false⟩
  | _ => none

def text (glyphs : List Glyph) : Octets :=
  glyphs.filterMap fun glyph =>
    match glyph with
    | own c _ | given c => some c
    | border => some ' '
    | quotes | absent => none

def marks (glyphs : List Glyph) : List Marked := glyphs.filterMap mark

end Glyph

structure OpenField where
  marks : List Marked
  isPresent : Bool
  isAbsent : Bool

namespace OpenField

def empty : OpenField := ⟨[], false, false⟩

def counts (field : OpenField) : Bool :=
  !field.marks.isEmpty || (field.isPresent && !field.isAbsent)

def close (field : OpenField) : List Marked := field.marks.reverse

end OpenField

def isBlankSeparator (c : Char) : Bool := c == ' ' || c == '\t' || c == '\n'

/-- Splits glyphs into fields. Blanks among the separators only border fields, and one other separator
among them belongs to the same border. -/
def splitFrom (separators : Octets) :
    OpenField → Bool → List Glyph → List (List Marked)
  | field, _, [] => if field.counts then [field.close] else []
  | field, afterBlank, glyph :: rest =>
    match glyph with
    | .own c isQuoted =>
      splitFrom separators { field with marks := ⟨c, isQuoted⟩ :: field.marks } false rest
    | .quotes => splitFrom separators { field with isPresent := true } false rest
    | .absent => splitFrom separators { field with isAbsent := true } afterBlank rest
    | .border =>
      if field.counts then field.close :: splitFrom separators .empty false rest
      else splitFrom separators .empty false rest
    | .given c =>
      if !separators.contains c then
        splitFrom separators { field with marks := ⟨c, false⟩ :: field.marks } false rest
      else if isBlankSeparator c then
        if field.counts then field.close :: splitFrom separators .empty true rest
        else splitFrom separators field afterBlank rest
      else if afterBlank then splitFrom separators .empty false rest
      else field.close :: splitFrom separators .empty false rest

def split (separators : Octets) (glyphs : List Glyph) : List (List Marked) :=
  splitFrom separators .empty false glyphs

def markedText (field : List Marked) : Octets := field.map (·.char)

def components (field : List Marked) : List (List Marked) :=
  match field with
  | [] => [[]]
  | marked :: rest =>
    if marked.char = '/' then [] :: components rest
    else
      match components rest with
      | [] => [[marked]]
      | part :: others => (marked :: part) :: others

def systemChildren (path : Path) : List String :=
  let text := path.text
  let below := systemDirectories.filterMap fun directory =>
    let other := Path.ofText directory
    if other.names.dropLast == path.names && !other.names.isEmpty then other.names.getLast? else none
  if path.anchor != "/" then []
  else below ++ (if programDirectories.contains text then programNames else [])

def namesIn (machine : Machine) (path : Path) : List Octets :=
  let names := (machine.tree.children path ++ systemChildren path).map Octets.ofText
  (names.eraseDups).mergeSort fun a b => !(b < a)

def matchesBelow (machine : Machine) (directory : Path) :
    Octets → List (List Marked) → List Octets
  | sofar, [] => [sofar]
  | sofar, part :: rest =>
    let goOn (name : Octets) : List Octets :=
      match rest with
      | [] => [sofar ++ name]
      | _ => matchesBelow machine directory (sofar ++ name ++ ['/']) rest
    if Pattern.isMeaningful part then
      let pattern := Pattern.read part
      let hidden := part.head?.map (·.char) == some '.'
      match machine.settle? (machine.locate directory sofar) with
      | none => []
      | some place =>
        if !machine.isDirectory place then []
        else
          ((namesIn machine place).filter fun name =>
            (hidden || name.head? != some '.') && Pattern.accepts pattern name).flatMap goOn
    else goOn (markedText part)

def matchFiles (machine : Machine) (directory : Path) (field : List Marked) : List Octets :=
  if !Pattern.isMeaningful field then [markedText field]
  else
    let found := (matchesBelow machine directory [] (components field)).filter fun text =>
      (machine.named? directory text).isSome
    if found.isEmpty then [markedText field] else found

end CiPipeline.Shell
