import CiPipeline.Shell.Program.Options
import CiPipeline.Shell.Builtin.Format
import CiPipeline.Shell.Pattern

/-! Programs that read text and write it changed, counted, cut or sorted. -/
namespace CiPipeline.Shell.Program

open Exec

def aligned (width n : Nat) : Octets :=
  let digits := Octets.ofNat n
  List.replicate (width - digits.length) ' ' ++ digits

structure CatState where
  number : Nat
  atStart : Bool
  blanks : Nat

def catTable : OptionTable :=
  ⟨['n', 'b', 's', 'E', 'T', 'A', 'e', 't', 'u', 'v'], [],
    [("number", 'n'), ("number-nonblank", 'b'), ("squeeze-blank", 's'), ("show-ends", 'E'),
      ("show-tabs", 'T'), ("show-all", 'A')]⟩

/-- A line with its number and with its ends and tabs made visible, as far as the options ask for it. -/
def catLine (parsed : Parsed) (state : CatState) (line : Octets) : Octets × CatState :=
  let isBlank := state.atStart && line = ['\n']
  let blanks := if isBlank then state.blanks + 1 else 0
  if parsed.has 's' && 1 < blanks then ([], { state with blanks := blanks })
  else
    let counted := state.atStart && (if parsed.has 'b' then !isBlank else parsed.has 'n')
    let number := if counted then state.number + 1 else state.number
    let front := if counted then aligned 6 number ++ ['\t'] else []
    let tabs := parsed.has 'T' || parsed.has 'A' || parsed.has 't'
    let ends := parsed.has 'E' || parsed.has 'A' || parsed.has 'e'
    let body := line.flatMap fun c =>
      if c = '\t' && tabs then ['^', 'I'] else if c = '\n' && ends then ['$', '\n'] else [c]
    (front ++ body, ⟨number, line.getLast? == some '\n', blanks⟩)

def catLines (parsed : Parsed) : CatState → List Octets → Octets × CatState
  | state, [] => ([], state)
  | state, line :: rest =>
    let (text, state) := catLine parsed state line
    let (others, state) := catLines parsed state rest
    (text ++ others, state)

def cat : Action := fun _ name arguments =>
  withOptions catTable name arguments 1 fun parsed => do
    let mut state : CatState := ⟨0, true, 0⟩
    let mut status := 0
    for operand in (if parsed.operands.isEmpty then [['-']] else parsed.operands) do
      match ← contentOf operand with
      | .ok content =>
        let (text, next) := catLines parsed state content.lines
        state := next
        say text
      | .error trouble =>
        complainAs name (quoteIfNeeded operand ++ ": ".toList ++ trouble.message)
        status := 1
    return status

def readCount (mark : Char) (text : Octets) : Option (Bool × Nat) :=
  match text with
  | c :: rest =>
    if c = mark then (Octets.toNat? rest).map fun n => (true, n)
    else
      (Octets.toNat? (if c = '+' || c = '-' then rest else text)).map fun n => (false, n)
  | [] => none

def oldCount (arguments : List Octets) : List Octets :=
  match arguments with
  | ('-' :: c :: digits) :: rest =>
    if c.isDigit && digits.all Char.isDigit then ['-', 'n'] :: (c :: digits) :: rest
    else arguments
  | arguments => arguments

def endsTable : OptionTable :=
  ⟨['q', 'v', 'f'], ['n', 'c'],
    [("lines", 'n'), ("bytes", 'c'), ("quiet", 'q'), ("silent", 'q'), ("verbose", 'v')]⟩

def front (isBytes fromEnd : Bool) (count : Nat) (text : Octets) : Octets :=
  if isBytes then text.take (if fromEnd then text.length - count else count)
  else
    let lines := text.lines
    (lines.take (if fromEnd then lines.length - count else count)).flatten

def back (isBytes fromStart : Bool) (count : Nat) (text : Octets) : Octets :=
  let skipped (length : Nat) : Nat := if fromStart then count - 1 else length - count
  if isBytes then text.drop (skipped text.length)
  else
    let lines := text.lines
    (lines.drop (skipped lines.length)).flatten

def writeEnds (isHead : Bool) : Action := fun _ name arguments =>
  withOptions endsTable name (oldCount arguments) 1 fun parsed => do
    let isBytes := (parsed.options.reverse.find? fun option =>
      option.1 == 'n' || option.1 == 'c').any (·.1 == 'c')
    let asked := (if isBytes then parsed.value? 'c' else parsed.value? 'n').getD ['1', '0']
    match readCount (if isHead then '-' else '+') asked with
    | none =>
      let unit := if isBytes then "bytes" else "lines"
      complainAs name ("invalid number of ".toList ++ unit.toList ++ ": ".toList ++ quoteValue asked)
      return 1
    | some (other, count) =>
      let mut status := 0
      let mut isFirst := true
      let operands := if parsed.operands.isEmpty then [['-']] else parsed.operands
      let titled := (1 < operands.length && !parsed.has 'q') || parsed.has 'v'
      for operand in operands do
        let content ←
          if operand = ['-'] && isHead && isBytes && !other then
            pure (Except.ok ((← readSome? 0 count).getD []))
          else if operand = "/dev/zero".toList && isHead && isBytes && !other then
            pure (Except.ok (List.replicate count (Char.ofNat 0)))
          else contentOf operand
        match content with
        | .ok content =>
          if titled then
            let shown := if operand = ['-'] then "standard input".toList else operand
            say ((if isFirst then [] else ['\n']) ++ "==> ".toList ++ shown ++ " <==\n".toList)
          isFirst := false
          say (if isHead then front isBytes other count content else back isBytes other count content)
        | .error .absent =>
          complainAs name ("cannot open ".toList ++ quoteName operand ++
            " for reading: No such file or directory".toList)
          status := 1
        | .error trouble =>
          complainAs name ("error reading ".toList ++ quoteName operand ++ ": ".toList ++
            trouble.message)
          status := 1
      return status

structure Counts where
  lines : Nat
  words : Nat
  bytes : Nat

def isWordBlank (c : Char) : Bool := [' ', '\t', '\n', '\r', '\x0b', '\x0c'].contains c

def countWords : Bool → Octets → Nat
  | _, [] => 0
  | inside, c :: rest =>
    if isWordBlank c then countWords false rest
    else (if inside then 0 else 1) + countWords true rest

def Counts.of (text : Octets) : Counts := ⟨text.count '\n', countWords false text, text.length⟩

def Counts.add (a b : Counts) : Counts := ⟨a.lines + b.lines, a.words + b.words, a.bytes + b.bytes⟩

def wcTable : OptionTable :=
  ⟨['l', 'w', 'c', 'm'], [], [("lines", 'l'), ("words", 'w'), ("bytes", 'c'), ("chars", 'm')]⟩

def shownCounts (parsed : Parsed) (counts : Counts) : List Nat :=
  let all := parsed.options.isEmpty
  (if all || parsed.has 'l' then [counts.lines] else []) ++
    (if all || parsed.has 'w' then [counts.words] else []) ++
    (if all || parsed.has 'c' || parsed.has 'm' then [counts.bytes] else [])

def countLine (width : Nat) (numbers : List Nat) (title : Octets) : Octets :=
  [' '].intercalate (numbers.map (aligned width)) ++
    (if title.isEmpty then [] else ' ' :: title) ++ ['\n']

/-- Counts lines, words and bytes. Columns are wide where the sizes are not known before. -/
def wc : Action := fun _ name arguments =>
  withOptions wcTable name arguments 1 fun parsed => do
    let operands := if parsed.operands.isEmpty then [['-']] else parsed.operands
    let isFile := match (← machine).stream (((← shell).descriptor? 0).getD 0) with
      | .file _ _ _ => true
      | _ => false
    let mut found : List (Octets × Except Trouble Counts) := []
    for operand in operands do
      let content ← contentOf operand
      found := found ++ [(operand, content.map Counts.of)]
    let good := found.filterMap fun entry => entry.2.toOption
    let total := good.foldl Counts.add ⟨0, 0, 0⟩
    let unsized := operands.contains ['-'] && !isFile
    let single := operands.length = 1 && (shownCounts parsed total).length = 1
    let width := if single then 1 else if unsized then 7 else (Octets.ofNat total.bytes).length
    let mut status := 0
    for entry in found do
      match entry.2 with
      | .ok counts =>
        say (countLine width (shownCounts parsed counts)
          (if parsed.operands.isEmpty then [] else entry.1))
      | .error trouble =>
        complainAs name (quoteIfNeeded entry.1 ++ ": ".toList ++ trouble.message)
        status := 1
    if 1 < operands.length then say (countLine width (shownCounts parsed total) "total".toList)
    return status

def range (first last : Char) : Octets :=
  (List.range (last.toNat + 1 - first.toNat)).map fun n => Char.ofNat (first.toNat + n)

def allOctets : Octets := (List.range 256).map Char.ofNat

def expandSet : Nat → Octets → Octets
  | 0, _ => []
  | _, [] => []
  | bound + 1, '[' :: ':' :: rest =>
    let name := rest.takeWhile Char.isAlpha
    match rest.drop name.length with
    | ':' :: ']' :: others =>
      allOctets.filter (Pattern.classTest (String.ofList name)) ++ expandSet bound others
    | _ => '[' :: expandSet bound (':' :: rest)
  | bound + 1, c :: rest =>
    let (first, rest) :=
      if c = '\\' then
        match Format.escape? rest with
        | some (c, rest) => (c, rest)
        | none => (rest.head?.getD '\\', rest.drop 1)
      else (c, rest)
    match rest with
    | '-' :: last :: others =>
      if first ≤ last then range first last ++ expandSet bound others
      else first :: expandSet bound rest
    | rest => first :: expandSet bound rest

def charSet (text : Octets) : Octets := expandSet (text.length + 1) text

def squeeze (set : Octets) : Option Char → Octets → Octets
  | _, [] => []
  | before, c :: rest =>
    if before == some c && set.contains c then squeeze set before rest
    else c :: squeeze set (some c) rest

/-- The counterpart of a character; the last one of the second set stands for all that are missing. -/
def exchange (first second : Octets) (c : Char) : Char :=
  match first.reverse.idxOf? c with
  | none => c
  | some position => second.getD (first.length - 1 - position) (second.getLastD c)

def trTable : OptionTable :=
  ⟨['d', 's', 'c', 'C', 't'], [],
    [("delete", 'd'), ("squeeze-repeats", 's'), ("complement", 'c'), ("truncate-set1", 't')]⟩

def tr : Action := fun _ name arguments => do
  match trTable.read false arguments with
  | .error message => misused name message 1
  | .ok parsed =>
    let deletes := parsed.has 'd'
    let squeezes := parsed.has 's'
    let complement (set : Octets) : Octets :=
      if parsed.has 'c' || parsed.has 'C' then allOctets.filter fun c => !set.contains c else set
    let input : Exec Octets := do return (← readAll? 0).getD []
    match parsed.operands with
    | [] => missingOperand name
    | [one] =>
      let set := complement (charSet one)
      if deletes && !squeezes then
        say ((← input).filter fun c => !set.contains c)
        return 0
      else if squeezes && !deletes then
        say (squeeze set none (← input))
        return 0
      else
        complainAs name ("missing operand after ".toList ++ quoteValue one)
        complain (if deletes then
            "Two strings must be given when both deleting and squeezing repeats.\n".toList
          else "Two strings must be given when translating.\n".toList)
        hint name
        return 1
    | [one, two] =>
      let first := complement (charSet one)
      let second := charSet two
      if deletes && !squeezes then
        complainAs name ("extra operand ".toList ++ quoteValue two)
        complain "Only one string may be given when deleting without squeezing repeats.\n".toList
        hint name
        return 1
      else
        let text := (← input)
        let changed := if deletes then text.filter fun c => !first.contains c
          else text.map (exchange first second)
        say (if squeezes then squeeze second none changed else changed)
        return 0
    | _ :: _ :: extra :: _ => extraOperand name extra

def sortTable : OptionTable :=
  ⟨['r', 'n', 'u', 'f', 's', 'b'], ['k', 't', 'o'],
    [("reverse", 'r'), ("numeric-sort", 'n'), ("unique", 'u')]⟩

def leadingNumber (line : Octets) : Int :=
  let text := line.dropWhile isWordBlank
  let (negative, digits) :=
    match text with
    | '-' :: rest => (true, rest)
    | rest => (false, rest)
  let n : Nat := (Octets.toNat? (digits.takeWhile Char.isDigit)).getD 0
  if negative then -(n : Int) else n

def keyOf (separator : Option Char) (field : Nat) (line : Octets) : Octets :=
  match separator with
  | some c => [c].intercalate ((line.splitOn c).drop (field - 1))
  | none => go (field - 1) line
where
  go : Nat → Octets → Octets
    | 0, text => text
    | n + 1, text => go n ((text.dropWhile isWordBlank).dropWhile fun c => !isWordBlank c)

def plainLines (text : Octets) : List Octets :=
  text.lines.map fun line => if line.getLast? == some '\n' then line.dropLast else line

def unlines (lines : List Octets) : Octets := lines.flatMap fun line => line ++ ['\n']

def sort : Action := fun _ name arguments =>
  withOptions sortTable name arguments 2 fun parsed => do
    let some contents ← allContents name parsed.operands | return 2
    let lines := contents.flatMap plainLines
    let field := ((parsed.value? 'k').bind fun text =>
      Octets.toNat? (text.takeWhile Char.isDigit)).getD 1
    let separator := (parsed.value? 't').bind (·.head?)
    let key (line : Octets) : Octets := keyOf separator field line
    let numeric := parsed.has 'n' || ((parsed.value? 'k').getD []).contains 'n'
    let reversed := parsed.has 'r' || ((parsed.value? 'k').getD []).contains 'r'
    let least (a b : Octets) : Bool :=
      if numeric then
        if leadingNumber (key a) = leadingNumber (key b) then !(b < a)
        else leadingNumber (key a) < leadingNumber (key b)
      else if key a = key b then !(b < a) else key a < key b
    let sorted := lines.mergeSort (if reversed then fun a b => least b a else least)
    let same (a b : Octets) : Bool :=
      if numeric then leadingNumber (key a) == leadingNumber (key b) else key a == key b
    let kept := if parsed.has 'u' then
        sorted.foldr (fun line later =>
          match later with
          | next :: others => if same line next then line :: others else line :: later
          | [] => [line]) []
      else sorted
    say (unlines kept)
    return 0

def uniqTable : OptionTable :=
  ⟨['c', 'd', 'u', 'i'], [], [("count", 'c'), ("repeated", 'd'), ("unique", 'u')]⟩

def runsOf (lines : List Octets) : List (Nat × Octets) :=
  lines.foldr (fun line later =>
    match later with
    | (count, next) :: others =>
      if line = next then (count + 1, next) :: others else (1, line) :: later
    | [] => [(1, line)]) []

def uniq : Action := fun _ name arguments =>
  withOptions uniqTable name arguments 1 fun parsed => do
    let (contents, status) ← contentsOf name (parsed.operands.take 1)
    let runs := (runsOf (contents.flatMap plainLines)).filter fun run =>
      (!parsed.has 'd' || 1 < run.1) && (!parsed.has 'u' || run.1 = 1)
    say (unlines (runs.map fun run =>
      if parsed.has 'c' then aligned 7 run.1 ++ ' ' :: run.2 else run.2))
    return status

def readPositions (text : Octets) : Option (List (Nat × Option Nat)) :=
  (text.splitOn ',').mapM fun part =>
    let first := part.takeWhile Char.isDigit
    match part.drop first.length with
    | [] => (Octets.toNat? first).map fun n => (n, some n)
    | '-' :: last =>
      let start := if first.isEmpty then some 1 else Octets.toNat? first
      if last.isEmpty then start.map fun n => (n, none)
      else start.bind fun n => (Octets.toNat? last).map fun m => (n, some m)
    | _ => none

def isIn (ranges : List (Nat × Option Nat)) (position : Nat) : Bool :=
  ranges.any fun range => range.1 ≤ position &&
    match range.2 with
    | some last => position ≤ last
    | none => true

def chosen {α : Type} (ranges : List (Nat × Option Nat)) (items : List α) : List α :=
  (items.zipIdx 1).filterMap fun entry => if isIn ranges entry.2 then some entry.1 else none

def cutTable : OptionTable :=
  ⟨['s', 'n'], ['f', 'd', 'c', 'b'],
    [("fields", 'f'), ("delimiter", 'd'), ("characters", 'c'), ("bytes", 'b')]⟩

def cut : Action := fun _ name arguments =>
  withOptions cutTable name arguments 1 fun parsed => do
    let asked := (parsed.value? 'c') <|> (parsed.value? 'b')
    match asked, parsed.value? 'f' with
    | none, none =>
      misused name "you must specify a list of bytes, characters, or fields".toList 1
    | some positions, _ =>
      match readPositions positions with
      | none => misused name "invalid byte or character range".toList 1
      | some ranges =>
        let (contents, status) ← contentsOf name parsed.operands
        say (unlines ((contents.flatMap plainLines).map (chosen ranges)))
        return status
    | none, some fields =>
      match readPositions fields with
      | none => misused name "invalid field value".toList 1
      | some ranges =>
        let mark := ((parsed.value? 'd').bind (·.head?)).getD '\t'
        let (contents, status) ← contentsOf name parsed.operands
        let lines := (contents.flatMap plainLines).filterMap fun line =>
          if line.contains mark then some ([mark].intercalate (chosen ranges (line.splitOn mark)))
          else if parsed.has 's' then none else some line
        say (unlines lines)
        return status

def noOptions : OptionTable := ⟨[], [], []⟩

def rev : Action := fun _ name arguments =>
  withOptions noOptions name arguments 1 fun parsed => do
    let (contents, status) ← contentsOf name parsed.operands
    say ((Octets.lines contents.flatten).flatMap fun line =>
      if line.getLast? == some '\n' then line.dropLast.reverse ++ ['\n'] else line.reverse)
    return status

def tac : Action := fun _ name arguments =>
  withOptions noOptions name arguments 1 fun parsed => do
    let (contents, status) ← contentsOf name parsed.operands
    say (contents.flatMap fun content => content.lines.reverse.flatten)
    return status

def nl : Action := fun _ name arguments =>
  withOptions noOptions name arguments 1 fun parsed => do
    let (contents, status) ← contentsOf name parsed.operands
    let numbered := (contents.flatMap plainLines).foldl
      (fun (done : Octets × Nat) line =>
        if line.isEmpty then (done.1 ++ List.replicate 7 ' ' ++ ['\n'], done.2)
        else (done.1 ++ aligned 6 (done.2 + 1) ++ '\t' :: line ++ ['\n'], done.2 + 1))
      ([], 0)
    say numbered.1
    return status

def seqTable : OptionTable := ⟨['w'], ['s', 'f'], [("separator", 's'), ("equal-width", 'w')]⟩

def numbersFrom (step last : Int) : Nat → Int → List Int
  | 0, _ => []
  | bound + 1, n =>
    if (0 < step && last < n) || (step < 0 && n < last) then []
    else n :: numbersFrom step last bound (n + step)

def isNegativeNumber (text : Octets) : Bool :=
  match text with
  | '-' :: digits => (Octets.toNat? digits).isSome
  | _ => false

def seq : Action := fun _ name arguments => do
  let numbers := arguments.filter isNegativeNumber
  match seqTable.read false (if numbers.isEmpty then arguments else ['-', '-'] :: arguments) with
  | .error message => misused name message 1
  | .ok parsed =>
    match parsed.operands.find? fun text => (Octets.toInt? text).isNone with
    | some text => misused name ("invalid floating point argument: ".toList ++ quoteValue text) 1
    | none =>
      let write (first step last : Int) : Exec Nat := do
        if step = 0 then
          misused name "invalid Zero increment value: '0'".toList 1
        else
          let count := ((last - first).tdiv step).toNat + 2
          let texts := (numbersFrom step last count first).map Octets.ofInt
          let width := (texts.map List.length).foldl max 0
          let texts := if parsed.has 'w' then
              texts.map fun text => List.replicate (width - text.length) '0' ++ text
            else texts
          let separator := (parsed.value? 's').getD ['\n']
          if !texts.isEmpty then say (separator.intercalate texts ++ ['\n'])
          return 0
      match parsed.operands.filterMap Octets.toInt? with
      | [] => missingOperand name
      | [last] => write 1 1 last
      | [first, last] => write first 1 last
      | [first, step, last] => write first step last
      | _ => extraOperand name (parsed.operands.getD 3 [])

def tee : Action := fun _ name arguments =>
  withOptions ⟨['a', 'i'], [], [("append", 'a')]⟩ name arguments 1 fun parsed => do
    let content := (← readAll? 0).getD []
    let mut status := 0
    for operand in parsed.operands do
      match ← openPath (if parsed.has 'a' then .append else .write) operand with
      | .ok stream =>
        modifyMachine fun machine => (machine.write stream content).2
      | .error reason =>
        let reason := if reason = "Directory nonexistent" then "No such file or directory" else reason
        complainAs name (quoteIfNeeded operand ++ ": ".toList ++ reason.toList)
        status := 1
    say content
    return status

/-- How many lines are written for a reader that will stop at some time. -/
def plentyOfLines : Nat := 8192

def yes : Action := fun _ _ arguments => do
  let line := (if arguments.isEmpty then ['y'] else [' '].intercalate arguments) ++ ['\n']
  match (← machine).stream (((← shell).descriptor? 1).getD 1) with
  | .pipe _ _ =>
    say (List.replicate plentyOfLines line).flatten
    return 141
  | _ => throw .stuck

end CiPipeline.Shell.Program
