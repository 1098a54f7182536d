import CiPipeline.Shell.Fields
import CiPipeline.Shell.Program.Options

/-! Programs on files and on the names of files. -/
namespace CiPipeline.Shell.Program

open Files Exec

/-- A name without slashes at its end; only slashes are one slash. -/
def withoutSlashes (name : Octets) : Octets :=
  match name.reverse.dropWhile (· == '/') with
  | [] => if name.isEmpty then [] else ['/']
  | rest => rest.reverse

def lastPart (name : Octets) : Octets :=
  let name := withoutSlashes name
  if name = ['/'] then name else (name.reverse.takeWhile (· != '/')).reverse

def withoutEnd (ending name : Octets) : Octets :=
  if ending.isSuffixOf name && ending.length < name.length then
    name.take (name.length - ending.length)
  else name

def basename : Action := fun _ name arguments => do
  let table : OptionTable := ⟨['a', 'z'], ['s'], [("multiple", 'a'), ("suffix", 's')]⟩
  match table.read false arguments with
  | .error message => misused name message 1
  | .ok parsed =>
    let many := parsed.has 'a' || (parsed.value? 's').isSome
    match parsed.operands with
    | [] => missingOperand name
    | first :: rest =>
      if many then
        for operand in first :: rest do
          say (withoutEnd ((parsed.value? 's').getD []) (lastPart operand) ++ ['\n'])
        return 0
      else
        match rest with
        | [] =>
          say (lastPart first ++ ['\n'])
          return 0
        | [ending] =>
          say (withoutEnd ending (lastPart first) ++ ['\n'])
          return 0
        | _ :: extra :: _ => extraOperand name extra

def parentPart (name : Octets) : Octets :=
  let name := withoutSlashes name
  let front := (name.reverse.dropWhile (· != '/')).reverse
  if front.isEmpty then (if name = ['/'] then name else ['.']) else withoutSlashes front

def dirname : Action := fun _ name arguments =>
  withOptions ⟨['z'], [], []⟩ name arguments 1 fun parsed => do
    if parsed.operands.isEmpty then missingOperand name
    else
      for operand in parsed.operands do say (parentPart operand ++ ['\n'])
      return 0

def lsTable : OptionTable :=
  ⟨['1', 'a', 'A', 'd', 'r', 'c', 'C', 'F', 'p', 'h', 't', 'f', 'U'], [],
    [("all", 'a'), ("almost-all", 'A'), ("directory", 'd'), ("reverse", 'r')]⟩

def shownNames (machine : Machine) (parsed : Parsed) (place : Path) : List Octets :=
  let names := (namesIn machine place).filter fun name =>
    parsed.has 'a' || parsed.has 'A' || name.head? != some '.'
  let names := (if parsed.has 'a' then [['.'], ['.', '.']] else []) ++ names
  if parsed.has 'r' then names.reverse else names

def unlineNames (names : List Octets) : Octets := names.flatMap fun name => name ++ ['\n']

def ls : Action := fun _ name arguments =>
  withOptions lsTable name arguments 2 fun parsed => do
    let operands := if parsed.operands.isEmpty then [['.']] else parsed.operands
    let mut status := 0
    let mut plain : List Octets := []
    let mut directories : List (Octets × Path) := []
    for operand in operands.mergeSort fun a b => !(b < a) do
      match (← get).look? operand with
      | none =>
        complainAs name ("cannot access ".toList ++ quoteName operand ++ ": ".toList ++
          (← absence operand).message)
        status := 2
      | some (place, .directory) =>
        if parsed.has 'd' then plain := plain ++ [operand]
        else directories := directories ++ [(operand, place)]
      | some _ => plain := plain ++ [operand]
    say (unlineNames plain)
    let mut isFirst := plain.isEmpty
    for directory in directories do
      if 1 < operands.length then
        say ((if isFirst then [] else ['\n']) ++ directory.1 ++ ":\n".toList)
      isFirst := false
      say (unlineNames (shownNames (← machine) parsed directory.2))
    return status

def placeOf? (text : Octets) : Exec (Option Path) := do
  if text.isEmpty then return none
  else return (← machine).settle? ((← machine).locate (← shell).directory (withoutSlashes text))

def touch : Action := fun _ name arguments =>
  withOptions ⟨['a', 'm', 'c'], ['d', 't', 'r'], []⟩ name arguments 1 fun parsed => do
    if parsed.operands.isEmpty then misused name "missing file operand".toList 1
    else
      let mut status := 0
      for operand in parsed.operands do
        match ← placeOf? operand with
        | some place =>
          if ((← machine).nodeAt? place).isSome || parsed.has 'c' then pure ()
          else if (← machine).mayCreate place then
            modifyMachine fun machine => machine.putFile place []
          else
            complainAs name ("cannot touch ".toList ++ quoteName operand ++
              ": No such file or directory".toList)
            status := 1
        | none =>
          complainAs name ("cannot touch ".toList ++ quoteName operand ++
            ": No such file or directory".toList)
          status := 1
      return status

def removeAt (place : Path) : Exec Unit :=
  modifyMachine fun machine => { machine with tree := machine.tree.remove place }

def rm : Action := fun _ name arguments =>
  withOptions ⟨['f', 'r', 'R', 'i', 'v', 'd'], [], [("force", 'f'), ("recursive", 'r')]⟩
    name arguments 1 fun parsed => do
    if parsed.operands.isEmpty && !parsed.has 'f' then missingOperand name
    else
      let mut status := 0
      for operand in parsed.operands do
        match (← get).look? operand with
        | none =>
          if !parsed.has 'f' then
            complainAs name ("cannot remove ".toList ++ quoteName operand ++
              ": No such file or directory".toList)
            status := 1
        | some (place, .directory) =>
          if parsed.has 'r' || parsed.has 'R' then removeAt place
          else
            complainAs name ("cannot remove ".toList ++ quoteName operand ++
              ": Is a directory".toList)
            status := 1
        | some (place, _) => removeAt place
      return status

def mkdir : Action := fun _ name arguments =>
  withOptions ⟨['p', 'v'], ['m'], [("parents", 'p'), ("mode", 'm')]⟩ name arguments 1
    fun parsed => do
    if parsed.operands.isEmpty then missingOperand name
    else
      let mut status := 0
      for operand in parsed.operands do
        let refuse (reason : String) : Exec Nat := do
          complainAs name ("cannot create directory ".toList ++ quoteValue operand ++
            ": ".toList ++ reason.toList)
          return 1
        match (← get).look? operand with
        | some (_, .directory) => if !parsed.has 'p' then status ← refuse "File exists"
        | some _ => status ← refuse "File exists"
        | none =>
          let machine ← machine
          let path := machine.locate (← shell).directory operand
          if parsed.has 'p' then
            modifyMachine fun machine => { machine with
              tree := machine.tree.makeDirectories ⟨path.anchor, Path.climb path.names⟩ }
          else
            match machine.settle? path with
            | some place =>
              modifyMachine fun machine => { machine with
                tree := machine.tree.makeDirectories place }
            | none => status ← refuse "No such file or directory"
      return status

def rmdir : Action := fun _ name arguments =>
  withOptions ⟨['p', 'v'], [], []⟩ name arguments 1 fun parsed => do
    if parsed.operands.isEmpty then missingOperand name
    else
      let mut status := 0
      for operand in parsed.operands do
        let refuse (reason : String) : Exec Nat := do
          complainAs name ("failed to remove ".toList ++ quoteName operand ++ ": ".toList ++
            reason.toList)
          return 1
        match (← get).look? operand with
        | some (place, .directory) =>
          if (namesIn (← machine) place).isEmpty then removeAt place
          else status ← refuse "Directory not empty"
        | some _ => status ← refuse "Not a directory"
        | none => status ← refuse "No such file or directory"
      return status

def relocated (tree : Tree) (source target : Path) : List (Path × Entry) :=
  tree.entries.filterMap fun entry =>
    if entry.1.anchor == source.anchor && source.names.isPrefixOf entry.1.names then
      some (⟨target.anchor, target.names ++ entry.1.names.drop source.names.length⟩, entry.2)
    else none

def copyTo (source target : Path) : Exec Unit := modifyMachine fun machine =>
  let entries := relocated machine.tree source target
  { machine with
    tree := entries.foldl (fun tree entry => tree.set entry.1 entry.2) machine.tree
    executables :=
      if machine.executables.contains source then target :: machine.executables
      else machine.executables }

/-- The place into which an operand goes: below a directory, or the target itself. -/
def destination (target operand : Octets) : Exec (Option Path) := do
  match (← get).look? target with
  | some (place, .directory) =>
    return some ⟨place.anchor, place.names ++ [(lastPart operand).toText]⟩
  | _ =>
    let place ← placeOf? target
    let machine ← machine
    return place.filter fun place => (machine.nodeAt? place).isSome || machine.mayCreate place

def transfer (moves : Bool) : Action := fun _ name arguments =>
  withOptions ⟨['f', 'r', 'R', 'a', 'p', 'n', 'v', 'i'], [], [("recursive", 'r')]⟩ name arguments 1
    fun parsed => do
    match parsed.operands with
    | [] => misused name "missing file operand".toList 1
    | [one] => misused name ("missing destination file operand after ".toList ++ quoteName one) 1
    | operands =>
      let target := operands.getLastD []
      let mut status := 0
      for operand in operands.dropLast do
        match (← get).look? operand with
        | none =>
          complainAs name ("cannot stat ".toList ++ quoteName operand ++
            ": No such file or directory".toList)
          status := 1
        | some (source, node) =>
          let recursive := moves || parsed.has 'r' || parsed.has 'R' || parsed.has 'a'
          if (node matches .directory) && !recursive then
            complainAs name ("-r not specified; omitting directory ".toList ++ quoteName operand)
            status := 1
          else
            match ← destination target operand with
            | some place =>
              match node with
              | .program _ | .device _ =>
                modifyMachine fun machine => machine.putFile place []
              | _ => copyTo source place
              if moves then removeAt source
            | none =>
              complainAs name ((if moves then "cannot move ".toList ++ quoteName operand ++
                " to ".toList else "cannot create regular file ".toList) ++ quoteName target ++
                ": No such file or directory".toList)
              status := 1
      return status

def allowsRunning (mode : Octets) : Option Bool :=
  if mode.all Char.isDigit then
    some (mode.any fun c => ['1', '3', '5', '7'].contains c)
  else if mode.contains 'x' then some (mode.contains '+' || mode.contains '=')
  else none

def chmod : Action := fun _ name arguments => do
  match arguments.filter fun text => text != ['-', 'R'] with
  | [] => missingOperand name
  | [mode] => misused name ("missing operand after ".toList ++ quoteValue mode) 1
  | mode :: operands =>
    let mut status := 0
    for operand in operands do
      match (← get).look? operand with
      | none =>
        complainAs name ("cannot access ".toList ++ quoteName operand ++
          ": No such file or directory".toList)
        status := 1
      | some (place, _) =>
        match allowsRunning mode with
        | some on =>
          modifyMachine fun machine => { machine with
            executables :=
              let others := machine.executables.filter (· ≠ place)
              if on then place :: others else others }
        | none => pure ()
    return status

end CiPipeline.Shell.Program
