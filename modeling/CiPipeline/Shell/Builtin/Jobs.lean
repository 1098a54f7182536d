import CiPipeline.Shell.Builtin.Basic

/-! Commands on processes: sending signals, catching them, and waiting. -/
namespace CiPipeline.Shell.Builtin

open Exec

def killUsage : Octets :=
  "Usage: kill [-s sigspec | -signum | -sigspec] [pid | job]... or\nkill -l [exitstatus]".toList

def receive (engine : Engine) (signal : Nat) : Exec Unit := do
  let name := ((Signal.ofNumber? signal).map (·.name)).getD ""
  match (← shell).traps.lookup name with
  | some [] => return
  | some text =>
    let before ← shell
    modifyShell fun shell => { shell with inside := none }
    engine.script text
    modifyShell fun shell => { shell with inside := before.inside, status := before.status }
  | none =>
    if signal = 0 || Signal.ignored.contains signal then return
    else if Signal.stopping.contains signal then throw .stuck
    else throw (.killed signal)

def endJob (job : BackgroundJob) (now : Time) (signal : Nat) : BackgroundJob :=
  let running := match job.ended with
    | some time => decide (now < time)
    | none => true
  if running then
    { job with
      ended := some now
      status := Signal.status signal
      written := job.written.filter fun chunk => chunk.1 ≤ now }
  else job

def send (engine : Engine) (signal target : Nat) : Exec Bool := do
  let shell ← shell
  let machine ← machine
  if target = shell.own || target = 0 then
    receive engine signal
    return true
  else if machine.jobs.any (·.process == target) then
    let deadly := signal != 0 && !Signal.ignored.contains signal &&
      !Signal.stopping.contains signal
    if deadly then
      modifyMachine fun machine => { machine with
        jobs := machine.jobs.map fun job =>
          if job.process = target then endJob job machine.now signal else job }
    return true
  else if target < machine.nextProcess && target ≤ shell.own then
    if signal != 0 && !Signal.ignored.contains signal then
      modifyMachine fun machine => { machine with doomed := (target, signal) :: machine.doomed }
    return true
  else return false

def jobNamed (name : Octets) : Exec BackgroundJob := do
  let jobs := (← machine).jobs
  if name.isEmpty || name = ['%'] || name = ['+'] then
    match jobs.getLast? with
    | some job => return job
    | none => fail "No current job".toList
  else if name = ['-'] then fail "No previous job".toList
  else
    match (Octets.toNat? name).bind fun n => if n = 0 then none else jobs[n - 1]? with
    | some job => return job
    | none => fail ("No such job: %".toList ++ name)

def sendAll (engine : Engine) (signal : Nat) : List Octets → Exec Nat
  | [] => return 0
  | text :: rest => do
    if text.head? == some '%' then
      discard (jobNamed (text.drop 1))
      report "No such process\n".toList
      let _ ← sendAll engine signal rest
      return 1
    let digits := if text.head? == some '-' then text.drop 1 else text
    match Octets.toNat? digits with
    | none => wrong ("Illegal number: ".toList ++ text)
    | some target =>
      let sent ← send engine signal target
      if !sent then report "No such process\n".toList
      let status ← sendAll engine signal rest
      return if sent then status else 1

def kill : Action := fun engine arguments => do
  match arguments with
  | [] => wrong killUsage
  | ['-', 'l'] :: [] =>
    output "kill" ("0\n".toList ++ Signal.all.flatMap fun signal => signal.name.toList ++ ['\n'])
  | ['-', 'l'] :: text :: _ =>
    match (Octets.toNat? text).bind fun n => Signal.ofNumber? (if 128 < n then n - 128 else n) with
    | some signal => output "kill" (signal.name.toList ++ ['\n'])
    | none => wrong ("invalid signal number or exit status: ".toList ++ text)
  | ['-', 's'] :: name :: targets =>
    match Signal.ofText? name with
    | some signal => sendAll engine signal.number targets
    | none => wrong ("invalid signal number or name: ".toList ++ name)
  | ['-', '-'] :: targets => sendAll engine 15 targets
  | ('-' :: name) :: targets =>
    if name = ['0'] then sendAll engine 0 targets
    else
      match Signal.ofText? name with
      | some signal => sendAll engine signal.number targets
      | none => wrong ("Illegal option -".toList ++ name.take 1)
  | targets => sendAll engine 15 targets

/-- Jobs cannot change between back and front. -/
def moveJob : Action := fun _ arguments => do
  discard (jobNamed ((arguments.head?.getD ['%', '%']).drop 1))
  fail "job (null) not created under job control".toList

def await (job : BackgroundJob) : Exec Nat := do
  match job.ended with
  | some time =>
    waitUntil time
    if 128 < job.status then
      match Signal.notice? (job.status - 128) with
      | some notice => complain (notice.toList ++ ['\n'])
      | none => pure ()
    return job.status
  | none => throw .stuck

def wait : Action := fun _ arguments => do
  let jobs := (← machine).jobs
  match arguments with
  | [] =>
    for job in jobs do
      match job.ended with
      | some time => waitUntil time
      | none => throw .stuck
    return 0
  | arguments =>
    let mut status := 127
    for text in arguments do
      if text.head? == some '%' then status ← await (← jobNamed (text.drop 1))
      else
        match Octets.toNat? text with
        | none => fail ("Illegal number: ".toList ++ text)
        | some number =>
          match jobs.find? (·.process == number) with
          | some job => status ← await job
          | none => pure ()
    return status

def trapName? (text : Octets) : Option String :=
  if text = ['0'] || text.map Char.toUpper = "EXIT".toList then some "EXIT"
  else (Signal.ofText? text).map (·.name)

def trapListing (traps : List (String × Octets)) (quoted : Octets → Octets) : Octets :=
  ("EXIT" :: Signal.all.map (·.name)).flatMap fun name =>
    match traps.lookup name with
    | some text =>
      "trap -- ".toList ++ quoted text ++ ' ' :: name.toList ++ ['\n']
    | none => []

def setTraps (action : Option Octets) : List Octets → Exec Nat
  | [] => return 0
  | text :: rest => do
    match trapName? text with
    | none =>
      complain ("trap: ".toList ++ text ++ ": bad trap\n".toList)
      return 1
    | some name =>
      modifyShell fun shell =>
        let others := shell.traps.filter (·.1 != name)
        { shell with
          traps := match action with
            | some text => (name, text) :: others
            | none => others }
      setTraps action rest

def trap : Action := fun _ arguments => do
  let arguments := if arguments.head? == some ['-', '-'] then arguments.drop 1 else arguments
  match arguments with
  | [] =>
    let plain (text : Octets) : Octets := '\'' :: text ++ ['\'']
    output "trap" (trapListing (← shell).traps plain)
  | [text] => setTraps none [text]
  | ['-'] :: names => setTraps none names
  | text :: names =>
    match Octets.toNat? text with
    | some _ => setTraps none (text :: names)
    | none => setTraps (some text) names

def octalText (n : Nat) : Octets :=
  let digits := Nat.toDigits 8 n
  List.replicate (4 - digits.length) '0' ++ digits

def permissionText (mask place : Nat) : Octets :=
  let left := 7 - mask / place % 8
  (if 4 ≤ left then ['r'] else []) ++ (if 2 ≤ left % 4 then ['w'] else []) ++
    (if left % 2 = 1 then ['x'] else [])

def umask : Action := fun _ arguments => do
  let mask := (← shell).mask
  match arguments with
  | [] => output "umask" (octalText mask ++ ['\n'])
  | ['-', 'S'] :: _ =>
    output "umask" ("u=".toList ++ permissionText mask 64 ++ ",g=".toList ++ permissionText mask 8 ++
      ",o=".toList ++ permissionText mask 1 ++ ['\n'])
  | text :: _ =>
    if text.all Format.isOctal && !text.isEmpty then
      let mask := text.foldl (fun n c => n * 8 + (c.toNat - '0'.toNat)) 0
      modifyShell fun shell => { shell with mask := mask % 512 }
      return 0
    else fail ("Illegal mode: ".toList ++ text)

def ulimit : Action := fun _ arguments => do
  if arguments == [['-', 'c']] then output "ulimit" "0\n".toList
  else if arguments.length ≤ 1 then output "ulimit" "unlimited\n".toList
  else return 0

def hash : Action := fun _ arguments => do
  if arguments.contains "-r".toList then
    modifyShell fun shell => { shell with remembered := [] }
  return 0

def times : Action := fun _ _ => do
  let line := "0m0.000000s 0m0.000000s\n".toList
  output "times" (line ++ line)

end CiPipeline.Shell.Builtin
