import CiPipeline.Shell.Octets

/-! Signals by number and name, and what they do to a process that does not catch them. -/
namespace CiPipeline.Shell

structure Signal where
  number : Nat
  name : String
  /-- What is told about a process that the signal ended. -/
  description : String

namespace Signal

def all : List Signal := [
  ⟨1, "HUP", "Hangup"⟩, ⟨2, "INT", "Interrupt"⟩, ⟨3, "QUIT", "Quit"⟩,
  ⟨4, "ILL", "Illegal instruction"⟩, ⟨5, "TRAP", "Trace/breakpoint trap"⟩, ⟨6, "ABRT", "Aborted"⟩,
  ⟨7, "BUS", "Bus error"⟩, ⟨8, "FPE", "Floating point exception"⟩, ⟨9, "KILL", "Killed"⟩,
  ⟨10, "USR1", "User defined signal 1"⟩, ⟨11, "SEGV", "Segmentation fault"⟩,
  ⟨12, "USR2", "User defined signal 2"⟩, ⟨13, "PIPE", "Broken pipe"⟩, ⟨14, "ALRM", "Alarm clock"⟩,
  ⟨15, "TERM", "Terminated"⟩, ⟨16, "STKFLT", "Stack fault"⟩, ⟨17, "CHLD", "Child exited"⟩,
  ⟨18, "CONT", "Continued"⟩, ⟨19, "STOP", "Stopped (signal)"⟩, ⟨20, "TSTP", "Stopped"⟩,
  ⟨21, "TTIN", "Stopped (tty input)"⟩, ⟨22, "TTOU", "Stopped (tty output)"⟩,
  ⟨23, "URG", "Urgent I/O condition"⟩, ⟨24, "XCPU", "CPU time limit exceeded"⟩,
  ⟨25, "XFSZ", "File size limit exceeded"⟩, ⟨26, "VTALRM", "Virtual timer expired"⟩,
  ⟨27, "PROF", "Profiling timer expired"⟩, ⟨28, "WINCH", "Window changed"⟩,
  ⟨29, "IO", "I/O possible"⟩, ⟨30, "PWR", "Power failure"⟩, ⟨31, "SYS", "Bad system call"⟩]

def ofNumber? (number : Nat) : Option Signal := all.find? (·.number == number)

def ofText? (text : Octets) : Option Signal :=
  match Octets.toNat? text with
  | some number => ofNumber? number
  | none => all.find? (·.name == String.ofList (text.map Char.toUpper))

def ignored : List Nat := [17, 18, 23, 28]

def stopping : List Nat := [19, 20, 21, 22]

def notice? (number : Nat) : Option String :=
  if number = 2 || number = 13 then none else (ofNumber? number).map (·.description)

def status (number : Nat) : Nat := 128 + number

end Signal

end CiPipeline.Shell
