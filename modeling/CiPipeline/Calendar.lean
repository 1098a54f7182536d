import CiPipeline.Number.Layout

/-! Calendar dates and moments of the day, with an optional offset from universal time. Impossible
dates are refused with a cause that says which part is out of range. -/
namespace CiPipeline.Calendar

open Number

structure Date where
  year : Nat
  month : Nat
  day : Nat
deriving DecidableEq, Repr, Inhabited

/-- A moment on a date; the offset counts seconds east of universal time. -/
structure Moment where
  date : Date
  hour : Nat
  minute : Nat
  second : Nat
  micro : Nat
  offset : Option Int
deriving DecidableEq, Repr, Inhabited

inductive Fault
  | year (given : Nat)
  | month
  | day
  | hour
  | minute
  | second
  | offset (seconds : Int)
deriving DecidableEq, Repr

def isLeap (year : Nat) : Bool :=
  year % 4 == 0 && (year % 100 != 0 || year % 400 == 0)

def daysInMonth (year month : Nat) : Nat :=
  match month with
  | 2 => if isLeap year then 29 else 28
  | 4 | 6 | 9 | 11 => 30
  | _ => 31

def Date.check (date : Date) : Except Fault Date :=
  if date.year < 1 ∨ 9999 < date.year then .error (.year date.year)
  else if date.month < 1 ∨ 12 < date.month then .error .month
  else if date.day < 1 ∨ daysInMonth date.year date.month < date.day then .error .day
  else .ok date

def secondsPerDay : Nat := 86400

def checkOffset (seconds : Int) : Except Fault Int :=
  if seconds.natAbs < secondsPerDay then .ok seconds else .error (.offset seconds)

def Moment.check (moment : Moment) : Except Fault Moment := do
  let _ ← moment.date.check
  if 23 < moment.hour then .error .hour
  else if 59 < moment.minute then .error .minute
  else if 59 < moment.second then .error .second
  else .ok moment

def daysBeforeYear (year : Nat) : Nat :=
  let past := year - 1
  past * 365 + past / 4 - past / 100 + past / 400

def daysBeforeMonth (year month : Nat) : Nat :=
  (List.range (month - 1)).foldl (fun days earlier => days + daysInMonth year (earlier + 1)) 0

def Date.dayNumber (date : Date) : Nat :=
  daysBeforeYear date.year + daysBeforeMonth date.year date.month + date.day

def Moment.wallMicros (moment : Moment) : Nat :=
  (((moment.date.dayNumber * 24 + moment.hour) * 60 + moment.minute) * 60 + moment.second) *
    1000000 + moment.micro

/-- Two moments are the same if they name the same instant; one with and one without an offset never
are. -/
def Moment.same (a b : Moment) : Bool :=
  match a.offset, b.offset with
  | none, none => a.wallMicros == b.wallMicros
  | some x, some y =>
    (a.wallMicros : Int) - x * 1000000 == (b.wallMicros : Int) - y * 1000000
  | _, _ => false

def padded (width n : Nat) : String :=
  let digits := writeNat n
  String.ofList (zeros (width - digits.length) ++ digits)

def Date.iso (date : Date) : String :=
  padded 4 date.year ++ "-" ++ padded 2 date.month ++ "-" ++ padded 2 date.day

def offsetIso (seconds : Int) : String :=
  let total := seconds.natAbs
  let rest := total % 60
  (if seconds < 0 then "-" else "+") ++ padded 2 (total / 3600) ++ ":" ++
    padded 2 (total / 60 % 60) ++ (if rest = 0 then "" else ":" ++ padded 2 rest)

def Moment.isoWith (mark : String) (moment : Moment) : String :=
  moment.date.iso ++ mark ++ padded 2 moment.hour ++ ":" ++ padded 2 moment.minute ++ ":" ++
    padded 2 moment.second ++ (if moment.micro = 0 then "" else "." ++ padded 6 moment.micro) ++
    (moment.offset.map offsetIso).getD ""

def natText (n : Nat) : String := String.ofList (writeNat n)

def intText (n : Int) : String := String.ofList (writeInt n)

def spanText (seconds : Int) : String :=
  let days := seconds.fdiv secondsPerDay
  let rest := seconds.fmod secondsPerDay
  let parts :=
    (if days = 0 then [] else ["days=" ++ intText days]) ++
    (if rest = 0 then [] else ["seconds=" ++ intText rest])
  "datetime.timedelta(" ++ (if parts.isEmpty then "0" else ", ".intercalate parts) ++ ")"

def Date.display (date : Date) : String :=
  "datetime.date(" ++
    ", ".intercalate [natText date.year, natText date.month, natText date.day] ++ ")"

def offsetDisplay (seconds : Int) : String :=
  if seconds = 0 then "datetime.timezone.utc"
  else "datetime.timezone(" ++ spanText seconds ++ ")"

/-- Seconds and microseconds are left out where they are zero. -/
def Moment.display (moment : Moment) : String :=
  let fields := [moment.date.year, moment.date.month, moment.date.day, moment.hour, moment.minute]
  let fields :=
    if moment.micro ≠ 0 then fields ++ [moment.second, moment.micro]
    else if moment.second ≠ 0 then fields ++ [moment.second]
    else fields
  let zone := (moment.offset.map fun seconds => ["tzinfo=" ++ offsetDisplay seconds]).getD []
  "datetime.datetime(" ++ ", ".intercalate (fields.map natText ++ zone) ++ ")"

def Fault.message : Fault → String
  | .year given => "year " ++ natText given ++ " is out of range"
  | .month => "month must be in 1..12"
  | .day => "day is out of range for month"
  | .hour => "hour must be in 0..23"
  | .minute => "minute must be in 0..59"
  | .second => "second must be in 0..59"
  | .offset seconds =>
    "offset must be a timedelta strictly between -timedelta(hours=24) and timedelta(hours=24), not "
      ++ spanText seconds ++ "."

end CiPipeline.Calendar
