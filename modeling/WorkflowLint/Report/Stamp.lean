/-!
# `WorkflowLint.Report.Stamp`: when a report was made

A stamp is a moment of universal time, counted from the start of 1970. It is
written as a date with a time of day, to the second for people and as exactly as
it is known for programs. Dates follow the Gregorian calendar, whose pattern
repeats every 400 years.
-/

set_option autoImplicit false

namespace WorkflowLint.Report

/-- A moment: seconds since the start of 1970, and the rest in nanoseconds. -/
structure Stamp where
  seconds : Nat
  nanoseconds : Nat
deriving DecidableEq, Repr

/-- A day of the calendar. -/
structure Day where
  year : Nat
  month : Nat
  day : Nat
deriving DecidableEq, Repr

/-- The days in 400 years. -/
def daysPerCycle : Nat := 146097

/-- The days from the first of March of the year 0 to the start of 1970. -/
def epochDays : Nat := 719468

/-- The day that comes so many days after the first day of 1970. Years are
counted from March, so that the day that leap years add comes last. -/
def Day.after (days : Nat) : Day :=
  let n := days + epochDays
  let inCycle := n % daysPerCycle
  let year :=
    (inCycle - inCycle / 1460 + inCycle / 36524 - inCycle / (daysPerCycle - 1)) / 365
  let inYear := inCycle - (365 * year + year / 4 - year / 100)
  let month := (5 * inYear + 2) / 153
  let day := inYear - (153 * month + 2) / 5 + 1
  let fullYear := 400 * (n / daysPerCycle) + year
  if month < 10 then ⟨fullYear, month + 3, day⟩ else ⟨fullYear + 1, month - 9, day⟩

/-- A number with at least so many digits. -/
def padded (width n : Nat) : String :=
  let digits := Nat.toDigits 10 n
  String.ofList (List.replicate (width - digits.length) '0' ++ digits)

namespace Stamp

/-- The day of a stamp. -/
def dayText (s : Stamp) : String :=
  let d := Day.after (s.seconds / 86400)
  padded 4 d.year ++ "-" ++ padded 2 d.month ++ "-" ++ padded 2 d.day

/-- The time of day of a stamp. -/
def timeText (s : Stamp) : String :=
  let t := s.seconds % 86400
  padded 2 (t / 3600) ++ ":" ++ padded 2 (t / 60 % 60) ++ ":" ++ padded 2 (t % 60)

/-- The part of a second, in as many groups of three digits as it takes. -/
def fractionText (s : Stamp) : String :=
  let n := s.nanoseconds
  if n = 0 then ""
  else if n % 1000000 = 0 then "." ++ padded 3 (n / 1000000)
  else if n % 1000 = 0 then "." ++ padded 6 (n / 1000)
  else "." ++ padded 9 n

/-- A stamp for people. -/
def date (s : Stamp) : String := s.dayText ++ " " ++ s.timeText ++ " UTC"

/-- A stamp for programs. -/
def instant (s : Stamp) : String := s.dayText ++ "T" ++ s.timeText ++ s.fractionText ++ "Z"

end Stamp

end WorkflowLint.Report
