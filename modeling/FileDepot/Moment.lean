/-!
# Moments

A moment counts microseconds from the start of 1970. It is made from calendar fields, which are
checked one by one, and written in the order year, month, day, hour, minute, second, with six places
after the point unless they are all zero.
-/

namespace FileDepot

/-- A point in time, in microseconds from the start of 1970. -/
structure Moment where
  /-- the microseconds -/
  micros : Int
  deriving DecidableEq, Repr

namespace Moment

instance : Inhabited Moment := ⟨⟨0⟩⟩

/-- Why calendar fields name no moment. -/
inductive Fault where
  /-- the month is not between 1 and 12 -/
  | month
  /-- the month has no such day -/
  | day
  /-- the hour is above 23 -/
  | hour
  /-- the minute is above 59 -/
  | minute
  /-- the second is above 59 -/
  | second
  deriving DecidableEq, Repr

/-- The wording of a fault. -/
def Fault.message : Fault → String
  | .month => "month must be in 1..12"
  | .day => "day is out of range for month"
  | .hour => "hour must be in 0..23"
  | .minute => "minute must be in 0..59"
  | .second => "second must be in 0..59"

/-- Whether a year has a 29th of February. -/
def isLeap (year : Nat) : Bool :=
  year % 4 = 0 && (year % 100 ≠ 0 || year % 400 = 0)

/-- The number of days in a month. -/
def daysInMonth (year month : Nat) : Nat :=
  if month = 2 then (if isLeap year then 29 else 28)
  else if month = 4 || month = 6 || month = 9 || month = 11 then 30 else 31

/-- The days from the start of 1970 to a date. Years are counted from March, so that the day of leap
years comes last. -/
def daysFromDate (year month day : Nat) : Int :=
  let y : Int := if month ≤ 2 then year - 1 else year
  let era : Int := y / 400
  let inEra : Int := y % 400
  let shifted : Int := (month + 9) % 12
  let inYear : Int := (153 * shifted + 2) / 5 + day - 1
  era * 146097 + inEra * 365 + inEra / 4 - inEra / 100 + inYear - 719468

/-- The date that lies `days` after the start of 1970. -/
def dateFromDays (days : Int) : Int × Nat × Nat :=
  let z := days + 719468
  let era := z / 146097
  let inEra := z % 146097
  let years := (inEra - inEra / 1460 + inEra / 36524 - inEra / 146096) / 365
  let inYear := inEra - (365 * years + years / 4 - years / 100)
  let shifted := (5 * inYear + 2) / 153
  let day := inYear - (153 * shifted + 2) / 5 + 1
  let month := if shifted < 10 then shifted + 3 else shifted - 9
  ((if month ≤ 2 then 1 else 0) + years + era * 400, month.toNat, day.toNat)

/-- The moment with the given calendar fields. -/
def ofFields (year month day hour minute second micro : Nat) : Except Fault Moment :=
  if month < 1 || 12 < month then .error .month
  else if day < 1 || daysInMonth year month < day then .error .day
  else if 23 < hour then .error .hour
  else if 59 < minute then .error .minute
  else if 59 < second then .error .second
  else
    let seconds := daysFromDate year month day * 86400 + hour * 3600 + minute * 60 + second
    .ok ⟨seconds * 1000000 + micro⟩

/-- The moment `n` microseconds later. -/
def later (m : Moment) (n : Int) : Moment := ⟨m.micros + n⟩

/-- A number with at least `width` digits. -/
def padded (width n : Nat) : String :=
  let digits := toString n
  String.ofList (List.replicate (width - digits.length) '0') ++ digits

/-- The text of a moment. -/
def text (m : Moment) : String :=
  let seconds := m.micros / 1000000
  let micro := (m.micros % 1000000).toNat
  let (year, month, day) := dateFromDays (seconds / 86400)
  let inDay := (seconds % 86400).toNat
  padded 4 year.toNat ++ "-" ++ padded 2 month ++ "-" ++ padded 2 day ++ "T" ++
    padded 2 (inDay / 3600) ++ ":" ++ padded 2 (inDay / 60 % 60) ++ ":" ++ padded 2 (inDay % 60) ++
    (if micro = 0 then "" else "." ++ padded 6 micro)

/-- The number that ASCII digits spell, if there are exactly `size` of them. -/
def fixedNumber? (size : Nat) (s : List Char) : Option Nat :=
  if s.length = size && s.all Char.isDigit then
    some (s.foldl (fun n c => 10 * n + (c.toNat - 48)) 0)
  else none

/-- Read the text of a moment. -/
def ofText? (s : String) : Option Moment := do
  let s := s.toList
  let year ← fixedNumber? 4 (s.take 4)
  let month ← fixedNumber? 2 ((s.drop 5).take 2)
  let day ← fixedNumber? 2 ((s.drop 8).take 2)
  let field (start : Nat) : Option Nat :=
    if s.length ≤ start then some 0 else fixedNumber? 2 ((s.drop start).take 2)
  let hour ← field 11
  let minute ← field 14
  let second ← field 17
  let places := (s.drop 20).take 6
  let micro ← fixedNumber? 6 (places ++ List.replicate (6 - places.length) '0')
  (ofFields year month day hour minute second micro).toOption

end Moment

end FileDepot
