/-!
# Dates and times of day

Dates of the proleptic Gregorian calendar, times of day down to the nanosecond, and moments
made of both. A second of 59 may hold up to two milliards of nanoseconds: the second milliard
is a leap second, shown as second 60.

Years from 0 to 9999 are written with four digits; others carry their sign. The fraction of a
second is left out when it is zero and else takes the fewest of three, six or nine digits that
show it in full.
-/

namespace SqlBridge

/-- The given number of digits at least, padded with zeros in front. -/
def paddedChars (width n : Nat) : List Char :=
  let cs := Nat.toDigits 10 n
  List.replicate (width - cs.length) '0' ++ cs

/-- Every fourth year is a leap year, the full centuries only when divisible by 400. -/
def isLeapYear (year : Int) : Bool :=
  year % 4 == 0 && (year % 100 != 0 || year % 400 == 0)

/-- The number of days of a month, for months 1 to 12. -/
def daysInMonth (year : Int) (month : Nat) : Nat :=
  if month = 2 then if isLeapYear year then 29 else 28
  else if month = 4 ∨ month = 6 ∨ month = 9 ∨ month = 11 then 30
  else 31

/-- A day of the calendar. -/
structure Date where
  year : Int
  month : Nat
  day : Nat
  valid : -262143 ≤ year ∧ year ≤ 262142 ∧ 1 ≤ month ∧ month ≤ 12 ∧
    1 ≤ day ∧ day ≤ daysInMonth year month
  deriving DecidableEq

namespace Date

/-- The day with these parts, if there is one. -/
def ofParts? (year : Int) (month day : Nat) : Option Date :=
  if h : -262143 ≤ year ∧ year ≤ 262142 ∧ 1 ≤ month ∧ month ≤ 12 ∧
      1 ≤ day ∧ day ≤ daysInMonth year month then
    some ⟨year, month, day, h⟩
  else none

/-- The year's digits, four at least, with a sign outside of 0 to 9999. -/
def yearChars (year : Int) : List Char :=
  if 0 ≤ year ∧ year ≤ 9999 then paddedChars 4 year.toNat
  else (if year < 0 then '-' else '+') :: paddedChars 4 year.natAbs

/-- Year, month and day with hyphens between them. -/
def chars (d : Date) : List Char :=
  yearChars d.year ++ '-' :: (paddedChars 2 d.month ++ '-' :: paddedChars 2 d.day)

/-- The text of a date. -/
def text (d : Date) : String := String.ofList d.chars

/-- The day that lies so many days behind the first of January 1970. The count runs in eras of
400 years that begin with a March, so that a leap day ends its year. -/
def ofEpochDay? (days : Int) : Option Date :=
  let shifted := days + 719468
  let era := shifted / 146097
  let dayOfEra := (shifted % 146097).toNat
  let yearOfEra := (dayOfEra - dayOfEra / 1460 + dayOfEra / 36524 - dayOfEra / 146096) / 365
  let dayOfYear := dayOfEra - (365 * yearOfEra + yearOfEra / 4 - yearOfEra / 100)
  let monthFromMarch := (5 * dayOfYear + 2) / 153
  let day := dayOfYear - (153 * monthFromMarch + 2) / 5 + 1
  let month := if monthFromMarch < 10 then monthFromMarch + 3 else monthFromMarch - 9
  let year := yearOfEra + era * 400 + (if month ≤ 2 then 1 else 0)
  ofParts? year month day

end Date

/-- A time of day. -/
structure ClockTime where
  hour : Nat
  minute : Nat
  second : Nat
  nanos : Nat
  valid : hour < 24 ∧ minute < 60 ∧ second < 60 ∧ nanos < 2000000000 ∧
    (1000000000 ≤ nanos → second = 59)
  deriving DecidableEq

namespace ClockTime

/-- The time with these parts, if there is one. -/
def ofParts? (hour minute second nanos : Nat) : Option ClockTime :=
  if h : hour < 24 ∧ minute < 60 ∧ second < 60 ∧ nanos < 2000000000 ∧
      (1000000000 ≤ nanos → second = 59) then
    some ⟨hour, minute, second, nanos, h⟩
  else none

/-- The point and three, six or nine digits of a fraction, or nothing for zero. -/
def fractionChars (nanos : Nat) : List Char :=
  if nanos = 0 then []
  else if nanos % 1000000 = 0 then '.' :: paddedChars 3 (nanos / 1000000)
  else if nanos % 1000 = 0 then '.' :: paddedChars 6 (nanos / 1000)
  else '.' :: paddedChars 9 nanos

/-- Hour, minute and second with colons between them, and the fraction. -/
def chars (t : ClockTime) : List Char :=
  paddedChars 2 t.hour ++ ':' :: (paddedChars 2 t.minute ++ ':' ::
    (paddedChars 2 (t.second + t.nanos / 1000000000) ++
      fractionChars (t.nanos % 1000000000)))

/-- The text of a time. -/
def text (t : ClockTime) : String := String.ofList t.chars

end ClockTime

/-- A moment: a day and a time of that day. -/
structure DateTime where
  date : Date
  time : ClockTime
  deriving DecidableEq

namespace DateTime

/-- The text of the date, a space, and the text of the time. -/
def text (m : DateTime) : String := m.date.text ++ " " ++ m.time.text

/-- The moment that lies so many seconds and nanoseconds behind the start of 1970. -/
def ofUnix? (seconds : Int) (nanos : Nat) : Option DateTime :=
  let ofDay := (seconds % 86400).toNat
  match Date.ofEpochDay? (seconds / 86400),
      ClockTime.ofParts? (ofDay / 3600) (ofDay / 60 % 60) (ofDay % 60) nanos with
  | some date, some time => some ⟨date, time⟩
  | _, _ => none

end DateTime

example : (DateTime.ofUnix? 951868799 0).map DateTime.text = some "2000-02-29 23:59:59" := by
  decide +kernel
example : (DateTime.ofUnix? (-62167219201) 500000).map DateTime.text =
    some "-0001-12-31 23:59:59.000500" := by decide +kernel

end SqlBridge
