import IssueBoard.Failure

/-!
# Dates and instants

Dates of the years 1 to 9999 in the calendar of leap years every fourth year, but of the centuries
only every fourth. An instant is a date and a time of day in microseconds. Days and microseconds
are numbered from the first instant of the year 1, so that spans of time are added as integers.
-/

namespace IssueBoard.Calendar

/-- Whether a year has a 29th of February. -/
def isLeap (year : Nat) : Bool := year % 4 == 0 && (year % 100 != 0 || year % 400 == 0)

/-- The number of days of a month. -/
def daysInMonth (year month : Nat) : Nat :=
  match month with
  | 2 => if isLeap year then 29 else 28
  | 4 | 6 | 9 | 11 => 30
  | _ => 31

/-- The number of days of a year. -/
def daysInYear (year : Nat) : Nat := if isLeap year then 366 else 365

/-- Whether a year, a month and a day make a date of the calendar. -/
abbrev IsDate (year month day : Nat) : Prop :=
  1 ≤ year ∧ year ≤ 9999 ∧ 1 ≤ month ∧ month ≤ 12 ∧ 1 ≤ day ∧ day ≤ daysInMonth year month

/-- A date of the calendar. -/
structure Date where
  year : Nat
  month : Nat
  day : Nat
  valid : IsDate year month day
  deriving DecidableEq

/-- The number of microseconds of a day. -/
def dayLength : Nat := 86400000000

/-- A date and the microseconds since its midnight. -/
structure Instant where
  date : Date
  micros : Nat
  inDay : micros < dayLength
  deriving DecidableEq

namespace Date

/-- The date with the given fields, or the first field that is out of range. -/
def make (year month day : Nat) : Except DateFault Date :=
  if year < 1 ∨ 9999 < year then .error (.year year)
  else if month < 1 ∨ 12 < month then .error .month
  else if h : IsDate year month day then .ok ⟨year, month, day, h⟩
  else .error .day

/-- The number of days before the first of January of a year. -/
def daysBeforeYear (year : Nat) : Nat :=
  let past := year - 1
  365 * past + past / 4 - past / 100 + past / 400

/-- The number of days of a year before the first of a month. -/
def daysBeforeMonth (year : Nat) : (month : Nat) → Nat
  | 0 => 0
  | 1 => 0
  | month + 1 => daysBeforeMonth year month + daysInMonth year month

/-- The number of days between the first date of the calendar and this one. -/
def ordinal (date : Date) : Nat :=
  daysBeforeYear date.year + daysBeforeMonth date.year date.month + (date.day - 1)

/-- The month that holds the day with this number, counted from the first of `month`, and the day's
number in it. -/
def monthOf (year : Nat) : (fuel month rest : Nat) → Nat × Nat
  | 0, month, rest => (month, rest)
  | fuel + 1, month, rest =>
    if rest < daysInMonth year month then (month, rest)
    else monthOf year fuel (month + 1) (rest - daysInMonth year month)

/-- The year that holds the day with this number, counted from the start of `year`, and the day's
number in it. -/
def yearOf : (fuel year rest : Nat) → Nat × Nat
  | 0, year, rest => (year, rest)
  | fuel + 1, year, rest =>
    if rest < daysInYear year then (year, rest)
    else yearOf fuel (year + 1) (rest - daysInYear year)

/-- The date that lies this number of days after the first one, if the calendar reaches so far. -/
def ofOrdinal? (days : Nat) : Option Date :=
  let earliest := days / 366 + 1
  let (year, rest) := yearOf 10000 earliest (days - daysBeforeYear earliest)
  let (month, rest) := monthOf year 12 1 rest
  if h : IsDate year month (rest + 1) then some ⟨year, month, rest + 1, h⟩ else none

end Date

namespace Instant

/-- The instant on a date with the given time of day, or the first field that is out of range. -/
def make (date : Date) (hour minute second : Nat) : Except DateFault Instant :=
  if 23 < hour then .error .hour
  else if 59 < minute then .error .minute
  else if 59 < second then .error .second
  else
    let micros := ((hour * 60 + minute) * 60 + second) * 1000000
    if h : micros < dayLength then .ok ⟨date, micros, h⟩ else .error .hour

/-- The first instant of a date. -/
def midnight (date : Date) : Instant := ⟨date, 0, by decide⟩

/-- The microseconds since the first instant of the calendar. -/
def total (t : Instant) : Nat := t.date.ordinal * dayLength + t.micros

/-- The instant that lies this number of microseconds after the first one, if the calendar reaches
so far. -/
def ofTotal? (micros : Int) : Option Instant :=
  if micros < 0 then none
  else (Date.ofOrdinal? (micros.toNat / dayLength)).map fun date =>
    ⟨date, micros.toNat % dayLength, Nat.mod_lt _ (by decide)⟩

/-- The hour of the day. -/
def hour (t : Instant) : Nat := t.micros / 3600000000

/-- The minute of the hour. -/
def minute (t : Instant) : Nat := t.micros / 60000000 % 60

/-- The second of the minute. -/
def second (t : Instant) : Nat := t.micros / 1000000 % 60

/-- The microsecond of the second. -/
def microsecond (t : Instant) : Nat := t.micros % 1000000

/-- A number below one hundred in two digits. -/
private def twoDigits (n : Nat) : String :=
  (if n < 10 then "0" else "") ++ Nat.repr n

/-- The date of an instant; the year is written without leading zeros. -/
def dateText (t : Instant) : String :=
  Nat.repr t.date.year ++ "-" ++ twoDigits t.date.month ++ "-" ++ twoDigits t.date.day

/-- The time of day of an instant, to the second. -/
def timeText (t : Instant) : String :=
  twoDigits t.hour ++ ":" ++ twoDigits t.minute ++ ":" ++ twoDigits t.second

/-- The date and the time of day of an instant, to the second. -/
def dateTimeText (t : Instant) : String := t.dateText ++ "T" ++ t.timeText ++ "Z"

end Instant

end IssueBoard.Calendar
