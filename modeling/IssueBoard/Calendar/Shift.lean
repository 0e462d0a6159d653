import IssueBoard.Calendar.Instant

/-!
# Shifting instants

Instants move by months, which keep the time of day and cut the day to the length of the month that
is reached, or by spans of fixed length. A shift that leaves the years 1 to 9999 is a fault.
-/

namespace IssueBoard.Calendar

/-- A unit of time. -/
inductive TimeUnit where
  | year
  | month
  | day
  | hour
  | minute
  | second
  deriving DecidableEq

/-- A distance between instants. -/
inductive Shift where
  | months (count : Int)
  | span (seconds : Int)
  deriving DecidableEq

/-- The shift by a number of units. -/
def TimeUnit.shift (count : Int) : TimeUnit → Shift
  | .year => .months (12 * count)
  | .month => .months count
  | .day => .span (86400 * count)
  | .hour => .span (3600 * count)
  | .minute => .span (60 * count)
  | .second => .span count

/-- Whether a large count of a unit is carried over to larger units, which takes a count that fits a
floating-point number. -/
def TimeUnit.isCarried : TimeUnit → Bool
  | .year | .day => false
  | .month | .hour | .minute | .second => true

/-- Why a year that a shift reaches is no year of the calendar. -/
def yearFault (year : Int) : Fault :=
  if year < -(Nat.pow 2 63 : Nat) ∨ (Nat.pow 2 63 : Nat) ≤ year then .longOverflow
  else if year < -(Nat.pow 2 31 : Nat) then .yearOverflow false
  else if (Nat.pow 2 31 : Nat) ≤ year then .yearOverflow true
  else .date (.year year)

/-- Moves a date by months; a day past the end of the month reached becomes its last day. -/
def Date.addMonths (date : Date) (count : Int) : Except Fault Date :=
  let index : Int := 12 * (date.year : Int) + ((date.month : Int) - 1) + count
  let year := index / 12
  if year < 1 ∨ 9999 < year then .error (yearFault year)
  else
    let month := (index % 12).toNat + 1
    let day := min date.day (daysInMonth year.toNat month)
    (Date.make year.toNat month day).mapError .date

/-- Moves an instant by a number of seconds. -/
def Instant.addSeconds (t : Instant) (seconds : Int) : Except Fault Instant :=
  let days := seconds / 86400
  if days < -(Nat.pow 2 31 : Nat) ∨ (Nat.pow 2 31 : Nat) ≤ days then .error .wordOverflow
  else if days < -999999999 ∨ 999999999 < days then .error (.shiftTooLong days)
  else match Instant.ofTotal? (t.total + 1000000 * seconds) with
    | some moved => .ok moved
    | none => .error .calendarOverflow

/-- Moves an instant. -/
def Instant.add (t : Instant) : Shift → Except Fault Instant
  | .months count => do
    let date ← t.date.addMonths count
    return ⟨date, t.micros, t.inDay⟩
  | .span seconds => t.addSeconds seconds

end IssueBoard.Calendar
