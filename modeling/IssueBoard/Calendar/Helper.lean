import IssueBoard.Calendar.Expression

/-!
# Date helpers

The functions that templates and scripts call with a date expression: one for the date, one for the
time of day and one for both.
-/

namespace IssueBoard.Calendar

/-- The part of an instant that a helper shows. -/
inductive Helper where
  | date
  | time
  | datetime
  deriving DecidableEq

namespace Helper

/-- The name of a helper in scopes. -/
def name : Helper → String
  | .date => "date"
  | .time => "time"
  | .datetime => "datetime"

/-- All helpers, in the order in which scopes list them. -/
def all : List Helper := [.date, .time, .datetime]

/-- The part of an instant. -/
def ofInstant : Helper → Instant → String
  | .date => Instant.dateText
  | .time => Instant.timeText
  | .datetime => Instant.dateTimeText

/-- The part of the instant that a date expression denotes. -/
def textOf (helper : Helper) (now : Instant) (source : String) : Except Failure String :=
  (evaluate now source).map helper.ofInstant

end Helper

end IssueBoard.Calendar
