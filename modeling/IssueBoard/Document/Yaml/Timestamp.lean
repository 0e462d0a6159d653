import IssueBoard.Calendar.Instant
import IssueBoard.Data.Basic
import IssueBoard.Document.Yaml.Basic
import IssueBoard.Text.Digit

/-!
# Time stamps

A scalar may spell a date, or a date and a time of day with a fraction of a second and a time zone.
-/

namespace IssueBoard.Yaml

/-- The time of day of a time stamp. The zone is its distance from the standard one, in minutes. -/
structure TimeOfDay where
  hour : Nat
  minute : Nat
  second : Nat
  microsecond : Nat
  zone : Option Int
  deriving DecidableEq

/-- A time stamp as it is spelled. -/
structure Timestamp where
  year : Nat
  month : Nat
  day : Nat
  time : Option TimeOfDay
  /-- Whether month and day have two digits each. -/
  isPadded : Bool
  deriving DecidableEq

/-- The characters of a scalar without a line feed at its end. -/
def withoutLastFeed (cs : List Char) : List Char :=
  if cs.getLast? == some '\n' then cs.dropLast else cs

namespace Timestamp

/-- Takes digits off, of which there are at least `least` and at most `most`. -/
def number? (least most : Nat) (cs : List Char) : Option (List Char × List Char) :=
  let digits := (cs.take most).takeWhile Char.isDigit
  if digits.length < least then none else some (digits, cs.drop digits.length)

/-- Takes a character off. -/
def mark? (c : Char) : List Char → Option (List Char)
  | [] => none
  | first :: rest => if first == c then some rest else none

/-- Reads a time zone at the end, perhaps behind spaces and tabs; there may be none. -/
def zone? (cs : List Char) : Option (Option Int) :=
  match cs with
  | [] => some none
  | _ =>
    match cs.dropWhile fun c => c == ' ' || c == '\t' with
    | ['Z'] => some (some 0)
    | sign :: rest =>
      if sign == '+' || sign == '-' then do
        let (hours, rest) ← number? 1 2 rest
        let minutes ← match rest with
          | [] => some []
          | _ => do
            let (minutes, rest) ← number? 2 2 (← mark? ':' rest)
            if rest.isEmpty then some minutes else none
        let distance : Int := Text.digitsValue hours * 60 + Text.digitsValue minutes
        return some (if sign == '-' then -distance else distance)
      else none
    | [] => none

/-- Reads a time of day and what follows it. -/
def time? (cs : List Char) : Option TimeOfDay := do
  let (hour, rest) ← number? 1 2 cs
  let (minute, rest) ← number? 2 2 (← mark? ':' rest)
  let (second, rest) ← number? 2 2 (← mark? ':' rest)
  let (fraction, rest) := match mark? '.' rest with
    | some rest => (rest.takeWhile Char.isDigit, rest.dropWhile Char.isDigit)
    | none => ([], rest)
  let zone ← zone? rest
  return {
    hour := Text.digitsValue hour
    minute := Text.digitsValue minute
    second := Text.digitsValue second
    microsecond := Text.digitsValue ((fraction ++ List.replicate 6 '0').take 6)
    zone }

/-- Reads a time stamp that is a whole scalar, perhaps with a line feed at its end. -/
def parse? (scalar : List Char) : Option Timestamp := do
  let (year, rest) ← number? 4 4 (withoutLastFeed scalar)
  let (month, rest) ← number? 1 2 (← mark? '-' rest)
  let (day, rest) ← number? 1 2 (← mark? '-' rest)
  let time ← match rest with
    | [] => some none
    | c :: after =>
      if c == 'T' || c == 't' then some <$> time? after
      else if c == ' ' || c == '\t' then
        some <$> time? (after.dropWhile fun c => c == ' ' || c == '\t')
      else none
  return {
    year := Text.digitsValue year
    month := Text.digitsValue month
    day := Text.digitsValue day
    time
    isPadded := month.length == 2 && day.length == 2 }

/-- A number with zeros before it, up to a width. -/
def padded (width n : Nat) : String :=
  let digits := Nat.repr n
  String.ofList (List.replicate (width - digits.length) '0') ++ digits

/-- How the distance of a time zone from the standard one is written behind a time of day. -/
def zoneSuffix (minutes : Int) : String :=
  (if minutes < 0 then "-" else "+") ++ padded 2 (minutes.natAbs / 60) ++ ":"
    ++ padded 2 (minutes.natAbs % 60)

/-- The literal form of a time zone. -/
def zoneLiteral (minutes : Int) : String :=
  if minutes == 0 then "datetime.timezone.utc"
  else
    let distance := if minutes < 0
      then "days=-1, seconds=" ++ Int.repr (86400 + minutes * 60)
      else "seconds=" ++ Int.repr (minutes * 60)
    "datetime.timezone(datetime.timedelta(" ++ distance ++ "))"

/-- The text of a date, with four digits for the year. -/
def dateText (date : Calendar.Date) : String :=
  padded 4 date.year ++ "-" ++ padded 2 date.month ++ "-" ++ padded 2 date.day

/-- The text of a time of day; a fraction of a second is written if there is one. -/
def timeText (time : TimeOfDay) : String :=
  padded 2 time.hour ++ ":" ++ padded 2 time.minute ++ ":" ++ padded 2 time.second
    ++ (if time.microsecond = 0 then "" else "." ++ padded 6 time.microsecond)
    ++ time.zone.elim "" zoneSuffix

/-- The parts of a time of day in its literal form. -/
def timeParts (time : TimeOfDay) : List String :=
  let numbers :=
    if time.microsecond != 0 then [time.hour, time.minute, time.second, time.microsecond]
    else if time.second != 0 then [time.hour, time.minute, time.second]
    else [time.hour, time.minute]
  numbers.map Nat.repr ++ time.zone.toList.map fun minutes => "tzinfo=" ++ zoneLiteral minutes

/-- The value of a time stamp: a date, or a moment. Both are foreign to configurations. -/
def value (stamp : Timestamp) : Except Fault Atom := do
  let date ← (Calendar.Date.make stamp.year stamp.month stamp.day).mapError .date
  let dateParts := [date.year, date.month, date.day].map Nat.repr
  match stamp.time with
  | none =>
    return .foreign "date" (dateText date)
      ("datetime.date(" ++ ", ".intercalate dateParts ++ ")")
  | some time =>
    let _ ← (Calendar.Instant.make date time.hour time.minute time.second).mapError Fault.date
    if time.zone.any fun minutes => 1440 ≤ minutes.natAbs then throw .zoneOffset
    return .foreign "datetime" (dateText date ++ " " ++ timeText time)
      ("datetime.datetime(" ++ ", ".intercalate (dateParts ++ timeParts time) ++ ")")

end Timestamp

end IssueBoard.Yaml
