import IssueBoard.Calendar.Shift
import IssueBoard.Number.Basic
import IssueBoard.Number.Numeral
import IssueBoard.Text.Blank
import IssueBoard.Text.Digit

/-!
# Date expressions

A date expression is a base and any number of adjustments with a sign, for instance
`2020-04-08 - 1 day + 02:30:00`. The base is the start of the current month, a date with or without
a time, a time of the current day, or nothing, which stands for the current instant; then the first
adjustment may go without a sign. Blanks between the parts mean nothing.

A text is first read as far as it follows the grammar, then evaluated from left to right; where
reading stopped is reported only after everything before it has been evaluated.
-/

namespace IssueBoard.Calendar

/-- Where a date expression starts from. -/
inductive Base where
  | startOfMonth
  | moment (year month day hour minute second : Nat)
  | day (year month day : Nat)
  | timeOfDay (hour minute second : Nat)
  | now
  deriving DecidableEq

/-- How far an adjustment moves: a number of units, of which the digits are kept, or hours, minutes
and seconds. -/
inductive Amount where
  | quantity (digits : List Char) (unit : TimeUnit)
  | clock (hours minutes seconds : Nat)
  deriving DecidableEq

/-- An amount to be added or taken away. -/
structure Adjustment where
  negative : Bool
  amount : Amount
  deriving DecidableEq

/-- What a text holds of a date expression, and the error where reading stopped, if it did. -/
structure Reading where
  base : Base
  adjustments : List Adjustment
  trouble : Option GrammarError
  deriving DecidableEq

/-- Reads exactly `count` digits. -/
def fixedDigits? : (count : Nat) → List Char → Option (List Char × List Char)
  | 0, cs => some ([], cs)
  | _ + 1, [] => none
  | count + 1, c :: cs =>
    if Text.isDigit c then (fixedDigits? count cs).map fun (digits, rest) => (c :: digits, rest)
    else none

/-- Reads a number of exactly `count` digits. -/
def fixedNumber? (count : Nat) (cs : List Char) : Option (Nat × List Char) :=
  (fixedDigits? count cs).map fun (digits, rest) => (Text.digitsValue digits, rest)

/-- Reads a given word. -/
def word? (word cs : List Char) : Option (List Char) :=
  if word.isPrefixOf cs then some (cs.drop word.length) else none

/-- Reads hours, minutes and seconds of two digits each. -/
def clock? (cs : List Char) : Option ((Nat × Nat × Nat) × List Char) := do
  let (hours, cs) ← fixedNumber? 2 cs
  let cs ← word? [':'] cs
  let (minutes, cs) ← fixedNumber? 2 cs
  let cs ← word? [':'] cs
  let (seconds, cs) ← fixedNumber? 2 cs
  return ((hours, minutes, seconds), cs)

/-- Reads a year of four digits and a month and a day of two. -/
def calendarDay? (cs : List Char) : Option ((Nat × Nat × Nat) × List Char) := do
  let (year, cs) ← fixedNumber? 4 cs
  let cs ← word? ['-'] cs
  let (month, cs) ← fixedNumber? 2 cs
  let cs ← word? ['-'] cs
  let (day, cs) ← fixedNumber? 2 cs
  return ((year, month, day), cs)

/-- Reads a date and a time of day. -/
def moment? (cs : List Char) : Option (Base × List Char) := do
  let ((year, month, day), cs) ← calendarDay? cs
  let cs ← word? ['T'] cs
  let ((hour, minute, second), cs) ← clock? cs
  let cs ← word? ['Z'] cs
  return (.moment year month day hour minute second, cs)

/-- The base that a text starts with, and what follows it. -/
def readBase (cs : List Char) : Base × List Char :=
  match word? "startOfMonth".toList cs with
  | some rest => (.startOfMonth, rest)
  | none =>
    match moment? cs with
    | some found => found
    | none =>
      match calendarDay? cs with
      | some ((year, month, day), rest) => (.day year month day, rest)
      | none =>
        match clock? cs with
        | some ((hour, minute, second), rest) => (.timeOfDay hour minute second, rest)
        | none => (.now, cs)

/-- The words for the units of time. -/
def unitWords : List (List Char × TimeUnit) :=
  [("year".toList, .year), ("month".toList, .month), ("day".toList, .day), ("hour".toList, .hour),
   ("minute".toList, .minute), ("second".toList, .second)]

/-- Reads a unit of time, with or without the ending of a plural. -/
def unit? (cs : List Char) : Option (TimeUnit × List Char) :=
  (unitWords.findSome? fun (word, unit) => (word? word cs).map fun rest => (unit, rest)).map
    fun (unit, rest) => (unit, (word? ['s'] rest).getD rest)

/-- Reads digits and a unit of time. -/
def quantity? (cs : List Char) : Option (Amount × List Char) := do
  let digits := cs.takeWhile Text.isDigit
  if digits.isEmpty then none
  else
    let (unit, rest) ← unit? (Text.dropBlank (cs.dropWhile Text.isDigit))
    return (.quantity digits unit, rest)

/-- Reads an amount. -/
def amount? (cs : List Char) : Option (Amount × List Char) :=
  match quantity? cs with
  | some found => some found
  | none => (clock? cs).map fun ((hours, minutes, seconds), rest) =>
    (.clock hours minutes seconds, rest)

/-- Reads a sign; a plus may be left out where that is allowed. -/
def sign? (optional : Bool) : List Char → Option (Bool × List Char)
  | '+' :: rest => some (false, Text.dropBlank rest)
  | '-' :: rest => some (true, Text.dropBlank rest)
  | cs => if optional then some (false, cs) else none

theorem length_dropWhile_le (p : Char → Bool) (cs : List Char) :
    (cs.dropWhile p).length ≤ cs.length :=
  (List.dropWhile_suffix p).length_le

theorem length_fixedDigits {count : Nat} {cs digits rest : List Char}
    (h : fixedDigits? count cs = some (digits, rest)) : rest.length + count = cs.length := by
  induction count generalizing cs digits with
  | zero => simp only [fixedDigits?, Option.some.injEq, Prod.mk.injEq] at h; simp [← h.2]
  | succ count ih =>
    cases cs with
    | nil => simp [fixedDigits?] at h
    | cons c cs =>
      simp only [fixedDigits?] at h
      split at h
      · obtain ⟨⟨inner, after⟩, found, same⟩ := Option.map_eq_some_iff.1 h
        simp only [Prod.mk.injEq] at same
        have := ih (same.2 ▸ found)
        simp only [List.length_cons]
        omega
      · simp at h

theorem length_word {word cs rest : List Char} (h : word? word cs = some rest) :
    rest.length ≤ cs.length := by
  simp only [word?] at h
  split at h
  · simp only [Option.some.injEq] at h
    simp [← h]
  · simp at h

theorem length_fixedNumber {count n : Nat} {cs rest : List Char}
    (h : fixedNumber? count cs = some (n, rest)) : rest.length + count = cs.length := by
  obtain ⟨⟨digits, after⟩, found, same⟩ := Option.map_eq_some_iff.1 h
  simp only [Prod.mk.injEq] at same
  exact length_fixedDigits (same.2 ▸ found)

theorem length_clock {cs rest : List Char} {time : Nat × Nat × Nat}
    (h : clock? cs = some (time, rest)) : rest.length < cs.length := by
  simp only [clock?, Option.bind_eq_bind, Option.bind_eq_some_iff] at h
  obtain ⟨⟨hours, a⟩, ha, b, hb, ⟨minutes, c⟩, hc, d, hd, ⟨seconds, e⟩, he, done⟩ := h
  simp only [Option.pure_def, Option.some.injEq, Prod.mk.injEq] at done
  have := length_fixedNumber ha
  have := length_word hb
  have := length_fixedNumber hc
  have := length_word hd
  have := length_fixedNumber he
  rw [← done.2]
  dsimp only at *
  omega

theorem length_unit {cs rest : List Char} {unit : TimeUnit}
    (h : unit? cs = some (unit, rest)) : rest.length ≤ cs.length := by
  obtain ⟨⟨found, after⟩, some, same⟩ := Option.map_eq_some_iff.1 h
  obtain ⟨⟨word, name⟩, -, one⟩ := List.exists_of_findSome?_eq_some some
  obtain ⟨tail, read, eq⟩ := Option.map_eq_some_iff.1 one
  simp only [Prod.mk.injEq] at eq same
  have short := length_word read
  rw [← same.2, ← eq.2]
  cases plural : word? ['s'] tail with
  | none => simpa using short
  | some shorter => exact Nat.le_trans (length_word plural) short

theorem length_amount {cs rest : List Char} {amount : Amount}
    (h : amount? cs = some (amount, rest)) : rest.length < cs.length := by
  simp only [amount?] at h
  split at h
  · next found quantity =>
    simp only [Option.some.injEq] at h
    subst h
    simp only [quantity?] at quantity
    split at quantity
    · simp at quantity
    · next nonempty =>
      simp only [Option.bind_eq_bind, Option.bind_eq_some_iff, Option.pure_def, Option.some.injEq,
        Prod.mk.injEq] at quantity
      obtain ⟨⟨unit, after⟩, read, -, same⟩ := quantity
      have short := length_unit read
      have blank := length_dropWhile_le Text.isBlank (cs.dropWhile Text.isDigit)
      have split := congrArg List.length
        (List.takeWhile_append_dropWhile (p := Text.isDigit) (l := cs))
      have some : 0 < (cs.takeWhile Text.isDigit).length := by
        cases digits : cs.takeWhile Text.isDigit with
        | nil => simp [digits] at nonempty
        | cons => simp
      simp only [List.length_append] at split
      simp only [Text.dropBlank] at short
      rw [← same]
      dsimp only at *
      omega
  · obtain ⟨⟨time, after⟩, read, same⟩ := Option.map_eq_some_iff.1 h
    simp only [Prod.mk.injEq] at same
    exact same.2 ▸ length_clock read

theorem length_sign {optional negative : Bool} {cs rest : List Char}
    (h : sign? optional cs = some (negative, rest)) : rest.length ≤ cs.length := by
  simp only [sign?] at h
  split at h
  · simp only [Option.some.injEq, Prod.mk.injEq] at h
    have := length_dropWhile_le Text.isBlank
    simp only [← h.2, Text.dropBlank, List.length_cons]
    exact Nat.le_succ_of_le (this _)
  · simp only [Option.some.injEq, Prod.mk.injEq] at h
    have := length_dropWhile_le Text.isBlank
    simp only [← h.2, Text.dropBlank, List.length_cons]
    exact Nat.le_succ_of_le (this _)
  · split at h
    · simp only [Option.some.injEq, Prod.mk.injEq] at h
      simp [← h.2]
    · simp at h

/-- Reads adjustments to the end of the text. The second part is what could not be read, with what
was missing there. -/
def readAdjustments (optionalSign : Bool) (cs : List Char) :
    List Adjustment × Option (GrammarCause × List Char) :=
  match blank : Text.dropBlank cs with
  | [] => ([], none)
  | c :: rest =>
    match signed : sign? optionalSign (c :: rest) with
    | none => ([], some (.operatorExpected, c :: rest))
    | some (negative, afterSign) =>
      match read : amount? afterSign with
      | none => ([], some (.adjustmentExpected, afterSign))
      | some (amount, afterAmount) =>
        have : afterAmount.length < cs.length := by
          have := length_dropWhile_le Text.isBlank cs
          have := length_sign signed
          have := length_amount read
          simp only [Text.dropBlank] at blank
          rw [← blank] at *
          omega
        let (adjustments, trouble) := readAdjustments false afterAmount
        (⟨negative, amount⟩ :: adjustments, trouble)
termination_by cs.length

/-- Reads a text as a date expression. -/
def read (source : String) : Reading :=
  let cs := source.toList
  let (base, rest) := readBase (Text.dropBlank cs)
  let (adjustments, trouble) := readAdjustments (base == .now) rest
  { base, adjustments
    trouble := trouble.map fun (cause, remainder) =>
      { cause, position := some (cs.length - remainder.length), source } }

/-- The instant that a base denotes at a given current instant. -/
def Base.instant (now : Instant) : Base → Except DateFault Instant
  | .startOfMonth => do
    return Instant.midnight (← Date.make now.date.year now.date.month 1)
  | .moment y m d hour minute second => do
    Instant.make (← Date.make y m d) hour minute second
  | .day y m d => do return Instant.midnight (← Date.make y m d)
  | .timeOfDay hour minute second => Instant.make now.date hour minute second
  | .now => .ok now

/-- The number with the sign of an adjustment. -/
def Adjustment.signed (a : Adjustment) (n : Nat) : Int := if a.negative then -(n : Int) else n

/-- The shift that an adjustment stands for. -/
def Adjustment.shift (a : Adjustment) : Except Fault Shift :=
  match a.amount with
  | .quantity digits unit =>
    if integerDigitLimit < digits.length then .error (.numeralTooLong digits.length)
    else
      let count := a.signed (Text.digitsValue digits)
      if unit.isCarried && (Number.integer count).toBinary64?.isNone then .error .integerToReal
      else .ok (unit.shift count)
  | .clock hours minutes seconds =>
    .ok (.span (a.signed (3600 * hours + 60 * minutes + seconds)))

/-- Applies adjustments from left to right. -/
def adjust (t : Instant) : List Adjustment → Except Fault Instant
  | [] => .ok t
  | a :: rest => do adjust (← t.add (← a.shift)) rest

/-- The instant that a text denotes as a date expression at a given current instant. -/
def evaluate (now : Instant) (source : String) : Except Failure Instant := do
  let reading := read source
  let start ← (reading.base.instant now).mapError fun cause => .fault (.date cause)
  let reached ← (adjust start reading.adjustments).mapError .fault
  match reading.trouble with
  | some error => throw (.grammar error)
  | none => return reached

end IssueBoard.Calendar
