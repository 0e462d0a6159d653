import IssueBoard.Calendar.Helper
import IssueBoard.Proofs.Calendar.DayCount
import IssueBoard.Proofs.Calendar.Denotation
import IssueBoard.Proofs.Text.Digits

/-! # Printed dates

A date is printed with a month and a day of two digits, but with a year of as many digits as it has. From
the year 1000 on a printed date is read back as the same date, and a printed date and time as the same
second. A year of fewer digits is printed as what is no date expression.
-/

namespace IssueBoard.Calendar

open Text (dropWhile_append takeWhile_append)

/-! ## Numbers of a fixed width -/

theorem length_toDigits_eq_iff {n k : Nat} (positive : 0 < k) :
    (Nat.toDigits 10 n).length = k + 1 ↔ 10 ^ k ≤ n ∧ n < 10 ^ (k + 1) := by
  have upper := Nat.length_toDigits_le_iff (n := n) (by decide : 1 < 10) (Nat.succ_pos k)
  have lower := Nat.length_toDigits_le_iff (n := n) (by decide : 1 < 10) positive
  omega

theorem numberText_toDigits (n : Nat) :
    NumberText (Nat.toDigits 10 n).length n (Nat.toDigits 10 n) where
  digits := Text.isDigit_of_mem_toDigits n
  length := rfl
  value := Text.digitsValue_toDigits n

/-- A year of four digits is printed as four digits. -/
theorem numberText_year {year : Nat} (first : 1000 ≤ year) (last : year ≤ 9999) :
    NumberText 4 year (Nat.repr year).toList := by
  have length : (Nat.toDigits 10 year).length = 4 :=
    (length_toDigits_eq_iff (k := 3) (by decide)).mpr ⟨first, by omega⟩
  rw [Nat.toList_repr, ← length]
  exact numberText_toDigits year

/-- A number below one hundred, with a zero in front if it needs one, is two digits. -/
theorem numberText_padded {n : Nat} (small : n < 100) :
    NumberText 2 n ((if n < 10 then "0" else "") ++ Nat.repr n).toList := by
  split
  · next single =>
    have digits : Nat.toDigits 10 n = [Nat.digitChar n] := Nat.toDigits_of_lt_base single
    rw [String.toList_append, Nat.toList_repr, digits]
    refine ⟨?_, rfl, ?_⟩
    · exact List.forall_mem_cons.mpr ⟨by decide, List.forall_mem_singleton.mpr (Text.isDigit_digitChar single)⟩
    · rw [← digits]
      exact (Text.digitsValue_zero_cons _).trans (Text.digitsValue_toDigits n)
  · next double =>
    have length : (Nat.toDigits 10 n).length = 2 :=
      (length_toDigits_eq_iff (k := 1) (by decide)).mpr ⟨by omega, by omega⟩
    rw [String.empty_append, Nat.toList_repr, ← length]
    exact numberText_toDigits n

/-! ## The parts of an instant -/

namespace Instant

variable (t : Instant)

theorem hour_le : t.hour ≤ 23 := by
  have inDay : t.micros < 86400000000 := t.inDay
  rw [hour]
  omega

theorem minute_le : t.minute ≤ 59 := by
  rw [minute]
  omega

theorem second_le : t.second ≤ 59 := by
  rw [second]
  omega

/-- The start of the second that an instant lies in. -/
def wholeSeconds : Instant :=
  ⟨t.date, t.micros / 1000000 * 1000000, lt_of_le_of_lt (Nat.div_mul_le_self _ _) t.inDay⟩

theorem wholeSeconds_isAt :
    t.wholeSeconds.IsAt t.date.year t.date.month t.date.day t.hour t.minute t.second := by
  refine ⟨rfl, rfl, rfl, t.hour_le, t.minute_le, t.second_le, ?_⟩
  have micros : t.wholeSeconds.micros = t.micros / 1000000 * 1000000 := rfl
  rw [micros, hour, minute, second]
  omega

theorem hour_wholeSeconds : t.wholeSeconds.hour = t.hour := by
  have micros : t.wholeSeconds.micros = t.micros / 1000000 * 1000000 := rfl
  rw [hour, hour, micros]
  omega

theorem minute_wholeSeconds : t.wholeSeconds.minute = t.minute := by
  have micros : t.wholeSeconds.micros = t.micros / 1000000 * 1000000 := rfl
  rw [minute, minute, micros]
  omega

theorem second_wholeSeconds : t.wholeSeconds.second = t.second := by
  have micros : t.wholeSeconds.micros = t.micros / 1000000 * 1000000 := rfl
  rw [second, second, micros]
  omega

end Instant

/-- No helper shows parts of a second. -/
theorem Helper.ofInstant_wholeSeconds (helper : Helper) (t : Instant) :
    helper.ofInstant t.wholeSeconds = helper.ofInstant t := by
  have date : t.wholeSeconds.dateText = t.dateText := rfl
  have time : t.wholeSeconds.timeText = t.timeText := by
    rw [Instant.timeText, Instant.timeText, t.hour_wholeSeconds, t.minute_wholeSeconds,
      t.second_wholeSeconds]
  cases helper with
  | date => exact date
  | time => exact time
  | datetime => rw [ofInstant, Instant.dateTimeText, Instant.dateTimeText, date, time]

/-! ## Four digits of a year -/

variable (t : Instant)

theorem dateText_toList : t.dateText.toList =
    (Nat.repr t.date.year).toList ++
      '-' :: (((if t.date.month < 10 then "0" else "") ++ Nat.repr t.date.month).toList ++
        '-' :: ((if t.date.day < 10 then "0" else "") ++ Nat.repr t.date.day).toList) := by
  have text : t.dateText = Nat.repr t.date.year ++ "-" ++
      ((if t.date.month < 10 then "0" else "") ++ Nat.repr t.date.month) ++ "-" ++
        ((if t.date.day < 10 then "0" else "") ++ Nat.repr t.date.day) := rfl
  simp only [text, String.toList_append, List.append_assoc]
  rfl

theorem dateTimeText_toList :
    t.dateTimeText.toList = t.dateText.toList ++ 'T' :: (t.timeText.toList ++ ['Z']) := by
  simp only [Instant.dateTimeText, String.toList_append, List.append_assoc]
  rfl

theorem dayText_dateText (first : 1000 ≤ t.date.year) :
    DayText t.date.year t.date.month t.date.day t.dateText.toList := by
  obtain ⟨-, last, -, december, -, inMonth⟩ := t.date.valid
  have days : t.date.day < 100 := by
    have most : daysInMonth t.date.year t.date.month ≤ 31 := daysInMonth_le _ _
    omega
  rw [dateText_toList]
  exact .mk (numberText_year first last) (numberText_padded (by omega)) (numberText_padded days)

theorem clockText_timeText : ClockText t.hour t.minute t.second t.timeText.toList := by
  have text : t.timeText = ((if t.hour < 10 then "0" else "") ++ Nat.repr t.hour) ++ ":" ++
      ((if t.minute < 10 then "0" else "") ++ Nat.repr t.minute) ++ ":" ++
        ((if t.second < 10 then "0" else "") ++ Nat.repr t.second) := rfl
  have parts : t.timeText.toList = ((if t.hour < 10 then "0" else "") ++ Nat.repr t.hour).toList ++
      ':' :: (((if t.minute < 10 then "0" else "") ++ Nat.repr t.minute).toList ++
        ':' :: ((if t.second < 10 then "0" else "") ++ Nat.repr t.second).toList) := by
    simp only [text, String.toList_append, List.append_assoc]
    rfl
  have hours := t.hour_le
  have minutes := t.minute_le
  have seconds := t.second_le
  rw [parts]
  exact .mk (numberText_padded (by omega)) (numberText_padded (by omega)) (numberText_padded (by omega))

/-- A base alone is a date expression. -/
theorem expressionText_base {base : Base} {text : List Char} (written : BaseText base text) :
    ExpressionText base [] text := by
  have grammar := ExpressionText.signed blanks_nil written (.nil blanks_nil)
  rwa [List.append_nil] at grammar

theorem evaluate_base {source : String} {base : Base} {now reached : Instant}
    (written : BaseText base source.toList) (started : base.StartsAt now reached) :
    evaluate now source = .ok reached := by
  have reading := read_complete (expressionText_base written)
  refine (evaluate_eq_ok_iff reading).mpr ⟨reached, started, List.forall_mem_nil _, rfl⟩

theorem evaluate_dateTimeText (now : Instant) (first : 1000 ≤ t.date.year) :
    evaluate now t.dateTimeText = .ok t.wholeSeconds := by
  have written := BaseText.moment (dayText_dateText t first) (clockText_timeText t)
  rw [← dateTimeText_toList] at written
  exact evaluate_base written t.wholeSeconds_isAt

theorem evaluate_dateText (now : Instant) (first : 1000 ≤ t.date.year) :
    evaluate now t.dateText = .ok (.midnight t.date) := by
  have made : Date.make t.date.year t.date.month t.date.day = .ok t.date :=
    Date.make_eq_ok_iff.mpr ⟨rfl, rfl, rfl⟩
  exact evaluate_base (.day (dayText_dateText t first)) ((Instant.midnight_eq_iff made).mp rfl)

/-! ## Fewer digits -/

/-- Digits with a hyphen behind them, unless there are four of them, are no date expression. -/
theorem read_hyphen {source : String} {digits rest : List Char} (number : Digits digits)
    (length : 0 < digits.length) (other : digits.length ≠ 4) (split : source.toList = digits ++ '-' :: rest) :
    read source = ⟨.now, [], some ⟨.adjustmentExpected, some 0, source⟩⟩ := by
  have hyphen := head?_cons_mark '-' rest (by decide)
  have taken := takeWhile_append number hyphen
  have left := dropWhile_append number hyphen
  have digit := head?_digits number length ('-' :: rest)
  have nonempty : digits ++ '-' :: rest ≠ [] := List.append_ne_nil_of_right_ne_nil _ (List.cons_ne_nil _ _)
  generalize digits ++ '-' :: rest = cs at *
  have start := dropBlank_of_visible (visible_of_digit digit)
  have noClock : clock? cs = none := by
    rw [Option.eq_none_iff_forall_ne_some]
    intro found read
    have colon := (clock?_leads read).2
    rw [left] at colon
    cases colon
  have noUnit : unit? (Text.dropBlank ('-' :: rest)) = none := rfl
  have base : readBase cs = (.now, cs) := by
    apply readBase_now
    · exact fun never => absurd (digit 's' never) (by decide)
    · intro four
      rw [taken] at four
      exact absurd four other
    · rw [left]
      intro _ never
      cases never
  have noQuantity : quantity? cs = none := by
    rw [quantity?, taken, left, noUnit]
    split <;> rfl
  have unread : amount? cs = none := by
    rw [amount?, noQuantity, noClock]
    rfl
  have signed : sign? true (Text.dropBlank cs) = some (false, cs) := by
    rw [start]
    exact sign?_digit digit
  have stopped : readAdjustments true cs = ([], some (.adjustmentExpected, cs)) := by
    rw [readAdjustments_signed (by rwa [start]) signed, unread]
  simp only [read, split, start, base, beq_self_eq_true, stopped, Option.map_some, Nat.sub_self]

theorem evaluate_hyphen {source : String} {digits rest : List Char} (now : Instant) (number : Digits digits)
    (length : 0 < digits.length) (other : digits.length ≠ 4) (split : source.toList = digits ++ '-' :: rest) :
    evaluate now source = .error (.grammar ⟨.adjustmentExpected, some 0, source⟩) := by
  rw [evaluate, read_hyphen number length other split]
  rfl

/-- A date of a year before 1000, with or without a time, is printed as what is no date expression. -/
theorem evaluate_fewDigits (now : Instant) (few : t.date.year < 1000) {text : String} {time : List Char}
    (printed : text.toList = t.dateText.toList ++ time) :
    evaluate now text = .error (.grammar ⟨.adjustmentExpected, some 0, text⟩) := by
  have digits := Text.isDigit_of_mem_toDigits t.date.year
  have short : (Nat.toDigits 10 t.date.year).length ≤ 3 :=
    (Nat.length_toDigits_le_iff (by decide) (by decide)).mpr few
  have nonempty : 0 < (Nat.toDigits 10 t.date.year).length := Nat.length_toDigits_pos
  rw [dateText_toList, Nat.toList_repr, List.append_assoc, List.cons_append] at printed
  exact evaluate_hyphen now digits nonempty (by omega) printed

/-! ## Printing and reading again -/

/-- **From the year 1000 on printed dates are expressions for the same instant, and only from then on.** A
printed date and time denotes the second that the instant lies in, so that every helper shows of it what it
shows of the instant; a printed date denotes the midnight of its day. In the years before 1000 both are
refused at their first character. -/
theorem textOf_printed (now later t : Instant) (source : String) (accepted : evaluate now source = .ok t) :
    Helper.datetime.textOf now source = .ok t.dateTimeText ∧ Helper.date.textOf now source = .ok t.dateText ∧
    (1000 ≤ t.date.year →
      evaluate later t.dateTimeText = .ok t.wholeSeconds ∧
      (∀ helper : Helper, helper.textOf later t.dateTimeText = helper.textOf now source) ∧
      evaluate later t.dateText = .ok (.midnight t.date) ∧
      Helper.date.textOf later t.dateText = Helper.date.textOf now source) ∧
    (t.date.year < 1000 →
      evaluate later t.dateTimeText = .error (.grammar ⟨.adjustmentExpected, some 0, t.dateTimeText⟩) ∧
      evaluate later t.dateText = .error (.grammar ⟨.adjustmentExpected, some 0, t.dateText⟩)) := by
  have shown (helper : Helper) : helper.textOf now source = .ok (helper.ofInstant t) := by
    rw [Helper.textOf, accepted]
    rfl
  refine ⟨shown .datetime, shown .date, ?_, ?_⟩
  · intro first
    have moment := evaluate_dateTimeText t later first
    have day := evaluate_dateText t later first
    refine ⟨moment, ?_, day, ?_⟩
    · intro helper
      rw [shown, Helper.textOf, moment, ← helper.ofInstant_wholeSeconds]
      rfl
    · rw [shown, Helper.textOf, day]
      rfl
  · intro few
    constructor
    · exact evaluate_fewDigits t later few (dateTimeText_toList t)
    · exact evaluate_fewDigits t later few (List.append_nil _).symm

/-- A date and time of the year 2020, with a fraction of a second. -/
theorem textOf_printed_june :
    let now : Instant := ⟨⟨2020, 6, 5, by decide⟩, 3723000007, by decide⟩
    evaluate now "" = .ok now ∧ Helper.datetime.textOf now "" = .ok "2020-06-05T01:02:03Z" ∧
      evaluate now "2020-06-05T01:02:03Z" = .ok now.wholeSeconds ∧
        Helper.time.textOf now "2020-06-05T01:02:03Z" = Helper.time.textOf now "" := by
  intro now
  have accepted : evaluate now "" = .ok now := by decide +kernel
  have text : now.dateTimeText = "2020-06-05T01:02:03Z" := by decide +kernel
  have printed := textOf_printed now now now "" accepted
  rw [text] at printed
  obtain ⟨shown, -, again, -⟩ := printed
  obtain ⟨second, same, -⟩ := again (by decide)
  exact ⟨accepted, shown, second, same .time⟩

/-- The first day of the year 999 is printed with three digits for the year, and then refused. -/
theorem textOf_printed_year999 :
    let now := Instant.midnight ⟨2020, 1, 1, by decide⟩
    Helper.datetime.textOf now "0999-01-01" = .ok "999-01-01T00:00:00Z" ∧
      evaluate now "999-01-01T00:00:00Z" =
        .error (.grammar ⟨.adjustmentExpected, some 0, "999-01-01T00:00:00Z"⟩) ∧
      Helper.date.textOf now "0999-01-01" = .ok "999-01-01" ∧
      evaluate now "999-01-01" = .error (.grammar ⟨.adjustmentExpected, some 0, "999-01-01"⟩) := by
  decide +kernel

end IssueBoard.Calendar
