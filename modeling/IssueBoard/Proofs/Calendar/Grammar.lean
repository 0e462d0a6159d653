import IssueBoard.Calendar.Expression

/-! # The grammar of date expressions

Which texts are date expressions, and of what, said without a reader: a base and adjustments with
signs, with any number of blanks between them. Each of the readers that take a fixed number of
characters accepts exactly its part of the grammar in front of any rest.
-/

namespace IssueBoard.Calendar

/-- A text of nothing but blanks. -/
def Blanks (text : List Char) : Prop := ∀ c ∈ text, Text.isBlank c = true

/-- A text of nothing but digits. -/
def Digits (text : List Char) : Prop := ∀ c ∈ text, Text.isDigit c = true

/-- A number of exactly `count` digits. -/
structure NumberText (count value : Nat) (text : List Char) : Prop where
  digits : Digits text
  length : text.length = count
  value : Text.digitsValue text = value

/-- Hours, minutes and seconds of two digits each, with colons between them. -/
inductive ClockText (hours minutes seconds : Nat) : List Char → Prop
  | mk {h m s : List Char} (first : NumberText 2 hours h) (second : NumberText 2 minutes m)
      (third : NumberText 2 seconds s) :
      ClockText hours minutes seconds (h ++ ':' :: (m ++ ':' :: s))

/-- A year of four digits, a month and a day of two, with hyphens between them. -/
inductive DayText (year month day : Nat) : List Char → Prop
  | mk {y m d : List Char} (first : NumberText 4 year y) (second : NumberText 2 month m)
      (third : NumberText 2 day d) :
      DayText year month day (y ++ '-' :: (m ++ '-' :: d))

/-- The texts of a base. Nothing stands for the current instant. -/
inductive BaseText : Base → List Char → Prop
  | startOfMonth : BaseText .startOfMonth "startOfMonth".toList
  | moment {year month day hour minute second : Nat} {date time : List Char}
      (calendar : DayText year month day date) (clock : ClockText hour minute second time) :
      BaseText (.moment year month day hour minute second) (date ++ 'T' :: (time ++ ['Z']))
  | day {year month day : Nat} {date : List Char} (calendar : DayText year month day date) :
      BaseText (.day year month day) date
  | timeOfDay {hour minute second : Nat} {time : List Char}
      (clock : ClockText hour minute second time) : BaseText (.timeOfDay hour minute second) time
  | now : BaseText .now []

/-- The word for a unit of time. -/
def TimeUnit.word : TimeUnit → List Char
  | .year => "year".toList
  | .month => "month".toList
  | .day => "day".toList
  | .hour => "hour".toList
  | .minute => "minute".toList
  | .second => "second".toList

/-- The texts of an amount: a number and a unit, singular or plural, or hours, minutes and seconds. -/
inductive AmountText : Amount → List Char → Prop
  | quantity {digits gap ending : List Char} (unit : TimeUnit) (some : digits ≠ [])
      (number : Digits digits) (blanks : Blanks gap) (plural : ending = [] ∨ ending = ['s']) :
      AmountText (.quantity digits unit) (digits ++ (gap ++ (unit.word ++ ending)))
  | clock {hours minutes seconds : Nat} {time : List Char}
      (clock : ClockText hours minutes seconds time) : AmountText (.clock hours minutes seconds) time

/-- The character for the sign of an adjustment. -/
def Adjustment.sign (adjustment : Adjustment) : Char := if adjustment.negative then '-' else '+'

/-- Any number of adjustments, each with its sign, and blanks wherever two parts meet. -/
inductive AdjustmentsText : List Adjustment → List Char → Prop
  | nil {gap : List Char} (blanks : Blanks gap) : AdjustmentsText [] gap
  | cons {adjustment : Adjustment} {rest : List Adjustment} {gap inner text tail : List Char}
      (blanks : Blanks gap) (innerBlanks : Blanks inner) (amount : AmountText adjustment.amount text)
      (others : AdjustmentsText rest tail) :
      AdjustmentsText (adjustment :: rest) (gap ++ adjustment.sign :: (inner ++ (text ++ tail)))

/-- A date expression: blanks, a base and adjustments. Where there is no text for the base, a number
and a unit may come first without a sign; hours, minutes and seconds there are a base. -/
inductive ExpressionText : Base → List Adjustment → List Char → Prop
  | signed {base : Base} {adjustments : List Adjustment} {gap text tail : List Char}
      (blanks : Blanks gap) (start : BaseText base text) (others : AdjustmentsText adjustments tail) :
      ExpressionText base adjustments (gap ++ (text ++ tail))
  | unsigned {digits : List Char} {unit : TimeUnit} {rest : List Adjustment}
      {gap text tail : List Char} (blanks : Blanks gap)
      (amount : AmountText (.quantity digits unit) text) (others : AdjustmentsText rest tail) :
      ExpressionText .now (⟨false, .quantity digits unit⟩ :: rest) (gap ++ (text ++ tail))

/-! ## Readers of fixed parts -/

theorem fixedDigits?_eq_some_iff {count : Nat} {cs digits rest : List Char} :
    fixedDigits? count cs = some (digits, rest) ↔
      Digits digits ∧ digits.length = count ∧ cs = digits ++ rest := by
  induction count generalizing cs digits with
  | zero =>
    simp only [fixedDigits?, Option.some.injEq, Prod.mk.injEq]
    constructor
    · rintro ⟨rfl, rfl⟩
      exact ⟨by simp [Digits], rfl, rfl⟩
    · rintro ⟨_, none, rfl⟩
      obtain rfl := List.length_eq_zero_iff.mp none
      exact ⟨rfl, rfl⟩
  | succ count ih =>
    cases cs with
    | nil =>
      simp only [fixedDigits?, reduceCtorEq, false_iff]
      rintro ⟨_, length, empty⟩
      rw [List.nil_eq, List.append_eq_nil_iff] at empty
      rw [empty.1] at length
      cases length
    | cons c cs =>
      rw [fixedDigits?]
      constructor
      · intro read
        split at read
        · next digit =>
          obtain ⟨⟨inner, after⟩, found, same⟩ := Option.map_eq_some_iff.mp read
          obtain ⟨rfl, rfl⟩ := Prod.mk.inj same
          obtain ⟨all, length, rfl⟩ := ih.mp found
          exact ⟨List.forall_mem_cons.mpr ⟨digit, all⟩, congrArg Nat.succ length, rfl⟩
        · cases read
      · rintro ⟨all, length, split⟩
        cases digits with
        | nil => cases length
        | cons d digits =>
          rw [List.cons_append, List.cons.injEq] at split
          obtain ⟨rfl, rfl⟩ := split
          obtain ⟨digit, others⟩ := List.forall_mem_cons.mp all
          rw [if_pos digit, ih.mpr ⟨others, Nat.succ.inj length, rfl⟩, Option.map_some]

theorem fixedNumber?_eq_some_iff {count value : Nat} {cs rest : List Char} :
    fixedNumber? count cs = some (value, rest) ↔
      ∃ text, NumberText count value text ∧ cs = text ++ rest := by
  rw [fixedNumber?, Option.map_eq_some_iff]
  constructor
  · rintro ⟨⟨digits, after⟩, found, same⟩
    obtain ⟨rfl, rfl⟩ := Prod.mk.inj same
    obtain ⟨all, length, split⟩ := fixedDigits?_eq_some_iff.mp found
    exact ⟨digits, ⟨all, length, rfl⟩, split⟩
  · rintro ⟨text, number, split⟩
    refine ⟨(text, rest), fixedDigits?_eq_some_iff.mpr ⟨number.digits, number.length, split⟩, ?_⟩
    simp only [number.value]

theorem word?_eq_some_iff {word cs rest : List Char} :
    word? word cs = some rest ↔ cs = word ++ rest := by
  rw [word?]
  constructor
  · intro read
    split at read
    · next begins =>
      obtain ⟨after, rfl⟩ := List.isPrefixOf_iff_prefix.mp begins
      rw [List.drop_left, Option.some.injEq] at read
      rw [read]
    · cases read
  · rintro rfl
    rw [if_pos (List.isPrefixOf_iff_prefix.mpr (List.prefix_append word rest)), List.drop_left]

theorem clock?_eq_some_iff {hours minutes seconds : Nat} {cs rest : List Char} :
    clock? cs = some ((hours, minutes, seconds), rest) ↔
      ∃ text, ClockText hours minutes seconds text ∧ cs = text ++ rest := by
  simp only [clock?, Option.bind_eq_bind, Option.bind_eq_some_iff, Prod.exists,
    fixedNumber?_eq_some_iff, word?_eq_some_iff, Option.pure_def, Option.some.injEq, Prod.mk.injEq]
  constructor
  · rintro ⟨_, _, ⟨h, first, rfl⟩, _, rfl, _, _, ⟨m, second, rfl⟩, _, rfl, _, _, ⟨s, third, rfl⟩,
      ⟨rfl, rfl, rfl⟩, rfl⟩
    exact ⟨_, .mk first second third, by simp⟩
  · rintro ⟨_, ⟨first, second, third⟩, rfl⟩
    exact ⟨_, _, ⟨_, first, List.append_assoc _ _ _⟩, _, rfl, _, _, ⟨_, second, List.append_assoc _ _ _⟩,
      _, rfl, _, _, ⟨_, third, rfl⟩, ⟨rfl, rfl, rfl⟩, rfl⟩

theorem calendarDay?_eq_some_iff {year month day : Nat} {cs rest : List Char} :
    calendarDay? cs = some ((year, month, day), rest) ↔
      ∃ text, DayText year month day text ∧ cs = text ++ rest := by
  simp only [calendarDay?, Option.bind_eq_bind, Option.bind_eq_some_iff, Prod.exists,
    fixedNumber?_eq_some_iff, word?_eq_some_iff, Option.pure_def, Option.some.injEq, Prod.mk.injEq]
  constructor
  · rintro ⟨_, _, ⟨y, first, rfl⟩, _, rfl, _, _, ⟨m, second, rfl⟩, _, rfl, _, _, ⟨d, third, rfl⟩,
      ⟨rfl, rfl, rfl⟩, rfl⟩
    exact ⟨_, .mk first second third, by simp⟩
  · rintro ⟨_, ⟨first, second, third⟩, rfl⟩
    exact ⟨_, _, ⟨_, first, List.append_assoc _ _ _⟩, _, rfl, _, _, ⟨_, second, List.append_assoc _ _ _⟩,
      _, rfl, _, _, ⟨_, third, rfl⟩, ⟨rfl, rfl, rfl⟩, rfl⟩

theorem moment?_eq_some_iff {base : Base} {cs rest : List Char} :
    moment? cs = some (base, rest) ↔
      ∃ year month day hour minute second date time,
        DayText year month day date ∧ ClockText hour minute second time ∧
          base = .moment year month day hour minute second ∧
            cs = date ++ 'T' :: (time ++ 'Z' :: rest) := by
  simp only [moment?, Option.bind_eq_bind, Option.bind_eq_some_iff, Prod.exists,
    calendarDay?_eq_some_iff, clock?_eq_some_iff, word?_eq_some_iff, Option.pure_def,
    Option.some.injEq, Prod.mk.injEq]
  constructor
  · rintro ⟨_, _, _, _, ⟨date, calendar, rfl⟩, _, rfl, _, _, _, _, ⟨time, clock, rfl⟩, _, rfl, rfl, rfl⟩
    exact ⟨_, _, _, _, _, _, date, time, calendar, clock, rfl, rfl⟩
  · rintro ⟨_, _, _, _, _, _, date, time, calendar, clock, rfl, rfl⟩
    exact ⟨_, _, _, _, ⟨date, calendar, rfl⟩, _, rfl, _, _, _, _, ⟨time, clock, rfl⟩, _, rfl, rfl, rfl⟩

end IssueBoard.Calendar
