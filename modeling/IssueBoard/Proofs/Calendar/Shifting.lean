import IssueBoard.Proofs.Calendar.DayCount
import IssueBoard.Proofs.Calendar.Denotation

/-! # Shifts

A shift by months adds to the number of the month and cuts the day to the length of the month reached; a
shift of fixed length adds to the number of the microsecond. Either fails exactly if what it adds up to is
no month or no microsecond of the calendar. So shifts of one kind and one direction can be put together, and
a shift can be taken back, as long as no day is cut.
-/

namespace IssueBoard.Calendar

variable {t mid reached : Instant} {a b n : Int}

/-! ## Months -/

/-- The number of a month, twelve for each year. -/
def Date.monthIndex (date : Date) : Int := 12 * (date.year : Int) + date.month

/-- The instant reached lies `n` months later, at the same time of day, and on the same day of the month
if there is one, else on the last. -/
structure Instant.IsMonthsLater (t : Instant) (n : Int) (reached : Instant) : Prop where
  index : reached.date.monthIndex = t.date.monthIndex + n
  day : reached.date.day = min t.date.day (daysInMonth reached.date.year reached.date.month)
  micros : reached.micros = t.micros

/-- Months are shifted as their numbers. -/
theorem Date.addMonths_eq_ok_iff {date moved : Date} : date.addMonths n = .ok moved ↔
    moved.monthIndex = date.monthIndex + n ∧
      moved.day = min date.day (daysInMonth moved.year moved.month) := by
  obtain ⟨first, last, january, december, -, -⟩ := moved.valid
  simp only [Date.addMonths, Date.monthIndex]
  constructor
  · intro done
    split at done
    · cases done
    · next within =>
      obtain ⟨year, month, day⟩ := Date.make_eq_ok_iff.mp (mapError_eq_ok_iff.mp done)
      rw [year, month]
      exact ⟨by omega, day⟩
  · rintro ⟨index, day⟩
    have year : (12 * (date.year : Int) + ((date.month : Int) - 1) + n) / 12 = moved.year := by omega
    have month : ((12 * (date.year : Int) + ((date.month : Int) - 1) + n) % 12).toNat + 1 = moved.month := by
      omega
    rw [year, month, if_neg (by omega), mapError_eq_ok_iff, Date.make_eq_ok_iff]
    exact ⟨rfl, rfl, day⟩

theorem Instant.add_months_eq_ok_iff : t.add (.months n) = .ok reached ↔ t.IsMonthsLater n reached := by
  rw [Instant.add, bind_eq_ok_iff]
  simp only [Date.addMonths_eq_ok_iff, pure_eq_ok_iff]
  constructor
  · rintro ⟨date, ⟨index, day⟩, rfl⟩
    exact ⟨index, day, rfl⟩
  · rintro ⟨index, day, micros⟩
    exact ⟨reached.date, ⟨index, day⟩, Instant.eq_iff.mpr ⟨rfl, micros.symm⟩⟩

/-- Months can be added exactly if that leads to a year of the calendar. -/
theorem Instant.exists_isMonthsLater_iff : (∃ reached, t.IsMonthsLater n reached) ↔
    1 ≤ (t.date.monthIndex + n - 1) / 12 ∧ (t.date.monthIndex + n - 1) / 12 ≤ 9999 := by
  constructor
  · rintro ⟨reached, index, -, -⟩
    obtain ⟨first, last, january, december, -, -⟩ := reached.date.valid
    rw [Date.monthIndex] at index
    omega
  · rintro ⟨first, last⟩
    obtain ⟨-, -, -, -, day, -⟩ := t.date.valid
    generalize index : t.date.monthIndex + n - 1 = months at *
    obtain ⟨year, year_eq⟩ := Int.eq_ofNat_of_zero_le (a := months / 12) (by omega)
    obtain ⟨month, month_eq⟩ := Int.eq_ofNat_of_zero_le (a := months % 12) (by omega)
    have long := le_daysInMonth year (month + 1)
    have valid : IsDate year (month + 1) (min t.date.day (daysInMonth year (month + 1))) := by omega
    refine ⟨⟨⟨year, month + 1, _, valid⟩, t.micros, t.inDay⟩, ?_, rfl, rfl⟩
    change 12 * (year : Int) + ((month + 1 : Nat) : Int) = _
    omega

/-- A day that every month has is kept. -/
theorem Instant.IsMonthsLater.day_eq (later : t.IsMonthsLater n reached) (kept : t.date.day ≤ 28) :
    reached.date.day = t.date.day := by
  have long := le_daysInMonth reached.date.year reached.date.month
  rw [later.day]
  omega

theorem Instant.isMonthsLater_zero (t : Instant) : t.IsMonthsLater 0 t where
  index := (Int.add_zero _).symm
  day := by
    obtain ⟨-, -, -, -, -, last⟩ := t.date.valid
    exact (Nat.min_eq_left last).symm
  micros := rfl

/-- Months after months are their sum, if the day is kept. -/
theorem Instant.IsMonthsLater.add_iff (first : t.IsMonthsLater a mid) (kept : t.date.day ≤ 28) :
    mid.IsMonthsLater b reached ↔ t.IsMonthsLater (a + b) reached := by
  have index := first.index
  have day := first.day_eq kept
  constructor
  · intro second
    exact ⟨by rw [second.index, index, Int.add_assoc], by rw [second.day, day],
      second.micros.trans first.micros⟩
  · intro whole
    exact ⟨by rw [whole.index, index, Int.add_assoc], by rw [whole.day, day],
      whole.micros.trans first.micros.symm⟩

/-! ## Fixed lengths -/

theorem Instant.calendarLength_eq : Instant.calendarLength = 3652059 * 86400000000 := rfl

/-- Seconds are shifted as microseconds, unless the calendar ends before. -/
theorem Instant.add_span_eq_ok_iff :
    t.add (.span n) = .ok reached ↔ (reached.total : Int) = t.total + 1000000 * n := by
  have inside := t.total_lt_calendarLength
  have inside' := reached.total_lt_calendarLength
  rw [Instant.calendarLength_eq] at inside inside'
  have word : (Nat.pow 2 31 : Nat) = 2147483648 := rfl
  simp only [Instant.add, Instant.addSeconds, word]
  constructor
  · intro done
    split at done
    · cases done
    · split at done
      · cases done
      · split at done
        · next found =>
          cases done
          exact Instant.ofTotal?_eq_some_iff.mp found
        · cases done
  · intro sum
    -- What stays within the calendar is far from the limits of a span of days.
    rw [if_neg (by omega), if_neg (by omega), Instant.ofTotal?_eq_some_iff.mpr sum]

theorem Instant.exists_add_span_iff : (∃ reached, t.add (.span n) = .ok reached) ↔
    0 ≤ t.total + 1000000 * n ∧ t.total + 1000000 * n < Instant.calendarLength := by
  simp only [Instant.add_span_eq_ok_iff]
  exact Instant.exists_total_eq_iff

/-! ## Shifts in one direction -/

/-- Neither number takes back what the other adds. -/
def SameDirection (a b : Int) : Prop := 0 ≤ a ∧ 0 ≤ b ∨ a ≤ 0 ∧ b ≤ 0

theorem SameDirection.mul {k : Int} (positive : 0 < k) (same : SameDirection a b) :
    SameDirection (k * a) (k * b) := by
  rcases same with ⟨left, right⟩ | ⟨left, right⟩
  · exact .inl ⟨Int.mul_nonneg positive.le left, Int.mul_nonneg positive.le right⟩
  · exact .inr ⟨Int.mul_nonpos_of_nonneg_of_nonpos positive.le left,
      Int.mul_nonpos_of_nonneg_of_nonpos positive.le right⟩

/-- On the way to a month of the calendar there are only such months. -/
theorem Instant.exists_add_months (same : SameDirection a b)
    (whole : t.add (.months (a + b)) = .ok reached) : ∃ mid, t.add (.months a) = .ok mid := by
  have within := Instant.exists_isMonthsLater_iff.mp ⟨reached, Instant.add_months_eq_ok_iff.mp whole⟩
  have start := Instant.exists_isMonthsLater_iff.mp ⟨t, t.isMonthsLater_zero⟩
  simp only [Instant.add_months_eq_ok_iff, Instant.exists_isMonthsLater_iff]
  rw [SameDirection] at same
  omega

theorem Instant.exists_add_span (same : SameDirection a b)
    (whole : t.add (.span (a + b)) = .ok reached) : ∃ mid, t.add (.span a) = .ok mid := by
  have within := Instant.exists_add_span_iff.mp ⟨reached, whole⟩
  have start := t.total_lt_calendarLength
  rw [Instant.exists_add_span_iff]
  rw [SameDirection] at same
  omega

theorem Instant.add_span_add_span (first : t.add (.span a) = .ok mid) :
    mid.add (.span b) = .ok reached ↔ t.add (.span (a + b)) = .ok reached := by
  rw [Instant.add_span_eq_ok_iff] at first
  rw [Instant.add_span_eq_ok_iff, Instant.add_span_eq_ok_iff]
  omega

theorem Instant.add_months_add_months (kept : t.date.day ≤ 28) (first : t.add (.months a) = .ok mid) :
    mid.add (.months b) = .ok reached ↔ t.add (.months (a + b)) = .ok reached := by
  rw [Instant.add_months_eq_ok_iff] at first
  rw [Instant.add_months_eq_ok_iff, Instant.add_months_eq_ok_iff]
  exact first.add_iff kept

/-- Two spans in one direction are their sum. -/
theorem Instant.bind_span_iff (same : SameDirection a b) :
    (t.add (.span a) >>= fun mid => mid.add (.span b)) = .ok reached ↔
      t.add (.span (a + b)) = .ok reached := by
  rw [bind_eq_ok_iff]
  constructor
  · rintro ⟨mid, first, second⟩
    exact (Instant.add_span_add_span first).mp second
  · intro whole
    obtain ⟨mid, first⟩ := Instant.exists_add_span same whole
    exact ⟨mid, first, (Instant.add_span_add_span first).mpr whole⟩

/-! ## Units -/

/-- The microseconds of a unit of fixed length. -/
def TimeUnit.length? : TimeUnit → Option Nat
  | .year | .month => none
  | .day => some 86400000000
  | .hour => some 3600000000
  | .minute => some 60000000
  | .second => some 1000000

/-- Whether moving an instant by units cannot cut its day. -/
def TimeUnit.Keeps (unit : TimeUnit) (t : Instant) : Prop := unit.length? = none → t.date.day ≤ 28

/-- A unit is a number of months or a number of seconds. -/
inductive TimeUnit.Measure (unit : TimeUnit) : Prop
  | months (k : Int) (positive : 0 < k) (shift : ∀ n, unit.shift n = .months (k * n))
      (length : unit.length? = none) : Measure unit
  | seconds (k : Nat) (positive : 0 < k) (shift : ∀ n, unit.shift n = .span (k * n))
      (length : unit.length? = some (1000000 * k)) : Measure unit

theorem TimeUnit.measure (unit : TimeUnit) : unit.Measure := by
  cases unit with
  | year => exact .months 12 (by decide) (fun _ => rfl) rfl
  | month => exact .months 1 (by decide) (fun n => congrArg _ (Int.one_mul n).symm) rfl
  | day => exact .seconds 86400 (by decide) (fun _ => rfl) rfl
  | hour => exact .seconds 3600 (by decide) (fun _ => rfl) rfl
  | minute => exact .seconds 60 (by decide) (fun _ => rfl) rfl
  | second => exact .seconds 1 (by decide) (fun n => congrArg _ (Int.one_mul n).symm) rfl

variable {unit : TimeUnit}

/-- Units after units are their sum, if the day is kept. -/
theorem Instant.add_unit_add_unit (keeps : unit.Keeps t) (first : t.add (unit.shift a) = .ok mid) :
    mid.add (unit.shift b) = .ok reached ↔ t.add (unit.shift (a + b)) = .ok reached := by
  cases unit.measure with
  | months k positive shift length =>
    rw [shift] at first
    rw [shift, shift, Int.mul_add]
    exact Instant.add_months_add_months (keeps length) first
  | seconds k positive shift length =>
    rw [shift] at first
    rw [shift, shift, Int.mul_add]
    exact Instant.add_span_add_span first

theorem Instant.exists_add_unit (same : SameDirection a b)
    (whole : t.add (unit.shift (a + b)) = .ok reached) : ∃ mid, t.add (unit.shift a) = .ok mid := by
  cases unit.measure with
  | months k positive shift length =>
    rw [shift, Int.mul_add] at whole
    rw [shift]
    exact Instant.exists_add_months (same.mul positive) whole
  | seconds k positive shift length =>
    rw [shift, Int.mul_add] at whole
    rw [shift]
    exact Instant.exists_add_span (same.mul (Int.natCast_pos.mpr positive)) whole

theorem Instant.add_no_units_iff : t.add (unit.shift 0) = .ok reached ↔ reached = t := by
  cases unit.measure with
  | months k positive shift length =>
    rw [shift, Int.mul_zero, Instant.add_months_eq_ok_iff.mpr t.isMonthsLater_zero, Except.ok.injEq]
    exact eq_comm
  | seconds k positive shift length =>
    rw [shift, Int.mul_zero, Instant.add_span_eq_ok_iff, Int.mul_zero, Int.add_zero, Int.natCast_inj]
    exact Instant.total_injective.eq_iff

/-- Two moves in one direction are one by their sum, if the day is kept. -/
theorem Instant.bind_unit_iff (keeps : unit.Keeps t) (same : SameDirection a b) :
    (t.add (unit.shift a) >>= fun mid => mid.add (unit.shift b)) = .ok reached ↔
      t.add (unit.shift (a + b)) = .ok reached := by
  rw [bind_eq_ok_iff]
  constructor
  · rintro ⟨mid, first, second⟩
    exact (Instant.add_unit_add_unit keeps first).mp second
  · intro whole
    obtain ⟨mid, first⟩ := Instant.exists_add_unit same whole
    exact ⟨mid, first, (Instant.add_unit_add_unit keeps first).mpr whole⟩

/-- A move is taken back by its opposite, if the day is kept. -/
theorem Instant.bind_opposite_iff (keeps : unit.Keeps t) :
    (t.add (unit.shift n) >>= fun mid => mid.add (unit.shift (-n))) = .ok reached ↔
      reached = t ∧ ∃ mid, t.add (unit.shift n) = .ok mid := by
  rw [bind_eq_ok_iff]
  constructor
  · rintro ⟨mid, first, second⟩
    rw [Instant.add_unit_add_unit keeps first, Int.add_right_neg, Instant.add_no_units_iff] at second
    exact ⟨second, mid, first⟩
  · rintro ⟨rfl, mid, first⟩
    refine ⟨mid, first, ?_⟩
    rw [Instant.add_unit_add_unit keeps first, Int.add_right_neg, Instant.add_no_units_iff]

theorem natAbs_le_mul {k : Int} (positive : 0 < k) (n : Int) : n.natAbs ≤ (k * n).natAbs := by
  rw [Int.natAbs_mul]
  exact Nat.le_mul_of_pos_left _ (Int.natAbs_pos.mpr positive.ne')

/-- No larger number of units leads from one instant of the calendar to another. -/
theorem Instant.natAbs_lt_of_add (done : t.add (unit.shift n) = .ok reached) : n.natAbs < 1000000000000 := by
  cases unit.measure with
  | months k positive shift length =>
    have most := natAbs_le_mul positive n
    rw [shift, Instant.add_months_eq_ok_iff] at done
    have within := Instant.exists_isMonthsLater_iff.mp ⟨reached, done⟩
    have start := Instant.exists_isMonthsLater_iff.mp ⟨t, t.isMonthsLater_zero⟩
    omega
  | seconds k positive shift length =>
    have most := natAbs_le_mul (Int.natCast_pos.mpr positive) n
    have within := t.total_lt_calendarLength
    have within' := reached.total_lt_calendarLength
    rw [Instant.calendarLength_eq] at within within'
    rw [shift, Instant.add_span_eq_ok_iff] at done
    omega

end IssueBoard.Calendar
