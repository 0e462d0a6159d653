import IssueBoard.Calendar.Instant
import Mathlib.Order.Monotone.Basic

/-! # Counting days

The number of a date is the number of dates before it: dates are numbered in their order, without gaps,
from zero on. So the date with a given number, which is searched for year by year and month by month, is
the only one with it, and there is one exactly if the number lies before the year 10000. Likewise the
instants are numbered by their microseconds.
-/

namespace IssueBoard.Calendar

/-! ## Lengths of months and years -/

theorem daysInMonth_le (year month : Nat) : daysInMonth year month ≤ 31 := by
  rw [daysInMonth.eq_def]
  split
  · split <;> decide
  all_goals decide

theorem le_daysInMonth (year month : Nat) : 28 ≤ daysInMonth year month := by
  rw [daysInMonth.eq_def]
  split
  · split <;> decide
  all_goals decide

theorem isLeap_iff (year : Nat) :
    isLeap year = true ↔ year % 4 = 0 ∧ (year % 100 ≠ 0 ∨ year % 400 = 0) := by
  simp only [isLeap, Bool.and_eq_true, Bool.or_eq_true, beq_iff_eq, bne_iff_ne]

namespace Date

theorem daysBeforeYear_succ {year : Nat} (first : 1 ≤ year) :
    daysBeforeYear (year + 1) = daysBeforeYear year + daysInYear year := by
  obtain ⟨past, rfl⟩ := Nat.exists_eq_add_of_le' first
  have fewer : past / 100 ≤ past / 4 := Nat.div_le_div_left (by decide) (by decide)
  have century : (past + 1) % 100 = 0 → (past + 1) % 4 = 0 := by omega
  have fourth : (past + 1) % 400 = 0 → (past + 1) % 100 = 0 := by omega
  simp only [daysBeforeYear, daysInYear, isLeap_iff, Nat.add_sub_cancel, Nat.succ_div,
    Nat.dvd_iff_mod_eq_zero]
  generalize past / 4 = leaps, past / 100 = centuries, past / 400 = exceptions at *
  generalize (past + 1) % 4 = i, (past + 1) % 100 = j, (past + 1) % 400 = k at *
  split_ifs <;> omega

theorem daysBeforeYear_mono : Monotone daysBeforeYear := by
  apply monotone_nat_of_le_succ
  intro year
  cases year with
  | zero => decide
  | succ year =>
    rw [daysBeforeYear_succ (Nat.succ_pos year)]
    exact Nat.le_add_right _ _

theorem daysBeforeYear_le (year : Nat) : daysBeforeYear year ≤ 366 * (year - 1) := by
  simp only [daysBeforeYear]
  omega

variable (year : Nat)

theorem daysBeforeMonth_succ {month : Nat} (first : 1 ≤ month) :
    daysBeforeMonth year (month + 1) = daysBeforeMonth year month + daysInMonth year month := by
  obtain ⟨month, rfl⟩ := Nat.exists_eq_add_of_le' first
  rfl

theorem daysBeforeMonth_mono : Monotone (daysBeforeMonth year) := by
  apply monotone_nat_of_le_succ
  intro month
  cases month with
  | zero => rfl
  | succ month =>
    rw [daysBeforeMonth_succ year (Nat.succ_pos month)]
    exact Nat.le_add_right _ _

/-- The months of a year are its days. -/
theorem daysBeforeMonth_end : daysBeforeMonth year 13 = daysInYear year := by
  simp only [daysBeforeMonth, daysInMonth, daysInYear]
  split <;> rfl

/-! ## The order of dates -/

/-- An earlier date. -/
def Before (a b : Date) : Prop :=
  a.year < b.year ∨ a.year = b.year ∧ (a.month < b.month ∨ a.month = b.month ∧ a.day < b.day)

theorem before_trichotomy (a b : Date) : a.Before b ∨ a = b ∨ b.Before a := by
  rcases a with ⟨year, month, day, valid⟩
  rcases b with ⟨year', month', day', valid'⟩
  simp only [Before, Date.mk.injEq]
  omega

/-- The number of a date within its year. -/
theorem ordinal_lt_end (date : Date) : daysBeforeMonth date.year date.month + (date.day - 1) <
    daysBeforeMonth date.year (date.month + 1) := by
  obtain ⟨-, -, january, -, first, last⟩ := date.valid
  rw [daysBeforeMonth_succ _ january]
  omega

theorem ordinal_lt_nextYear (date : Date) : date.ordinal < daysBeforeYear (date.year + 1) := by
  obtain ⟨first, -, january, december, -, -⟩ := date.valid
  have within := date.ordinal_lt_end
  have months : daysBeforeMonth date.year (date.month + 1) ≤ daysBeforeMonth date.year 13 :=
    daysBeforeMonth_mono _ (by omega)
  rw [daysBeforeMonth_end] at months
  rw [daysBeforeYear_succ first, ordinal]
  omega

theorem ordinal_lt_of_before {a b : Date} (before : a.Before b) : a.ordinal < b.ordinal := by
  rcases before with years | ⟨same, months | ⟨same', days⟩⟩
  · have next : daysBeforeYear (a.year + 1) ≤ daysBeforeYear b.year := daysBeforeYear_mono years
    have within := a.ordinal_lt_nextYear
    rw [ordinal.eq_def b]
    omega
  · have next : daysBeforeMonth b.year (a.month + 1) ≤ daysBeforeMonth b.year b.month :=
      daysBeforeMonth_mono _ months
    have within := a.ordinal_lt_end
    rw [same] at within
    rw [ordinal, ordinal, same]
    omega
  · obtain ⟨-, -, -, -, first, -⟩ := a.valid
    rw [ordinal, ordinal, same, same']
    omega

/-- Dates are numbered in their order. -/
theorem ordinal_lt_iff {a b : Date} : a.ordinal < b.ordinal ↔ a.Before b := by
  constructor
  · intro less
    rcases before_trichotomy a b with before | rfl | after
    · exact before
    · exact absurd less (lt_irrefl _)
    · exact absurd less (ordinal_lt_of_before after).le.not_gt
  · exact ordinal_lt_of_before

theorem ordinal_injective : Function.Injective ordinal := by
  intro a b same
  rcases before_trichotomy a b with before | equal | after
  · exact absurd same (ordinal_lt_of_before before).ne
  · exact equal
  · exact absurd same (ordinal_lt_of_before after).ne'

/-- The number of days of the calendar, which ends with the year 9999. -/
def calendarLength : Nat := daysBeforeYear 10000

theorem ordinal_lt_calendarLength (date : Date) : date.ordinal < calendarLength := by
  obtain ⟨-, last, -, -, -, -⟩ := date.valid
  exact lt_of_lt_of_le date.ordinal_lt_nextYear (daysBeforeYear_mono (by omega))

/-! ## The date with a number -/

theorem yearOf_spec (fuel : Nat) {year : Nat} (rest : Nat) (first : 1 ≤ year) :
    year ≤ (yearOf fuel year rest).1 ∧
      daysBeforeYear (yearOf fuel year rest).1 + (yearOf fuel year rest).2 = daysBeforeYear year + rest ∧
      ((yearOf fuel year rest).2 < daysInYear (yearOf fuel year rest).1 ∨
        (yearOf fuel year rest).1 = year + fuel) := by
  induction fuel generalizing year rest with
  | zero => exact ⟨le_rfl, rfl, .inr rfl⟩
  | succ fuel ih =>
    rw [yearOf]
    split
    · next inside => exact ⟨le_rfl, rfl, .inl inside⟩
    · next beyond =>
      obtain ⟨later, count, ending⟩ := ih (rest - daysInYear year) (Nat.le_add_left 1 year)
      rw [daysBeforeYear_succ first] at count
      refine ⟨by omega, by omega, ?_⟩
      rcases ending with inside | last
      · exact .inl inside
      · exact .inr (by omega)

theorem monthOf_spec (fuel : Nat) {month : Nat} (rest : Nat) (first : 1 ≤ month) :
    month ≤ (monthOf year fuel month rest).1 ∧
      daysBeforeMonth year (monthOf year fuel month rest).1 + (monthOf year fuel month rest).2 =
        daysBeforeMonth year month + rest ∧
      ((monthOf year fuel month rest).2 < daysInMonth year (monthOf year fuel month rest).1 ∨
        (monthOf year fuel month rest).1 = month + fuel) := by
  induction fuel generalizing month rest with
  | zero => exact ⟨le_rfl, rfl, .inr rfl⟩
  | succ fuel ih =>
    rw [monthOf]
    split
    · next inside => exact ⟨le_rfl, rfl, .inl inside⟩
    · next beyond =>
      obtain ⟨later, count, ending⟩ := ih (rest - daysInMonth year month) (Nat.le_add_left 1 month)
      rw [daysBeforeMonth_succ year first] at count
      refine ⟨by omega, by omega, ?_⟩
      rcases ending with inside | last
      · exact .inl inside
      · exact .inr (by omega)

/-- The day of a year is found in one of its months. -/
theorem monthOf_of_lt {rest : Nat} (inYear : rest < daysInYear year) :
    1 ≤ (monthOf year 12 1 rest).1 ∧ (monthOf year 12 1 rest).1 ≤ 12 ∧
      (monthOf year 12 1 rest).2 < daysInMonth year (monthOf year 12 1 rest).1 := by
  obtain ⟨january, count, ending⟩ := monthOf_spec year 12 rest (le_refl 1)
  have none : daysBeforeMonth year 1 = 0 := rfl
  have december : (monthOf year 12 1 rest).1 ≤ 12 := by
    by_contra late
    have all : daysBeforeMonth year 13 ≤ daysBeforeMonth year (monthOf year 12 1 rest).1 :=
      daysBeforeMonth_mono year (by omega)
    rw [daysBeforeMonth_end] at all
    omega
  refine ⟨january, december, ?_⟩
  rcases ending with inside | last
  · exact inside
  · omega

/-- What the search for a date finds is the number of days that is left of the year and the month. -/
theorem exists_search (days : Nat) : ∃ year month rest,
    daysBeforeYear year + daysBeforeMonth year month + rest = days ∧
      ofOrdinal? days =
        (if h : IsDate year month (rest + 1) then some ⟨year, month, rest + 1, h⟩ else none) ∧
      (days < calendarLength → IsDate year month (rest + 1)) := by
  have early : daysBeforeYear (days / 366 + 1) ≤ days := by
    have most := daysBeforeYear_le (days / 366 + 1)
    omega
  obtain ⟨first, years, ending⟩ :=
    yearOf_spec 10000 (days - daysBeforeYear (days / 366 + 1)) (Nat.le_add_left 1 (days / 366))
  generalize found : yearOf 10000 (days / 366 + 1) (days - daysBeforeYear (days / 366 + 1)) = search at *
  obtain ⟨year, inYear⟩ := search
  obtain ⟨-, months, -⟩ := monthOf_spec year 12 inYear (le_refl 1)
  have none : daysBeforeMonth year 1 = 0 := rfl
  refine ⟨year, (monthOf year 12 1 inYear).1, (monthOf year 12 1 inYear).2, ?_, ?_, ?_⟩
  · dsimp only at years
    omega
  · rw [ofOrdinal?, found]
  · intro within
    -- A search that ends behind the calendar has counted all its days.
    have last : year ≤ 9999 := by
      by_contra late
      have all : calendarLength ≤ daysBeforeYear year := daysBeforeYear_mono (by omega)
      dsimp only at years
      omega
    have short : inYear < daysInYear year := by
      rcases ending with inside | never
      · exact inside
      · dsimp only at never
        omega
    obtain ⟨january, december, inMonth⟩ := monthOf_of_lt year short
    exact ⟨by omega, last, january, december, Nat.le_add_left 1 _, inMonth⟩

/-- The search for a date finds the only date with the number. -/
theorem ofOrdinal?_eq_some_iff {days : Nat} {date : Date} :
    ofOrdinal? days = some date ↔ date.ordinal = days := by
  obtain ⟨year, month, rest, count, search, complete⟩ := exists_search days
  rw [search]
  constructor
  · intro found
    split at found
    · next valid =>
      cases found
      rw [ordinal, ← count]
      rfl
    · cases found
  · intro same
    have within : days < calendarLength := same ▸ date.ordinal_lt_calendarLength
    have valid := complete within
    rw [dif_pos valid, Option.some.injEq]
    apply ordinal_injective
    rw [same, ordinal, ← count]
    rfl

/-- Every day of the calendar has a date. -/
theorem exists_ordinal_eq {days : Nat} (within : days < calendarLength) :
    ∃ date : Date, date.ordinal = days := by
  obtain ⟨year, month, rest, -, search, complete⟩ := exists_search days
  rw [dif_pos (complete within)] at search
  exact ⟨_, ofOrdinal?_eq_some_iff.mp search⟩

end Date

/-! ## The instant with a number -/

namespace Instant

theorem eq_iff {a b : Instant} : a = b ↔ a.date = b.date ∧ a.micros = b.micros := by
  constructor
  · rintro rfl
    exact ⟨rfl, rfl⟩
  · rintro ⟨date, micros⟩
    rcases a with ⟨day, count, inDay⟩
    subst date micros
    rfl

theorem total_eq_iff {t : Instant} {micros : Nat} :
    t.total = micros ↔ t.date.ordinal = micros / dayLength ∧ t.micros = micros % dayLength := by
  rw [total]
  constructor
  · rintro rfl
    rw [Nat.mul_add_mod_self_right, Nat.mod_eq_of_lt t.inDay, Nat.mul_comm,
      Nat.mul_add_div (by decide), Nat.div_eq_of_lt t.inDay]
    exact ⟨rfl, rfl⟩
  · rintro ⟨date, clock⟩
    rw [date, clock, Nat.mul_comm]
    exact Nat.div_add_mod micros dayLength

theorem total_injective : Function.Injective total := by
  intro a b same
  obtain ⟨date, clock⟩ := total_eq_iff.mp same
  obtain ⟨date', clock'⟩ := total_eq_iff.mp (Eq.refl b.total)
  exact eq_iff.mpr ⟨Date.ordinal_injective (date.trans date'.symm), clock.trans clock'.symm⟩

/-- The number of microseconds of the calendar. -/
def calendarLength : Nat := Date.calendarLength * dayLength

theorem total_lt_calendarLength (t : Instant) : t.total < calendarLength := by
  calc
    t.total < t.date.ordinal * dayLength + dayLength := Nat.add_lt_add_left t.inDay _
    _ = (t.date.ordinal + 1) * dayLength := (Nat.succ_mul _ _).symm
    _ ≤ calendarLength := Nat.mul_le_mul_right _ t.date.ordinal_lt_calendarLength

theorem ofTotal?_eq_some_iff {micros : Int} {t : Instant} :
    ofTotal? micros = some t ↔ (t.total : Int) = micros := by
  rw [ofTotal?]
  split
  · next negative =>
    simp only [reduceCtorEq, false_iff]
    omega
  · next positive =>
    obtain ⟨count, rfl⟩ := Int.eq_ofNat_of_zero_le (not_lt.mp positive)
    simp only [Int.toNat_natCast, Option.map_eq_some_iff, Date.ofOrdinal?_eq_some_iff, Int.natCast_inj,
      total_eq_iff, eq_iff]
    constructor
    · rintro ⟨date, day, rfl, clock⟩
      exact ⟨day, clock.symm⟩
    · rintro ⟨day, clock⟩
      exact ⟨t.date, day, rfl, clock.symm⟩

/-- Every microsecond of the calendar has an instant, and no other. -/
theorem exists_total_eq_iff {micros : Int} :
    (∃ t : Instant, (t.total : Int) = micros) ↔ 0 ≤ micros ∧ micros < calendarLength := by
  constructor
  · rintro ⟨t, rfl⟩
    exact ⟨Int.natCast_nonneg _, Int.ofNat_lt.mpr t.total_lt_calendarLength⟩
  · rintro ⟨positive, within⟩
    obtain ⟨count, rfl⟩ := Int.eq_ofNat_of_zero_le positive
    have day : count / dayLength < Date.calendarLength :=
      Nat.div_lt_of_lt_mul (by rw [Nat.mul_comm]; exact Int.ofNat_lt.mp within)
    obtain ⟨date, number⟩ := Date.exists_ordinal_eq day
    refine ⟨⟨date, count % dayLength, Nat.mod_lt _ (by decide)⟩, ?_⟩
    exact congrArg Int.ofNat (total_eq_iff.mpr ⟨number, rfl⟩)

end Instant

end IssueBoard.Calendar
