import IssueBoard.Proofs.Calendar.Continuation
import Mathlib.Tactic.Ring

/-! # The laws of adjustments

How an expression that denotes an instant goes on: with months or years, with units of a fixed length, with
hours, minutes and seconds at once, with more than one adjustment by the same unit, and with an adjustment
and its opposite. Everything is said of the texts, for every integer and however it is written, as long as
zeros in front do not make it too long to be read. Spans are measured by the numbers of the instants, which
follow the order of the dates without gaps (`Date.ordinal_lt_iff`, `Date.exists_ordinal_eq`).
-/

namespace IssueBoard.Calendar

variable {now t reached : Instant} {source longer other : String} {n : Int} {unit : TimeUnit}

/-! ## One and two moves -/

theorem evaluate_one (start : evaluate now source = .ok t) (adjusted : Adjusted source [(n, unit)] longer) :
    evaluate now longer = .ok reached ↔ t.add (unit.shift n) = .ok reached := by
  rw [evaluate_adjusted start adjusted, List.foldlM_cons]
  simp only [List.foldlM_nil, bind_pure]

theorem evaluate_two {a b : Int} {unit' : TimeUnit} (start : evaluate now source = .ok t)
    (adjusted : Adjusted source [(a, unit), (b, unit')] longer) : evaluate now longer = .ok reached ↔
      (t.add (unit.shift a) >>= fun mid => mid.add (unit'.shift b)) = .ok reached := by
  rw [evaluate_adjusted start adjusted]
  simp only [List.foldlM_cons, List.foldlM_nil, bind_pure]

theorem evaluate_months (start : evaluate now source = .ok t)
    (adjusted : Adjusted source [(n, .month)] longer) :
    evaluate now longer = .ok reached ↔ t.IsMonthsLater n reached := by
  rw [evaluate_one start adjusted]
  exact Instant.add_months_eq_ok_iff

theorem evaluate_units {length : Nat} (fixed : unit.length? = some length)
    (start : evaluate now source = .ok t) (adjusted : Adjusted source [(n, unit)] longer) :
    evaluate now longer = .ok reached ↔ (reached.total : Int) = t.total + n * length := by
  rw [evaluate_one start adjusted]
  cases unit.measure with
  | months k positive shift none =>
    rw [none] at fixed
    cases fixed
  | seconds k positive shift some =>
    obtain rfl : 1000000 * k = length := Option.some.inj (some.symm.trans fixed)
    have same : (1000000 : Int) * (k * n) = n * (1000000 * k : Nat) := by
      push_cast
      ring
    rw [shift, Instant.add_span_eq_ok_iff, same]

/-! ## Hours, minutes and seconds -/

theorem Adjustment.signed_add (adjustment : Adjustment) (a b : Nat) :
    adjustment.signed (a + b) = adjustment.signed a + adjustment.signed b := by
  simp only [signed]
  split <;> omega

theorem Adjustment.signed_mul (adjustment : Adjustment) (k a : Nat) :
    adjustment.signed (k * a) = k * adjustment.signed a := by
  simp only [signed]
  split
  · rw [Int.natCast_mul, Int.mul_neg]
  · exact Int.natCast_mul k a

theorem Adjustment.sameDirection (adjustment : Adjustment) (a b : Nat) :
    SameDirection (adjustment.signed a) (adjustment.signed b) := by
  simp only [signed, SameDirection]
  split <;> omega

section Clock

variable {adjustment : Adjustment} {hours minutes seconds : Nat}

theorem adjust_clock (amount : adjustment.amount = .clock hours minutes seconds) (t : Instant)
    (rest : List Adjustment) : adjust t (adjustment :: rest) =
      t.add (.span (adjustment.signed (3600 * hours + 60 * minutes + seconds))) >>=
        fun mid => adjust mid rest := by
  have shift : adjustment.shift =
      .ok (.span (adjustment.signed (3600 * hours + 60 * minutes + seconds))) := by
    rw [Adjustment.shift, amount]
  rw [adjust, shift]
  rfl

theorem evaluate_clock (amount : adjustment.amount = .clock hours minutes seconds)
    (start : evaluate now source = .ok t) (continues : Continues source [adjustment] longer) :
    evaluate now longer = .ok reached ↔
      t.add (.span (adjustment.signed (3600 * hours + 60 * minutes + seconds))) = .ok reached := by
  have done : (fun mid => adjust mid []) = pure := rfl
  rw [evaluate_continues start continues, mapError_eq_ok_iff, adjust_clock amount, done, bind_pure]

/-- Hours, minutes and seconds at once are three adjustments in one direction. -/
theorem evaluate_clock_iff (amount : adjustment.amount = .clock hours minutes seconds)
    (start : evaluate now source = .ok t) (continues : Continues source [adjustment] longer)
    (adjusted : Adjusted source [(adjustment.signed hours, .hour), (adjustment.signed minutes, .minute),
      (adjustment.signed seconds, .second)] other) :
    evaluate now longer = .ok reached ↔ evaluate now other = .ok reached := by
  have hour : TimeUnit.hour.shift (adjustment.signed hours) = .span (adjustment.signed (3600 * hours)) :=
    congrArg Shift.span (adjustment.signed_mul 3600 hours).symm
  have minute : TimeUnit.minute.shift (adjustment.signed minutes) =
      .span (adjustment.signed (60 * minutes)) :=
    congrArg Shift.span (adjustment.signed_mul 60 minutes).symm
  have second : TimeUnit.second.shift (adjustment.signed seconds) = .span (adjustment.signed seconds) := rfl
  rw [evaluate_clock amount start continues, evaluate_adjusted start adjusted, Nat.add_assoc,
    adjustment.signed_add, ← Instant.bind_span_iff (adjustment.sameDirection _ _)]
  simp only [List.foldlM_cons, List.foldlM_nil, bind_pure, hour, minute, second]
  rw [bind_eq_ok_iff, bind_eq_ok_iff]
  refine exists_congr fun mid => and_congr_right fun _ => ?_
  rw [adjustment.signed_add, Instant.bind_span_iff (adjustment.sameDirection _ _)]

/-- The same amount with the other sign. -/
def Adjustment.opposite (adjustment : Adjustment) : Adjustment :=
  ⟨!adjustment.negative, adjustment.amount⟩

theorem Adjustment.signed_opposite (adjustment : Adjustment) (n : Nat) :
    adjustment.opposite.signed n = -adjustment.signed n := by
  rcases adjustment with ⟨_ | _, amount⟩
  · rfl
  · exact (Int.neg_neg _).symm

theorem evaluate_clock_opposite (amount : adjustment.amount = .clock hours minutes seconds)
    (start : evaluate now source = .ok t) (moved : Continues source [adjustment] longer)
    (back : Continues source [adjustment, adjustment.opposite] other) : evaluate now other = .ok reached ↔
      reached = t ∧ ∃ mid, evaluate now longer = .ok mid := by
  have done : (fun mid => adjust mid []) = pure := rfl
  have amount' : adjustment.opposite.amount = .clock hours minutes seconds := amount
  have keeps : TimeUnit.second.Keeps t := fun never => by cases never
  simp only [evaluate_clock amount start moved]
  rw [evaluate_continues start back, mapError_eq_ok_iff, adjust_clock amount]
  simp only [adjust_clock amount', adjustment.signed_opposite, done, bind_pure]
  exact Instant.bind_opposite_iff keeps

end Clock

/-! ## All laws -/

/-- **The laws of adjustments**, for every instant `t` that an expression denotes, and for every list of
integers, of which each can be written.

* A text that goes on with `n` months denotes the instant whose month is numbered `n` more, with the day cut
  to the end of that month and the time kept, and nothing exactly if that month is of no year from 1 to 9999.
* `n` years are `12 * n` months.
* A text that goes on with `n` units of a fixed length denotes the instant exactly so much later or earlier,
  and nothing exactly if that lies outside these years.
* Hours, minutes and seconds at once are the same as one after the other, with the same sign.
* Two adjustments by one unit in one direction are one by their sum, and an adjustment by units or a clock
  and its opposite lead back to `t`, if the first leads anywhere. Where the unit is a month or a year, this
  is said of days up to the 28th only. -/
theorem evaluate_laws (now t : Instant) (source : String) (start : evaluate now source = .ok t) :
    (∀ moves, ∃ longer, Adjusted source moves longer) ∧
    (∀ n longer, Adjusted source [(n, .month)] longer →
      (∀ reached, evaluate now longer = .ok reached ↔ t.IsMonthsLater n reached) ∧
      ((∃ reached, evaluate now longer = .ok reached) ↔
        1 ≤ (t.date.monthIndex + n - 1) / 12 ∧ (t.date.monthIndex + n - 1) / 12 ≤ 9999)) ∧
    (∀ n years months, Adjusted source [(n, .year)] years → Adjusted source [(12 * n, .month)] months →
      ∀ reached, evaluate now years = .ok reached ↔ evaluate now months = .ok reached) ∧
    (∀ n unit (length : Nat) longer, unit.length? = some length → Adjusted source [(n, unit)] longer →
      (∀ reached, evaluate now longer = .ok reached ↔ (reached.total : Int) = t.total + n * length) ∧
      ((∃ reached, evaluate now longer = .ok reached) ↔
        0 ≤ t.total + n * length ∧ t.total + n * length < Instant.calendarLength)) ∧
    (∀ (adjustment : Adjustment) hours minutes seconds clock parts,
      adjustment.amount = .clock hours minutes seconds → Continues source [adjustment] clock →
      Adjusted source [(adjustment.signed hours, .hour), (adjustment.signed minutes, .minute),
        (adjustment.signed seconds, .second)] parts →
      ∀ reached, evaluate now clock = .ok reached ↔ evaluate now parts = .ok reached) ∧
    (∀ a b unit two one, unit.Keeps t → SameDirection a b → Adjusted source [(a, unit), (b, unit)] two →
      Adjusted source [(a + b, unit)] one →
      ∀ reached, evaluate now two = .ok reached ↔ evaluate now one = .ok reached) ∧
    (∀ n unit moved back, unit.Keeps t → Adjusted source [(n, unit)] moved →
      Adjusted source [(n, unit), (-n, unit)] back →
      ∀ reached, evaluate now back = .ok reached ↔ reached = t ∧ ∃ mid, evaluate now moved = .ok mid) ∧
    (∀ (adjustment : Adjustment) hours minutes seconds moved back,
      adjustment.amount = .clock hours minutes seconds → Continues source [adjustment] moved →
      Continues source [adjustment, adjustment.opposite] back →
      ∀ reached, evaluate now back = .ok reached ↔ reached = t ∧ ∃ mid, evaluate now moved = .ok mid) := by
  refine ⟨exists_adjusted start, ?months, ?years, ?lengths, ?clock, ?sums, ?opposites, ?clockOpposites⟩
  case months =>
    intro n longer adjusted
    have value : ∀ reached, evaluate now longer = .ok reached ↔ t.IsMonthsLater n reached :=
      fun _ => evaluate_months start adjusted
    refine ⟨value, ?_⟩
    simp only [value]
    exact Instant.exists_isMonthsLater_iff
  case years =>
    intro n years months adjusted adjusted' reached
    rw [evaluate_one start adjusted, evaluate_one start adjusted']
    rfl
  case lengths =>
    intro n unit length longer fixed adjusted
    have value : ∀ reached, evaluate now longer = .ok reached ↔
        (reached.total : Int) = t.total + n * length :=
      fun _ => evaluate_units fixed start adjusted
    refine ⟨value, ?_⟩
    simp only [value]
    exact Instant.exists_total_eq_iff
  case clock =>
    intro adjustment hours minutes seconds clock parts amount continues adjusted reached
    exact evaluate_clock_iff amount start continues adjusted
  case sums =>
    intro a b unit two one keeps same adjusted adjusted' reached
    rw [evaluate_two start adjusted, evaluate_one start adjusted']
    exact Instant.bind_unit_iff keeps same
  case opposites =>
    intro n unit moved back keeps adjusted adjusted' reached
    simp only [evaluate_one start adjusted]
    rw [evaluate_two start adjusted']
    exact Instant.bind_opposite_iff keeps
  case clockOpposites =>
    intro adjustment hours minutes seconds moved back amount continues continues' reached
    exact evaluate_clock_opposite amount start continues continues'

/-- From the end of January: a month, some hours and back, and more days than there are. -/
theorem evaluate_laws_january :
    let now := Instant.midnight ⟨2021, 1, 1, by decide⟩
    let t := Instant.midnight ⟨2024, 1, 31, by decide⟩
    evaluate now "2024-01-31" = .ok t ∧
      evaluate now "2024-01-31 + 1 month" = .ok (.midnight ⟨2024, 2, 29, by decide⟩) ∧
      evaluate now "2024-01-31 + 36 hours - 36 hours" = .ok t ∧
      ∃ longer, Adjusted "2024-01-31" [(-10 ^ 20, .day)] longer ∧ ∀ reached, evaluate now longer ≠ .ok reached := by
  intro now t
  have start : evaluate now "2024-01-31" = .ok t := by decide +kernel
  have date : ExpressionText (.day 2024 1 31) [] "2024-01-31".toList := read_eq_iff.mp (by decide +kernel)
  have month : Adjusted "2024-01-31" [(1, .month)] "2024-01-31 + 1 month" := by
    refine ⟨[⟨false, .quantity ['1'] .month⟩], .cons ?_ .nil, _, _, date, read_eq_iff.mp (by decide +kernel)⟩
    exact ⟨_, rfl, rfl, le_max_of_le_left (by decide)⟩
  have hours : Adjusted "2024-01-31" [(36, .hour)] "2024-01-31 + 36 hours" := by
    refine ⟨[⟨false, .quantity ['3', '6'] .hour⟩], .cons ?_ .nil, _, _, date,
      read_eq_iff.mp (by decide +kernel)⟩
    exact ⟨_, rfl, rfl, le_max_of_le_left (by decide)⟩
  have back : Adjusted "2024-01-31" [(36, .hour), (-36, .hour)] "2024-01-31 + 36 hours - 36 hours" := by
    refine ⟨[⟨false, .quantity ['3', '6'] .hour⟩, ⟨true, .quantity ['3', '6'] .hour⟩], .cons ?_ (.cons ?_ .nil),
      _, _, date, read_eq_iff.mp (by decide +kernel)⟩
    · exact ⟨_, rfl, rfl, le_max_of_le_left (by decide)⟩
    · exact ⟨_, rfl, rfl, le_max_of_le_left (by decide)⟩
  obtain ⟨written, months, -, lengths, -, -, opposites, -⟩ := evaluate_laws now t _ start
  refine ⟨start, ?_, ?_, ?_⟩
  · exact ((months 1 _ month).1 _).mpr ⟨by decide, by decide, rfl⟩
  · have moved := (lengths 36 .hour _ _ rfl hours).2.mpr (by decide +kernel)
    exact (opposites 36 .hour _ _ (fun never => by cases never) hours back t).mpr ⟨rfl, moved⟩
  · obtain ⟨longer, adjusted⟩ := written [(-10 ^ 20, .day)]
    refine ⟨longer, adjusted, ?_⟩
    intro reached done
    have within := (lengths _ .day _ longer rfl adjusted).2.mp ⟨reached, done⟩
    exact absurd within.1 (by decide +kernel)

end IssueBoard.Calendar
