import IssueBoard.Proofs.Calendar.Acceptance
import IssueBoard.Proofs.Outcome

/-! # What date expressions denote

A date expression denotes the instant that its base starts from, moved by its adjustments from left to
right. Blanks between its parts and the endings of plurals do not count, and a text that is no date
expression denotes nothing.
-/

namespace IssueBoard.Calendar

/-! ## Bases -/

theorem Date.make_eq_ok_iff {year month day : Nat} {date : Date} :
    Date.make year month day = .ok date ↔ date.year = year ∧ date.month = month ∧ date.day = day := by
  constructor
  · intro made
    rw [Date.make] at made
    split at made
    · cases made
    · split at made
      · cases made
      · split at made
        · cases made
          exact ⟨rfl, rfl, rfl⟩
        · cases made
  · rintro ⟨rfl, rfl, rfl⟩
    have valid := date.valid
    obtain ⟨first, last, january, december, -, -⟩ := date.valid
    rw [Date.make, if_neg (by omega), if_neg (by omega), dif_pos valid]

theorem Instant.make_eq_ok_iff {date : Date} {hour minute second : Nat} {t : Instant} :
    Instant.make date hour minute second = .ok t ↔ t.date = date ∧ hour ≤ 23 ∧ minute ≤ 59 ∧
      second ≤ 59 ∧ t.micros = ((hour * 60 + minute) * 60 + second) * 1000000 := by
  rw [Instant.make]
  constructor
  · intro made
    split at made
    · cases made
    · split at made
      · cases made
      · split at made
        · cases made
        · dsimp only at made
          split at made
          · cases made
            exact ⟨rfl, by omega, by omega, by omega, rfl⟩
          · cases made
  · rintro ⟨rfl, hours, minutes, seconds, micros⟩
    have inDay := t.inDay
    rw [micros] at inDay
    rw [if_neg (by omega), if_neg (by omega), if_neg (by omega)]
    dsimp only
    rw [dif_pos inDay]
    cases t
    cases micros
    rfl

/-- A date and a time of day. -/
def Instant.IsAt (t : Instant) (year month day hour minute second : Nat) : Prop :=
  t.date.year = year ∧ t.date.month = month ∧ t.date.day = day ∧ hour ≤ 23 ∧ minute ≤ 59 ∧
    second ≤ 59 ∧ t.micros = ((hour * 60 + minute) * 60 + second) * 1000000

/-- The instant that a base starts from at a given current instant. Where the base says less than a
date and a time, the rest is taken from the current instant, or is midnight. -/
def Base.StartsAt (base : Base) (now start : Instant) : Prop :=
  match base with
  | .startOfMonth => start.IsAt now.date.year now.date.month 1 0 0 0
  | .moment y m d hour minute second => start.IsAt y m d hour minute second
  | .day y m d => start.IsAt y m d 0 0 0
  | .timeOfDay hour minute second =>
    start.IsAt now.date.year now.date.month now.date.day hour minute second
  | .now => start = now

theorem Date.eq_iff {a b : Date} : a = b ↔ a.year = b.year ∧ a.month = b.month ∧ a.day = b.day := by
  constructor
  · rintro rfl
    exact ⟨rfl, rfl, rfl⟩
  · intro same
    have made := Date.make_eq_ok_iff.mpr same
    rw [Date.make_eq_ok_iff.mpr ⟨rfl, rfl, rfl⟩] at made
    exact (Except.ok.inj made).symm

theorem Instant.midnight_eq_iff {t : Instant} {date : Date} {year month day : Nat}
    (made : Date.make year month day = .ok date) :
    Instant.midnight date = t ↔ t.IsAt year month day 0 0 0 := by
  obtain ⟨rfl, rfl, rfl⟩ := Date.make_eq_ok_iff.mp made
  constructor
  · rintro rfl
    exact ⟨rfl, rfl, rfl, by decide, by decide, by decide, rfl⟩
  · rintro ⟨year, month, day, -, -, -, micros⟩
    have same : t.date = date := Date.eq_iff.mpr ⟨year, month, day⟩
    have none : t.micros = 0 := micros
    rcases t with ⟨found, count, inDay⟩
    subst same none
    rfl

theorem midnight_eq_ok_iff {year month day : Nat} {t : Instant} :
    (return Instant.midnight (← Date.make year month day) : Except DateFault Instant) = .ok t ↔
      t.IsAt year month day 0 0 0 := by
  rw [bind_eq_ok_iff]
  constructor
  · rintro ⟨date, made, same⟩
    exact (Instant.midnight_eq_iff made).mp (Except.ok.inj same)
  · intro found
    have made := Date.make_eq_ok_iff.mpr ⟨found.1, found.2.1, found.2.2.1⟩
    exact ⟨t.date, made, congrArg Except.ok ((Instant.midnight_eq_iff made).mpr found)⟩

/-- A base has an instant exactly if there is one that it starts from. -/
theorem Base.instant_eq_ok_iff {base : Base} {now start : Instant} :
    base.instant now = .ok start ↔ base.StartsAt now start := by
  cases base with
  | startOfMonth => exact midnight_eq_ok_iff
  | moment year month day hour minute second =>
    rw [Base.instant, bind_eq_ok_iff]
    simp only [Instant.make_eq_ok_iff, Date.make_eq_ok_iff]
    constructor
    · rintro ⟨date, ⟨rfl, rfl, rfl⟩, rfl, clock⟩
      exact ⟨rfl, rfl, rfl, clock⟩
    · rintro ⟨rfl, rfl, rfl, clock⟩
      exact ⟨start.date, ⟨rfl, rfl, rfl⟩, rfl, clock⟩
  | day year month day => exact midnight_eq_ok_iff
  | timeOfDay hour minute second =>
    rw [Base.instant, Instant.make_eq_ok_iff, Date.eq_iff]
    simp only [Base.StartsAt, Instant.IsAt, and_assoc]
  | now =>
    rw [Base.instant, Except.ok.injEq]
    exact eq_comm

/-! ## Adjustments -/

/-- How far an adjustment moves, with its sign. -/
def Adjustment.distance (adjustment : Adjustment) : Shift :=
  match adjustment.amount with
  | .quantity digits unit => unit.shift (adjustment.signed (Text.digitsValue digits))
  | .clock hours minutes seconds =>
    .span (adjustment.signed (3600 * hours + 60 * minutes + seconds))

/-- Whether the number of an adjustment is one that can be reckoned with: its digits are not too many,
and it fits a floating-point number where it is carried over to larger units. -/
def Adjustment.Fits (adjustment : Adjustment) : Prop :=
  match adjustment.amount with
  | .quantity digits unit => digits.length ≤ integerDigitLimit ∧ (unit.isCarried = true →
      ((Number.integer (adjustment.signed (Text.digitsValue digits))).toBinary64?).isSome)
  | .clock _ _ _ => True

theorem Adjustment.shift_eq_ok_iff {adjustment : Adjustment} {shift : Shift} :
    adjustment.shift = .ok shift ↔ adjustment.Fits ∧ adjustment.distance = shift := by
  rcases adjustment with ⟨negative, amount⟩
  cases amount with
  | quantity digits unit =>
    simp only [Adjustment.shift, Adjustment.Fits, Adjustment.distance]
    split
    · next long =>
      simp only [reduceCtorEq, false_iff, not_and]
      intro fits
      exact absurd fits.1 (by omega)
    · next short =>
      split
      · next large =>
        rw [Bool.and_eq_true, Option.isNone_iff_eq_none] at large
        simp only [reduceCtorEq, false_iff, not_and]
        intro fits
        have known := fits.2 large.1
        rw [large.2] at known
        cases known
      · next small =>
        rw [Bool.and_eq_true, Option.isNone_iff_eq_none, not_and, ← ne_eq,
          ← Option.isSome_iff_ne_none] at small
        rw [Except.ok.injEq]
        exact (and_iff_right ⟨Nat.not_lt.mp short, small⟩).symm
  | clock hours minutes seconds =>
    simp only [Adjustment.shift, Adjustment.Fits, Adjustment.distance, Except.ok.injEq, true_and]

theorem adjust_eq_ok_iff {adjustments : List Adjustment} {start reached : Instant} :
    adjust start adjustments = .ok reached ↔ (∀ adjustment ∈ adjustments, adjustment.Fits) ∧
      adjustments.foldlM (fun t adjustment => t.add adjustment.distance) start = .ok reached := by
  induction adjustments generalizing start with
  | nil => simp [adjust, pure, Except.pure]
  | cons adjustment rest ih =>
    rw [adjust, bind_eq_ok_iff, List.foldlM_cons, bind_eq_ok_iff, List.forall_mem_cons]
    simp only [bind_eq_ok_iff, Adjustment.shift_eq_ok_iff, ih]
    constructor
    · rintro ⟨_, ⟨fits, rfl⟩, moved, step, others, more⟩
      exact ⟨⟨fits, others⟩, moved, step, more⟩
    · rintro ⟨⟨fits, others⟩, moved, step, more⟩
      exact ⟨_, ⟨fits, rfl⟩, moved, step, others, more⟩

/-! ## Expressions -/

theorem evaluate_of_reading {source : String} {base : Base} {adjustments : List Adjustment}
    (reading : read source = ⟨base, adjustments, none⟩) (now : Instant) :
    evaluate now source = (do
      let start ← (base.instant now).mapError fun cause => .fault (.date cause)
      (adjust start adjustments).mapError .fault) := by
  simp only [evaluate, reading, bind_pure]

/-- Only a text that is read to its end denotes an instant. -/
theorem trouble_of_evaluate {now reached : Instant} {source : String}
    (done : evaluate now source = .ok reached) : (read source).trouble = none := by
  rw [evaluate] at done
  obtain ⟨start, -, more⟩ := bind_eq_ok_iff.mp done
  obtain ⟨last, -, more⟩ := bind_eq_ok_iff.mp more
  split at more
  · cases more
  · next untroubled => exact untroubled

/-- Faults of reckoning are no complaints about the grammar. -/
theorem evaluate_ne_grammar {source : String} {base : Base} {adjustments : List Adjustment}
    (reading : read source = ⟨base, adjustments, none⟩) (now : Instant) (error : GrammarError) :
    evaluate now source ≠ .error (.grammar error) := by
  rw [evaluate_of_reading reading]
  rcases base.instant now with cause | start
  · intro never
    cases never
  · change (adjust start adjustments).mapError Failure.fault ≠ _
    rcases adjust start adjustments with fault | reached
    · intro never
      cases never
    · intro never
      cases never

theorem evaluate_eq_ok_iff {source : String} {base : Base} {adjustments : List Adjustment}
    (reading : read source = ⟨base, adjustments, none⟩) {now reached : Instant} :
    evaluate now source = .ok reached ↔
      ∃ start, base.StartsAt now start ∧ (∀ adjustment ∈ adjustments, adjustment.Fits) ∧
        adjustments.foldlM (fun t adjustment => t.add adjustment.distance) start = .ok reached := by
  rw [evaluate_of_reading reading, bind_eq_ok_iff]
  simp only [mapError_eq_ok_iff, Base.instant_eq_ok_iff, adjust_eq_ok_iff]

/-- A date expression is never refused for its grammar. It denotes the instant that its base starts
from, moved by the distance of one adjustment after the other, as long as every number fits and no step
leaves the calendar; and every other text for the same base and adjustments denotes the same. A text
that is no date expression denotes nothing. -/
theorem evaluate_expression (now : Instant) (source : String) :
    (∀ base adjustments, ExpressionText base adjustments source.toList →
      (∀ error, evaluate now source ≠ .error (.grammar error)) ∧
      (∀ reached, evaluate now source = .ok reached ↔
        ∃ start, base.StartsAt now start ∧ (∀ adjustment ∈ adjustments, adjustment.Fits) ∧
          adjustments.foldlM (fun t adjustment => t.add adjustment.distance) start = .ok reached) ∧
      ∀ other : String, ExpressionText base adjustments other.toList →
        evaluate now other = evaluate now source) ∧
    ((∀ base adjustments, ¬ ExpressionText base adjustments source.toList) →
      ∀ reached, evaluate now source ≠ .ok reached) := by
  constructor
  · intro base adjustments grammar
    have reading := read_complete grammar
    refine ⟨evaluate_ne_grammar reading now, fun reached => evaluate_eq_ok_iff reading, ?_⟩
    intro other grammar'
    rw [evaluate_of_reading reading, evaluate_of_reading (read_complete grammar')]
  · intro foreign reached done
    exact foreign _ _ (read_sound (trouble_of_evaluate done))

theorem evaluate_expression_spaced :
    let now := Instant.midnight ⟨2021, 1, 1, by decide⟩
    evaluate now "2020-04-08-1days+02:30:00" = evaluate now " 2020-04-08 - 1 day + 02:30:00 " ∧
      (∃ reached, reached.IsAt 2020 4 7 2 30 0 ∧
        evaluate now " 2020-04-08 - 1 day + 02:30:00 " = .ok reached) ∧
      ∀ reached, evaluate now "1 day 1 day" ≠ .ok reached := by
  intro now
  have spaced : ExpressionText (.day 2020 4 8)
      [⟨true, .quantity ['1'] .day⟩, ⟨false, .clock 2 30 0⟩]
      " 2020-04-08 - 1 day + 02:30:00 ".toList := read_eq_iff.mp (by decide +kernel)
  have close : ExpressionText (.day 2020 4 8)
      [⟨true, .quantity ['1'] .day⟩, ⟨false, .clock 2 30 0⟩]
      "2020-04-08-1days+02:30:00".toList := read_eq_iff.mp (by decide +kernel)
  have foreign : (read "1 day 1 day").trouble ≠ none := by decide +kernel
  obtain ⟨-, value, same⟩ := (evaluate_expression now _).1 _ _ spaced
  refine ⟨same _ close, ?_, (evaluate_expression now _).2 ?_⟩
  · refine ⟨⟨⟨2020, 4, 7, by decide⟩, 9000000000, by decide⟩, ?_, (value _).mpr ?_⟩
    · exact ⟨rfl, rfl, rfl, by decide, by decide, by decide, rfl⟩
    · refine ⟨.midnight ⟨2020, 4, 8, by decide⟩, ?_, ?_, by decide +kernel⟩
      · exact ⟨rfl, rfl, rfl, by decide, by decide, by decide, rfl⟩
      · intro adjustment member
        simp only [List.mem_cons, List.not_mem_nil, or_false] at member
        rcases member with rfl | rfl
        · exact ⟨by decide, fun never => by cases never⟩
        · trivial
  · intro base adjustments grammar
    rw [read_complete grammar] at foreign
    exact foreign rfl

end IssueBoard.Calendar
