import IssueBoard.Proofs.Calendar.Shifting
import IssueBoard.Proofs.Number.Magnitude
import IssueBoard.Proofs.Text.Digits

/-! # Adjusting expressions

An expression that goes on where another one ends denotes the instant of that one, moved by the adjustments
that have come to it. Every integer can be written as an adjustment, and an adjustment by an integer moves
by it: a number that is too long to be read, or too large to be reckoned with, would lead out of the
calendar.
-/

namespace IssueBoard.Calendar

variable {t reached : Instant} {n : Int} {unit : TimeUnit} {gap text tail : List Char}

/-! ## Going on -/

theorem AdjustmentsText.blanks_append {adjustments : List Adjustment}
    (blanks : Blanks gap) (grammar : AdjustmentsText adjustments text) :
    AdjustmentsText adjustments (gap ++ text) := by
  cases grammar with
  | nil more => exact .nil (List.forall_mem_append.mpr ⟨blanks, more⟩)
  | cons more inner amount others =>
    rw [← List.append_assoc]
    exact .cons (List.forall_mem_append.mpr ⟨blanks, more⟩) inner amount others

theorem AdjustmentsText.append {adjustments more : List Adjustment}
    (first : AdjustmentsText adjustments text) (second : AdjustmentsText more tail) :
    AdjustmentsText (adjustments ++ more) (text ++ tail) := by
  induction first with
  | nil blanks => exact second.blanks_append blanks
  | @cons adjustment rest gap inner text tail' blanks innerBlanks amount others ih =>
    have grammar : AdjustmentsText (adjustment :: (rest ++ more)) _ := .cons blanks innerBlanks amount ih
    simpa only [List.append_assoc, List.cons_append] using grammar

theorem ExpressionText.append {base : Base} {adjustments more : List Adjustment}
    (first : ExpressionText base adjustments text) (second : AdjustmentsText more tail) :
    ExpressionText base (adjustments ++ more) (text ++ tail) := by
  cases first with
  | signed blanks start others =>
    simp only [List.append_assoc]
    exact .signed blanks start (others.append second)
  | unsigned blanks amount others =>
    simp only [List.append_assoc, List.cons_append]
    exact .unsigned blanks amount (others.append second)

/-- A text that goes on as an expression with more adjustments where another one ends. -/
def Continues (source : String) (more : List Adjustment) (longer : String) : Prop :=
  ∃ base adjustments, ExpressionText base adjustments source.toList ∧
    ExpressionText base (adjustments ++ more) longer.toList

theorem adjust_append (start : Instant) (adjustments more : List Adjustment) :
    adjust start (adjustments ++ more) = adjust start adjustments >>= fun t => adjust t more := by
  induction adjustments generalizing start with
  | nil => rfl
  | cons adjustment rest ih => simp only [List.cons_append, adjust, bind_assoc, ih]

theorem evaluate_continues {now : Instant} {source longer : String} {more : List Adjustment}
    (start : evaluate now source = .ok t) (continues : Continues source more longer) :
    evaluate now longer = (adjust t more).mapError .fault := by
  obtain ⟨base, adjustments, grammar, grammar'⟩ := continues
  rw [evaluate_of_reading (read_complete grammar), bind_eq_ok_iff] at start
  obtain ⟨first, started, done⟩ := start
  rw [evaluate_of_reading (read_complete grammar'), started]
  change (adjust first (adjustments ++ more)).mapError Failure.fault = _
  rw [adjust_append, mapError_eq_ok_iff.mp done]
  rfl

/-! ## Numbers that are written out -/

/-- An adjustment by `n` units, written with no more digits than can be read, or than the number needs. -/
def Adjustment.IsBy (adjustment : Adjustment) (n : Int) (unit : TimeUnit) : Prop :=
  ∃ digits, adjustment.amount = .quantity digits unit ∧ adjustment.signed (Text.digitsValue digits) = n ∧
    digits.length ≤ max integerDigitLimit (Nat.toDigits 10 n.natAbs).length

theorem Adjustment.IsBy.distance_eq {adjustment : Adjustment} (moves : adjustment.IsBy n unit) :
    adjustment.distance = unit.shift n := by
  obtain ⟨digits, amount, rfl, -⟩ := moves
  rw [Adjustment.distance, amount]

theorem isSome_ofInt?_of_natAbs (small : n.natAbs < 1000000000000) : (Binary64.ofInt? n).isSome = true := by
  apply Number.isSome_ofInt?
  calc
    |(n : ℚ)| = n.natAbs := by rw [← Int.cast_abs, Int.abs_eq_natAbs, Int.cast_natCast]
    _ < 1000000000000 := by exact_mod_cast small
    _ ≤ 2 ^ (40 : Int) := by norm_num
    _ ≤ 2 ^ (1023 : Int) := zpow_le_zpow_right₀ (by norm_num) (by decide)

/-- A number that leads nowhere outside the calendar is read and reckoned with. -/
theorem Adjustment.IsBy.fits {adjustment : Adjustment} (moves : adjustment.IsBy n unit)
    (small : n.natAbs < 1000000000000) : adjustment.Fits := by
  obtain ⟨digits, amount, value, length⟩ := moves
  rw [Adjustment.Fits, amount]
  constructor
  · have short : (Nat.toDigits 10 n.natAbs).length ≤ 12 :=
      (Nat.length_toDigits_le_iff (by decide) (by decide)).mpr small
    have limit : 12 ≤ integerDigitLimit := by decide
    omega
  · intro _
    rw [value]
    exact isSome_ofInt?_of_natAbs small

theorem adjust_isBy {adjustment : Adjustment} {rest : List Adjustment}
    (moves : adjustment.IsBy n unit) : adjust t (adjustment :: rest) = .ok reached ↔
      (t.add (unit.shift n) >>= fun mid => adjust mid rest) = .ok reached := by
  rw [adjust, bind_eq_ok_iff, bind_eq_ok_iff]
  simp only [bind_eq_ok_iff, Adjustment.shift_eq_ok_iff, moves.distance_eq]
  constructor
  · rintro ⟨_, ⟨-, rfl⟩, mid, step, done⟩
    exact ⟨mid, step, done⟩
  · rintro ⟨mid, step, done⟩
    exact ⟨_, ⟨moves.fits (Instant.natAbs_lt_of_add step), rfl⟩, mid, step, done⟩

/-! ## Moves -/

/-- A text that goes on as an expression with adjustments by the given numbers of units. -/
def Adjusted (source : String) (moves : List (Int × TimeUnit)) (longer : String) : Prop :=
  ∃ adjustments, List.Forall₂ (fun adjustment move => adjustment.IsBy move.1 move.2) adjustments moves ∧
    Continues source adjustments longer

theorem evaluate_adjusted {now : Instant} {source longer : String} {moves : List (Int × TimeUnit)}
    (start : evaluate now source = .ok t) (adjusted : Adjusted source moves longer) :
    evaluate now longer = .ok reached ↔
      moves.foldlM (fun t move => t.add (move.2.shift move.1)) t = .ok reached := by
  obtain ⟨adjustments, each, continues⟩ := adjusted
  rw [evaluate_continues start continues, mapError_eq_ok_iff]
  clear start continues
  induction each generalizing t with
  | nil => exact Iff.rfl
  | cons moves _ ih =>
    rw [adjust_isBy moves, List.foldlM_cons, bind_eq_ok_iff, bind_eq_ok_iff]
    simp only [ih]

/-- Every list of integers can be written as adjustments. -/
theorem exists_adjustmentsText (moves : List (Int × TimeUnit)) : ∃ adjustments text,
    AdjustmentsText adjustments text ∧
      List.Forall₂ (fun adjustment move => adjustment.IsBy move.1 move.2) adjustments moves := by
  induction moves with
  | nil => exact ⟨[], [], .nil blanks_nil, .nil⟩
  | cons move moves ih =>
    obtain ⟨adjustments, text, grammar, each⟩ := ih
    obtain ⟨n, unit⟩ := move
    let digits := Nat.toDigits 10 n.natAbs
    let adjustment : Adjustment := ⟨decide (n < 0), .quantity digits unit⟩
    have amount : AmountText adjustment.amount (digits ++ ([] ++ (unit.word ++ []))) :=
      .quantity unit (List.length_pos_iff.mp Nat.length_toDigits_pos) (Text.isDigit_of_mem_toDigits _)
        blanks_nil (.inl rfl)
    refine ⟨adjustment :: adjustments, _, .cons blanks_nil blanks_nil amount grammar, .cons ?_ each⟩
    refine ⟨digits, rfl, ?_, Nat.le_max_right _ _⟩
    rw [Adjustment.signed, Text.digitsValue_toDigits]
    split
    · next negative =>
      have below := of_decide_eq_true negative
      omega
    · next positive =>
      have above := of_decide_eq_false (Bool.eq_false_iff.mpr positive)
      omega

theorem exists_adjusted {now : Instant} {source : String} (start : evaluate now source = .ok t)
    (moves : List (Int × TimeUnit)) : ∃ longer, Adjusted source moves longer := by
  obtain ⟨adjustments, text, grammar, each⟩ := exists_adjustmentsText moves
  have whole := read_sound (trouble_of_evaluate start)
  refine ⟨source ++ String.ofList text, adjustments, each, _, _, whole, ?_⟩
  rw [String.toList_append, String.toList_ofList]
  exact whole.append grammar

end IssueBoard.Calendar
