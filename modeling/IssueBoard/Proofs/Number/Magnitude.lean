import IssueBoard.Number.Arithmetic
import IssueBoard.Proofs.Number.Rounding
import IssueBoard.Proofs.Outcome
import Mathlib.Data.Rat.Floor

/-! # Magnitudes of products and quotients

What is rounded keeps its magnitude up to a factor of two, so a product or a quotient whose exact value is
far from the largest numbers is finite. Numbers compare as the rational numbers that they are.
-/

namespace IssueBoard

namespace Binary64

/-! ## Rounding a rational number -/

theorem abs_eq_natAbs_div (value : ℚ) : |value| = value.num.natAbs / value.den := by
  rw [Rat.abs_def, Rat.divInt_eq_div, Int.cast_natCast, Int.cast_natCast]

theorem round_spec (value : ℚ) :
    ((round value).isFinite = true ∧ (round value).IsNear |value|) ∨
      (round value = .infinite (value.num < 0) ∧ (2 : ℚ) ^ (1023 : Int) ≤ |value|) := by
  rw [abs_eq_natAbs_div]
  exact ofQuotient_spec _ _ value.den_pos

theorem isFinite_round {value : ℚ} (small : |value| < 2 ^ (1023 : Int)) :
    (round value).isFinite = true := by
  rcases round_spec value with ⟨fits, -⟩ | ⟨-, large⟩
  · exact fits
  · exact absurd small large.not_gt

theorem abs_toRat_round_le (value : ℚ) : |(round value).toRat| ≤ 2 * |value| := by
  rcases round_spec value with ⟨-, near⟩ | ⟨overflows, -⟩
  · exact near.abs_toRat_le (abs_nonneg value)
  · rw [overflows, toRat_infinite, abs_zero]
    positivity

theorem le_abs_toRat_round {value : ℚ} (fits : (round value).isFinite = true)
    (least : 2 ^ minExponent ≤ |value|) : |value| ≤ 2 * |(round value).toRat| := by
  rcases round_spec value with ⟨-, near⟩ | ⟨overflows, -⟩
  · exact near.le_abs_toRat least
  · rw [overflows] at fits
    cases fits

/-! ## Products and quotients -/

/-- The exact result of an operation as a number; a zero keeps the sign of the operation. -/
def rounded (negative : Bool) (value : ℚ) : Binary64 :=
  if value = 0 then zero negative else round value

theorem isFinite_rounded (negative : Bool) {value : ℚ} (small : |value| < 2 ^ (1023 : Int)) :
    (rounded negative value).isFinite = true := by
  rw [rounded]
  split
  · rfl
  · exact isFinite_round small

theorem abs_toRat_rounded_le (negative : Bool) (value : ℚ) :
    |(rounded negative value).toRat| ≤ 2 * |value| := by
  rw [rounded]
  split
  · simp [zero, abs_toRat_finite]
  · exact abs_toRat_round_le value

variable {x y : Binary64}

theorem exists_of_isFinite (fits : x.isFinite = true) :
    ∃ negative mantissa exponent canonical, x = .finite negative mantissa exponent canonical := by
  cases x with
  | nan => cases fits
  | infinite => cases fits
  | finite negative mantissa exponent canonical => exact ⟨_, _, _, canonical, rfl⟩

theorem mul_eq_rounded (left : x.isFinite = true) (right : y.isFinite = true) :
    x * y = rounded (x.isNegative != y.isNegative) (x.toRat * y.toRat) := by
  obtain ⟨_, _, _, _, rfl⟩ := exists_of_isFinite left
  obtain ⟨_, _, _, _, rfl⟩ := exists_of_isFinite right
  rfl

theorem isZero_eq_false (nonzero : y.toRat ≠ 0) : y.isZero = false := by
  cases y with
  | nan => rfl
  | infinite => rfl
  | finite negative mantissa exponent canonical =>
    rw [← abs_pos, abs_toRat_finite] at nonzero
    rw [isZero, beq_eq_false_iff_ne]
    rintro rfl
    simp at nonzero

theorem div_eq_rounded (left : x.isFinite = true) (right : y.isFinite = true)
    (nonzero : y.toRat ≠ 0) :
    x / y = rounded (x.isNegative != y.isNegative) (x.toRat / y.toRat) := by
  have divides := isZero_eq_false nonzero
  obtain ⟨_, _, _, _, rfl⟩ := exists_of_isFinite left
  obtain ⟨_, _, _, _, rfl⟩ := exists_of_isFinite right
  change (if isZero _ = true then _ else _) = _
  rw [divides]
  rfl

/-- No product is finite that has an infinite factor, or one that is no number. -/
theorem isFinite_of_mul (fits : (x * y).isFinite = true) : x.isFinite = true ∧ y.isFinite = true := by
  cases x with
  | nan => cases fits
  | infinite =>
    cases y with
    | nan => cases fits
    | infinite => cases fits
    | finite _ mantissa => cases mantissa <;> cases fits
  | finite _ mantissa =>
    cases y with
    | nan => cases fits
    | infinite => cases mantissa <;> cases fits
    | finite => exact ⟨rfl, rfl⟩

end Binary64

namespace Number

/-! ## Numbers as rational numbers -/

/-- The rational number that a number is; those that are none are taken for zero. -/
def toRat : Number → ℚ
  | .integer n => n
  | .real x => x.toRat

/-- Whether a number is an integer or a finite floating-point number. -/
def isFinite : Number → Bool
  | .integer _ => true
  | .real x => x.isFinite

/-- Finite numbers are ordered like the rational numbers that they are. -/
theorem compare?_of_isFinite {x y : Number} (left : x.isFinite = true) (right : y.isFinite = true) :
    x.compare? y = some (if x.toRat < y.toRat then .lt else if x.toRat = y.toRat then .eq else .gt) := by
  match x, y with
  | .integer m, .integer n => simp only [compare?, toRat, Int.cast_lt, Int.cast_inj]
  | .integer m, .real y =>
    obtain ⟨_, _, _, _, rfl⟩ := Binary64.exists_of_isFinite right
    rfl
  | .real x, .integer n =>
    obtain ⟨_, _, _, _, rfl⟩ := Binary64.exists_of_isFinite left
    have swapped : ∀ p q : ℚ, (if p < q then Ordering.lt else if p = q then .eq else .gt).swap =
        if q < p then .lt else if q = p then .eq else .gt := by
      intro p q
      rcases lt_trichotomy p q with less | same | more
      · rw [if_pos less, if_neg less.not_gt, if_neg less.ne']
        rfl
      · rw [if_neg same.not_lt, if_pos same, if_neg same.not_gt, if_pos same.symm]
        rfl
      · rw [if_neg more.not_gt, if_neg more.ne', if_pos more]
        rfl
    exact congrArg some (swapped _ _)
  | .real x, .real y =>
    obtain ⟨_, _, _, _, rfl⟩ := Binary64.exists_of_isFinite left
    obtain ⟨_, _, _, _, rfl⟩ := Binary64.exists_of_isFinite right
    rfl

theorem below_iff {x y : Number} (left : x.isFinite = true) (right : y.isFinite = true) :
    x.below y = true ↔ x.toRat < y.toRat := by
  rw [below, compare?_of_isFinite left right]
  split
  · next less => exact iff_of_true rfl less
  · next more =>
    refine iff_of_false ?_ more
    split <;> decide

/-! ## In floating point -/

theorem toReal_eq_ok_iff {n : Number} {x : Binary64} : n.toReal = .ok x ↔ n.toBinary64? = some x := by
  rw [toReal]
  cases n.toBinary64? <;> simp

theorem toReal_error {n : Number} {fault : Fault} (failed : n.toReal = .error fault) :
    fault = .integerToReal := by
  rw [toReal] at failed
  split at failed
  · cases failed
  · cases failed
    rfl

theorem ofInt?_eq_some {n : Int} {x : Binary64} (fits : Binary64.ofInt? n = some x) :
    Binary64.round n = x ∧ x.isFinite = true := by
  rw [Binary64.ofInt?] at fits
  split at fits
  · next same =>
    cases fits
    exact ⟨same, rfl⟩
  · cases fits

theorem isSome_ofInt? {n : Int} (small : |(n : ℚ)| < 2 ^ (1023 : Int)) : (Binary64.ofInt? n).isSome = true := by
  have fits := Binary64.isFinite_round small
  rw [Binary64.ofInt?]
  cases same : Binary64.round n with
  | finite => rfl
  | nan =>
    rw [same] at fits
    cases fits
  | infinite =>
    rw [same] at fits
    cases fits

/-- A number in floating point keeps its magnitude up to a factor of two. -/
theorem toReal_spec {n : Number} {x : Binary64} (fits : n.toReal = .ok x) (finite : n.isFinite = true) :
    x.isFinite = true ∧ |x.toRat| ≤ 2 * |n.toRat| ∧ |n.toRat| ≤ 2 * |x.toRat| := by
  rw [toReal_eq_ok_iff] at fits
  cases n with
  | real y =>
    cases fits
    have nonneg := abs_nonneg x.toRat
    exact ⟨finite, by rw [toRat]; linarith, by rw [toRat]; linarith⟩
  | integer n =>
    obtain ⟨rfl, finite⟩ := ofInt?_eq_some fits
    refine ⟨finite, Binary64.abs_toRat_round_le _, ?_⟩
    rw [toRat]
    rcases eq_or_ne n 0 with rfl | nonzero
    · rw [Int.cast_zero, abs_zero]
      positivity
    · have one : (1 : ℚ) ≤ |(n : ℚ)| := by exact_mod_cast Int.one_le_abs nonzero
      refine Binary64.le_abs_toRat_round finite (le_trans ?_ one)
      exact zpow_le_one_of_nonpos₀ one_le_two (by decide)

/-- An exact bound up to which no result of two operations overflows. -/
def safeRatio : ℚ := 2 ^ (1000 : Int)

theorem safeRatio_pos : 0 < safeRatio := by
  rw [safeRatio]
  positivity

theorem lt_of_le_safeRatio {value : ℚ} (safe : value ≤ 2048 * safeRatio) :
    value < 2 ^ (1023 : Int) := by
  calc value ≤ 2 ^ (11 : Int) * safeRatio := by norm_num; exact safe
    _ = 2 ^ (1011 : Int) := by rw [safeRatio, ← zpow_add₀ two_ne_zero]; rfl
    _ < 2 ^ (1023 : Int) := zpow_lt_zpow_right₀ one_lt_two (by decide)

section Operations

variable {a b : Number} {x y : Binary64}

/-- The quotient of two integers is rounded once; every other one is a quotient in floating point. -/
theorem quotient_of_real (left : a.toReal = .ok x) (right : b.toReal = .ok y) :
    (∃ m n, a = .integer m ∧ b = .integer n) ∨ a.quotient b = .ok (x / y) := by
  match a, b with
  | .integer m, .integer n => exact .inl ⟨m, n, rfl, rfl⟩
  | .integer m, .real _ | .real _, .integer _ | .real _, .real _ =>
    rw [quotient, left, right]
    · exact .inr rfl
    · exact nofun

theorem quotient_integers (m : Int) {n : Int} (nonzero : n ≠ 0) :
    let x := Binary64.ofQuotient (decide (m < 0) != decide (n < 0)) m.natAbs n.natAbs
    ((Number.integer m).quotient (.integer n) = .ok x ∧ x.isFinite = true ∧ x.IsNear |(m : ℚ) / n|) ∨
      ((∀ part, (Number.integer m).quotient (.integer n) ≠ .ok part) ∧
        (2 : ℚ) ^ (1023 : Int) ≤ |(m : ℚ) / n|) := by
  intro x
  have magnitude : |(m : ℚ) / n| = m.natAbs / n.natAbs := by
    rw [abs_div, Nat.cast_natAbs, Nat.cast_natAbs, Int.cast_abs, Int.cast_abs]
  rw [magnitude, quotient]
  rcases Binary64.ofQuotient_spec (decide (m < 0) != decide (n < 0)) m.natAbs
      (Int.natAbs_pos.mpr nonzero) with ⟨fits, near⟩ | ⟨overflows, large⟩
  · refine .inl ⟨?_, fits, near⟩
    obtain ⟨_, _, _, _, same⟩ := Binary64.exists_of_isFinite fits
    simp only [x, same]
  · rw [overflows]
    refine .inr ⟨fun part never => ?_, large⟩
    cases never

/-- A quotient is finite unless it is very large, and rounding keeps its magnitude. -/
theorem quotient_spec (left : a.toReal = .ok x) (right : b.toReal = .ok y)
    (leftFinite : a.isFinite = true) (rightFinite : b.isFinite = true) (nonzero : b.toRat ≠ 0) :
    (|a.toRat / b.toRat| ≤ safeRatio → ∃ part, a.quotient b = .ok part ∧ part.isFinite = true) ∧
      ∀ part, a.quotient b = .ok part → |part.toRat| ≤ 8 * |a.toRat / b.toRat| := by
  have nonneg := abs_nonneg (a.toRat / b.toRat)
  rcases quotient_of_real left right with ⟨m, n, rfl, rfl⟩ | same
  · simp only [toRat] at nonneg nonzero ⊢
    rcases quotient_integers m (Int.cast_ne_zero.mp nonzero) with ⟨ran, fits, near⟩ | ⟨fails, large⟩
    · refine ⟨fun _ => ⟨_, ran, fits⟩, fun part other => ?_⟩
      rw [ran] at other
      cases other
      linarith [near.abs_toRat_le nonneg]
    · refine ⟨fun safe => ?_, fun part other => absurd other (fails part)⟩
      exact absurd large (lt_of_le_safeRatio (by linarith only [safe, safeRatio_pos])).not_ge
  · obtain ⟨xFinite, xLess, -⟩ := toReal_spec left leftFinite
    obtain ⟨yFinite, -, yMore⟩ := toReal_spec right rightFinite
    have bPositive : 0 < |b.toRat| := abs_pos.mpr nonzero
    have yPositive : 0 < |y.toRat| := by linarith
    have exact' : |x.toRat / y.toRat| ≤ 4 * |a.toRat / b.toRat| := by
      rw [abs_div, abs_div, ← mul_div_assoc, div_le_div_iff₀ yPositive bPositive]
      calc |x.toRat| * |b.toRat| ≤ 2 * |a.toRat| * (2 * |y.toRat|) := by gcongr
        _ = 4 * |a.toRat| * |y.toRat| := by ring
    rw [same, Binary64.div_eq_rounded xFinite yFinite (abs_pos.mp yPositive)]
    refine ⟨fun safe => ⟨_, rfl, Binary64.isFinite_rounded _ (lt_of_le_safeRatio ?_)⟩,
      fun part other => ?_⟩
    · linarith
    · cases other
      linarith [Binary64.abs_toRat_rounded_le (x.isNegative != y.isNegative) (x.toRat / y.toRat)]

/-- A product in floating point is finite unless it is very large. -/
theorem isFinite_mul (left : x.isFinite = true) (right : y.isFinite = true)
    (safe : |x.toRat * y.toRat| ≤ 2048 * safeRatio) : (x * y).isFinite = true := by
  rw [Binary64.mul_eq_rounded left right]
  exact Binary64.isFinite_rounded _ (lt_of_le_safeRatio safe)

end Operations

/-! ## Integers next to a number -/

variable {rounding : Binary64 → Option Int} {x : Binary64}

/-- A rounding that is defined for finite numbers gives an integer for these, and for no others. -/
theorem roundedBy_cases (defined : ∀ x, (rounding x).isSome = x.isFinite) (x : Binary64) :
    (x.isFinite = true ∧ ∃ n, (Number.real x).roundedBy rounding = .ok n) ∨
      (x.isFinite = false ∧ ∃ fault, (Number.real x).roundedBy rounding = .error fault ∧
        (fault = .nanToInteger ∨ fault = .infiniteToInteger)) := by
  cases x with
  | nan => exact .inr ⟨rfl, _, rfl, .inl rfl⟩
  | infinite negative =>
    have undefined : rounding (.infinite negative) = none :=
      Option.not_isSome_iff_eq_none.mp (by rw [defined]; exact Bool.false_ne_true)
    refine .inr ⟨rfl, _, ?_, .inr rfl⟩
    simp only [roundedBy, undefined]
  | finite negative mantissa exponent canonical =>
    obtain ⟨n, found⟩ :=
      Option.isSome_iff_exists.mp (defined (.finite negative mantissa exponent canonical))
    refine .inl ⟨rfl, n, ?_⟩
    simp only [roundedBy, found]

theorem isSome_floor? (x : Binary64) : x.floor?.isSome = x.isFinite := by
  rw [Binary64.floor?]
  cases x.isFinite <;> rfl

theorem isSome_truncate? (x : Binary64) : x.truncate?.isSome = x.isFinite := by
  rw [Binary64.truncate?]
  cases x.isFinite <;> rfl

theorem floor_of_isFinite (finite : x.isFinite = true) : Number.floor (.real x) = .ok ⌊x.toRat⌋ := by
  obtain ⟨_, _, _, _, rfl⟩ := Binary64.exists_of_isFinite finite
  rfl

theorem truncate_of_isFinite (finite : x.isFinite = true) :
    Number.truncate (.real x) = .ok (Int.tdiv x.toRat.num x.toRat.den) := by
  obtain ⟨_, _, _, _, rfl⟩ := Binary64.exists_of_isFinite finite
  rfl

/-- Of what is not negative, the integer next toward zero is the one next below. -/
theorem tdiv_eq_floor {q : ℚ} (nonneg : 0 ≤ q) : Int.tdiv q.num q.den = ⌊q⌋ := by
  rw [Int.tdiv_eq_ediv_of_nonneg (Rat.num_nonneg.mpr nonneg), Rat.floor_def']

theorem truncate_of_nonneg {n : Number} (finite : n.isFinite = true) (nonneg : 0 ≤ n.toRat) :
    n.truncate = .ok ⌊n.toRat⌋ := by
  cases n with
  | integer n => exact congrArg Except.ok (Int.floor_intCast n).symm
  | real x => exact (truncate_of_isFinite finite).trans (congrArg Except.ok (tdiv_eq_floor nonneg))

/-- What is no finite number is no integer either. -/
theorem isFinite_of_truncate {n : Number} {k : Int} (done : n.truncate = .ok k) : n.isFinite = true := by
  cases n with
  | integer n => rfl
  | real x =>
    rcases roundedBy_cases isSome_truncate? x with ⟨finite, -⟩ | ⟨-, fault, failed, -⟩
    · exact finite
    · cases failed.symm.trans done

end Number

end IssueBoard
