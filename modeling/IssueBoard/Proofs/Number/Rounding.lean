import IssueBoard.Number.Binary64
import Mathlib.Algebra.Order.Field.Power
import Mathlib.Tactic.FieldSimp
import Mathlib.Tactic.Linarith
import Mathlib.Tactic.NormNum
import Mathlib.Tactic.Positivity
import Mathlib.Tactic.Ring

/-! # The error of rounding

A quotient is rounded at an exponent that leaves it 53 bits, or at the least exponent. The number that
comes out lies within half a unit of that exponent, so it differs from the quotient by one part in
`2 ^ 53`, or by half of the least positive number; and it is infinite only for a quotient of `2 ^ 1023`
or more.
-/

namespace IssueBoard.Binary64

/-! ## Powers of two -/

theorem powerOfTwo_eq (exponent : Int) : powerOfTwo exponent = (2 : ℚ) ^ exponent := by
  rw [powerOfTwo]
  split
  · next nonneg =>
    obtain ⟨k, rfl⟩ := Int.eq_ofNat_of_zero_le nonneg
    simp
  · next negative =>
    obtain ⟨k, rfl⟩ : ∃ k : Nat, exponent = -k := ⟨(-exponent).toNat, by omega⟩
    simp [Rat.mkRat_eq_div]

/-- Dividing at a scale: the side of the power depends on its sign, the quotient does not. -/
theorem atScale_eq {α : Type} (f : Nat → Nat → α) (n d : Nat) (e : Int) :
    (if 0 ≤ e then f n (d * Nat.pow 2 e.toNat) else f (n * Nat.pow 2 (-e).toNat) d) =
      f (n * 2 ^ (-e).toNat) (d * 2 ^ e.toNat) := by
  split
  · next nonneg =>
    rw [Int.toNat_of_nonpos (by omega : -e ≤ 0), pow_zero, mul_one]
    rfl
  · next negative =>
    rw [Int.toNat_of_nonpos (by omega : e ≤ 0), pow_zero, mul_one]
    rfl

theorem quotient_atScale (n d : Nat) (e : Int) :
    ((n * 2 ^ (-e).toNat : Nat) : ℚ) / ((d * 2 ^ e.toNat : Nat) : ℚ) = n / d / 2 ^ e := by
  rcases Int.le_total 0 e with nonneg | negative
  · obtain ⟨k, rfl⟩ := Int.eq_ofNat_of_zero_le nonneg
    simp [div_div]
  · obtain ⟨k, rfl⟩ : ∃ k : Nat, e = -k := ⟨(-e).toNat, by omega⟩
    simp
    ring

/-! ## Rounding to a natural number -/

theorem roundQuotient_le (dividend : Nat) {divisor : Nat} (positive : 0 < divisor) :
    2 * (roundQuotient dividend divisor * divisor) ≤ 2 * dividend + divisor ∧
      2 * dividend ≤ 2 * (roundQuotient dividend divisor * divisor) + divisor := by
  have parts := Nat.div_add_mod' dividend divisor
  have rest := Nat.mod_lt dividend positive
  have next := Nat.add_one_mul (dividend / divisor) divisor
  simp only [roundQuotient]
  split
  · omega
  · split <;> omega

/-- A quotient in the middle of two natural numbers becomes the even one. -/
theorem even_roundQuotient {dividend divisor : Nat} (positive : 0 < divisor)
    (tie : 2 * (roundQuotient dividend divisor * divisor) = 2 * dividend + divisor ∨
      2 * dividend = 2 * (roundQuotient dividend divisor * divisor) + divisor) :
    Even (roundQuotient dividend divisor) := by
  have parts := Nat.div_add_mod' dividend divisor
  have rest := Nat.mod_lt dividend positive
  have next := Nat.add_one_mul (dividend / divisor) divisor
  revert tie
  rw [Nat.even_iff]
  simp only [roundQuotient]
  split
  · omega
  · split <;> omega

/-- Whether a natural number is the nearest to a magnitude, and the even one of two that are nearest. -/
structure IsNearest (m : Nat) (x : ℚ) : Prop where
  half : |(m : ℚ) - x| ≤ 1 / 2
  even : |(m : ℚ) - x| = 1 / 2 → Even m

theorem isNearest_roundQuotient (dividend : Nat) {divisor : Nat} (positive : 0 < divisor) :
    IsNearest (roundQuotient dividend divisor) (dividend / divisor) := by
  have divides : (0 : ℚ) < divisor := by exact_mod_cast positive
  have cancel : (dividend : ℚ) / divisor * divisor = dividend := div_mul_cancel₀ _ divides.ne'
  constructor
  · obtain ⟨upper, lower⟩ := roundQuotient_le dividend positive
    have upper' : 2 * ((roundQuotient dividend divisor : ℚ) * divisor) ≤ 2 * dividend + divisor := by
      exact_mod_cast upper
    have lower' : 2 * (dividend : ℚ) ≤ 2 * ((roundQuotient dividend divisor : ℚ) * divisor) + divisor := by
      exact_mod_cast lower
    rw [abs_le]
    constructor
    · by_contra below
      nlinarith
    · by_contra above
      nlinarith
  · intro tie
    refine even_roundQuotient positive ?_
    rcases abs_choice ((roundQuotient dividend divisor : ℚ) - dividend / divisor) with same | same
    · rw [same, sub_eq_iff_eq_add] at tie
      refine .inl ?_
      have : 2 * ((roundQuotient dividend divisor : ℚ) * divisor) = 2 * dividend + divisor := by
        rw [tie, add_mul, cancel]
        ring
      exact_mod_cast this
    · rw [same, neg_sub, sub_eq_iff_eq_add] at tie
      refine .inr ?_
      have : 2 * (dividend : ℚ) = 2 * ((roundQuotient dividend divisor : ℚ) * divisor) + divisor := by
        rw [← cancel, tie]
        ring
      exact_mod_cast this

/-! ## The exponent that is rounded at -/

section Exponent

variable {n d : Nat}

/-- The logarithms leave the quotient between two powers of two that are two steps apart. -/
theorem estimate_bounds (nonzero : n ≠ 0) (positive : 0 < d) :
    (2 : ℚ) ^ ((n.log2 : Int) - d.log2 - 53) * 2 ^ 52 ≤ n / d ∧
      (n : ℚ) / d < 2 ^ ((n.log2 : Int) - d.log2 - 53) * 2 ^ 54 := by
  have divides : (0 : ℚ) < d := by exact_mod_cast positive
  have nLow : (2 : ℚ) ^ n.log2 ≤ n := by exact_mod_cast Nat.log2_self_le nonzero
  have nHigh : (n : ℚ) < 2 ^ (n.log2 + 1) := by exact_mod_cast Nat.lt_log2_self
  have dLow : (2 : ℚ) ^ d.log2 ≤ d := by exact_mod_cast Nat.log2_self_le positive.ne'
  have dHigh : (d : ℚ) < 2 ^ (d.log2 + 1) := by exact_mod_cast Nat.lt_log2_self
  have split : (2 : ℚ) ^ ((n.log2 : Int) - d.log2 - 53) = 2 ^ n.log2 / 2 ^ d.log2 / 2 ^ 53 := by
    rw [zpow_sub₀ two_ne_zero, zpow_sub₀ two_ne_zero]
    norm_cast
  have powers : (0 : ℚ) < 2 ^ d.log2 := by positivity
  rw [split]
  constructor
  · rw [le_div_iff₀ divides]
    calc (2 : ℚ) ^ n.log2 / 2 ^ d.log2 / 2 ^ 53 * 2 ^ 52 * d
        = 2 ^ n.log2 * (d / 2 ^ (d.log2 + 1)) := by field_simp; ring
      _ ≤ 2 ^ n.log2 * 1 := by
        gcongr
        rw [div_le_one (by positivity)]
        exact dHigh.le
      _ ≤ n := by linarith
  · rw [div_lt_iff₀ divides]
    calc (n : ℚ) < 2 ^ (n.log2 + 1) * 1 := by linarith
      _ ≤ 2 ^ (n.log2 + 1) * (d / 2 ^ d.log2) := by
        gcongr
        rwa [one_le_div powers]
      _ = 2 ^ n.log2 / 2 ^ d.log2 / 2 ^ 53 * 2 ^ 54 * d := by field_simp; ring

/-- The exponent leaves the quotient 53 bits at most, and exactly 53 unless it is the least one. -/
theorem roundingExponent_spec (nonzero : n ≠ 0) (positive : 0 < d) :
    (n : ℚ) / d < 2 ^ 53 * 2 ^ roundingExponent n d ∧ minExponent ≤ roundingExponent n d ∧
      (2 ^ 52 * 2 ^ roundingExponent n d ≤ (n : ℚ) / d ∨ roundingExponent n d = minExponent) := by
  obtain ⟨low, high⟩ := estimate_bounds nonzero positive
  rw [roundingExponent]
  simp only [atScale_eq (fun a b => a / b)]
  generalize (n.log2 : Int) - d.log2 - 53 = estimate at low high ⊢
  have unit : (0 : ℚ) < 2 ^ estimate := by positivity
  have divides : 0 < d * 2 ^ estimate.toNat := by positivity
  -- the whole part has 53 bits exactly if the quotient itself is small enough
  have short : n * 2 ^ (-estimate).toNat / (d * 2 ^ estimate.toNat) < Nat.pow 2 53 ↔
      (n : ℚ) / d < 2 ^ 53 * 2 ^ estimate := by
    rw [Nat.div_lt_iff_lt_mul divides, ← div_lt_iff₀ unit, ← quotient_atScale,
      div_lt_iff₀ (by exact_mod_cast divides)]
    exact_mod_cast Iff.rfl
  have chosen : ∃ exponent : Int, (n : ℚ) / d < 2 ^ 53 * 2 ^ exponent ∧
      2 ^ 52 * 2 ^ exponent ≤ (n : ℚ) / d ∧
      (if n * 2 ^ (-estimate).toNat / (d * 2 ^ estimate.toNat) < Nat.pow 2 53 then estimate
        else estimate + 1) = exponent := by
    split
    · next fits => exact ⟨estimate, short.mp fits, by linarith, rfl⟩
    · next wide =>
      have long := not_lt.mp (mt short.mpr wide)
      refine ⟨estimate + 1, ?_, ?_, rfl⟩ <;> rw [zpow_add_one₀ two_ne_zero] <;> linarith
  obtain ⟨exponent, below, above, same⟩ := chosen
  rw [same]
  rcases le_total exponent minExponent with least | more
  · rw [max_eq_left least]
    refine ⟨below.trans_le ?_, le_refl _, .inr rfl⟩
    gcongr
    exact one_le_two
  · rw [max_eq_right more]
    exact ⟨below, more, .inl above⟩

/-! ## The number that comes out -/

theorem abs_toRat_finite (negative : Bool) {mantissa : Nat} {exponent : Int}
    (canonical : IsCanonical mantissa exponent) :
    |(finite negative mantissa exponent canonical).toRat| = mantissa * 2 ^ exponent := by
  have nonneg : (0 : ℚ) ≤ mantissa * 2 ^ exponent := by positivity
  cases negative with
  | true => simp only [toRat, powerOfTwo_eq, if_true, abs_neg, abs_of_nonneg nonneg]
  | false => simp only [toRat, powerOfTwo_eq, Bool.false_eq_true, if_false, abs_of_nonneg nonneg]

theorem toRat_nan : toRat nan = 0 := rfl

theorem toRat_infinite (negative : Bool) : toRat (infinite negative) = 0 := rfl

theorem abs_toRat_lt (x : Binary64) : |x.toRat| < 2 ^ (1024 : Int) := by
  have powers : (0 : ℚ) < 2 ^ (1024 : Int) := by positivity
  match x with
  | .nan => rwa [toRat_nan, abs_zero]
  | .infinite negative => rwa [toRat_infinite, abs_zero]
  | .finite negative mantissa exponent canonical =>
    obtain ⟨bits, -, most, -⟩ := canonical
    have short : (mantissa : ℚ) < 2 ^ (53 : Int) := by exact_mod_cast bits
    rw [abs_toRat_finite]
    calc (mantissa : ℚ) * 2 ^ exponent
        ≤ mantissa * 2 ^ maxExponent :=
          mul_le_mul_of_nonneg_left (zpow_le_zpow_right₀ one_le_two most) (Nat.cast_nonneg _)
      _ < 2 ^ (53 : Int) * 2 ^ maxExponent := by gcongr
      _ = 2 ^ (1024 : Int) := by
        rw [← zpow_add₀ two_ne_zero, show 53 + maxExponent = 1024 by decide]

/-- Whether a number is within rounding error of a magnitude: one part in `2 ^ 53` of it, or half of
the least positive number. -/
def IsNear (x : Binary64) (magnitude : ℚ) : Prop :=
  |(|x.toRat| - magnitude)| ≤ magnitude / 2 ^ 53 ∨ |(|x.toRat| - magnitude)| ≤ 2 ^ minExponent / 2

/-- A mantissa that is full, or at the least exponent, makes a finite number unless the exponent is too
large. -/
theorem ofCanonical_spec (negative : Bool) {mantissa : Nat} {exponent : Int}
    (bits : mantissa < 2 ^ 53) (least : minExponent ≤ exponent)
    (full : 2 ^ 52 ≤ mantissa ∨ exponent = minExponent) :
    ((ofCanonical negative mantissa exponent).isFinite = true ∧
        |(ofCanonical negative mantissa exponent).toRat| = mantissa * 2 ^ exponent) ∨
      (ofCanonical negative mantissa exponent = .infinite negative ∧ maxExponent < exponent) := by
  rw [ofCanonical]
  split
  · exact .inl ⟨rfl, abs_toRat_finite _ _⟩
  · next unfit =>
    refine .inr ⟨rfl, ?_⟩
    by_contra most
    exact unfit ⟨bits, least, not_lt.mp most, full⟩

/-- A mantissa that has been rounded up to 54 bits is carried to the next exponent. -/
theorem carried_spec (negative : Bool) {mantissa : Nat} {exponent : Int}
    (bits : mantissa ≤ 2 ^ 53) (least : minExponent ≤ exponent)
    (full : 2 ^ 52 ≤ mantissa ∨ exponent = minExponent) :
    let x := if mantissa = Nat.pow 2 53 then ofCanonical negative (Nat.pow 2 52) (exponent + 1)
      else ofCanonical negative mantissa exponent
    (x.isFinite = true ∧ |x.toRat| = mantissa * 2 ^ exponent) ∨
      (x = .infinite negative ∧ maxExponent ≤ exponent) := by
  intro x
  simp only [x]
  split
  · next carried =>
    have same : ((Nat.pow 2 52 : Nat) : ℚ) * 2 ^ (exponent + 1) = mantissa * 2 ^ exponent := by
      rw [carried, zpow_add_one₀ two_ne_zero]
      push_cast
      ring
    rw [← same]
    exact (ofCanonical_spec negative (by decide) (by omega) (.inl (le_refl _))).imp_right
      fun ⟨overflows, past⟩ => ⟨overflows, by omega⟩
  · next short =>
    exact (ofCanonical_spec negative (lt_of_le_of_ne bits short) least full).imp_right
      fun ⟨overflows, past⟩ => ⟨overflows, past.le⟩

/-- Whether a magnitude is rounded to a mantissa at an exponent. -/
structure RoundsTo (q : ℚ) (mantissa : Nat) (exponent : Int) : Prop where
  least : minExponent ≤ exponent
  below : q < 2 ^ 53 * 2 ^ exponent
  above : 2 ^ 52 * 2 ^ exponent ≤ q ∨ exponent = minExponent
  nearest : IsNearest mantissa (q / 2 ^ exponent)

namespace RoundsTo

variable {q : ℚ} {mantissa : Nat} {exponent : Int}

theorem mantissa_le (rounds : RoundsTo q mantissa exponent) : mantissa ≤ 2 ^ 53 := by
  have unit : (0 : ℚ) < 2 ^ exponent := by positivity
  have scaled : q / 2 ^ exponent < 2 ^ 53 := (div_lt_iff₀ unit).mpr rounds.below
  have upper := (abs_le.mp rounds.nearest.half).2
  have : (mantissa : ℚ) < (2 ^ 53 + 1 : Nat) := by push_cast; linarith
  exact Nat.lt_succ_iff.mp (by exact_mod_cast this)

theorem le_mantissa (rounds : RoundsTo q mantissa exponent) :
    2 ^ 52 ≤ mantissa ∨ exponent = minExponent := by
  refine rounds.above.imp_left fun wide => ?_
  have unit : (0 : ℚ) < 2 ^ exponent := by positivity
  rw [← le_div_iff₀ unit] at wide
  have lower := (abs_le.mp rounds.nearest.half).1
  have : ((2 ^ 52 : Nat) : ℚ) < (mantissa + 1 : Nat) := by push_cast; linarith
  exact Nat.lt_succ_iff.mp (by exact_mod_cast this)

/-- Half a unit of the exponent is the error. -/
theorem abs_sub_le (rounds : RoundsTo q mantissa exponent) :
    |mantissa * 2 ^ exponent - q| ≤ 2 ^ exponent / 2 := by
  have unit : (0 : ℚ) < 2 ^ exponent := by positivity
  calc |mantissa * 2 ^ exponent - q| = |(mantissa - q / 2 ^ exponent) * 2 ^ exponent| := by
        rw [sub_mul, div_mul_cancel₀ _ unit.ne']
    _ = |(mantissa : ℚ) - q / 2 ^ exponent| * 2 ^ exponent := by rw [abs_mul, abs_of_pos unit]
    _ ≤ 1 / 2 * 2 ^ exponent := mul_le_mul_of_nonneg_right rounds.nearest.half unit.le
    _ = 2 ^ exponent / 2 := by ring

end RoundsTo

theorem ofQuotient_roundsTo (negative : Bool) (nonzero : n ≠ 0) (positive : 0 < d) :
    ∃ mantissa exponent, RoundsTo (n / d) mantissa exponent ∧
      (((ofQuotient negative n d).isFinite = true ∧
          |(ofQuotient negative n d).toRat| = mantissa * 2 ^ exponent) ∨
        (ofQuotient negative n d = .infinite negative ∧ maxExponent ≤ exponent)) := by
  obtain ⟨below, least, above⟩ := roundingExponent_spec nonzero positive
  have nearest := isNearest_roundQuotient (n * 2 ^ (-roundingExponent n d).toNat)
    (show 0 < d * 2 ^ (roundingExponent n d).toNat by positivity)
  rw [quotient_atScale] at nearest
  have rounds : RoundsTo _ _ _ := ⟨least, below, above, nearest⟩
  refine ⟨_, _, rounds, ?_⟩
  rw [ofQuotient, if_neg nonzero]
  simp only [atScale_eq roundQuotient]
  exact carried_spec negative rounds.mantissa_le least rounds.le_mantissa

/-- A quotient becomes a number that is near to it, or an infinity if it is `2 ^ 1023` or more. -/
theorem ofQuotient_spec (negative : Bool) (n : Nat) (positive : 0 < d) :
    ((ofQuotient negative n d).isFinite = true ∧ (ofQuotient negative n d).IsNear (n / d)) ∨
      (ofQuotient negative n d = .infinite negative ∧ (2 : ℚ) ^ (1023 : Int) ≤ n / d) := by
  rcases eq_or_ne n 0 with rfl | nonzero
  · refine .inl ⟨rfl, .inl ?_⟩
    simp [ofQuotient, zero, toRat]
  obtain ⟨mantissa, exponent, rounds, result⟩ := ofQuotient_roundsTo negative nonzero positive
  refine result.imp (fun ⟨fits, value⟩ => ⟨fits, ?_⟩) fun ⟨overflows, most⟩ => ⟨overflows, ?_⟩
  · rw [IsNear, value]
    rcases rounds.above with wide | rfl
    · -- half a unit is small compared with the quotient
      exact .inl (rounds.abs_sub_le.trans (by linarith))
    · exact .inr rounds.abs_sub_le
  · rcases rounds.above with wide | rfl
    · calc (2 : ℚ) ^ (1023 : Int) = 2 ^ (52 : Int) * 2 ^ maxExponent := by
            rw [← zpow_add₀ two_ne_zero, show 52 + maxExponent = 1023 by decide]
        _ ≤ 2 ^ (52 : Int) * 2 ^ exponent := by gcongr; exact one_le_two
        _ ≤ n / d := wide
    · exact absurd most (by decide)

end Exponent

/-! ## Magnitudes -/

/-- A number of at least half a unit is not rounded to more than twice its magnitude. -/
theorem IsNear.abs_toRat_le {x : Binary64} {magnitude : ℚ} (nonneg : 0 ≤ magnitude)
    (near : x.IsNear magnitude) : |x.toRat| ≤ 2 * magnitude := by
  rcases near with close | close
  · have := (abs_le.mp close).2
    have small : magnitude / 2 ^ 53 ≤ magnitude := div_le_self nonneg (by norm_num)
    linarith
  · have upper := (abs_le.mp close).2
    rcases x with _ | negative | ⟨negative, mantissa, exponent, canonical⟩
    · rw [toRat_nan, abs_zero]
      linarith
    · rw [toRat_infinite, abs_zero]
      linarith
    · rw [abs_toRat_finite] at upper ⊢
      rcases Nat.eq_zero_or_pos mantissa with rfl | full
      · simpa using nonneg
      · have unit : (2 : ℚ) ^ minExponent ≤ 2 ^ exponent :=
          zpow_le_zpow_right₀ one_le_two canonical.2.1
        have powers : (0 : ℚ) < 2 ^ exponent := by positivity
        have one : (1 : ℚ) ≤ mantissa := by exact_mod_cast full
        nlinarith

theorem IsNear.le_abs_toRat {x : Binary64} {magnitude : ℚ} (least : 2 ^ minExponent ≤ magnitude)
    (near : x.IsNear magnitude) : magnitude ≤ 2 * |x.toRat| := by
  have powers : (0 : ℚ) < 2 ^ minExponent := by positivity
  rcases near with close | close
  · have := (abs_le.mp close).1
    have small : magnitude / 2 ^ 53 ≤ magnitude / 2 := by
      gcongr
      · linarith
      · norm_num
    linarith
  · have := (abs_le.mp close).1
    linarith

end IssueBoard.Binary64
