import IssueBoard.Proofs.Number.Magnitude
import Mathlib.Data.Rat.Floor

/-! # Rounding and the order

Rounding keeps the order of magnitudes, and leaves a magnitude alone that is a multiple of a power of two
by a number of 53 bits. So what lies below such a magnitude is not rounded to more, and what is rounded
twice is off by about two parts in `2 ^ 53`.
-/

namespace IssueBoard.Binary64

/-! ## Mantissas -/

section Nearest

variable {m m' : Nat} {x x' : ℚ}

/-- Of two magnitudes the larger one has no smaller nearest number; a tie between two numbers goes to the
same one from both sides. -/
theorem IsNearest.mono (left : IsNearest m x) (right : IsNearest m' x') (le : x ≤ x') : m ≤ m' := by
  by_contra less
  obtain ⟨k, rfl⟩ : ∃ k, m = m' + 1 + k := ⟨m - (m' + 1), by omega⟩
  have nonneg : (0 : ℚ) ≤ k := Nat.cast_nonneg k
  have upper := (abs_le.mp left.half).2
  have lower := (abs_le.mp right.half).1
  push_cast at upper
  have same : (k : ℚ) = 0 := by linarith
  obtain rfl : k = 0 := by exact_mod_cast same
  have above : |((m' + 1 + 0 : Nat) : ℚ) - x| = 1 / 2 := by
    push_cast
    rw [abs_of_nonneg (by linarith)]
    linarith
  have below : |(m' : ℚ) - x'| = 1 / 2 := by
    rw [abs_of_nonpos (by linarith)]
    linarith
  have odd := left.even above
  rw [add_zero, Nat.even_add_one] at odd
  exact odd (right.even below)

theorem isNearest_natCast (m : Nat) : IsNearest m m := by
  constructor
  · rw [sub_self, abs_zero]
    norm_num
  · intro tie
    rw [sub_self, abs_zero] at tie
    norm_num at tie

theorem IsNearest.unique (left : IsNearest m x) (right : IsNearest m' x) : m = m' :=
  le_antisymm (left.mono right le_rfl) (right.mono left le_rfl)

end Nearest

namespace RoundsTo

variable {q q' : ℚ} {mantissa mantissa' : Nat} {exponent exponent' : Int}

theorem exponent_mono (left : RoundsTo q mantissa exponent) (right : RoundsTo q' mantissa' exponent')
    (le : q ≤ q') : exponent ≤ exponent' := by
  rcases left.above with wide | rfl
  · have less : (2 : ℚ) ^ exponent < 2 ^ (exponent' + 1) := by
      rw [zpow_add_one₀ two_ne_zero]
      linarith [right.below]
    exact Int.lt_add_one_iff.mp ((zpow_lt_zpow_iff_right₀ one_lt_two).mp less)
  · exact right.least

theorem mono (left : RoundsTo q mantissa exponent) (right : RoundsTo q' mantissa' exponent')
    (le : q ≤ q') : mantissa * (2 : ℚ) ^ exponent ≤ mantissa' * 2 ^ exponent' := by
  rcases (left.exponent_mono right le).eq_or_lt with rfl | less
  · have unit : (0 : ℚ) < 2 ^ exponent := by positivity
    have more := left.nearest.mono right.nearest ((div_le_div_iff_of_pos_right unit).mpr le)
    gcongr
  · -- the mantissa of the larger exponent is full
    have full := right.le_mantissa.resolve_right (lt_of_le_of_lt left.least less).ne'
    calc (mantissa : ℚ) * 2 ^ exponent ≤ (2 ^ 53 : Nat) * 2 ^ exponent := by
          gcongr
          exact left.mantissa_le
      _ = (2 ^ 52 : Nat) * 2 ^ (exponent + 1) := by
          rw [zpow_add_one₀ two_ne_zero]
          push_cast
          ring
      _ ≤ mantissa' * 2 ^ exponent' := by
          gcongr
          · exact one_le_two
          · exact less

/-- A magnitude that 53 bits hold is rounded to itself. -/
theorem eq_of_exact {k : Nat} {scale : Int} (rounds : RoundsTo (k * 2 ^ scale) mantissa exponent)
    (bits : k < 2 ^ 53) (least : minExponent ≤ scale) :
    mantissa * (2 : ℚ) ^ exponent = k * 2 ^ scale := by
  have unit : (0 : ℚ) < 2 ^ exponent := by positivity
  have finer : exponent ≤ scale := by
    rcases rounds.above with wide | rfl
    · have short : (k : ℚ) < 2 ^ 53 := by exact_mod_cast bits
      have : (2 : ℚ) ^ exponent < 2 ^ (scale + 1) := by
        rw [zpow_add_one₀ two_ne_zero]
        nlinarith [mul_lt_mul_of_pos_right short (show (0 : ℚ) < 2 ^ scale by positivity)]
      exact Int.lt_add_one_iff.mp ((zpow_lt_zpow_iff_right₀ one_lt_two).mp this)
    · exact least
  obtain ⟨j, rfl⟩ : ∃ j : Nat, scale = j + exponent := ⟨(scale - exponent).toNat, by omega⟩
  have whole : (k : ℚ) * 2 ^ ((j : Int) + exponent) = (k * 2 ^ j : Nat) * 2 ^ exponent := by
    rw [zpow_add₀ two_ne_zero, zpow_natCast]
    push_cast
    ring
  have nearest := rounds.nearest
  rw [whole, mul_div_cancel_right₀ _ unit.ne'] at nearest
  rw [whole, nearest.unique (isNearest_natCast _)]

end RoundsTo

/-! ## Magnitudes -/

/-- Whether a magnitude is rounded to another one. -/
def Rounds (q r : ℚ) : Prop :=
  (q = 0 ∧ r = 0) ∨ (0 < q ∧ ∃ mantissa exponent, RoundsTo q mantissa exponent ∧ r = mantissa * 2 ^ exponent)

namespace Rounds

variable {q q' r r' : ℚ}

theorem nonneg (rounds : Rounds q r) : 0 ≤ r := by
  rcases rounds with ⟨-, rfl⟩ | ⟨-, mantissa, exponent, -, rfl⟩
  · exact le_rfl
  · positivity

theorem mono (left : Rounds q r) (right : Rounds q' r') (le : q ≤ q') : r ≤ r' := by
  rcases left with ⟨-, rfl⟩ | ⟨positive, mantissa, exponent, rounds, rfl⟩
  · exact right.nonneg
  · rcases right with ⟨rfl, -⟩ | ⟨-, mantissa', exponent', rounds', rfl⟩
    · exact absurd positive le.not_gt
    · exact rounds.mono rounds' le

theorem unique (left : Rounds q r) (right : Rounds q r') : r = r' :=
  le_antisymm (left.mono right le_rfl) (right.mono left le_rfl)

theorem eq_zero (rounds : Rounds 0 r) : r = 0 := by
  rcases rounds with ⟨-, zero⟩ | ⟨positive, -⟩
  · exact zero
  · exact absurd positive (lt_irrefl 0)

theorem eq_of_exact {k : Nat} {scale : Int} (rounds : Rounds (k * 2 ^ scale) r) (bits : k < 2 ^ 53)
    (least : minExponent ≤ scale) : r = k * 2 ^ scale := by
  rcases rounds with ⟨zero, rfl⟩ | ⟨-, mantissa, exponent, rounds, rfl⟩
  · exact zero.symm
  · exact rounds.eq_of_exact bits least

theorem eq_of_natCast {k : Nat} (rounds : Rounds k r) (bits : k < 2 ^ 53) : r = k := by
  have one : (k : ℚ) * 2 ^ (0 : Int) = k := by rw [zpow_zero, mul_one]
  rw [← one] at rounds ⊢
  exact rounds.eq_of_exact bits (by decide)

/-- One part in `2 ^ 53` is the error, unless the magnitude is among the very smallest. -/
theorem abs_sub_le (rounds : Rounds q r) (normal : q = 0 ∨ 2 ^ (-1000 : Int) ≤ q) :
    |r - q| ≤ q / 2 ^ 53 := by
  rcases rounds with ⟨rfl, rfl⟩ | ⟨positive, mantissa, exponent, rounds, rfl⟩
  · norm_num
  · have close := rounds.abs_sub_le
    rcases rounds.above with wide | rfl
    · exact close.trans (by linarith)
    · refine close.trans ?_
      have least : (2 : ℚ) ^ minExponent * 2 ^ (52 : Int) ≤ 2 ^ (-1000 : Int) := by
        rw [← zpow_add₀ two_ne_zero]
        exact zpow_le_zpow_right₀ one_le_two (by decide)
      have large := normal.resolve_left positive.ne'
      have width : (2 : ℚ) ^ (52 : Int) = 2 ^ 52 := by norm_num
      rw [width] at least
      linarith

end Rounds

/-! ## Numbers -/

theorem toRat_eq_abs {x : Binary64} (positive : x.isNegative = false) : x.toRat = |x.toRat| := by
  cases x with
  | nan => rfl
  | infinite => rfl
  | finite negative mantissa exponent canonical =>
    cases (positive : negative = false)
    rw [abs_toRat_finite, toRat, powerOfTwo_eq]
    rfl

theorem toRat_eq_neg_abs {x : Binary64} (negative : x.isNegative = true) : x.toRat = -|x.toRat| := by
  cases x with
  | nan => cases negative
  | infinite => rfl
  | finite sign mantissa exponent canonical =>
    cases (negative : sign = true)
    rw [abs_toRat_finite, toRat, powerOfTwo_eq]
    rfl

theorem isNegative_ofCanonical (negative : Bool) (mantissa : Nat) (exponent : Int) :
    (ofCanonical negative mantissa exponent).isNegative = negative := by
  rw [ofCanonical]
  split <;> rfl

theorem isNegative_ofQuotient (negative : Bool) (n d : Nat) :
    (ofQuotient negative n d).isNegative = negative := by
  rw [ofQuotient]
  split
  · rfl
  · simp only [apply_ite isNegative, isNegative_ofCanonical, ite_self]

section Quotient

variable {n d : Nat}

theorem ofQuotient_rounds (negative : Bool) (positive : 0 < d) (small : (n : ℚ) / d < 2 ^ (1023 : Int)) :
    (ofQuotient negative n d).isFinite = true ∧ Rounds (n / d) |(ofQuotient negative n d).toRat| := by
  rcases ofQuotient_spec negative n positive with ⟨finite, -⟩ | ⟨-, large⟩
  · refine ⟨finite, ?_⟩
    rcases eq_or_ne n 0 with rfl | nonzero
    · exact .inl ⟨by simp, by simp [ofQuotient, zero, toRat]⟩
    · obtain ⟨mantissa, exponent, rounds, ⟨-, value⟩ | ⟨overflows, -⟩⟩ :=
        ofQuotient_roundsTo negative nonzero positive
      · refine .inr ⟨?_, mantissa, exponent, rounds, value⟩
        have : (0 : ℚ) < n := by exact_mod_cast Nat.pos_of_ne_zero nonzero
        positivity
      · rw [overflows] at finite
        cases finite
  · exact absurd small large.not_gt

end Quotient

section Round

variable {value : ℚ}

theorem round_rounds (small : |value| < 2 ^ (1023 : Int)) : Rounds |value| |(round value).toRat| := by
  rw [abs_eq_natAbs_div] at small ⊢
  exact (ofQuotient_rounds _ value.den_pos small).2

theorem round_rounds_of_nonneg (nonneg : 0 ≤ value) (small : value < 2 ^ (1023 : Int)) :
    Rounds value (round value).toRat := by
  have rounds := round_rounds ((abs_of_nonneg nonneg).trans_lt small)
  rwa [abs_of_nonneg nonneg, ← toRat_eq_abs] at rounds
  rw [round, isNegative_ofQuotient]
  exact decide_eq_false (Rat.num_nonneg.mpr nonneg).not_gt

theorem toRat_round_nonpos (nonpos : value ≤ 0) : (round value).toRat ≤ 0 := by
  rcases nonpos.eq_or_lt with rfl | negative
  · decide +kernel
  · rw [toRat_eq_neg_abs]
    · exact neg_nonpos.mpr (abs_nonneg _)
    · rw [round, isNegative_ofQuotient]
      exact decide_eq_true (Rat.num_neg.mpr negative)

/-- Integers of 53 bits are numbers of floating point. -/
theorem toRat_round_intCast {n : Int} (bits : n.natAbs < 2 ^ 53) : (round (n : ℚ)).toRat = n := by
  have magnitude : |(n : ℚ)| = n.natAbs := by rw [Nat.cast_natAbs, Int.cast_abs]
  have short : ((n.natAbs : Nat) : ℚ) < 2 ^ (1023 : Int) := by
    have : ((n.natAbs : Nat) : ℚ) < 2 ^ (53 : Int) := by exact_mod_cast bits
    exact this.trans (zpow_lt_zpow_right₀ one_lt_two (by decide))
  have rounds := round_rounds (magnitude.trans_lt short)
  rw [magnitude] at rounds
  have value := rounds.eq_of_natCast bits
  rcases le_total 0 n with nonneg | nonpos
  · rw [toRat_eq_abs, value, ← magnitude, abs_of_nonneg (by exact_mod_cast nonneg)]
    rw [round, isNegative_ofQuotient, Rat.num_intCast]
    exact decide_eq_false nonneg.not_gt
  · rcases nonpos.eq_or_lt with rfl | negative
    · decide +kernel
    · rw [toRat_eq_neg_abs, value, ← magnitude, abs_of_neg (by exact_mod_cast negative), neg_neg]
      rw [round, isNegative_ofQuotient, Rat.num_intCast]
      exact decide_eq_true negative

theorem toRat_rounded (negative : Bool) (value : ℚ) :
    (rounded negative value).toRat = (round value).toRat := by
  rw [rounded]
  split
  · next same =>
    rw [same]
    cases negative <;> decide +kernel
  · rfl

end Round

/-! ## Rounding twice -/

/-- Whether an integer is the whole part of a product whose first factor has been rounded and which has then
been rounded itself. -/
def RoundedTwice (a c : ℚ) (n : Int) : Prop := ∃ r s, Rounds a r ∧ Rounds (r * c) s ∧ n = ⌊s⌋

namespace RoundedTwice

variable {a a' c c' : ℚ} {n n' : Int}

theorem mono (left : RoundedTwice a c n) (right : RoundedTwice a' c' n') (first : a ≤ a')
    (nonneg : 0 ≤ c) (second : c ≤ c') : n ≤ n' := by
  obtain ⟨r, s, factor, product, rfl⟩ := left
  obtain ⟨r', s', factor', product', rfl⟩ := right
  exact Int.floor_le_floor (product.mono product'
    (mul_le_mul (factor.mono factor' first) second nonneg factor'.nonneg))

theorem unique (left : RoundedTwice a c n) (right : RoundedTwice a c n') (nonneg : 0 ≤ c) : n = n' :=
  le_antisymm (left.mono right le_rfl nonneg le_rfl) (right.mono left le_rfl nonneg le_rfl)

/-- The error of two roundings is little more than two parts in `2 ^ 53`. -/
theorem exists_close (twice : RoundedTwice a c n) (normal : 2 ^ (-999 : Int) ≤ a) (large : 1 ≤ c) :
    ∃ s : ℚ, n = ⌊s⌋ ∧ |s - a * c| ≤ a * c * (9 / 2 ^ 55) := by
  obtain ⟨r, s, factor, product, rfl⟩ := twice
  refine ⟨s, rfl, ?_⟩
  have least : (0 : ℚ) < 2 ^ (-1000 : Int) := by positivity
  have twice : (2 : ℚ) ^ (-999 : Int) = 2 ^ (-1000 : Int) * 2 :=
    zpow_add_one₀ two_ne_zero (-1000)
  have first := factor.abs_sub_le (.inr (by linarith))
  obtain ⟨lower, upper⟩ := abs_le.mp first
  have second := product.abs_sub_le (.inr (by nlinarith))
  calc |s - a * c| = |(s - r * c) + (r - a) * c| := by ring_nf
    _ ≤ |s - r * c| + |(r - a) * c| := abs_add_le _ _
    _ ≤ r * c / 2 ^ 53 + a / 2 ^ 53 * c := by
      rw [abs_mul, abs_of_nonneg (zero_le_one.trans large)]
      exact add_le_add second (mul_le_mul_of_nonneg_right first (zero_le_one.trans large))
    _ ≤ a * c * (9 / 2 ^ 55) := by
      have more : r * c ≤ (a + a / 2 ^ 53) * c :=
        mul_le_mul_of_nonneg_right (by linarith) (zero_le_one.trans large)
      have : 0 ≤ a * c := by nlinarith
      linarith

end RoundedTwice

/-- A quotient is at least its whole part, and below the next whole number by one part of the divisor. It is
above its whole part by as much, unless the division is exact. -/
theorem quotient_between (dividend : Int) {divisor : Int} (positive : 0 < divisor) :
    ((dividend / divisor : Int) : ℚ) ≤ (dividend : ℚ) / divisor ∧
      (dividend : ℚ) / divisor + 1 / divisor ≤ ((dividend / divisor + 1 : Int) : ℚ) ∧
      (¬divisor ∣ dividend → ((dividend / divisor : Int) : ℚ) + 1 / divisor ≤ (dividend : ℚ) / divisor) := by
  have divides : (0 : ℚ) < divisor := by exact_mod_cast positive
  have parts := Int.mul_ediv_add_emod dividend divisor
  have rest := Int.emod_lt_of_pos dividend positive
  have restNonneg := Int.emod_nonneg dividend positive.ne'
  refine ⟨?_, ?_, fun inexact => ?_⟩
  · rw [le_div_iff₀ divides]
    have : dividend / divisor * divisor ≤ dividend := Int.ediv_mul_le _ positive.ne'
    exact_mod_cast this
  · rw [← add_div, div_le_iff₀ divides]
    have : dividend + 1 ≤ (dividend / divisor + 1) * divisor := by
      rw [add_mul, one_mul, mul_comm]
      omega
    exact_mod_cast this
  · rw [← sub_nonneg, ← sub_sub, sub_right_comm, ← sub_div, sub_nonneg, le_div_iff₀ divides]
    have remainder : dividend % divisor ≠ 0 := mt Int.dvd_of_emod_eq_zero inexact
    have : dividend / divisor * divisor ≤ dividend - 1 := by
      rw [mul_comm]
      omega
    exact_mod_cast this

/-- The whole part of what is close to a quotient of at most one hundred is that of the quotient or next to
it. If the divisor is not too large it is no larger, and it is the same unless the division is exact. -/
theorem floor_close {dividend divisor : Int} {s : ℚ} (positive : 0 < divisor)
    (less : dividend ≤ 100 * divisor)
    (close : |s - (dividend : ℚ) / divisor| ≤ (dividend : ℚ) / divisor * (9 / 2 ^ 55)) :
    |⌊s⌋ - dividend / divisor| ≤ 1 ∧
      (divisor < 2 ^ 45 → ⌊s⌋ ≤ dividend / divisor ∧
        (¬divisor ∣ dividend → dividend / divisor ≤ ⌊s⌋)) := by
  obtain ⟨lower, upper⟩ := abs_le.mp close
  obtain ⟨whole, next, inside⟩ := quotient_between dividend positive
  have divides : (0 : ℚ) < divisor := by exact_mod_cast positive
  have small : (dividend : ℚ) / divisor ≤ 100 := by
    rw [div_le_iff₀ divides]
    exact_mod_cast less
  have unit : (0 : ℚ) < 1 / divisor := by positivity
  refine ⟨?_, fun short => ?_⟩
  · have above : ⌊s⌋ < dividend / divisor + 2 := by
      rw [Int.floor_lt]
      push_cast at next ⊢
      linarith
    have below : dividend / divisor - 1 ≤ ⌊s⌋ := by
      rw [Int.le_floor]
      push_cast
      linarith
    rw [abs_le]
    omega
  · -- the error is less than one part of the divisor
    have fine : (dividend : ℚ) / divisor * (9 / 2 ^ 55) < 1 / divisor := by
      have bound : (divisor : ℚ) < 2 ^ 45 := by exact_mod_cast short
      rw [div_mul_eq_mul_div, div_lt_div_iff_of_pos_right divides]
      have : (dividend : ℚ) ≤ 100 * divisor := by exact_mod_cast less
      linarith
    refine ⟨Int.lt_add_one_iff.mp (Int.floor_lt.mpr (by linarith)), fun inexact => ?_⟩
    rw [Int.le_floor]
    linarith [inside inexact]

end IssueBoard.Binary64
