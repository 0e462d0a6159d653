import IssueBoard.Proofs.Number.Order
import IssueBoard.Proofs.Render.Scaling
import Mathlib.Order.Bounds.Basic

/-! # Bars in proportion

The bars of a graph are meant to be the whole part of an exact share of the largest number. A page takes the
share in floating point and makes percents of it; a table divides the full length first and multiplies by
it. Both round twice before they drop the fraction. This keeps the order of the bars and no bar becomes too
long, but where the exact share is whole, what is rounded can fall short of it by a piece.
-/

namespace IssueBoard.Render

open Binary64 (Rounds RoundedTwice)

/-! ## Graphs of integers -/

/-- The largest of some integers and zero. -/
def most : List Int → Int
  | [] => 0
  | count :: rest => max count (most rest)

theorem isGreatest_most (counts : List Int) : IsGreatest {n | n = 0 ∨ n ∈ counts} (most counts) := by
  induction counts with
  | nil => exact ⟨.inl rfl, fun n member => (member.resolve_right List.not_mem_nil).le⟩
  | cons count rest ih =>
    obtain ⟨member, upper⟩ := ih
    constructor
    · rw [most]
      rcases max_choice count (most rest) with same | same <;> rw [same]
      · exact .inr List.mem_cons_self
      · exact member.imp_right (List.mem_cons_of_mem _)
    · rintro n (zero | among)
      · exact (upper (.inl zero)).trans (le_max_right _ _)
      · rcases List.mem_cons.mp among with rfl | later
        · exact le_max_left _ _
        · exact (upper (.inr later)).trans (le_max_right _ _)

theorem greatest_integers (counts : List Int) :
    greatest (counts.map .integer) = .integer (most counts) := by
  have finite : ∀ n ∈ counts.map Number.integer, n.isFinite = true := by
    rw [List.forall_mem_map]
    exact fun _ _ => rfl
  obtain ⟨above, nonneg⟩ := le_greatest finite
  obtain ⟨g, same, member⟩ : ∃ g, greatest (counts.map .integer) = .integer g ∧ (g = 0 ∨ g ∈ counts) := by
    rcases greatest_mem (counts.map .integer) with member | zero
    · obtain ⟨g, among, same⟩ := List.mem_map.mp member
      exact ⟨g, same.symm, .inr among⟩
    · exact ⟨0, zero, .inl rfl⟩
  rw [same] at above nonneg ⊢
  have largest : IsGreatest {n | n = 0 ∨ n ∈ counts} g := by
    refine ⟨member, ?_⟩
    rintro n (rfl | among)
    · rw [← Int.cast_zero, Number.toRat, Int.cast_le] at nonneg
      exact nonneg
    · have less := above (.integer n) (List.mem_map_of_mem among)
      rwa [Number.toRat, Number.toRat, Int.cast_le] at less
  rw [largest.unique (isGreatest_most counts)]

/-- A number widget of a graph whose value is an integer of 53 bits. -/
structure Tally where
  caption : Caption
  count : Int
  color : Option String
  bits : count.natAbs < 2 ^ 53

namespace Tally

/-- A tally as a static number of a graph. -/
def mark (tally : Tally) : Mark := ⟨tally.caption, .integer tally.count, tally.color⟩

theorem abs_lt {n : Int} (bits : n.natAbs < 2 ^ 53) : |(n : ℚ)| < 2 ^ (53 : Int) := by
  rw [← Int.cast_abs, Int.abs_eq_natAbs]
  exact_mod_cast bits

theorem abs_lt_of_bits {n : Int} (bits : n.natAbs < 2 ^ 53) : |(n : ℚ)| < 2 ^ (1023 : Int) :=
  (abs_lt bits).trans (zpow_lt_zpow_right₀ one_lt_two (by decide))

theorem measured_mark (tally : Tally) :
    tally.mark.bar.measured = .ok (tally.mark.bar, .integer tally.count) := by
  obtain ⟨x, found⟩ := representable_iff.mp (representable_of_le (abs_lt_of_bits tally.bits))
  have shown : tally.mark.bar.number = .ok (.integer tally.count) := rfl
  rw [Bar.measured, shown]
  change ((Number.integer tally.count).toReal.mapError Failure.fault >>= _) = _
  rw [found]
  rfl

end Tally

/-- The whole part of the exact share of a value, in pieces of which the maximum has a given number. -/
def share (full : Nat) (maximum value : Int) : Int := max 0 (full * value / maximum)

/-- Whether a value of 53 bits is at most the maximum. -/
def Fits (maximum value : Int) : Prop := value.natAbs < 2 ^ 53 ∧ value ≤ maximum

/-- Whether the lengths of bars are in proportion as far as rounding allows: the order is kept, no bar is too
long, none is off by more than a piece; and below `2 ^ 45` a bar can only be too short, and only where the
exact share is whole. -/
structure IsProportional (full : Nat) (maximum : Int) (length : Int → Int) : Prop where
  mono : ∀ v w, Fits maximum v → Fits maximum w → v ≤ w → length v ≤ length w
  bounded : ∀ v, Fits maximum v → 0 ≤ length v ∧ length v ≤ full
  close : ∀ v, Fits maximum v → |length v - share full maximum v| ≤ 1
  short : maximum < 2 ^ 45 → ∀ v, Fits maximum v → length v ≤ share full maximum v
  exact : maximum < 2 ^ 45 → ∀ v, Fits maximum v → v ≤ 0 ∨ ¬maximum ∣ full * v →
    length v = share full maximum v

section Lengths

variable {full : Nat} {maximum : Int} {length : Int → Int} {a c : Int → ℚ}

theorem share_of_nonpos (nonneg : 0 ≤ maximum) {value : Int} (nonpos : value ≤ 0) :
    share full maximum value = 0 := by
  refine max_eq_left ?_
  rcases nonneg.eq_or_lt with zero | positive
  · rw [← zero, Int.ediv_zero]
  · have below : full * value ≤ 0 := mul_nonpos_of_nonneg_of_nonpos (Int.natCast_nonneg full) nonpos
    exact (Int.ediv_le_ediv positive below).trans_eq (Int.zero_ediv maximum)

theorem share_of_nonneg (nonneg : 0 ≤ maximum) {value : Int} (above : 0 ≤ value) :
    share full maximum value = full * value / maximum :=
  max_eq_right (Int.ediv_nonneg (mul_nonneg (Int.natCast_nonneg full) above) nonneg)

/-- The whole part of a share that is rounded twice is not negative, does not exceed the full length and is off
by at most one. For numbers that are not too large it is too short if it is off, and off only if the share is
whole. -/
theorem near_of_roundedTwice (few : full ≤ 100) {v : Int} (fits : Fits maximum v) (positive : 0 < v) {x y : ℚ}
    {n : Int} (twice : RoundedTwice x y n) (normal : 2 ^ (-999 : Int) ≤ x ∧ 1 ≤ y)
    (product : x * y = ((full * v : Int) : ℚ) / maximum) :
    (0 ≤ n ∧ n ≤ full) ∧ |n - full * v / maximum| ≤ 1 ∧
      (maximum < 2 ^ 45 → n ≤ full * v / maximum ∧ (¬maximum ∣ full * v → full * v / maximum ≤ n)) := by
  obtain ⟨s, same, close⟩ := twice.exists_close normal.1 normal.2
  have divides : 0 < maximum := positive.trans_le fits.2
  have divides' : (0 : ℚ) < maximum := by exact_mod_cast divides
  have many : (full : ℚ) ≤ 100 := by exact_mod_cast few
  have whole : ((full * v : Int) : ℚ) / maximum ≤ full := by
    rw [div_le_iff₀ divides']
    exact_mod_cast mul_le_mul_of_nonneg_left fits.2 (Int.natCast_nonneg full)
  have above : 0 ≤ ((full * v : Int) : ℚ) / maximum :=
    div_nonneg (by exact_mod_cast mul_nonneg (Int.natCast_nonneg full) positive.le) divides'.le
  rw [product] at close
  constructor
  · obtain ⟨lower, upper⟩ := abs_le.mp close
    rw [same, Int.floor_nonneg, ← Int.lt_add_one_iff, Int.floor_lt]
    push_cast at lower upper whole above ⊢
    constructor <;> linarith
  · rw [same]
    refine Binary64.floor_close divides ?_ close
    have : (full : Int) ≤ 100 := by exact_mod_cast few
    nlinarith [fits.2]

/-- Lengths are in proportion if they are the whole parts of shares that are rounded twice. -/
theorem isProportional_of_roundedTwice (nonneg : 0 ≤ maximum) (few : full ≤ 100)
    (empty : ∀ v, Fits maximum v → v ≤ 0 → length v = 0)
    (twice : ∀ v, Fits maximum v → 0 < v → RoundedTwice (a v) (c v) (length v))
    (normal : ∀ v, Fits maximum v → 0 < v → 2 ^ (-999 : Int) ≤ a v ∧ 1 ≤ c v)
    (increasing : ∀ v w, 0 < v → v ≤ w → a v ≤ a w ∧ c v ≤ c w)
    (product : ∀ v, a v * c v = ((full * v : Int) : ℚ) / maximum) :
    IsProportional full maximum length := by
  have near (v : Int) (fits : Fits maximum v) (positive : 0 < v) :=
    near_of_roundedTwice few fits positive (twice v fits positive) (normal v fits positive) (product v)
  constructor
  · intro v w left right le
    rcases le_or_gt v 0 with nonpos | positive
    · rw [empty v left nonpos]
      rcases le_or_gt w 0 with nonpos' | positive'
      · rw [empty w right nonpos']
      · exact (near w right positive').1.1
    · have positive' := positive.trans_le le
      obtain ⟨first, second⟩ := increasing v w positive le
      exact (twice v left positive).mono (twice w right positive') first
        (zero_le_one.trans (normal v left positive).2) second
  · intro v fits
    rcases le_or_gt v 0 with nonpos | positive
    · rw [empty v fits nonpos]
      exact ⟨le_rfl, Int.natCast_nonneg full⟩
    · exact (near v fits positive).1
  · intro v fits
    rcases le_or_gt v 0 with nonpos | positive
    · rw [empty v fits nonpos, share_of_nonpos nonneg nonpos]
      decide
    · rw [share_of_nonneg nonneg positive.le]
      exact (near v fits positive).2.1
  · intro less v fits
    rcases le_or_gt v 0 with nonpos | positive
    · rw [empty v fits nonpos, share_of_nonpos nonneg nonpos]
    · rw [share_of_nonneg nonneg positive.le]
      exact ((near v fits positive).2.2 less).1
  · intro less v fits inexact
    rcases le_or_gt v 0 with nonpos | positive
    · rw [empty v fits nonpos, share_of_nonpos nonneg nonpos]
    · obtain ⟨upper, lower⟩ := (near v fits positive).2.2 less
      rw [share_of_nonneg nonneg positive.le]
      exact le_antisymm upper (lower (inexact.resolve_left positive.not_ge))

end Lengths

theorem isPositive_integer (n : Int) : isPositive (.integer n) = true ↔ 0 < n := by
  rw [isPositive_iff rfl, Number.toRat, Int.cast_pos]

/-! ## Shares in floating point -/

section Quotient

variable {m n : Int}

theorem abs_div_lt (positive : 0 < n) (bits : m.natAbs < 2 ^ 53) : |(m : ℚ) / n| < 2 ^ (53 : Int) := by
  have one : (1 : ℚ) ≤ n := by exact_mod_cast positive
  rw [abs_div, abs_of_pos (zero_lt_one.trans_le one), div_lt_iff₀ (zero_lt_one.trans_le one)]
  nlinarith [Tally.abs_lt bits, abs_nonneg (m : ℚ)]

/-- No share of a maximum of 53 bits is among the very smallest numbers. -/
theorem least_le_div (above : 0 < m) (positive : 0 < n) (bits : n.natAbs < 2 ^ 53) :
    2 ^ (-999 : Int) ≤ (m : ℚ) / n := by
  have divides : (0 : ℚ) < n := by exact_mod_cast positive
  have one : (1 : ℚ) ≤ m := by exact_mod_cast above
  have short := (le_abs_self (n : ℚ)).trans (Tally.abs_lt bits).le
  rw [le_div_iff₀ divides]
  calc (2 : ℚ) ^ (-999 : Int) * n ≤ 2 ^ (-999 : Int) * 2 ^ (53 : Int) := by gcongr
    _ ≤ 1 := by
      rw [← zpow_add₀ two_ne_zero]
      exact zpow_le_one_of_nonpos₀ one_le_two (by decide)
    _ ≤ m := one

/-- The quotient of an integer of 53 bits by a positive one is rounded once and keeps its sign. -/
theorem quotient_of_bits (positive : 0 < n) (bits : m.natAbs < 2 ^ 53) :
    ∃ x, (Number.integer m).quotient (.integer n) = .ok x ∧ x.isFinite = true ∧
      |x.toRat| < 2 ^ (54 : Int) ∧ (0 ≤ m → Rounds ((m : ℚ) / n) x.toRat) ∧ (m ≤ 0 → x.toRat ≤ 0) := by
  have less := abs_div_lt positive bits
  have moderate : |(m : ℚ) / n| < 2 ^ (1023 : Int) :=
    less.trans (zpow_lt_zpow_right₀ one_lt_two (by decide))
  rcases Number.quotient_integers m positive.ne' with ⟨found, finite, near⟩ | ⟨-, large⟩
  · have sign := Binary64.isNegative_ofQuotient (decide (m < 0) != decide (n < 0)) m.natAbs n.natAbs
    rw [decide_eq_false positive.not_gt, Bool.bne_false] at sign found finite near
    have magnitude : ((m.natAbs : Nat) : ℚ) / n.natAbs = |(m : ℚ) / n| := by
      rw [abs_div, Nat.cast_natAbs, Nat.cast_natAbs, Int.cast_abs, Int.cast_abs]
    have rounds := (Binary64.ofQuotient_rounds (decide (m < 0)) (Int.natAbs_pos.mpr positive.ne')
      (magnitude.trans_lt moderate)).2
    rw [magnitude] at rounds
    have bound := near.abs_toRat_le (abs_nonneg _)
    generalize Binary64.ofQuotient (decide (m < 0)) m.natAbs n.natAbs = x at *
    refine ⟨x, found, finite, ?_, fun nonneg => ?_, fun nonpos => ?_⟩
    · have twice : (2 : ℚ) ^ (54 : Int) = 2 * 2 ^ (53 : Int) := zpow_one_add₀ two_ne_zero 53
      linarith
    · rw [decide_eq_false nonneg.not_gt] at sign
      rwa [← Binary64.toRat_eq_abs sign, abs_of_nonneg] at rounds
      exact div_nonneg (by exact_mod_cast nonneg) (by exact_mod_cast positive.le)
    · rcases nonpos.eq_or_lt with rfl | negative
      · rw [Int.cast_zero, zero_div, abs_zero] at rounds
        exact (abs_eq_zero.mp rounds.eq_zero).le
      · rw [decide_eq_true negative] at sign
        rw [Binary64.toRat_eq_neg_abs sign]
        exact neg_nonpos.mpr (abs_nonneg _)
  · exact absurd moderate large.not_gt

end Quotient

namespace Html

/-- The width of a bar in percent of a positive maximum. -/
theorem width_of_pos {maximum value : Int} (positive : 0 < maximum) (bits : value.natAbs < 2 ^ 53) :
    ∃ percent, width (.integer maximum) (.integer value) = .ok percent ∧
      (value ≤ 0 → percent = 0) ∧
      (0 < value → RoundedTwice ((value : ℚ) / maximum) 100 percent) := by
  obtain ⟨x, found, finite, moderate, above, below⟩ := quotient_of_bits positive bits
  have hundred : (Binary64.round 100).toRat = 100 := by decide +kernel
  have product := Binary64.mul_eq_rounded finite (show (Binary64.round 100).isFinite = true by decide +kernel)
  have bound : |x.toRat * 100| < 2 ^ (1023 : Int) := by
    rw [abs_mul]
    calc |x.toRat| * |100| < 2 ^ (54 : Int) * 2 ^ (7 : Int) := by
          norm_num at moderate ⊢
          linarith
      _ < 2 ^ (1023 : Int) := by
        rw [← zpow_add₀ two_ne_zero]
        exact zpow_lt_zpow_right₀ one_lt_two (by decide)
  rw [hundred] at product
  have fits : (x * Binary64.round 100).isFinite = true := by
    rw [product]
    exact Binary64.isFinite_rounded _ bound
  have exact' : (x * Binary64.round 100).toRat = (Binary64.round (x.toRat * 100)).toRat := by
    rw [product, Binary64.toRat_rounded]
  refine ⟨max ⌊(x * Binary64.round 100).toRat⌋ 0, ?_, ?_, ?_⟩
  · rw [width, if_pos ((isPositive_integer maximum).mpr positive), found]
    change ((Number.floor (.real (x * Binary64.round 100))).mapError Failure.fault >>= _) = _
    rw [Number.floor_of_isFinite fits]
    rfl
  · intro nonpos
    refine max_eq_right (Int.floor_nonpos ?_)
    rw [exact']
    exact Binary64.toRat_round_nonpos (mul_nonpos_of_nonpos_of_nonneg (below nonpos) (by norm_num))
  · intro more
    have rounds := above more.le
    have nonneg : 0 ≤ x.toRat * 100 := mul_nonneg rounds.nonneg (by norm_num)
    have twice := Binary64.round_rounds_of_nonneg nonneg ((le_abs_self _).trans_lt bound)
    refine ⟨_, _, rounds, twice, ?_⟩
    rw [exact', max_eq_left (Int.floor_nonneg.mpr twice.nonneg)]

/-- The width of a bar whose exact share is a whole number of percent. Three such shares are rounded to less. -/
theorem width_percent (k : Fin 101) : (width (.integer 100) (.integer k)).toOption =
    some (if k = (29 : Nat) ∨ k = (57 : Nat) ∨ k = (58 : Nat) then (k : Int) - 1 else k) := by
  revert k
  decide +kernel

/-- What is a whole number of percent of the maximum is as wide as that, but for three such numbers. -/
theorem eq_of_whole {maximum value percent : Int} {k : Nat} (positive : 0 < maximum) (above : 0 < value)
    (le : value ≤ maximum) (whole : 100 * value = k * maximum)
    (twice : RoundedTwice ((value : ℚ) / maximum) 100 percent) :
    percent = if k = 29 ∨ k = 57 ∨ k = 58 then (k : Int) - 1 else k := by
  have few : k < 101 := by
    by_contra more
    nlinarith [show (101 : Int) ≤ k by exact_mod_cast not_lt.mp more]
  have some : 0 < k := by
    by_contra none
    obtain rfl : k = 0 := by omega
    simp at whole
    omega
  have bits : ((k : Int)).natAbs < 2 ^ 53 := by
    rw [Int.natAbs_natCast]
    omega
  obtain ⟨other, ran, -, rounded⟩ := width_of_pos (show (0 : Int) < 100 by decide) bits
  have found := width_percent ⟨k, few⟩
  rw [ran] at found
  have same : (value : ℚ) / maximum = ((k : Int) : ℚ) / ((100 : Int) : ℚ) := by
    have : (0 : ℚ) < maximum := by exact_mod_cast positive
    rw [div_eq_div_iff this.ne' (by norm_num)]
    exact_mod_cast (mul_comm _ _).trans whole
  rw [same] at twice
  rw [twice.unique (rounded (by exact_mod_cast some)) (by norm_num)]
  exact Option.some.inj found

/-- The widths of a graph: they are in proportion, and where the exact share is whole, only three are not
exact. -/
theorem exists_percent {maximum : Int} (nonneg : 0 ≤ maximum) (bits : maximum.natAbs < 2 ^ 53) :
    ∃ percent : Int → Int,
      (∀ v : Int, v.natAbs < 2 ^ 53 → width (.integer maximum) (.integer v) = .ok (percent v)) ∧
      IsProportional 100 maximum percent ∧
      ∀ (v : Int) (k : Nat), Fits maximum v → 0 < v → 100 * v = k * maximum →
        percent v = if k = 29 ∨ k = 57 ∨ k = 58 then (k : Int) - 1 else k := by
  let percent (v : Int) : Int := (width (.integer maximum) (.integer v)).toOption.getD 0
  have spec (v : Int) (bits : v.natAbs < 2 ^ 53) :
      width (.integer maximum) (.integer v) = .ok (percent v) ∧ (v ≤ 0 → percent v = 0) ∧
        (0 < v → v ≤ maximum → RoundedTwice ((v : ℚ) / maximum) 100 (percent v)) := by
    rcases nonneg.eq_or_lt with rfl | positive
    · exact ⟨rfl, fun _ => rfl, fun more le => absurd more le.not_gt⟩
    · obtain ⟨width, ran, empty, full⟩ := width_of_pos positive bits
      have same : percent v = width := by simp only [percent, ran]; rfl
      rw [same]
      exact ⟨ran, empty, fun more _ => full more⟩
  refine ⟨percent, fun v bits => (spec v bits).1, ?_, ?_⟩
  · refine isProportional_of_roundedTwice (a := fun v => (v : ℚ) / maximum) (c := fun _ => 100) nonneg
      le_rfl (fun v fits => (spec v fits.1).2.1) (fun v fits more => (spec v fits.1).2.2 more fits.2)
      (fun v fits more => ⟨least_le_div more (more.trans_le fits.2) bits, by norm_num⟩) ?_ ?_
    · intro v w _ le
      refine ⟨?_, le_rfl⟩
      have : (0 : ℚ) ≤ maximum := by exact_mod_cast nonneg
      gcongr
    · intro v
      push_cast
      ring
  · intro v k fits more whole
    exact eq_of_whole (more.trans_le fits.2) more fits.2 whole ((spec v fits.1).2.2 more fits.2)

/-- A graph whose bars have given widths in percent. -/
def drawing (caption : Caption) (bars : List (Bar × Int)) : Except Failure String := do
  let lines ← bars.mapM fun (bar, width) => barLabel bar width >>= labelledLines bar width
  return "\n".intercalate ("<div class=\"graph_widget\">" :: (← heading "graph_title" caption)
    ++ "<div class=\"graph\">" :: lines.flatten ++ ["</div>", "</div>"])

theorem graph_eq_drawing (caption : Caption) {tallies : List Tally} {percent : Int → Int}
    (measured : ∀ tally ∈ tallies,
      width (.integer (most (tallies.map Tally.count))) (.integer tally.count) = .ok (percent tally.count)) :
    graph caption (tallies.map fun tally => tally.mark.widget) =
      drawing caption (tallies.map fun tally => (tally.mark.bar, percent tally.count)) := by
  have bars : (tallies.map fun tally => tally.mark.widget).mapM measuredBar =
      .ok (tallies.map fun tally => (tally.mark.bar, .integer tally.count)) := by
    rw [List.mapM_map]
    refine mapM_eq_ok_map fun tally _ => bind_eq_ok_iff.mpr ⟨tally.mark.bar, barOf_widget tally.mark, ?_⟩
    exact bind_eq_ok_iff.mpr ⟨_, tally.measured_mark, rfl⟩
  have maximum : (largest ((tallies.map fun tally => (tally.mark.bar, Number.integer tally.count)).map
      fun drawn => (Figure.number drawn.2, drawn.2))).2 = .integer (most (tallies.map Tally.count)) := by
    rw [← greatest_integers, greatest, List.map_map, List.map_map, List.map_map]
    rfl
  have lines (tally : Tally) (member : tally ∈ tallies) :
      barLines (.integer (most (tallies.map Tally.count))) tally.mark.bar (.integer tally.count) =
        (barLabel tally.mark.bar (percent tally.count) >>=
          labelledLines tally.mark.bar (percent tally.count)) := by
    rw [barLines_eq, measured tally member, ok_bind]
  rw [graph, drawing, bars, ok_bind]
  simp only [maximum, List.mapM_map, Function.comp_def]
  rw [mapM_congr lines]

end Html

namespace Markdown

theorem toReal_integer {value : Int} (bits : value.natAbs < 2 ^ 53) :
    ∃ x, (Number.integer value).toReal = .ok x ∧ x.isFinite = true ∧ x.toRat = value := by
  obtain ⟨x, found⟩ := representable_iff.mp (representable_of_le (Tally.abs_lt_of_bits bits))
  obtain ⟨rfl, finite⟩ := Number.ofInt?_eq_some (Number.toReal_eq_ok_iff.mp found)
  exact ⟨_, found, finite, Binary64.toRat_round_intCast bits⟩

theorem toNat_tdiv_of_nonpos {q : ℚ} (nonpos : q ≤ 0) : (Int.tdiv q.num q.den).toNat = 0 := by
  have opposite : 0 ≤ Int.tdiv (-q.num) q.den :=
    Int.tdiv_nonneg (neg_nonneg.mpr (Rat.num_nonpos.mpr nonpos)) (Int.natCast_nonneg _)
  rw [Int.neg_tdiv, neg_nonneg] at opposite
  exact Int.toNat_eq_zero.mpr opposite

/-- The number of pieces of a bar at a factor that is not negative. -/
theorem pieces_of_factor {factor : Binary64} {value : Int} (finite : factor.isFinite = true)
    (nonneg : 0 ≤ factor.toRat) (moderate : |factor.toRat| < 2 ^ (54 : Int))
    (bits : value.natAbs < 2 ^ 53) :
    ∃ blocks : Nat, pieces (.real factor) (.integer value) = .ok blocks ∧
      (value ≤ 0 → blocks = 0) ∧
      (0 < value → ∃ s, Rounds (factor.toRat * value) s ∧ (blocks : Int) = ⌊s⌋) := by
  obtain ⟨x, found, xFinite, same⟩ := toReal_integer bits
  have product := Binary64.mul_eq_rounded xFinite finite
  have bound : |(value : ℚ) * factor.toRat| < 2 ^ (1023 : Int) := by
    rw [abs_mul]
    calc |(value : ℚ)| * |factor.toRat| < 2 ^ (53 : Int) * 2 ^ (54 : Int) :=
          mul_lt_mul'' (Tally.abs_lt bits) moderate (abs_nonneg _) (abs_nonneg _)
      _ < 2 ^ (1023 : Int) := by
        rw [← zpow_add₀ two_ne_zero]
        exact zpow_lt_zpow_right₀ one_lt_two (by decide)
  rw [same] at product
  have fits : (x * factor).isFinite = true := by
    rw [product]
    exact Binary64.isFinite_rounded _ bound
  have value' : (x * factor).toRat = (Binary64.round (value * factor.toRat)).toRat := by
    rw [product, Binary64.toRat_rounded]
  refine ⟨(Int.tdiv (x * factor).toRat.num (x * factor).toRat.den).toNat, ?_, ?_, ?_⟩
  · have ran : ((Number.integer value).multiply (.real factor) >>= Number.truncate) =
        .ok (Int.tdiv (x * factor).toRat.num (x * factor).toRat.den) := by
      rw [multiply_real, found]
      exact Number.truncate_of_isFinite fits
    change (((Number.integer value).multiply (.real factor) >>= Number.truncate).mapError
      Failure.fault >>= _) = _
    rw [ran]
    rfl
  · intro nonpos
    refine toNat_tdiv_of_nonpos ?_
    rw [value']
    refine Binary64.toRat_round_nonpos (mul_nonpos_of_nonpos_of_nonneg ?_ nonneg)
    exact_mod_cast nonpos
  · intro positive
    have above : (0 : ℚ) ≤ value * factor.toRat := mul_nonneg (by exact_mod_cast positive.le) nonneg
    have rounds := Binary64.round_rounds_of_nonneg above ((le_abs_self _).trans_lt bound)
    rw [← value'] at rounds
    refine ⟨_, mul_comm factor.toRat value ▸ rounds, ?_⟩
    rw [Number.tdiv_eq_floor rounds.nonneg, Int.toNat_of_nonneg (Int.floor_nonneg.mpr rounds.nonneg)]

/-- The number of pieces of a bar for a positive maximum. -/
theorem scale_of_positive {maximum : Int} (positive : 0 < maximum) :
    ∃ factor, scale (.integer maximum) = .ok (.real factor) ∧ ∀ value : Int, value.natAbs < 2 ^ 53 →
      ∃ blocks : Nat, pieces (.real factor) (.integer value) = .ok blocks ∧
        (value ≤ 0 → blocks = 0) ∧
        (0 < value → RoundedTwice ((barLength : ℚ) / maximum) value blocks) := by
  have bits : (barLength : Int).natAbs < 2 ^ 53 := by decide
  obtain ⟨factor, found, finite, moderate, rounds, -⟩ := quotient_of_bits positive bits
  have rounds := rounds (by decide)
  refine ⟨factor, scale_of_pos rfl (Int.cast_pos.mpr positive) found, fun value bits => ?_⟩
  obtain ⟨blocks, ran, empty, full⟩ := pieces_of_factor finite rounds.nonneg moderate bits
  refine ⟨blocks, ran, empty, fun more => ?_⟩
  obtain ⟨s, product, same⟩ := full more
  exact ⟨_, s, rounds, product, same⟩

/-- If the maximum is a power of two times a divisor of the full length, then the factor is exact, and so is a
share that is whole. -/
theorem eq_of_whole {maximum value : Int} {blocks k d i : Nat} (above : 0 < value)
    (le : value ≤ maximum) (bits : maximum.natAbs < 2 ^ 53) (divides : d ∣ 35)
    (dyadic : maximum = d * 2 ^ i) (whole : 35 * value = k * maximum)
    (twice : RoundedTwice ((barLength : ℚ) / maximum) value blocks) : blocks = k := by
  obtain ⟨e, parts⟩ := divides
  obtain ⟨r, s, factor, product, same⟩ := twice
  have positive : (0 : ℚ) < maximum := by exact_mod_cast above.trans_le le
  have small : e < 2 ^ 53 := by
    have : e ≤ 35 := Nat.le_of_dvd (by decide) ⟨d, parts.trans (mul_comm d e)⟩
    omega
  have few : k < 2 ^ 53 := by
    have : (k : Int) ≤ 35 := by nlinarith
    omega
  have short : i < 53 := by
    have natural : maximum = ((d * 2 ^ i : Nat) : Int) := by exact_mod_cast dyadic
    rw [natural, Int.natAbs_natCast] at bits
    have some : 0 < d := by
      by_contra none
      obtain rfl : d = 0 := by omega
      rw [zero_mul] at parts
      cases parts
    exact (Nat.pow_lt_pow_iff_right (by decide)).mp ((Nat.le_mul_of_pos_left _ some).trans_lt bits)
  have ratio : ((barLength : Int) : ℚ) / maximum = e * 2 ^ (-(i : Int)) := by
    rw [div_eq_iff positive.ne', dyadic, zpow_neg, zpow_natCast]
    have : (35 : ℚ) = d * e := by exact_mod_cast parts
    push_cast
    rw [show ((barLength : Int) : ℚ) = 35 by norm_num [barLength], this]
    field_simp
  rw [ratio] at factor
  rw [factor.eq_of_exact small (by rw [Binary64.minExponent]; omega), ← ratio] at product
  have exact' : ((barLength : Int) : ℚ) / maximum * value = k := by
    rw [div_mul_eq_mul_div, div_eq_iff positive.ne']
    exact_mod_cast whole
  rw [exact'] at product
  rw [product.eq_of_natCast few, Int.floor_natCast] at same
  exact_mod_cast same

/-- The lengths of a graph: they are in proportion, and exact where the factor is and the exact share is
whole. -/
theorem exists_blocks {maximum : Int} (nonneg : 0 ≤ maximum) (bits : maximum.natAbs < 2 ^ 53) :
    ∃ (factor : Number) (blocks : Int → Nat), scale (.integer maximum) = .ok factor ∧
      (∀ v : Int, v.natAbs < 2 ^ 53 → pieces factor (.integer v) = .ok (blocks v)) ∧
      IsProportional 35 maximum (fun v => blocks v) ∧
      ∀ (v : Int) (k d i : Nat), Fits maximum v → 0 < v → d ∣ 35 → maximum = d * 2 ^ i →
        35 * v = k * maximum → blocks v = k := by
  obtain ⟨factor, scaled, each⟩ : ∃ factor, scale (.integer maximum) = .ok factor ∧
      ∀ v : Int, v.natAbs < 2 ^ 53 → ∃ blocks : Nat, pieces factor (.integer v) = .ok blocks ∧
        (v ≤ 0 → blocks = 0) ∧
        (0 < v → v ≤ maximum → RoundedTwice ((barLength : ℚ) / maximum) v blocks) := by
    rcases nonneg.eq_or_lt with rfl | positive
    · refine ⟨.integer 0, rfl, fun v _ => ⟨0, ?_, fun _ => rfl, fun more le => absurd more le.not_gt⟩⟩
      have product : (Number.integer v).multiply (.integer 0) = .ok (.integer (v * 0)) := rfl
      rw [mul_zero] at product
      change (((Number.integer v).multiply (.integer 0) >>= Number.truncate).mapError
        Failure.fault >>= _) = _
      rw [product]
      rfl
    · obtain ⟨factor, scaled, each⟩ := scale_of_positive positive
      refine ⟨.real factor, scaled, fun v bits => ?_⟩
      obtain ⟨blocks, ran, empty, full⟩ := each v bits
      exact ⟨blocks, ran, empty, fun more _ => full more⟩
  let blocks (v : Int) : Nat := (pieces factor (.integer v)).toOption.getD 0
  have spec (v : Int) (bits : v.natAbs < 2 ^ 53) :
      pieces factor (.integer v) = .ok (blocks v) ∧ (v ≤ 0 → blocks v = 0) ∧
        (0 < v → v ≤ maximum → RoundedTwice ((barLength : ℚ) / maximum) v (blocks v)) := by
    obtain ⟨length, ran, rest⟩ := each v bits
    have same : blocks v = length := by simp only [blocks, ran]; rfl
    rw [same]
    exact ⟨ran, rest⟩
  refine ⟨factor, blocks, scaled, fun v bits => (spec v bits).1, ?_, ?_⟩
  · refine isProportional_of_roundedTwice (a := fun _ => (barLength : ℚ) / maximum) (c := fun v => v) nonneg
      (by decide) (fun v fits nonpos => ?_) (fun v fits more => (spec v fits.1).2.2 more fits.2)
      (fun v fits more => ⟨?_, ?_⟩) ?_ ?_
    · exact_mod_cast (spec v fits.1).2.1 nonpos
    · exact least_le_div (by decide) (more.trans_le fits.2) bits
    · exact_mod_cast more
    · intro v w _ le
      exact ⟨le_rfl, by exact_mod_cast le⟩
    · intro v
      rw [div_mul_eq_mul_div, barLength]
      push_cast
      rfl
  · intro v k d i fits more divides dyadic whole
    exact eq_of_whole more fits.2 bits divides dyadic whole ((spec v fits.1).2.2 more fits.2)

/-- A graph as a table whose bars have given numbers of pieces. -/
def drawing (caption : Caption) (maximum : Int) (bars : List (Bar × Nat)) : Except Failure String := do
  let top := "| " ++ caption.title.getD "" ++ " |  | 0 - " ++
    (← figureText (.number (.integer maximum))) ++ " |"
  let rule := "|:------------------------------------|-:|:-------|"
  let rows ← bars.mapM fun (bar, blocks) => do
    return "| " ++ bar.caption.title.getD "" ++ " | " ++ (← figure bar.caption bar.value bar.color)
      ++ " | " ++ String.join (List.replicate blocks barPiece) ++ " |"
  return "\n".intercalate (heading caption ++ top :: rule :: rows ++ [""])

theorem graph_eq_drawing (caption : Caption) {tallies : List Tally} {factor : Number} {blocks : Int → Nat}
    (scaled : scale (.integer (most (tallies.map Tally.count))) = .ok factor)
    (measured : ∀ tally ∈ tallies, pieces factor (.integer tally.count) = .ok (blocks tally.count)) :
    graph caption (tallies.map fun tally => tally.mark.widget) =
      drawing caption (most (tallies.map Tally.count))
        (tallies.map fun tally => (tally.mark.bar, blocks tally.count)) := by
  have bars : (tallies.map fun tally => tally.mark.widget).mapM barOf =
      .ok (tallies.map fun tally => tally.mark.bar) := by
    rw [List.mapM_map]
    exact mapM_eq_ok_map fun tally _ => barOf_widget tally.mark
  have numbers : (tallies.map fun tally => tally.mark.bar).mapM Bar.measured =
      .ok (tallies.map fun tally => (tally.mark.bar, .integer tally.count)) := by
    rw [List.mapM_map]
    exact mapM_eq_ok_map fun tally _ => tally.measured_mark
  have maximum : largest (((tallies.map fun tally => (tally.mark.bar, Number.integer tally.count)).filter
      fun drawn => !drawn.2.isNaN).map fun drawn => (drawn.1.value, drawn.2)) =
        (.number (.integer (most (tallies.map Tally.count))), .integer (most (tallies.map Tally.count))) := by
    rw [← greatest_integers, ← largest_figures, List.filter_eq_self.mpr, List.map_map, List.map_map,
      List.map_map]
    · rfl
    · rw [List.forall_mem_map]
      exact fun _ _ => rfl
  have rows (tally : Tally) (member : tally ∈ tallies) :
      barRow factor tally.mark.bar (.integer tally.count) = (do
        return "| " ++ tally.mark.bar.caption.title.getD "" ++ " | " ++
          (← figure tally.mark.bar.caption tally.mark.bar.value tally.mark.bar.color) ++ " | " ++
          String.join (List.replicate (blocks tally.count) barPiece) ++ " |") := by
    rw [barRow, measured tally member, ok_bind]
  rw [graph, drawing, bars, ok_bind, numbers, ok_bind]
  simp only [maximum, scaled, ok_bind, List.mapM_map, Function.comp_def]
  rw [mapM_congr rows]

end Markdown

/-! ## Both renderings -/

theorem fits_most (tallies : List Tally) :
    0 ≤ most (tallies.map Tally.count) ∧ (most (tallies.map Tally.count)).natAbs < 2 ^ 53 ∧
      ∀ tally ∈ tallies, Fits (most (tallies.map Tally.count)) tally.count := by
  obtain ⟨member, upper⟩ := isGreatest_most (tallies.map Tally.count)
  refine ⟨upper (.inl rfl), ?_, fun tally among => ⟨tally.bits, upper (.inr (List.mem_map_of_mem among))⟩⟩
  rcases member with zero | among
  · rw [zero]
    decide
  · obtain ⟨tally, -, same⟩ := List.mem_map.mp among
    rw [← same]
    exact tally.bits

/-- The bars of a graph of integers are in proportion in both renderings, as far as rounding allows. On a page a
whole share is exact but for 29, 57 and 58 percent, and the largest element has the full width. In a table it
is exact if the largest number is a power of two times a divisor of the full length. -/
theorem graph_proportional (caption : Caption) (tallies : List Tally) :
    ∃ (percent : Int → Int) (blocks : Int → Nat),
      let maximum := most (tallies.map Tally.count)
      Html.graph caption (tallies.map fun tally => tally.mark.widget) =
          Html.drawing caption (tallies.map fun tally => (tally.mark.bar, percent tally.count)) ∧
        Markdown.graph caption (tallies.map fun tally => tally.mark.widget) =
          Markdown.drawing caption maximum (tallies.map fun tally => (tally.mark.bar, blocks tally.count)) ∧
        IsProportional 100 maximum percent ∧ IsProportional 35 maximum (fun v => blocks v) ∧
        (∀ (v : Int) (k : Nat), Fits maximum v → 0 < v → 100 * v = k * maximum →
          percent v = if k = 29 ∨ k = 57 ∨ k = 58 then (k : Int) - 1 else k) ∧
        (0 < maximum → percent maximum = 100) ∧
        ∀ (v : Int) (k d i : Nat), Fits maximum v → 0 < v → d ∣ 35 → maximum = d * 2 ^ i →
          35 * v = k * maximum → blocks v = k := by
  obtain ⟨nonneg, bits, fits⟩ := fits_most tallies
  obtain ⟨percent, widths, pageProportional, pageWhole⟩ := Html.exists_percent nonneg bits
  obtain ⟨factor, blocks, scaled, lengths, tableProportional, tableWhole⟩ :=
    Markdown.exists_blocks nonneg bits
  refine ⟨percent, blocks, ?_, ?_, pageProportional, tableProportional, pageWhole, fun positive => ?_,
    tableWhole⟩
  · exact Html.graph_eq_drawing caption fun tally _ => widths tally.count tally.bits
  · exact Markdown.graph_eq_drawing caption scaled fun tally _ => lengths tally.count tally.bits
  · exact pageWhole _ 100 ⟨bits, le_rfl⟩ positive rfl

/-- Two tallies, the smaller of which is 29 percent of the larger one. -/
def twoTallies : List Tally :=
  [⟨{}, 319, none, by decide⟩, ⟨{}, 1100, none, by decide⟩]

/-- On a page the bar of 29 percent is too narrow, and in a table the largest bar is too short. -/
theorem graph_disproportionate :
    Html.graph {} (twoTallies.map fun tally => tally.mark.widget) ≠
        Html.drawing {} (twoTallies.map fun tally => (tally.mark.bar, share 100 1100 tally.count)) ∧
      Markdown.graph {} (twoTallies.map fun tally => tally.mark.widget) ≠
        Markdown.drawing {} 1100
          (twoTallies.map fun tally => (tally.mark.bar, (share 35 1100 tally.count).toNat)) := by
  decide +kernel

end IssueBoard.Render
