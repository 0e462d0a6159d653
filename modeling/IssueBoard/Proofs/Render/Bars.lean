import IssueBoard.Proofs.Render.Ending

/-! # Bars and their numbers

The largest number of a graph is one of its numbers or zero, and none of them is above it. A static element
has a bar if its number is within the range of floating-point numbers; and arithmetic on such numbers fails
with faults of arithmetic only.
-/

namespace IssueBoard.Render

/-! ## The largest number -/

section Largest

variable {values : List (Figure × Number)} {numbers : List Number} {n : Number}

/-- The greater of two values, and of equal ones the first. -/
def keepLarger (best next : Figure × Number) : Figure × Number :=
  if best.2.below next.2 then next else best

theorem keepLarger_eq_or (best next : Figure × Number) :
    keepLarger best next = best ∨ keepLarger best next = next := by
  rw [keepLarger]
  split
  · exact .inr rfl
  · exact .inl rfl

theorem le_keepLarger {best next : Figure × Number} (left : best.2.isFinite = true)
    (right : next.2.isFinite = true) :
    best.2.toRat ≤ (keepLarger best next).2.toRat ∧ next.2.toRat ≤ (keepLarger best next).2.toRat := by
  rw [keepLarger]
  split
  · next less => exact ⟨((Number.below_iff left right).mp less).le, le_refl _⟩
  · next more => exact ⟨le_refl _, not_lt.mp (mt (Number.below_iff left right).mpr more)⟩

theorem mem_foldl_keepLarger (first : Figure × Number) (rest : List (Figure × Number)) :
    rest.foldl keepLarger first ∈ first :: rest := by
  induction rest generalizing first with
  | nil => exact List.mem_singleton_self first
  | cons next rest ih =>
    rw [List.foldl_cons]
    rcases List.mem_cons.mp (ih (keepLarger first next)) with same | later
    · rw [same]
      rcases keepLarger_eq_or first next with left | right
      · rw [left]
        exact List.mem_cons_self
      · rw [right]
        exact List.mem_cons_of_mem _ List.mem_cons_self
    · exact List.mem_cons_of_mem _ (List.mem_cons_of_mem _ later)

theorem le_foldl_keepLarger {first : Figure × Number} {rest : List (Figure × Number)}
    (finite : ∀ value ∈ first :: rest, value.2.isFinite = true) :
    ∀ value ∈ first :: rest, value.2.toRat ≤ (rest.foldl keepLarger first).2.toRat := by
  induction rest generalizing first with
  | nil =>
    intro value member
    rw [List.mem_singleton.mp member]
    exact le_refl _
  | cons next rest ih =>
    obtain ⟨firstFinite, nextFinite, restFinite⟩ : first.2.isFinite = true ∧ next.2.isFinite = true ∧
        ∀ value ∈ rest, value.2.isFinite = true := by
      simpa only [List.forall_mem_cons] using finite
    obtain ⟨left, right⟩ := le_keepLarger firstFinite nextFinite
    have kept : (keepLarger first next).2.isFinite = true := by
      rcases keepLarger_eq_or first next with same | same <;> rw [same] <;> assumption
    have below := ih (List.forall_mem_cons.mpr ⟨kept, restFinite⟩)
    rw [List.forall_mem_cons] at below
    rw [List.foldl_cons, List.forall_mem_cons, List.forall_mem_cons]
    exact ⟨left.trans below.1, right.trans below.1, below.2⟩

/-- Zero as a value. -/
def zeroValue : Figure × Number := (.number (.integer 0), .integer 0)

theorem largest_eq (values : List (Figure × Number)) :
    ∃ first rest, values ++ [zeroValue] = first :: rest ∧ largest values = rest.foldl keepLarger first := by
  rcases values with _ | ⟨first, rest⟩
  · exact ⟨zeroValue, [], rfl, rfl⟩
  · exact ⟨first, rest ++ [zeroValue], rfl, rfl⟩

/-- The largest of some numbers and zero. -/
def greatest (numbers : List Number) : Number := (largest (numbers.map fun n => (.number n, n))).2

theorem largest_mem (numbers : List Number) :
    ∃ n, largest (numbers.map fun n => (.number n, n)) = (.number n, n) ∧
      (n ∈ numbers ∨ n = .integer 0) := by
  obtain ⟨first, rest, parts, same⟩ := largest_eq (numbers.map fun n => (.number n, n))
  have member := mem_foldl_keepLarger first rest
  rw [← same, ← parts, List.mem_append, List.mem_map, List.mem_singleton] at member
  rcases member with ⟨n, member, found⟩ | found
  · exact ⟨n, found.symm, .inl member⟩
  · exact ⟨.integer 0, found, .inr rfl⟩

theorem largest_figures (numbers : List Number) :
    largest (numbers.map fun n => (.number n, n)) = (.number (greatest numbers), greatest numbers) := by
  obtain ⟨n, same, -⟩ := largest_mem numbers
  rw [greatest, same]

theorem greatest_mem (numbers : List Number) :
    greatest numbers ∈ numbers ∨ greatest numbers = .integer 0 := by
  obtain ⟨n, same, member⟩ := largest_mem numbers
  rwa [greatest, same]

theorem isFinite_greatest (finite : ∀ n ∈ numbers, n.isFinite = true) :
    (greatest numbers).isFinite = true := by
  rcases greatest_mem numbers with member | same
  · exact finite _ member
  · rw [same]
    rfl

theorem le_greatest (finite : ∀ n ∈ numbers, n.isFinite = true) :
    (∀ n ∈ numbers, n.toRat ≤ (greatest numbers).toRat) ∧ 0 ≤ (greatest numbers).toRat := by
  obtain ⟨first, rest, parts, same⟩ := largest_eq (numbers.map fun n => (.number n, n))
  have below : ∀ value ∈ numbers.map (fun n => (Figure.number n, n)) ++ [zeroValue],
      value.2.toRat ≤ (largest (numbers.map fun n => (.number n, n))).2.toRat := by
    rw [same, parts]
    refine le_foldl_keepLarger ?_
    rw [← parts]
    intro value member
    rcases List.mem_append.mp member with given | zero
    · obtain ⟨n, among, rfl⟩ := List.mem_map.mp given
      exact finite n among
    · rw [List.mem_singleton.mp zero]
      rfl
  refine ⟨fun n member => ?_, ?_⟩
  · exact below (.number n, n) (List.mem_append_left _ (List.mem_map.mpr ⟨n, member, rfl⟩))
  · have least := below zeroValue (List.mem_append_right _ (List.mem_singleton_self _))
    rwa [show zeroValue.2.toRat = 0 from Int.cast_zero] at least

theorem isPositive_iff (finite : n.isFinite = true) : isPositive n = true ↔ 0 < n.toRat := by
  rw [isPositive, Number.below_iff rfl finite, Number.toRat, Int.cast_zero]

end Largest

/-! ## Bars of static elements -/

/-- A static number in a graph. -/
structure Mark where
  caption : Caption
  number : Number
  color : Option String

/-- The widget of a mark. -/
def Mark.widget (mark : Mark) : Widget := .number mark.caption (.number mark.number) mark.color

/-- The bar of a mark. -/
def Mark.bar (mark : Mark) : Bar := ⟨mark.caption, .number mark.number, mark.color⟩

theorem barOf_widget (mark : Mark) : barOf mark.widget = .ok mark.bar := rfl

/-- Whether a number has a nearest floating-point number. -/
def Representable (n : Number) : Prop := ∃ x, n.toBinary64? = some x

theorem representable_iff {n : Number} : Representable n ↔ ∃ x, n.toReal = .ok x := by
  simp only [Representable, Number.toReal_eq_ok_iff]

theorem isPrintable_of_representable {n : Number} (fits : Representable n) : n.IsPrintable := by
  cases n with
  | real x => trivial
  | integer n =>
    obtain ⟨x, found⟩ := fits
    obtain ⟨-, -, bound⟩ := Number.toReal_spec (Number.toReal_eq_ok_iff.mpr found) rfl
    rw [Number.toRat] at bound
    refine lt_pow_ten (natAbs_lt_of_abs_lt (k := 1025) ?_) (by decide)
    calc |(n : ℚ)| ≤ 2 * |x.toRat| := bound
      _ < 2 * 2 ^ (1024 : Int) := by linarith only [x.abs_toRat_lt]
      _ = 2 ^ ((1025 : Nat) : Int) := by
        rw [show ((1025 : Nat) : Int) = 1 + 1024 by decide, zpow_one_add₀ two_ne_zero]

theorem ends_measured (mark : Mark) : Ends mark.bar.measured (Representable mark.number) True := by
  refine Ends.after rfl (Ends.map (ends_mapError (fun fault failed => ?_) representable_iff.symm) _)
  rw [Number.toReal_error failed]
  trivial

theorem measured_eq {mark : Mark} {drawn : Bar × Number} (done : mark.bar.measured = .ok drawn) :
    drawn = (mark.bar, mark.number) := by
  obtain ⟨n, found, rest⟩ := bind_eq_ok_iff.mp done
  cases found
  obtain ⟨x, -, same⟩ := bind_eq_ok_iff.mp rest
  exact (pure_eq_ok_iff.mp same).symm

theorem representable_zero : Representable (.integer 0) := ⟨_, rfl⟩

theorem representable_greatest {numbers : List Number} (all : ∀ n ∈ numbers, Representable n) :
    Representable (greatest numbers) := by
  rcases greatest_mem numbers with member | same
  · exact all _ member
  · rw [same]
    exact representable_zero

/-- An operation on two numbers in floating point fails if one of them is too large. -/
theorem isArithmetic_of_reals {α : Type} {a b : Number} {f : Binary64 → Binary64 → α} {fault : Fault}
    (failed : (a.toReal >>= fun x => b.toReal >>= fun y => pure (f x y)) = .error fault) :
    fault.IsArithmetic := by
  have tooLarge : fault = .integerToReal := by
    rcases bind_eq_error_iff.mp failed with failed | ⟨x, -, failed⟩
    · exact Number.toReal_error failed
    · rcases bind_eq_error_iff.mp failed with failed | ⟨y, -, failed⟩
      · exact Number.toReal_error failed
      · cases failed
  rw [tooLarge]
  trivial

theorem isArithmetic_of_quotient {a b : Number} {fault : Fault} (failed : a.quotient b = .error fault) :
    fault.IsArithmetic := by
  rw [Number.quotient.eq_def] at failed
  split at failed
  · split at failed
    · cases failed
      trivial
    · cases failed
  · exact isArithmetic_of_reals failed

theorem isArithmetic_of_multiply {a b : Number} {fault : Fault} (failed : a.multiply b = .error fault) :
    fault.IsArithmetic := by
  rw [Number.multiply.eq_def] at failed
  split at failed
  · cases failed
  · exact isArithmetic_of_reals failed

theorem ends_roundedBy {rounding : Binary64 → Option Int}
    (defined : ∀ x, (rounding x).isSome = x.isFinite) (n : Number) :
    (∀ fault, n.roundedBy rounding = .error fault → fault.IsArithmetic) ∧
      ((∃ k, n.roundedBy rounding = .ok k) ↔ n.isFinite = true) := by
  cases n with
  | integer n => exact ⟨fun _ => nofun, iff_of_true ⟨n, rfl⟩ rfl⟩
  | real x =>
    rw [Number.isFinite]
    rcases Number.roundedBy_cases defined x with ⟨finite, k, done⟩ | ⟨infinite, fault, failed, reason⟩
    · rw [done]
      exact ⟨fun _ => nofun, iff_of_true ⟨k, rfl⟩ finite⟩
    · rw [failed, infinite]
      refine ⟨fun other same => ?_, iff_of_false not_exists_error Bool.false_ne_true⟩
      cases same
      rcases reason with rfl | rfl <;> trivial

end IssueBoard.Render
