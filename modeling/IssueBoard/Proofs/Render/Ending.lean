import IssueBoard.Proofs.Config.Document
import IssueBoard.Proofs.Data.Display
import IssueBoard.Proofs.Number.Magnitude
import IssueBoard.Render.Basic

/-! # How rendering ends

A rendering either gives a text or fails for one of two reasons: a number that the arithmetic underneath
cannot work with, or a color without a glyph. Each part of a rendering is described by what its numbers
and its colors have to be; parts that are put together ask for what all of them ask for.
-/

namespace IssueBoard

/-- Whether a fault comes from arithmetic on numbers. -/
def Fault.IsArithmetic : Fault → Prop
  | .integerTooLong | .integerToReal | .quotientToReal | .nanToInteger | .infiniteToInteger => True
  | _ => False

/-- Whether a number can be written: an integer must not have too many digits. -/
def Number.IsPrintable : Number → Prop
  | .integer n => n.natAbs < Nat.pow 10 integerDigitLimit
  | .real _ => True

namespace Render

variable {α β : Type}

/-- Whether there is a glyph for a color, if there is a color. -/
def Known (color : Option String) : Prop := ∀ name ∈ color, (glyphs.lookup name).isSome = true

/-- How a computation ends that depends on its numbers and its colors: with a result if the numbers fit
and the colors are known, and otherwise with a failure that says which of the two is not so. -/
inductive Ends : Except Failure α → Prop → Prop → Prop
  | ok {result : α} {fits known : Prop} : fits → known → Ends (.ok result) fits known
  | fault {fault : Fault} {fits known : Prop} :
    ¬fits → fault.IsArithmetic → Ends (.error (.fault fault)) fits known
  | color {name : String} {fits known : Prop} :
    ¬known → glyphs.lookup name = none → Ends (.error (.render (.unknownColor name))) fits known

namespace Ends

variable {first : Except Failure α} {fits fits' known known' : Prop}

theorem exists_iff (ends : Ends first fits known) : (∃ x, first = .ok x) ↔ fits ∧ known := by
  cases ends with
  | ok fit all => exact iff_of_true ⟨_, rfl⟩ ⟨fit, all⟩
  | fault misfit => exact iff_of_false not_exists_error fun both => misfit both.1
  | color stray => exact iff_of_false not_exists_error fun both => stray both.2

theorem congr (ends : Ends first fits known) (same : fits ↔ fits') (same' : known ↔ known') :
    Ends first fits' known' := by
  rwa [← propext same, ← propext same']

/-- After a first part the conditions of the second one count for the result that there is. -/
theorem bind {next : α → Except Failure β} (ends : Ends first fits known)
    (rest : ∀ x, first = .ok x → Ends (next x) fits' known') :
    Ends (first >>= next) (fits ∧ fits') (known ∧ known') := by
  cases ends with
  | fault misfit arithmetic => exact .fault (fun both => misfit both.1) arithmetic
  | color stray missing => exact .color (fun both => stray both.1) missing
  | @ok x _ _ fit all =>
    change Ends (next x) _ _
    exact (rest x rfl).congr (and_iff_right fit).symm (and_iff_right all).symm

/-- What a first part without conditions gives is worked on by the second. -/
theorem after {x : α} {next : α → Except Failure β} (done : first = .ok x)
    (rest : Ends (next x) fits known) : Ends (first >>= next) fits known := by
  rw [done]
  exact rest

/-- A first part that does not depend on colors leaves them to the second. -/
theorem bind_numbers {next : α → Except Failure β} (ends : Ends first fits True)
    (rest : ∀ x, first = .ok x → Ends (next x) fits' known) :
    Ends (first >>= next) (fits ∧ fits') known :=
  (ends.bind rest).congr Iff.rfl (and_iff_right trivial)

/-- A second part that always gives a result asks for nothing more. -/
theorem followed {next : α → Except Failure β} (ends : Ends first fits known)
    (rest : ∀ x, ∃ y, next x = .ok y) : Ends (first >>= next) fits known := by
  refine (ends.bind fun x _ => ?_).congr (and_iff_left trivial) (and_iff_left trivial)
  obtain ⟨y, done⟩ := rest x
  rw [done]
  exact .ok trivial trivial

theorem map (ends : Ends first fits known) (f : α → β) :
    Ends (first >>= fun x => pure (f x)) fits known :=
  ends.followed fun x => ⟨f x, rfl⟩

/-- A list of computations asks for what each of them does. -/
theorem mapM {f : α → Except Failure β} {fits known : α → Prop} {xs : List α}
    (each : ∀ x ∈ xs, Ends (f x) (fits x) (known x)) :
    Ends (xs.mapM f) (∀ x ∈ xs, fits x) (∀ x ∈ xs, known x) := by
  induction xs with
  | nil => exact .ok (List.forall_mem_nil _) (List.forall_mem_nil _)
  | cons x xs ih =>
    rw [List.forall_mem_cons] at each
    rw [List.mapM_cons, List.forall_mem_cons, List.forall_mem_cons]
    exact each.1.bind fun y _ => (ih each.2).map (y :: ·)

/-- A list of computations that do not depend on colors. -/
theorem mapM_numbers {f : α → Except Failure β} {fits : α → Prop} {xs : List α}
    (each : ∀ x ∈ xs, Ends (f x) (fits x) True) : Ends (xs.mapM f) (∀ x ∈ xs, fits x) True :=
  (mapM each).congr Iff.rfl (iff_true_intro fun _ _ => trivial)

end Ends

/-- A computation on numbers fails for no other reason than arithmetic. -/
theorem ends_mapError {result : Except Fault α} {fits : Prop}
    (arithmetic : ∀ fault, result = .error fault → fault.IsArithmetic)
    (same : (∃ x, result = .ok x) ↔ fits) : Ends (result.mapError .fault) fits True := by
  cases result with
  | ok x => exact .ok (same.mp ⟨x, rfl⟩) trivial
  | error fault =>
    refine .fault (fun fit => ?_) (arithmetic fault rfl)
    obtain ⟨x, never⟩ := same.mpr fit
    cases never

/-! ## Figures, colors and links -/

theorem exists_integerText_iff (n : Int) :
    (∃ text, integerText n = .ok text) ↔ n.natAbs < Nat.pow 10 integerDigitLimit := by
  rw [integerText]
  split
  · next few => exact iff_of_true ⟨_, rfl⟩ few
  · next many => exact iff_of_false not_exists_error many

theorem natAbs_lt_of_abs_lt {n : Int} {k : Nat} (less : |(n : ℚ)| < 2 ^ (k : Int)) :
    n.natAbs < Nat.pow 2 k := by
  rw [zpow_natCast] at less
  have cast : |n| < 2 ^ k := by exact_mod_cast less
  rw [Nat.pow_eq]
  zify
  exact cast

/-- A number has fewer decimal digits than binary ones. -/
theorem lt_pow_ten {n k limit : Nat} (less : n < Nat.pow 2 k) (few : k ≤ limit) :
    n < Nat.pow 10 limit :=
  less.trans_le <| calc Nat.pow 2 k
    _ ≤ Nat.pow 10 k := Nat.pow_le_pow_left (by decide) k
    _ ≤ Nat.pow 10 limit := Nat.pow_le_pow_right (by decide) few

/-- An integral floating-point number does not have too many digits. -/
theorem natAbs_num_lt {x : Binary64} (integral : x.isIntegral = true) :
    x.toRat.num.natAbs < Nat.pow 10 integerDigitLimit := by
  have whole : x.toRat.den = 1 := by
    rw [Binary64.isIntegral, Bool.and_eq_true, beq_iff_eq] at integral
    exact integral.2
  have bound := x.abs_toRat_lt
  rw [← Rat.num_div_den x.toRat, whole, Nat.cast_one, div_one] at bound
  exact lt_pow_ten (natAbs_lt_of_abs_lt (k := 1024) bound) (by decide)

theorem exists_display_iff (n : Number) : (∃ text, n.display = .ok text) ↔ n.IsPrintable := by
  cases n with
  | integer n => exact exists_integerText_iff n
  | real x =>
    refine iff_of_true ?_ trivial
    rw [Number.display]
    split
    · exact ⟨_, rfl⟩
    · split
      · next integral => exact (exists_integerText_iff _).mpr (natAbs_num_lt integral)
      · exact ⟨_, rfl⟩

theorem display_ofNumber (n : Number) : (Data.ofNumber n).display = n.display := by
  cases n with
  | integer n =>
    have shallow : ¬nestingLimit < 1 := by decide
    simp only [Data.ofNumber, Data.display, Data.toText, Data.literal, Data.nesting, Data.write,
      Atom.literal, Number.display]
    exact if_neg shallow
  | real x => rfl

theorem ends_figureText (n : Number) : Ends (figureText (.number n)) n.IsPrintable True := by
  rw [figureText, Figure.toData, display_ofNumber]
  refine ends_mapError (fun fault failed => ?_) (exists_display_iff n)
  rw [writes_numberDisplay n fault failed]
  trivial

theorem ends_withGlyph (text : String) (color : Option String) :
    Ends (withGlyph text color) True (Known color) := by
  cases color with
  | none => exact .ok trivial nofun
  | some name =>
    rw [withGlyph, glyph]
    split
    · next found =>
      refine .ok trivial fun other same => ?_
      cases same
      rw [found]
      rfl
    · next missing =>
      refine .color (fun known => ?_) missing
      have found := known name rfl
      rw [missing] at found
      cases found

end Render

end IssueBoard
