import IssueBoard.Number.Numeral
import IssueBoard.Proofs.Text.Blanks

/-! # The grammar of numerals

Which texts are decimal numerals, and with which parts: a sign or none, digits with a point among, before or
behind them or none, and an exponent or none. Reading a numeral finds exactly the parts that it is written
with. A numeral of digits alone denotes an integer.
-/

namespace IssueBoard

namespace Numeral

/-- The sign of a numeral. A positive one may do without. -/
inductive SignText : Bool → List Char → Prop
  | bare : SignText false []
  | plus : SignText false ['+']
  | minus : SignText true ['-']

/-- The point of a numeral and the digits behind it. -/
inductive PointText : Bool → List Char → List Char → Prop
  | none : PointText false [] []
  | some {fraction : List Char} (digits : ∀ c ∈ fraction, Text.isDigit c = true) :
      PointText true fraction ('.' :: fraction)

/-- The exponent of a numeral. -/
inductive ExponentText : Option Int → List Char → Prop
  | none : ExponentText none []
  | some {mark : Char} {negative : Bool} {sign digits : List Char} (letter : mark = 'e' ∨ mark = 'E')
      (signed : SignText negative sign) (nonempty : digits ≠ [])
      (number : ∀ c ∈ digits, Text.isDigit c = true) :
      ExponentText
        (some (if negative then -(Text.digitsValue digits : Int) else (Text.digitsValue digits : Int)))
        (mark :: (sign ++ digits))

/-- Whether a text is a numeral with the given parts. There are digits before or behind the point. -/
structure IsWritten (n : Numeral) (text : List Char) : Prop where
  digits : ∀ c ∈ n.whole, Text.isDigit c = true
  nonempty : n.whole ≠ [] ∨ n.fraction ≠ []
  parts : ∃ sign point exponent, SignText n.negative sign ∧ PointText n.hasPoint n.fraction point ∧
    ExponentText n.exponent exponent ∧ text = sign ++ (n.whole ++ (point ++ exponent))

/-- Whether a text is a decimal numeral. -/
def IsNumeral (text : List Char) : Prop := ∃ n : Numeral, n.IsWritten text

/-- Whether a text is a sign or none and digits, not too many of them, that denote an integer. -/
inductive IntegerText : Int → List Char → Prop
  | mk {negative : Bool} {sign digits : List Char} (signed : SignText negative sign) (nonempty : digits ≠ [])
      (number : ∀ c ∈ digits, Text.isDigit c = true) (short : digits.length ≤ integerDigitLimit) :
      IntegerText (if negative then -(Text.digitsValue digits : Int) else Text.digitsValue digits)
        (sign ++ digits)

variable {cs rest whole point text : List Char} {negative : Bool}

/-! ## Signs and digits -/

theorem sign_sound (cs : List Char) :
    ∃ sign, SignText (Numeral.sign cs).1 sign ∧ cs = sign ++ (Numeral.sign cs).2 := by
  unfold Numeral.sign
  split
  · exact ⟨_, .minus, rfl⟩
  · exact ⟨_, .plus, rfl⟩
  · exact ⟨_, .bare, rfl⟩

theorem sign_append {sign : List Char} (signed : SignText negative sign)
    (stop : ∀ c ∈ rest.head?, c ≠ '+' ∧ c ≠ '-') : Numeral.sign (sign ++ rest) = (negative, rest) := by
  cases signed with
  | plus => rfl
  | minus => rfl
  | bare =>
    rw [List.nil_append]
    unfold Numeral.sign
    split
    · exact absurd rfl (stop '-' rfl).2
    · exact absurd rfl (stop '+' rfl).1
    · rfl

/-- Digits are read up to the first other character. -/
theorem digits_eq_iff : Numeral.digits cs = (whole, rest) ↔
    (∀ c ∈ whole, Text.isDigit c = true) ∧ (∀ c ∈ rest.head?, Text.isDigit c = false) ∧
      cs = whole ++ rest := by
  constructor
  · intro read
    obtain ⟨rfl, rfl⟩ := Prod.mk.inj read
    exact ⟨fun _ member => List.mem_takeWhile_imp member, Text.head?_dropWhile Text.isDigit cs,
      List.takeWhile_append_dropWhile.symm⟩
  · rintro ⟨number, stop, rfl⟩
    rw [Numeral.digits, Text.takeWhile_append number stop, Text.dropWhile_append number stop]

/-- No digit is a sign. -/
theorem not_sign_of_isDigit {c : Char} (digit : Text.isDigit c = true) : c ≠ '+' ∧ c ≠ '-' := by
  constructor
  · rintro rfl
    exact absurd digit (by decide)
  · rintro rfl
    exact absurd digit (by decide)

/-! ## Exponents -/

theorem exponentOf?_eq_some_iff {exponent : Option Int} :
    exponentOf? cs = some exponent ↔ ExponentText exponent cs := by
  constructor
  · intro read
    cases cs with
    | nil =>
      cases read
      exact .none
    | cons mark cs =>
      obtain ⟨sign, signed, split⟩ := sign_sound cs
      rw [exponentOf?] at read
      split at read
      · next letter =>
        rcases signedRest : Numeral.sign cs with ⟨negative, behind⟩
        rcases found : Numeral.digits behind with ⟨value, rest⟩
        obtain ⟨number, -, rfl⟩ := digits_eq_iff.mp found
        simp only [signedRest, found, Option.ite_none_left_eq_some, Bool.or_eq_true, Bool.not_eq_true',
          not_or, Bool.not_eq_false, List.isEmpty_iff] at read
        obtain ⟨⟨nonempty, rfl⟩, same⟩ := read
        cases same
        rw [split, signedRest, List.append_nil]
        rw [signedRest] at signed
        rw [Bool.or_eq_true, beq_iff_eq, beq_iff_eq] at letter
        exact .some letter signed nonempty number
      · cases read
  · intro written
    cases written with
    | none => rfl
    | @some mark negative sign digits letter signed nonempty number =>
      have front : ∀ c ∈ digits.head?, c ≠ '+' ∧ c ≠ '-' := by
        intro c first
        exact not_sign_of_isDigit (number c (List.mem_of_mem_head? first))
      have read : Numeral.digits digits = (digits, []) :=
        digits_eq_iff.mpr ⟨number, (fun _ never => nomatch never), (List.append_nil digits).symm⟩
      have marked : (mark == 'e' || mark == 'E') = true := by
        rwa [Bool.or_eq_true, beq_iff_eq, beq_iff_eq]
      have filled : digits.isEmpty = false := by
        rw [Bool.eq_false_iff, ne_eq, List.isEmpty_iff]
        exact nonempty
      rw [exponentOf?, if_pos marked, sign_append signed front]
      simp only [read, filled, List.isEmpty_nil, Bool.not_true, Bool.or_false, Bool.false_eq_true, if_false]

/-! ## Numerals -/

/-- Reading a numeral, in terms of its parts and of what stands behind its digits. -/
theorem parse?_of_parts {hasPoint : Bool} {fraction : List Char}
    (signed : Numeral.sign cs = (negative, whole ++ (point ++ rest)))
    (number : ∀ c ∈ whole, Text.isDigit c = true) (pointed : PointText hasPoint fraction point)
    (stop : ∀ c ∈ rest.head?, Text.isDigit c = false) (noPoint : hasPoint = false → '.' ∉ rest.head?) :
    parse? cs = if whole.isEmpty && fraction.isEmpty then none
      else (exponentOf? rest).map fun exponent => ⟨negative, whole, hasPoint, fraction, exponent⟩ := by
  unfold parse?
  cases pointed with
  | none =>
    have found : Numeral.digits (whole ++ rest) = (whole, rest) := digits_eq_iff.mpr ⟨number, stop, rfl⟩
    simp only [List.nil_append] at signed
    simp only [signed, found]
    cases rest with
    | nil => rfl
    | cons c rest =>
      have other : c ≠ '.' := fun same => noPoint rfl (congrArg some same)
      split
      · next same => exact absurd (List.cons.inj same).1 other
      · simp only [Bool.false_eq_true, if_false]
        cases exponentOf? (c :: rest) <;> rfl
  | some digits =>
    have mark : ∀ c ∈ ('.' :: (fraction ++ rest)).head?, Text.isDigit c = false := by
      intro c first
      cases first
      decide
    have found : Numeral.digits (whole ++ '.' :: (fraction ++ rest)) = (whole, '.' :: (fraction ++ rest)) :=
      digits_eq_iff.mpr ⟨number, mark, rfl⟩
    have found' : Numeral.digits (fraction ++ rest) = (fraction, rest) :=
      digits_eq_iff.mpr ⟨digits, stop, rfl⟩
    rw [List.cons_append] at signed
    simp only [signed, found, found', if_true]
    cases exponentOf? rest <;> rfl

/-- Every text has the parts of a numeral in front, though they may be empty. -/
theorem exists_parts (cs : List Char) : ∃ negative sign whole hasPoint fraction point rest,
    SignText negative sign ∧ (∀ c ∈ whole, Text.isDigit c = true) ∧ PointText hasPoint fraction point ∧
      (∀ c ∈ rest.head?, Text.isDigit c = false) ∧ (hasPoint = false → '.' ∉ rest.head?) ∧
        Numeral.sign cs = (negative, whole ++ (point ++ rest)) ∧
          cs = sign ++ (whole ++ (point ++ rest)) := by
  obtain ⟨sign, signed, split⟩ := sign_sound cs
  rcases signedRest : Numeral.sign cs with ⟨negative, behind⟩
  rcases found : Numeral.digits behind with ⟨whole, rest⟩
  obtain ⟨number, stop, rfl⟩ := digits_eq_iff.mp found
  rw [signedRest] at signed split
  by_cases mark : '.' ∈ rest.head?
  · obtain ⟨after, rfl⟩ := List.head?_eq_some_iff.mp mark
    rcases found' : Numeral.digits after with ⟨fraction, rest⟩
    obtain ⟨digits, stop', rfl⟩ := digits_eq_iff.mp found'
    exact ⟨_, sign, whole, _, _, _, rest, signed, number, .some digits, stop', (fun never => nomatch never),
      rfl, split⟩
  · exact ⟨_, sign, whole, _, _, _, rest, signed, number, .none, stop, fun _ => mark, rfl, split⟩

/-- An exponent begins with neither a digit nor a point. -/
theorem ExponentText.begins {exponent : Option Int} (written : ExponentText exponent text) :
    ∀ c ∈ text.head?, Text.isDigit c = false ∧ c ≠ '.' := by
  intro c first
  cases written with
  | none => cases first
  | some letter =>
    cases first
    rcases letter with rfl | rfl <;> decide

/-- A text is read as a numeral exactly if it is written as one, with the parts that it is written with. -/
theorem parse?_eq_some_iff {n : Numeral} : parse? cs = some n ↔ n.IsWritten cs := by
  constructor
  · intro read
    -- Where the parts leave a rest, the reader takes all of it for the exponent.
    obtain ⟨negative, sign, whole, hasPoint, fraction, point, rest, signed, number, pointed, stop, noPoint,
      signedRest, split⟩ := exists_parts cs
    rw [parse?_of_parts signedRest number pointed stop noPoint, Option.ite_none_left_eq_some,
      Bool.and_eq_true, List.isEmpty_iff, List.isEmpty_iff, not_and_or, Option.map_eq_some_iff] at read
    obtain ⟨nonempty, exponent, found, rfl⟩ := read
    exact ⟨number, nonempty, sign, point, rest, signed, pointed, exponentOf?_eq_some_iff.mp found, split⟩
  · rcases n with ⟨negative, whole, hasPoint, fraction, exponent⟩
    rintro ⟨number, nonempty, sign, point, mark, signed, pointed, written, rfl⟩
    dsimp only at number nonempty signed pointed written
    have front : ∀ c ∈ (whole ++ (point ++ mark)).head?, c ≠ '+' ∧ c ≠ '-' := by
      intro c first
      cases whole with
      | cons d whole =>
        cases first
        exact not_sign_of_isDigit (number c (List.mem_cons_self ..))
      | nil =>
        cases pointed with
        | none => exact absurd rfl (nonempty.resolve_left (absurd rfl))
        | some =>
          cases first
          decide
    rw [parse?_of_parts (sign_append signed front) number pointed (fun c first => (written.begins c first).1)
      (fun _ mark => (written.begins '.' mark).2 rfl), exponentOf?_eq_some_iff.mpr written, Option.map_some,
      if_neg]
    rw [Bool.and_eq_true, List.isEmpty_iff, List.isEmpty_iff, not_and_or]
    exact nonempty

theorem isNumeral_iff : IsNumeral cs ↔ ∃ n, parse? cs = some n :=
  exists_congr fun _ => parse?_eq_some_iff.symm

/-! ## Integers -/

theorem integerText_iff {value : Int} : IntegerText value cs ↔ ∃ n : Numeral, n.IsWritten cs ∧
    n.isInteger = true ∧ n.whole.length ≤ integerDigitLimit ∧ n.toInt = value := by
  constructor
  · intro written
    cases written with
    | @mk negative sign digits signed nonempty number short =>
      refine ⟨⟨negative, digits, false, [], none⟩,
        ⟨number, .inl nonempty, sign, [], [], signed, .none, .none, ?_⟩, rfl, short, rfl⟩
      rw [List.append_nil]
      exact congrArg (sign ++ ·) (List.append_nil digits).symm
  · rintro ⟨⟨negative, whole, hasPoint, fraction, exponent⟩,
      ⟨number, nonempty, sign, point, mark, signed, pointed, written, rfl⟩, plain, short, rfl⟩
    rw [isInteger, Bool.and_eq_true, Bool.not_eq_true', Option.isNone_iff_eq_none] at plain
    obtain ⟨rfl, rfl⟩ : hasPoint = false ∧ exponent = none := plain
    cases pointed
    cases written
    have nonempty : whole ≠ [] := nonempty.resolve_right (absurd rfl)
    have text := IntegerText.mk signed nonempty number short
    rw [List.nil_append, List.append_nil]
    exact text

end Numeral

/-! ## Floating-point numbers -/

theorem isNaN_ofCanonical (negative : Bool) (mantissa : Nat) (exponent : Int) :
    (Binary64.ofCanonical negative mantissa exponent).isNaN = false := by
  rw [Binary64.ofCanonical]
  split <;> rfl

/-- A numeral is never the not-a-number. -/
theorem Numeral.isNaN_toBinary64 (n : Numeral) : n.toBinary64.isNaN = false := by
  have carried (negative : Bool) (mantissa : Nat) (exponent : Int) :
      (if mantissa = Nat.pow 2 53 then Binary64.ofCanonical negative (Nat.pow 2 52) (exponent + 1)
        else Binary64.ofCanonical negative mantissa exponent).isNaN = false := by
    split <;> exact isNaN_ofCanonical _ _ _
  have quotient (negative : Bool) (dividend divisor : Nat) :
      (Binary64.ofQuotient negative dividend divisor).isNaN = false := by
    rw [Binary64.ofQuotient]
    split
    · rfl
    · exact carried _ _ _
  simp only [Numeral.toBinary64, Binary64.ofDecimal]
  split
  · rfl
  split
  · rfl
  split
  · rfl
  split <;> exact quotient _ _ _

end IssueBoard
