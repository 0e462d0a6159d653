import IssueBoard.Board.Coercion
import IssueBoard.Proofs.Number.Numeral
import IssueBoard.Proofs.Text.Digits

/-! # Numbers read back

An integer is read back from its text, whether as the text of a template, with a sign, zeros and blanks
around the digits, or as the result of a script, from digits alone. Of every text of a template it is told
what it becomes: an integer exactly if it is blank or spells one of not too many digits, the not-a-number
exactly if it is neither blank nor a numeral, and a floating-point number otherwise.
-/

namespace IssueBoard

open Numeral (IntegerText IsNumeral SignText)
open Text (TrimsTo isBlank isDigit)

/-- The digits of a number behind zeros. -/
def paddedDigits (zeros n : Nat) : List Char := List.replicate zeros '0' ++ Nat.toDigits 10 n

variable {core : List Char} {text : String} {n : Int}

/-! ## Padded digits -/

theorem length_paddedDigits (zeros n : Nat) :
    (paddedDigits zeros n).length = zeros + (Nat.toDigits 10 n).length := by
  rw [paddedDigits, List.length_append, List.length_replicate]

theorem isDigit_of_mem_paddedDigits (zeros n : Nat) : ∀ c ∈ paddedDigits zeros n, isDigit c = true := by
  refine List.forall_mem_append.mpr ⟨?_, Text.isDigit_of_mem_toDigits n⟩
  intro c zero
  rw [List.eq_of_mem_replicate zero]
  decide

theorem digitsValue_paddedDigits (zeros n : Nat) : Text.digitsValue (paddedDigits zeros n) = n := by
  induction zeros with
  | zero => exact Text.digitsValue_toDigits n
  | succ zeros ih =>
    rw [paddedDigits, List.replicate_succ, List.cons_append, Text.digitsValue_zero_cons]
    exact ih

theorem paddedDigits_ne_nil (zeros n : Nat) : paddedDigits zeros n ≠ [] := by
  have some : 0 < (Nat.toDigits 10 n).length := Nat.length_toDigits_pos
  apply List.ne_nil_of_length_pos
  rw [length_paddedDigits]
  omega

/-- A sign, zeros and the digits of an integer spell it. -/
theorem integerText_paddedDigits {sign : List Char} {zeros : Nat} (signed : SignText (decide (n < 0)) sign)
    (short : zeros + (Nat.toDigits 10 n.natAbs).length ≤ integerDigitLimit) :
    IntegerText n (sign ++ paddedDigits zeros n.natAbs) := by
  have written := IntegerText.mk signed (paddedDigits_ne_nil zeros n.natAbs)
    (isDigit_of_mem_paddedDigits zeros n.natAbs) (by rwa [length_paddedDigits])
  have value : (if decide (n < 0) = true then -(n.natAbs : Int) else n.natAbs) = n := by
    by_cases negative : n < 0
    · rw [decide_eq_true negative, if_pos rfl]
      omega
    · rw [decide_eq_false negative, if_neg Bool.false_ne_true]
      omega
  rwa [digitsValue_paddedDigits, value] at written

/-- Neither a sign nor a digit is a blank. -/
theorem IntegerText.isTrimmed (written : IntegerText n core) : Text.IsTrimmed core := by
  cases written with
  | @mk negative sign digits signed nonempty number short =>
    have visible : ∀ c ∈ sign ++ digits, isBlank c = false := by
      refine List.forall_mem_append.mpr ⟨?_, fun c member => Text.isBlank_of_isDigit (number c member)⟩
      cases signed with
      | bare => exact List.forall_mem_nil _
      | plus => exact List.forall_mem_singleton.mpr (by decide)
      | minus => exact List.forall_mem_singleton.mpr (by decide)
    exact ⟨fun c first => visible c (List.mem_of_mem_head? first),
      fun c last => visible c (List.mem_of_getLast? last)⟩

/-! ## Texts of templates -/

theorem templateNumber_of_trimsTo (trims : TrimsTo text.toList core) : templateNumber text =
    if core.isEmpty then .integer 0
    else match Numeral.parse? core with
      | none => Number.nan
      | some numeral =>
        if numeral.isInteger && numeral.whole.length ≤ integerDigitLimit then .integer numeral.toInt
        else .real numeral.toBinary64 := by
  rw [← trims.trimBlank_eq]
  rfl

theorem not_isNumeral_nil : ¬ IsNumeral [] := by
  rw [Numeral.isNumeral_iff]
  rintro ⟨n, never⟩
  cases never

theorem integerText_iff_parse : IntegerText n core ↔ ∃ numeral, Numeral.parse? core = some numeral ∧
    (numeral.isInteger && numeral.whole.length ≤ integerDigitLimit) = true ∧ numeral.toInt = n := by
  simp only [Numeral.integerText_iff, Numeral.parse?_eq_some_iff, Bool.and_eq_true, decide_eq_true_eq,
    and_assoc]

theorem templateNumber_eq_integer_iff (trims : TrimsTo text.toList core) :
    templateNumber text = .integer n ↔ core = [] ∧ n = 0 ∨ IntegerText n core := by
  rw [templateNumber_of_trimsTo trims, integerText_iff_parse]
  split
  · next empty =>
    rw [List.isEmpty_iff] at empty
    subst empty
    constructor
    · intro same
      cases same
      exact .inl ⟨rfl, rfl⟩
    · rintro (⟨-, rfl⟩ | ⟨numeral, never, -⟩)
      · rfl
      · cases never
  · next nonempty =>
    rw [List.isEmpty_iff] at nonempty
    simp only [nonempty, false_and, false_or]
    cases Numeral.parse? core with
    | none => simp [Number.nan]
    | some numeral =>
      dsimp only
      constructor
      · split
        · next plain =>
          intro same
          exact ⟨numeral, rfl, plain, Number.integer.inj same⟩
        · exact nofun
      · rintro ⟨_, same, plain, rfl⟩
        cases same
        rw [if_pos plain]

theorem templateNumber_eq_nan_iff (trims : TrimsTo text.toList core) :
    templateNumber text = Number.nan ↔ core ≠ [] ∧ ¬ IsNumeral core := by
  rw [templateNumber_of_trimsTo trims, Numeral.isNumeral_iff, ne_eq, ← List.isEmpty_iff]
  split
  · next empty => simp [empty, Number.nan]
  · next nonempty =>
    cases Numeral.parse? core with
    | none => simp [nonempty]
    | some numeral =>
      refine iff_of_false ?_ (fun never => never.2 ⟨numeral, rfl⟩)
      dsimp only
      split
      · exact nofun
      · intro same
        have never := numeral.isNaN_toBinary64
        rw [Number.real.inj same] at never
        cases never

/-- What is neither an integer nor the not-a-number is a floating-point number. -/
theorem templateNumber_eq_real_iff (trims : TrimsTo text.toList core) :
    (∃ x : Binary64, templateNumber text = .real x ∧ x.isNaN = false) ↔
      IsNumeral core ∧ ∀ n, ¬ IntegerText n core := by
  have integer (n : Int) := templateNumber_eq_integer_iff (n := n) trims
  have nan := templateNumber_eq_nan_iff trims
  constructor
  · rintro ⟨x, real, number⟩
    -- The other two kinds of numbers are ruled out, and with them the other two kinds of texts.
    have numeral : core = [] ∨ IsNumeral core := by
      by_contra neither
      rw [not_or] at neither
      rw [nan.mpr neither] at real
      cases real
      cases number
    have noInteger (n : Int) : ¬ (core = [] ∧ n = 0 ∨ IntegerText n core) := by
      rw [← integer n, real]
      exact nofun
    exact ⟨numeral.resolve_left fun empty => noInteger 0 (.inl ⟨empty, rfl⟩),
      fun n written => noInteger n (.inr written)⟩
  · rintro ⟨numeral, noInteger⟩
    cases value : templateNumber text with
    | integer n =>
      rcases (integer n).mp value with ⟨rfl, -⟩ | written
      · exact absurd numeral not_isNumeral_nil
      · exact absurd written (noInteger n)
    | real x =>
      refine ⟨x, rfl, ?_⟩
      cases x with
      | nan => exact absurd numeral (nan.mp value).2
      | infinite => rfl
      | finite => rfl

/-- An integer is read back from its digits, with a sign, zeros in front and blanks around them. -/
theorem templateNumber_padded {sign before after : List Char} {zeros : Nat}
    (signed : SignText (decide (n < 0)) sign) (blank : ∀ c ∈ before, isBlank c = true)
    (blank' : ∀ c ∈ after, isBlank c = true)
    (short : zeros + (Nat.toDigits 10 n.natAbs).length ≤ integerDigitLimit) :
    templateNumber (String.ofList (before ++ (sign ++ paddedDigits zeros n.natAbs) ++ after)) =
      .integer n := by
  have written := integerText_paddedDigits signed short
  have trims : TrimsTo (String.ofList (before ++ (sign ++ paddedDigits zeros n.natAbs) ++ after)).toList
      (sign ++ paddedDigits zeros n.natAbs) := by
    rw [String.toList_ofList]
    exact ⟨IntegerText.isTrimmed written, before, after, blank, blank', rfl⟩
  exact (templateNumber_eq_integer_iff trims).mpr (.inr written)

/-! ## Printed integers -/

/-- An integer is shown as its digits, behind a minus if it is negative. -/
theorem display_integer (short : (Nat.toDigits 10 n.natAbs).length ≤ integerDigitLimit) :
    ∃ sign, SignText (decide (n < 0)) sign ∧
      (Data.integer n).display = .ok (String.ofList (sign ++ Nat.toDigits 10 n.natAbs)) := by
  have small := (Nat.length_toDigits_le_iff (k := integerDigitLimit) (by decide) (by decide)).mp short
  rw [← Nat.pow_eq] at small
  have shallow : ¬ nestingLimit < (Data.integer n).nesting := by
    rw [Data.nesting]
    decide
  have shown : (Data.integer n).display = integerText n := by
    simp only [Data.display, Data.toText, Data.literal, if_neg shallow, Data.write, Atom.literal]
  rw [shown, integerText, if_pos small]
  cases n with
  | ofNat n => exact ⟨[], .bare, rfl⟩
  | negSucc n =>
    have text : (Int.negSucc n).repr.toList = ['-'] ++ Nat.toDigits 10 (n + 1) := by
      have minus : (Int.negSucc n).repr = "-" ++ Nat.repr (n + 1) := rfl
      rw [minus, String.toList_append, Nat.toList_repr]
      rfl
    rw [decide_eq_true (Int.negSucc_lt_zero n), Int.natAbs_negSucc, ← String.ofList_toList (s := Int.repr _),
      text]
    exact ⟨['-'], .minus, rfl⟩

/-! ## Results of scripts -/

theorem scriptNumber_text (text : String) : scriptNumber (.text text) =
    if text.toList.isEmpty || !text.toList.all isDigit then .ok Number.nan
    else if integerDigitLimit < text.toList.length then .error (.numeralTooLong text.toList.length)
    else .ok (.integer (Text.digitsValue text.toList)) := rfl

theorem scriptNumber_digits (text : String) (nonempty : text.toList ≠ [])
    (number : ∀ c ∈ text.toList, isDigit c = true) (short : text.toList.length ≤ integerDigitLimit) :
    scriptNumber (.text text) = .ok (.integer (Text.digitsValue text.toList)) := by
  have other : ¬ (text.toList.isEmpty || !text.toList.all isDigit) = true := by
    rw [Bool.or_eq_true, List.isEmpty_iff, Bool.not_eq_true', List.all_eq_false]
    rintro (empty | ⟨c, member, never⟩)
    · exact nonempty empty
    · exact never (number c member)
  rw [scriptNumber_text, if_neg other, if_neg (Nat.not_lt.mpr short)]

/-- No text with another character than digits is a number. -/
theorem scriptNumber_of_mem {c : Char} (member : c ∈ text.toList) (other : isDigit c = false) :
    scriptNumber (.text text) = .ok Number.nan := by
  have spoiled : text.toList.all isDigit = false := by
    rw [List.all_eq_false]
    exact ⟨c, member, ne_true_of_eq_false other⟩
  rw [scriptNumber_text, spoiled, Bool.not_false, Bool.or_true, if_pos rfl]

/-! ## Both readings -/

/-- **Reading numbers undoes printing them.** An integer of at most 4300 digits is read back by a template
from its digits with a sign, zeros in front and blanks around them, so also from the text that it is shown
as, and by a script from digits alone; a sign, a point or a blank makes the text of a script no number. The
text of a template is an integer exactly if it is blank, and then zero, or spells one; it is the not-a-number
exactly if it is neither blank nor a decimal numeral, and a floating-point number otherwise. -/
theorem templateNumber_printed :
    (∀ (n : Int) (sign before after : List Char) (zeros : Nat), SignText (decide (n < 0)) sign →
      (∀ c ∈ before, isBlank c = true) → (∀ c ∈ after, isBlank c = true) →
      zeros + (Nat.toDigits 10 n.natAbs).length ≤ integerDigitLimit →
      templateNumber (String.ofList (before ++ (sign ++ paddedDigits zeros n.natAbs) ++ after)) =
        .integer n) ∧
    (∀ n : Int, (Nat.toDigits 10 n.natAbs).length ≤ integerDigitLimit →
      ∃ text, (Data.integer n).display = .ok text ∧ templateNumber text = .integer n) ∧
    (∀ n zeros : Nat, zeros + (Nat.toDigits 10 n).length ≤ integerDigitLimit →
      scriptNumber (.text (String.ofList (paddedDigits zeros n))) = .ok (.integer n)) ∧
    (∀ (text : String) (c : Char), c ∈ text.toList → (c = '+' ∨ c = '-' ∨ c = '.' ∨ isBlank c = true) →
      scriptNumber (.text text) = .ok Number.nan) ∧
    ∀ text : String, ∃ core, TrimsTo text.toList core ∧
      (∀ n, templateNumber text = .integer n ↔ core = [] ∧ n = 0 ∨ IntegerText n core) ∧
      (templateNumber text = Number.nan ↔ core ≠ [] ∧ ¬ IsNumeral core) ∧
      ((∃ x : Binary64, templateNumber text = .real x ∧ x.isNaN = false) ↔
        IsNumeral core ∧ ∀ n, ¬ IntegerText n core) := by
  refine ⟨?_, ?_, ?_, ?_, ?_⟩
  · intro n sign before after zeros signed blank blank' short
    exact templateNumber_padded signed blank blank' short
  · intro n short
    obtain ⟨sign, signed, shown⟩ := display_integer short
    refine ⟨_, shown, ?_⟩
    rw [← Nat.zero_add (Nat.toDigits 10 n.natAbs).length] at short
    have read := templateNumber_padded signed (List.forall_mem_nil _) (List.forall_mem_nil _) short
    rwa [List.append_nil] at read
  · intro n zeros short
    have text := String.toList_ofList (l := paddedDigits zeros n)
    have read := scriptNumber_digits (String.ofList (paddedDigits zeros n))
    rw [text, length_paddedDigits, digitsValue_paddedDigits] at read
    exact read (paddedDigits_ne_nil zeros n) (isDigit_of_mem_paddedDigits zeros n) short
  · intro text c member mark
    apply scriptNumber_of_mem member
    rcases mark with rfl | rfl | rfl | blank
    · decide
    · decide
    · decide
    · exact Text.isDigit_of_isBlank blank
  · intro text
    have trims := Text.trimsTo_trimBlank text.toList
    exact ⟨_, trims, fun n => templateNumber_eq_integer_iff trims, templateNumber_eq_nan_iff trims,
      templateNumber_eq_real_iff trims⟩

/-- The integer `-12` with zeros and blanks, and the texts of scripts that are like it. -/
theorem templateNumber_printed_padded :
    templateNumber " -0012\n" = .integer (-12) ∧ scriptNumber (.text "0012") = .ok (.integer 12) ∧
      scriptNumber (.text "-12") = .ok Number.nan ∧ scriptNumber (.text "12.") = .ok Number.nan ∧
      ∃ text, (Data.integer (-12)).display = .ok text ∧ templateNumber text = .integer (-12) := by
  obtain ⟨padded, shown, script, spoiled, -⟩ := templateNumber_printed
  have spaced : " -0012\n" = String.ofList ([' '] ++ (['-'] ++ paddedDigits 2 12) ++ ['\n']) := by
    decide +kernel
  have zeros : "0012" = String.ofList (paddedDigits 2 12) := by decide +kernel
  refine ⟨?_, ?_, ?_, ?_, ?_⟩
  · have signed : SignText (decide ((-12 : Int) < 0)) ['-'] := by
      rw [decide_eq_true (by decide : (-12 : Int) < 0)]
      exact .minus
    have read := padded (-12) ['-'] [' '] ['\n'] 2 signed (List.forall_mem_singleton.mpr (by decide))
      (List.forall_mem_singleton.mpr (by decide)) (by decide)
    have size : (-12 : Int).natAbs = 12 := rfl
    rwa [size, ← spaced] at read
  · have read := script 12 2 (by decide)
    rwa [← zeros, Nat.cast_ofNat] at read
  · exact spoiled "-12" '-' (by decide) (.inr (.inl rfl))
  · exact spoiled "12." '.' (by decide) (.inr (.inr (.inl rfl)))
  · exact shown (-12) (by decide)

end IssueBoard
