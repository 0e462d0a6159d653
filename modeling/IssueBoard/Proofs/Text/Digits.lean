import IssueBoard.Text.Digit
import IssueBoard.Text.Hex
import Mathlib.Data.Nat.Digits.Defs

/-! # Digits of numbers

The digits of a natural number are digits, and they denote the number they were made from. Zeros in front
of them change nothing.
-/

namespace IssueBoard.Text

/-! ## Decimal digits -/

theorem digit?_digitChar {d : Nat} (small : d < 10) : digit? (Nat.digitChar d) = some d := by
  have all : ∀ d < 10, digit? (Nat.digitChar d) = some d := by decide
  exact all d small

theorem isDigit_digitChar {d : Nat} (small : d < 10) : isDigit (Nat.digitChar d) = true := by
  rw [isDigit, digit?_digitChar small, Option.isSome_some]

theorem digitsValue_concat (digits : List Char) (c : Char) :
    digitsValue (digits ++ [c]) = 10 * digitsValue digits + (digit? c).getD 0 := by
  simp only [digitsValue, List.foldl_append, List.foldl_cons, List.foldl_nil]

/-- A zero in front counts for nothing. -/
theorem digitsValue_zero_cons (digits : List Char) : digitsValue ('0' :: digits) = digitsValue digits := by
  have zero : 10 * 0 + (digit? '0').getD 0 = 0 := by decide
  rw [digitsValue, List.foldl_cons, zero, digitsValue]

theorem isDigit_of_mem_toDigits (n : Nat) : ∀ c ∈ Nat.toDigits 10 n, isDigit c = true := by
  induction n using Nat.strong_induction_on with
  | _ n ih =>
    by_cases small : n < 10
    · rw [Nat.toDigits_of_lt_base small]
      exact List.forall_mem_singleton.mpr (isDigit_digitChar small)
    · rw [Nat.toDigits_of_base_le (by decide) (by omega)]
      rw [List.forall_mem_append]
      constructor
      · exact ih (n / 10) (by omega)
      · exact List.forall_mem_singleton.mpr (isDigit_digitChar (Nat.mod_lt n (by decide)))

/-- The digits of a number denote it. -/
theorem digitsValue_toDigits (n : Nat) : digitsValue (Nat.toDigits 10 n) = n := by
  induction n using Nat.strong_induction_on with
  | _ n ih =>
    by_cases small : n < 10
    · rw [Nat.toDigits_of_lt_base small]
      simp [digitsValue, digit?_digitChar small]
    · rw [Nat.toDigits_of_base_le (by decide) (by omega), digitsValue_concat, ih (n / 10) (by omega),
        digit?_digitChar (Nat.mod_lt n (by decide)), Option.getD_some]
      omega

/-! ## Hexadecimal digits -/

/-- A digit has the value that it was written for. -/
theorem hexValue?_hexDigit :
    ∀ value < 16, ∀ upper, hexValue? (hexDigit upper value) = some value := by
  decide

/-- Hexadecimal digits denote the number that they were written for. -/
theorem hexNumber?_hexDigits (upper : Bool) (width value : Nat) :
    hexNumber? (hexDigits upper width value) = some (value % 16 ^ width) := by
  induction width generalizing value with
  | zero => simp [hexDigits, hexNumber?, Nat.mod_one]
  | succ width ih =>
    have last := hexValue?_hexDigit (value % 16) (Nat.mod_lt _ (by decide)) upper
    have first := ih (value / 16)
    rw [hexNumber?] at first
    rw [hexDigits, hexNumber?, List.foldl_append, first]
    simp only [List.foldl_cons, List.foldl_nil, last]
    have joined : 16 * (value / 16 % 16 ^ width) + value % 16 = value % 16 ^ (width + 1) := by
      rw [Nat.pow_succ', Nat.mod_mul]
      omega
    exact congrArg some joined

end IssueBoard.Text
