/-!
# Hexadecimal digits

Fixed-width hexadecimal numerals, as escapes in quoted texts and addresses use them.
-/

namespace IssueBoard.Text

/-- The hexadecimal digit of a value below sixteen; ten and above are letters in the given case. -/
def hexDigit (upper : Bool) (value : Nat) : Char :=
  if value < 10 then Char.ofNat ('0'.toNat + value)
  else Char.ofNat ((if upper then 'A' else 'a').toNat + (value - 10))

/-- The lowest `width` hexadecimal digits of a number, the highest first. -/
def hexDigits (upper : Bool) : (width : Nat) → Nat → List Char
  | 0, _ => []
  | width + 1, value => hexDigits upper width (value / 16) ++ [hexDigit upper (value % 16)]

/-- The value of a hexadecimal digit in either case. -/
def hexValue? (c : Char) : Option Nat :=
  if '0' ≤ c ∧ c ≤ '9' then some (c.toNat - '0'.toNat)
  else if 'a' ≤ c ∧ c ≤ 'f' then some (c.toNat - 'a'.toNat + 10)
  else if 'A' ≤ c ∧ c ≤ 'F' then some (c.toNat - 'A'.toNat + 10)
  else none

/-- The number that exactly these hexadecimal digits denote. -/
def hexNumber? (digits : List Char) : Option Nat :=
  digits.foldl (fun value c => do return 16 * (← value) + (← hexValue? c)) (some 0)

/-- The character that exactly these hexadecimal digits name, if they name one. -/
def hexChar? (digits : List Char) : Option Char := do
  let code ← hexNumber? digits
  if code.isValidChar then some (Char.ofNat code) else none

end IssueBoard.Text
