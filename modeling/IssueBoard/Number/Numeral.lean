import IssueBoard.Number.Binary64
import IssueBoard.Text.Blank
import IssueBoard.Text.Digit

/-!
# Reading numerals

Decimal numerals as numbers. A numeral is an optional sign, digits with an optional point among or
before them, and an optional exponent; digits of every script count. Integers of more than 4300
digits are refused, in reading as in writing.
-/

namespace IssueBoard

/-- The largest number of digits of an integer that is read or written. -/
def integerDigitLimit : Nat := 4300

/-- The parts of a decimal numeral: sign, digits before and after the point, whether there is a
point, and the exponent if there is one. -/
structure Numeral where
  negative : Bool
  whole : List Char
  hasPoint : Bool
  fraction : List Char
  exponent : Option Int
  deriving DecidableEq

namespace Numeral

/-- Splits an optional sign off; the flag is set for a minus. -/
def sign : List Char → Bool × List Char
  | '-' :: rest => (true, rest)
  | '+' :: rest => (false, rest)
  | rest => (false, rest)

/-- The leading digits and what follows them. -/
def digits (cs : List Char) : List Char × List Char :=
  (cs.takeWhile Text.isDigit, cs.dropWhile Text.isDigit)

/-- Reads an exponent that is all that is left. -/
def exponentOf? : List Char → Option (Option Int)
  | [] => some none
  | mark :: rest =>
    if mark == 'e' || mark == 'E' then
      let (negative, rest) := sign rest
      let (value, rest) := digits rest
      if value.isEmpty || !rest.isEmpty then none
      else some (some (if negative then -(Text.digitsValue value : Int)
        else (Text.digitsValue value : Int)))
    else none

/-- Reads a whole text as a numeral. -/
def parse? (cs : List Char) : Option Numeral := do
  let (negative, rest) := sign cs
  let (whole, rest) := digits rest
  let (hasPoint, rest) := match rest with
    | '.' :: after => (true, after)
    | _ => (false, rest)
  let (fraction, rest) := if hasPoint then digits rest else ([], rest)
  if whole.isEmpty && fraction.isEmpty then none
  else return { negative, whole, hasPoint, fraction, exponent := ← exponentOf? rest }

/-- Whether a numeral has neither point nor exponent. -/
def isInteger (n : Numeral) : Bool := !n.hasPoint && n.exponent.isNone

/-- The integer that the digits before the point denote. -/
def toInt (n : Numeral) : Int :=
  if n.negative then -(Text.digitsValue n.whole : Int) else Text.digitsValue n.whole

end Numeral

/-- The number nearest to `± digits · 10 ^ exponent`. Exponents far outside the range are settled
without working the power out. -/
def Binary64.ofDecimal (negative : Bool) (digits : Nat) (exponent : Int) : Binary64 :=
  let magnitude : Int := (digits.log2 : Int) / 4 + exponent
  if digits = 0 then zero negative
  else if 400 < magnitude then .infinite negative
  else if (digits.log2 : Int) / 3 + exponent < -400 then zero negative
  else if 0 ≤ exponent then ofQuotient negative (digits * Nat.pow 10 exponent.toNat) 1
  else ofQuotient negative digits (Nat.pow 10 (-exponent).toNat)

/-- The number nearest to a numeral. -/
def Numeral.toBinary64 (n : Numeral) : Binary64 :=
  Binary64.ofDecimal n.negative (Text.digitsValue (n.whole ++ n.fraction))
    (n.exponent.getD 0 - n.fraction.length)

/-- Leaves out the underscores that stand between two digits; `none` when one stands elsewhere. -/
def withoutSeparators? (afterDigit : Bool) : List Char → Option (List Char)
  | [] => some []
  | '_' :: rest =>
    if afterDigit && rest.head?.any Text.isDigit then withoutSeparators? false rest else none
  | c :: rest => do return c :: (← withoutSeparators? (Text.isDigit c) rest)

/-- Whether a character may stand around a numeral. The information separators may not. -/
def isNumeralBlank (c : Char) : Bool :=
  Text.isBlank c && !(0x1C ≤ c.toNat && c.toNat ≤ 0x1F)

/-- The characters of a numeral without the blanks around it. -/
def trimNumeral (cs : List Char) : List Char :=
  Text.dropTrailing isNumeralBlank (cs.dropWhile isNumeralBlank)

/-- Reads a text as a binary number: a numeral or the name of an infinity or of the not-a-number,
between blanks, with underscores between digits allowed. -/
def Binary64.parse? (s : String) : Option Binary64 :=
  let cs := trimNumeral s.toList
  let (negative, rest) := Numeral.sign cs
  let word := String.ofList (rest.map Char.toLower)
  if word == "nan" then some .nan
  else if word == "inf" || word == "infinity" then some (.infinite negative)
  else ((withoutSeparators? false cs).bind Numeral.parse?).map Numeral.toBinary64

/-! ## Integers -/

/-- Why a text is not read as an integer. -/
inductive IntegerFault where
  /-- It has more digits than are read; the count is kept. -/
  | tooLong (digits : Nat)
  /-- It is no integer numeral. -/
  | malformed
  deriving DecidableEq

/-- The value of a digit to a base. Letters count from ten on. -/
def digitIn? (base : Nat) (c : Char) : Option Nat :=
  let value := match Text.digit? c with
    | some value => some value
    | none => if c.isAlpha then some (c.toLower.toNat - 'a'.toNat + 10) else none
  value.filter (· < base)

/-- The bases that a letter behind a zero stands for. -/
def baseOfLetter? (letter : Char) : Option Nat :=
  match letter.toLower with
  | 'x' => some 16
  | 'o' => some 8
  | 'b' => some 2
  | _ => none

/-- The base of an integer numeral without its sign, and its digits. Base zero lets the numeral
tell: by a zero and a letter in front, or else the base is ten. One underscore may follow the
letter. -/
def baseAndDigits (base : Nat) (cs : List Char) : Nat × List Char :=
  match cs with
  | '0' :: letter :: rest =>
    match baseOfLetter? letter with
    | some found =>
      if base = found ∨ base = 0 then (found, if rest.head? == some '_' then rest.drop 1 else rest)
      else (base, cs)
    | none => (if base = 0 then 10 else base, cs)
  | _ => (if base = 0 then 10 else base, cs)

/-- Whether every underscore in a run of digits stands between two digits. -/
def areSeparated (afterDigit : Bool) : List Char → Bool
  | [] => afterDigit
  | c :: rest => if c == '_' then afterDigit && areSeparated false rest else areSeparated true rest

/-- The bases whose numerals may have any number of digits. -/
def unlimitedBases : List Nat := [2, 4, 8, 16, 32]

/-- Reads a text as an integer to a base: an optional sign and digits, between blanks, with
underscores between digits allowed. Where the base is left to the numeral, only zero may begin with
a zero. -/
def parseIntegerTo (base : Nat) (s : String) : Except IntegerFault Int := do
  let (negative, rest) := Numeral.sign (trimNumeral s.toList)
  let (found, cs) := baseAndDigits base rest
  let run := cs.takeWhile fun c => c == '_' || (digitIn? found c).isSome
  if !areSeparated false run then throw .malformed
  let digits := run.filterMap (digitIn? found)
  if integerDigitLimit < digits.length && !unlimitedBases.contains found then
    throw (.tooLong digits.length)
  let value := digits.foldl (fun value digit => found * value + digit) 0
  let isPadded := base = 0 && found = 10 && rest.head? == some '0' && value != 0
  if run.length < cs.length || isPadded then throw .malformed
  return if negative then -(value : Int) else value

/-- Reads a text as an integer to the base ten. -/
def parseInteger (s : String) : Except IntegerFault Int := parseIntegerTo 10 s

end IssueBoard
