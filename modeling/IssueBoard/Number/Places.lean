import IssueBoard.Number.Layout
import IssueBoard.Text.Blank

/-!
# Numbers with a chosen number of digits

A positive number is written with a given number of places behind the point, or with a given number
of digits in all. It is rounded once, from its exact value, and a tie goes to the even digit.
-/

namespace IssueBoard

/-- What the number of digits that is asked for counts. -/
inductive Precision where
  /-- The places behind the point, however large the number is. -/
  | fixed
  /-- The places behind the first digit; an exponent follows. -/
  | scientific
  /-- All digits. The size of the number decides whether an exponent is needed. -/
  | general
  deriving DecidableEq

namespace Precision

/-- A number moved by some decimal places and rounded to an integer. -/
def scaled (value : Rat) (places : Int) : Nat :=
  if 0 ≤ places then
    Binary64.roundQuotient (value.num.natAbs * Nat.pow 10 places.toNat) value.den
  else Binary64.roundQuotient value.num.natAbs (value.den * Nat.pow 10 (-places).toNat)

/-- The first `count` digits of a number, and the exponent of the first one. -/
def leading (count : Nat) (value : Rat) : List Char × Int :=
  if value = 0 then (List.replicate count '0', 0)
  else
    let scale := Decimal.scale value
    let digits := Decimal.digitsOf (scaled value (count - scale))
    if count < digits.length then (digits.take count, scale) else (digits, scale - 1)

/-- A point and the digits behind it. A point with nothing behind it is left out, unless it has to
be kept. -/
def fraction (keepPoint : Bool) (digits : List Char) : List Char :=
  if digits.isEmpty && !keepPoint then [] else '.' :: digits

/-- A number with some places behind the point. -/
def withPlaces (keepPoint : Bool) (places : Nat) (value : Rat) : List Char :=
  let digits := Decimal.digitsOf (scaled value places)
  let padded := List.replicate (places + 1 - digits.length) '0' ++ digits
  let whole := padded.length - places
  padded.take whole ++ fraction keepPoint (padded.drop whole)

/-- Digits with an exponent, the point being behind the first digit. -/
def withExponent (keepPoint : Bool) (digits : List Char) (exponent : Int) : List Char :=
  digits.take 1 ++ fraction keepPoint (digits.drop 1)
    ++ NumeralStyle.standard.exponentText exponent

/-- A number with some digits in all. Zeros at the end are left out, unless they have to be kept. -/
def withDigits (keepZeros : Bool) (count : Nat) (value : Rat) : List Char :=
  let (digits, exponent) := leading count value
  let digits := if keepZeros then digits
    else digits.take 1 ++ Text.dropTrailing (· == '0') (digits.drop 1)
  if exponent < -4 ∨ (count : Int) ≤ exponent then withExponent keepZeros digits exponent
  else if exponent < 0 then '0' :: '.' :: List.replicate ((-exponent).toNat - 1) '0' ++ digits
  else
    let whole := exponent.toNat + 1
    digits.take whole ++ List.replicate (whole - digits.length) '0'
      ++ fraction keepZeros (digits.drop whole)

/-- A number that is not negative, written with a precision. `full` keeps the point and all
zeros. -/
def write (precision : Precision) (full : Bool) (count : Nat) (value : Rat) : List Char :=
  match precision with
  | .fixed => withPlaces full count value
  | .scientific =>
    let (digits, exponent) := leading (count + 1) value
    withExponent full digits exponent
  | .general => withDigits full (max count 1) value

end Precision

end IssueBoard
