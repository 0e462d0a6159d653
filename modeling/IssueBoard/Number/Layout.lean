import IssueBoard.Number.Shortest

/-!
# Number layout

How the digits of a number are laid out as text. Every decision of a notation is one field of a
record: where positional writing ends, what an integral number ends in, and how an exponent looks.
-/

namespace IssueBoard

/-- The decisions of a way of writing numbers. -/
structure NumeralStyle where
  /-- The least exponent of the first digit that is written positionally. -/
  leastPositional : Int
  /-- The least exponent of the first digit that is too large to be written positionally. -/
  pastPositional : Int
  /-- What follows the digits of an integral number. -/
  integralEnd : String
  /-- The mark in front of an exponent. -/
  mark : String
  /-- The sign of an exponent that is not negative. -/
  plus : String
  /-- The least number of digits of an exponent. -/
  exponentWidth : Nat
  /-- The text of the not-a-number. -/
  nanText : String
  /-- The text of the positive infinity. -/
  infinityText : String

/-- Numbers are written positionally from `0.0001` up to but excluding `10 ^ 16`, and otherwise with
a signed exponent of two digits or more; an integral number keeps a zero after its point. -/
def NumeralStyle.standard : NumeralStyle where
  leastPositional := -4
  pastPositional := 16
  integralEnd := ".0"
  mark := "e"
  plus := "+"
  exponentWidth := 2
  nanText := "nan"
  infinityText := "inf"

namespace NumeralStyle

private def zeros (count : Nat) : List Char := List.replicate count '0'

/-- An exponent with its mark and sign. -/
def exponentText (style : NumeralStyle) (exponent : Int) : List Char :=
  let digits := Decimal.digitsOf exponent.natAbs
  let sign := if exponent < 0 then "-" else style.plus
  style.mark.toList ++ sign.toList ++ zeros (style.exponentWidth - digits.length) ++ digits

/-- Digits whose first has the given exponent, written positionally. -/
def positional (style : NumeralStyle) (digits : List Char) (exponent : Int) : List Char :=
  let whole := (exponent + 1).toNat
  if exponent < 0 then '0' :: '.' :: zeros ((-exponent).toNat - 1) ++ digits
  else if digits.length ≤ whole then
    digits ++ zeros (whole - digits.length) ++ style.integralEnd.toList
  else digits.take whole ++ '.' :: digits.drop whole

/-- Digits whose first has the given exponent, written with an exponent. -/
def scientific (style : NumeralStyle) (digits : List Char) (exponent : Int) : List Char :=
  let fraction := digits.drop 1
  digits.take 1 ++ (if fraction.isEmpty then [] else '.' :: fraction) ++
    style.exponentText exponent

/-- A positive decimal as text. -/
def layout (style : NumeralStyle) (d : Decimal) : List Char :=
  let digits := Decimal.digitsOf d.digits
  let exponent := d.exponent + digits.length - 1
  if style.leastPositional ≤ exponent ∧ exponent < style.pastPositional then
    style.positional digits exponent
  else style.scientific digits exponent

/-- A number as text. -/
def render (style : NumeralStyle) : Binary64 → String
  | .nan => style.nanText
  | .infinite negative => (if negative then "-" else "") ++ style.infinityText
  | .finite negative mantissa exponent _ =>
    let digits := if mantissa = 0 then style.positional ['0'] 0
      else style.layout (Binary64.shortest mantissa exponent)
    (if negative then "-" else "") ++ String.ofList digits

end NumeralStyle

end IssueBoard
