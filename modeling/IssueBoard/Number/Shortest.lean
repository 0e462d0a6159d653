import IssueBoard.Number.Binary64

/-!
# Shortest decimal digits

The fewest decimal digits that read back as a given binary number, and of those the nearest to it.
A decimal reads back when it lies between the midpoints to the two neighbouring numbers; the
midpoints themselves count when the mantissa is even.
-/

namespace IssueBoard

/-- A positive decimal `digits · 10 ^ exponent`. -/
structure Decimal where
  digits : Nat
  exponent : Int
  deriving DecidableEq

namespace Decimal

/-- The rational number that a decimal is. -/
def toRat (d : Decimal) : Rat :=
  if 0 ≤ d.exponent then ((d.digits * Nat.pow 10 d.exponent.toNat : Nat) : Rat)
  else mkRat d.digits (Nat.pow 10 (-d.exponent).toNat)

/-- The decimal digits of a natural number, the highest first. -/
def digitsOf (n : Nat) : List Char := Nat.toDigits 10 n

/-- How many decimal digits a natural number has. -/
def digitCount (n : Nat) : Nat := (digitsOf n).length

/-- Moves trailing zeros of the digits into the exponent, at most `fuel` of them. -/
def strip : (fuel : Nat) → Decimal → Decimal
  | 0, d => d
  | fuel + 1, d =>
    if d.digits % 10 = 0 ∧ d.digits ≠ 0 then strip fuel ⟨d.digits / 10, d.exponent + 1⟩ else d

/-- The least power of ten above a positive rational, as its exponent. -/
def scale (value : Rat) : Int :=
  let whole := value.floor.toNat
  if 0 < whole then digitCount whole
  else
    let inverse := 1 / value
    let zeros : Int := (digitCount inverse.floor.toNat : Int) - 1
    if inverse = ((Nat.pow 10 zeros.toNat : Nat) : Rat) then 1 - zeros else -zeros

end Decimal

namespace Binary64

/-- The midpoints between a finite positive number and its neighbours below and above. -/
def midpoints (mantissa : Nat) (exponent : Int) : Rat × Rat :=
  let unit := powerOfTwo exponent
  let low := if mantissa = Nat.pow 2 52 ∧ minExponent < exponent
    then (mantissa : Rat) * unit - unit / 4 else (mantissa : Rat) * unit - unit / 2
  (low, (mantissa : Rat) * unit + unit / 2)

/-- Whether a positive rational reads back as the number `mantissa · 2 ^ exponent`. -/
def readsBack (mantissa : Nat) (exponent : Int) (value : Rat) : Bool :=
  let (low, high) := midpoints mantissa exponent
  if mantissa % 2 = 0 then low ≤ value && value ≤ high else low < value && value < high

/-- The decimal on the grid of a power of ten that reads back, if there is one. Of two the nearer is
taken, of two equally near ones the even one. -/
def onGrid? (mantissa : Nat) (exponent : Int) (grid : Int) : Option Decimal :=
  let value := (mantissa : Rat) * powerOfTwo exponent
  let below := (value / (Decimal.mk 1 grid).toRat).floor.toNat
  let lower : Decimal := ⟨below, grid⟩
  let upper : Decimal := ⟨below + 1, grid⟩
  let lowerFits := readsBack mantissa exponent lower.toRat
  let upperFits := readsBack mantissa exponent upper.toRat
  let toLower := value - lower.toRat
  let toUpper := upper.toRat - value
  let lowerWins := toLower < toUpper || (toLower == toUpper && below % 2 == 0)
  if lowerFits && (!upperFits || lowerWins) then some lower
  else if upperFits then some upper
  else none

/-- The first of the grids with `count` digits, `count + 1` digits and so on that has a decimal
which reads back; `fuel` grids are tried. -/
def shortestFrom (mantissa : Nat) (exponent scale : Int) : (fuel count : Nat) → Option Decimal
  | 0, _ => none
  | fuel + 1, count =>
    match onGrid? mantissa exponent (scale - count) with
    | some decimal => some decimal
    | none => shortestFrom mantissa exponent scale fuel (count + 1)

/-- The exact decimal value of `mantissa · 2 ^ exponent`. -/
def exactDecimal (mantissa : Nat) (exponent : Int) : Decimal :=
  if 0 ≤ exponent then ⟨mantissa * Nat.pow 2 exponent.toNat, 0⟩
  else ⟨mantissa * Nat.pow 5 (-exponent).toNat, exponent⟩

/-- The fewest digits that read back as the positive number `mantissa · 2 ^ exponent`, without
trailing zeros. Seventeen digits always suffice. -/
def shortest (mantissa : Nat) (exponent : Int) : Decimal :=
  let scale := Decimal.scale ((mantissa : Rat) * powerOfTwo exponent)
  let found := (shortestFrom mantissa exponent scale 17 1).getD (exactDecimal mantissa exponent)
  found.strip 1100

end Binary64

end IssueBoard
