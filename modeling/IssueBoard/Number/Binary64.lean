/-!
# Binary floating-point numbers

Numbers of 53 significant bits with an eleven-bit exponent, the two infinities and a not-a-number.
Every finite number is `± mantissa · 2 ^ exponent`, in one canonical form. Arithmetic is the exact
rational result rounded to the nearest number, a tie going to the even mantissa.
-/

namespace IssueBoard

/-- The largest exponent of a finite number. -/
def Binary64.maxExponent : Int := 971

/-- The least exponent of a finite number; numbers with a short mantissa have it too. -/
def Binary64.minExponent : Int := -1074

/-- Whether a mantissa and an exponent are the canonical form of a finite number: the mantissa has
53 bits, unless the exponent is already the least one. -/
abbrev Binary64.IsCanonical (mantissa : Nat) (exponent : Int) : Prop :=
  mantissa < Nat.pow 2 53 ∧ minExponent ≤ exponent ∧ exponent ≤ maxExponent ∧
    (Nat.pow 2 52 ≤ mantissa ∨ exponent = minExponent)

/-- A binary floating-point number of 64 bits. -/
inductive Binary64 where
  | nan
  | infinite (negative : Bool)
  | finite (negative : Bool) (mantissa : Nat) (exponent : Int)
      (canonical : Binary64.IsCanonical mantissa exponent)
  deriving DecidableEq

namespace Binary64

/-- Zero of the given sign. -/
def zero (negative : Bool) : Binary64 := .finite negative 0 minExponent (by decide)

instance : Inhabited Binary64 := ⟨zero false⟩

/-- Two to an integer power. -/
def powerOfTwo (exponent : Int) : Rat :=
  if 0 ≤ exponent then ((Nat.pow 2 exponent.toNat : Nat) : Rat)
  else mkRat 1 (Nat.pow 2 (-exponent).toNat)

/-- The rational number that a finite number is; the others are taken for zero. -/
def toRat : Binary64 → Rat
  | .finite negative mantissa exponent _ =>
    let magnitude := (mantissa : Rat) * powerOfTwo exponent
    if negative then -magnitude else magnitude
  | _ => 0

/-- Whether the sign bit is set. -/
def isNegative : Binary64 → Bool
  | .nan => false
  | .infinite negative => negative
  | .finite negative _ _ _ => negative

/-- Whether this is the not-a-number. -/
def isNaN : Binary64 → Bool
  | .nan => true
  | _ => false

/-- Whether this is a finite number. -/
def isFinite : Binary64 → Bool
  | .finite .. => true
  | _ => false

/-- Whether this is a zero of either sign. -/
def isZero : Binary64 → Bool
  | .finite _ mantissa _ _ => mantissa == 0
  | _ => false

/-- A mantissa that fits an exponent makes a finite number; one that does not is infinite. -/
def ofCanonical (negative : Bool) (mantissa : Nat) (exponent : Int) : Binary64 :=
  if h : IsCanonical mantissa exponent then .finite negative mantissa exponent h
  else .infinite negative

/-- The quotient of two naturals rounded to the nearest natural, a tie to the even one. -/
def roundQuotient (dividend divisor : Nat) : Nat :=
  let quotient := dividend / divisor
  let twice := 2 * (dividend % divisor)
  if twice < divisor then quotient
  else if twice = divisor ∧ quotient % 2 = 0 then quotient
  else quotient + 1

/-- The exponent that a positive quotient is rounded at: the one that leaves 53 bits before the
point, but no less than the least exponent. -/
def roundingExponent (dividend divisor : Nat) : Int :=
  let estimate : Int := (dividend.log2 : Int) - divisor.log2 - 53
  let wide := if 0 ≤ estimate then dividend / (divisor * Nat.pow 2 estimate.toNat)
    else dividend * Nat.pow 2 (-estimate).toNat / divisor
  max minExponent (if wide < Nat.pow 2 53 then estimate else estimate + 1)

/-- The quotient of two naturals as the nearest number of the given sign. -/
def ofQuotient (negative : Bool) (dividend divisor : Nat) : Binary64 :=
  if dividend = 0 then zero negative
  else
    let exponent := roundingExponent dividend divisor
    let mantissa := if 0 ≤ exponent then roundQuotient dividend (divisor * Nat.pow 2 exponent.toNat)
      else roundQuotient (dividend * Nat.pow 2 (-exponent).toNat) divisor
    if mantissa = Nat.pow 2 53 then ofCanonical negative (Nat.pow 2 52) (exponent + 1)
    else ofCanonical negative mantissa exponent

/-- The number nearest to a rational; a zero is positive. -/
def round (value : Rat) : Binary64 :=
  ofQuotient (value.num < 0) value.num.natAbs value.den

/-- The number nearest to an integer, if that is finite. -/
def ofInt? (value : Int) : Option Binary64 :=
  match round value with
  | .finite negative mantissa exponent h => some (.finite negative mantissa exponent h)
  | _ => none

/-- The number with the sign turned round. -/
def neg : Binary64 → Binary64
  | .nan => .nan
  | .infinite negative => .infinite !negative
  | .finite negative mantissa exponent h => .finite (!negative) mantissa exponent h

instance : Neg Binary64 := ⟨neg⟩

/-- The sum. Opposite infinities have none, and a zero sum is negative only when both terms are. -/
def add : Binary64 → Binary64 → Binary64
  | .nan, _ => .nan
  | _, .nan => .nan
  | .infinite left, .infinite right => if left == right then .infinite left else .nan
  | .infinite left, _ => .infinite left
  | _, .infinite right => .infinite right
  | x, y =>
    let sum := x.toRat + y.toRat
    if sum = 0 then zero (x.isNegative && y.isNegative) else round sum

instance : Add Binary64 := ⟨add⟩

instance : Sub Binary64 := ⟨fun x y => x + -y⟩

/-- The product. Zero times infinity has none. -/
def mul : Binary64 → Binary64 → Binary64
  | .nan, _ => .nan
  | _, .nan => .nan
  | x, y =>
    let negative := x.isNegative != y.isNegative
    if x.isFinite && y.isFinite then
      let product := x.toRat * y.toRat
      if product = 0 then zero negative else round product
    else if x.isZero || y.isZero then .nan
    else .infinite negative

instance : Mul Binary64 := ⟨mul⟩

/-- The quotient. A zero divisor gives an infinity, and neither `0 / 0` nor the quotient of two
infinities exists. -/
def div : Binary64 → Binary64 → Binary64
  | .nan, _ => .nan
  | _, .nan => .nan
  | .infinite _, .infinite _ => .nan
  | .infinite left, y => .infinite (left != y.isNegative)
  | x, .infinite right => zero (x.isNegative != right)
  | x, y =>
    let negative := x.isNegative != y.isNegative
    if y.isZero then (if x.isZero then .nan else .infinite negative)
    else
      let quotient := x.toRat / y.toRat
      if quotient = 0 then zero negative else round quotient

instance : Div Binary64 := ⟨div⟩

/-- The order of two numbers; a not-a-number compares with none. -/
def compare? : Binary64 → Binary64 → Option Ordering
  | .nan, _ => none
  | _, .nan => none
  | .infinite left, .infinite right => some (Ord.compare right left)
  | .infinite left, _ => some (if left then .lt else .gt)
  | _, .infinite right => some (if right then .gt else .lt)
  | x, y => some (if x.toRat < y.toRat then .lt else if x.toRat = y.toRat then .eq else .gt)

/-- The greatest integer that is no larger, of a finite number. -/
def floor? (x : Binary64) : Option Int := if x.isFinite then some x.toRat.floor else none

/-- The integer next toward zero, of a finite number. -/
def truncate? (x : Binary64) : Option Int :=
  if x.isFinite then some (Int.tdiv x.toRat.num x.toRat.den) else none

/-- Whether a finite number is an integer. -/
def isIntegral (x : Binary64) : Bool := x.isFinite && x.toRat.den == 1

/-- The remainder of the division toward zero; it is exact and has the sign of the dividend. -/
def truncatedRemainder : Binary64 → Binary64 → Binary64
  | .nan, _ => .nan
  | _, .nan => .nan
  | .infinite _, _ => .nan
  | x, .infinite _ => x
  | x, y =>
    if y.isZero then .nan
    else
      let quotient := x.toRat / y.toRat
      let rest := x.toRat - y.toRat * (Int.tdiv quotient.num quotient.den : Int)
      if rest = 0 then zero x.isNegative else round rest

/-- The magnitude with the sign of another number. -/
def withSignOf (x sign : Binary64) : Binary64 :=
  if x.isNegative == sign.isNegative then x else -x

/-- The quotient and the remainder of the division toward the lower integer; the remainder has the
sign of the divisor. -/
def divideFloor (x y : Binary64) : Binary64 × Binary64 :=
  let rest := x.truncatedRemainder y
  let quotient := (x - rest) / y
  let (quotient, rest) :=
    if rest.isZero then (quotient, (zero false).withSignOf y)
    else if y.isNegative != rest.isNegative && !rest.isNaN then
      (quotient - round 1, rest + y)
    else (quotient, rest)
  match quotient.floor? with
  | none => (quotient, rest)
  | some lower =>
    if quotient.isZero then ((zero false).withSignOf (x / y), rest)
    else
      let below := round lower
      if (quotient - below).compare? (round (1/2)) == some .gt then (below + round 1, rest)
      else (below.withSignOf quotient, rest)

/-- The bits of a number, sign first. -/
def toBits : Binary64 → UInt64
  | .nan => 0x7FF8000000000000
  | .infinite negative => (if negative then 0x8000000000000000 else 0) ||| 0x7FF0000000000000
  | .finite negative mantissa exponent _ =>
    let sign : UInt64 := if negative then 0x8000000000000000 else 0
    let biased := if mantissa < Nat.pow 2 52 then 0 else (exponent + 1075).toNat
    sign ||| (UInt64.ofNat biased <<< 52) ||| UInt64.ofNat (mantissa % Nat.pow 2 52)

/-- The number with the given bits. -/
def ofBits (bits : UInt64) : Binary64 :=
  let negative := bits >>> 63 == 1
  let biased := ((bits >>> 52) &&& 0x7FF).toNat
  let fraction := (bits &&& 0xFFFFFFFFFFFFF).toNat
  if biased = 0x7FF then (if fraction = 0 then .infinite negative else .nan)
  else if biased = 0 then ofCanonical negative fraction minExponent
  else ofCanonical negative (Nat.pow 2 52 + fraction) ((biased : Int) - 1075)

/-- A power. Integer exponents of moderate size are worked out exactly and rounded once; for the
others the floating-point unit is asked. -/
def power (base exponent : Binary64) : Binary64 :=
  if base.isFinite && exponent.isIntegral && exponent.toRat.num.natAbs ≤ 2000
      && !(base.isZero && exponent.isNegative) then
    let steps := exponent.toRat.num
    let size := base.toRat ^ steps.natAbs
    if size = 0 then zero (base.isNegative && steps % 2 != 0)
    else round (if steps < 0 then 1 / size else size)
  else ofBits (Float.pow (Float.ofBits base.toBits) (Float.ofBits exponent.toBits)).toBits

end Binary64

end IssueBoard
