import IssueBoard.Number.Layout

/-!
# Complex numbers

A power of a negative number to a fraction is a complex number: two floating-point numbers, the real
and the imaginary part. Sums, products and quotients follow the school rules part by part; powers
that are no small whole ones go through the polar form.
-/

namespace IssueBoard

/-- A complex number. -/
structure ComplexNumber where
  re : Binary64
  im : Binary64
  deriving DecidableEq

namespace ComplexNumber

/-- A real number as a complex one. -/
def ofReal (x : Binary64) : ComplexNumber := ⟨x, .zero false⟩

/-- The number one. -/
def one : ComplexNumber := ofReal (Binary64.round 1)

/-- Whether both parts are zero. -/
def isZero (z : ComplexNumber) : Bool := z.re.isZero && z.im.isZero

/-- Whether both parts have the same values. -/
def sameValue (z w : ComplexNumber) : Bool :=
  z.re.compare? w.re == some .eq && z.im.compare? w.im == some .eq

instance : Neg ComplexNumber := ⟨fun z => ⟨-z.re, -z.im⟩⟩

instance : Add ComplexNumber := ⟨fun z w => ⟨z.re + w.re, z.im + w.im⟩⟩

instance : Sub ComplexNumber := ⟨fun z w => ⟨z.re - w.re, z.im - w.im⟩⟩

instance : Mul ComplexNumber :=
  ⟨fun z w => ⟨z.re * w.re - z.im * w.im, z.re * w.im + z.im * w.re⟩⟩

/-- The quotient by a number that is not zero. The smaller part of the divisor is scaled by the
larger one, which keeps the steps in range. -/
def div (z w : ComplexNumber) : ComplexNumber :=
  let magnitude := fun x : Binary64 => if x.isNegative then -x else x
  match (magnitude w.re).compare? (magnitude w.im) with
  | none => ⟨.nan, .nan⟩
  | some .lt =>
    let ratio := w.re / w.im
    let divisor := w.re * ratio + w.im
    ⟨(z.re * ratio + z.im) / divisor, (z.im * ratio - z.re) / divisor⟩
  | some _ =>
    let ratio := w.im / w.re
    let divisor := w.re + w.im * ratio
    ⟨(z.re + z.im * ratio) / divisor, (z.im - z.re * ratio) / divisor⟩

instance : Div ComplexNumber := ⟨div⟩

/-- The product of `known` and the power of a number to a whole exponent, by repeated squaring. The
exponent has at most `fuel` binary digits. -/
def timesPower (known z : ComplexNumber) : (fuel exponent : Nat) → ComplexNumber
  | 0, _ => known
  | fuel + 1, exponent =>
    if exponent = 0 then known
    else timesPower (if exponent % 2 = 1 then known * z else known) (z * z) fuel (exponent / 2)

/-- A function of the floating-point unit. -/
def unary (f : Float → Float) (x : Binary64) : Binary64 :=
  .ofBits (f (Float.ofBits x.toBits)).toBits

/-- A function of the floating-point unit of two numbers. -/
def binary (f : Float → Float → Float) (x y : Binary64) : Binary64 :=
  .ofBits (f (Float.ofBits x.toBits) (Float.ofBits y.toBits)).toBits

/-- The distance from zero. -/
def magnitude (z : ComplexNumber) : Binary64 :=
  let sized := fun x : Binary64 => if x.isNegative then -x else x
  if z.im.isZero then sized z.re
  else if z.re.isZero then sized z.im
  else unary Float.sqrt (z.re * z.re + z.im * z.im)

/-- The power of a number that is not zero through its polar form. -/
def polarPower (z w : ComplexNumber) : ComplexNumber :=
  let angle := binary Float.atan2 z.im z.re
  let length := z.magnitude.power w.re
  let phase := angle * w.re
  let (length, phase) :=
    if w.im.isZero then (length, phase)
    else (length / unary Float.exp (angle * w.im), phase + w.im * unary Float.log z.magnitude)
  ⟨length * unary Float.cos phase, length * unary Float.sin phase⟩

/-- The largest magnitude of a whole exponent for which a power is worked out by multiplying. -/
def wholeExponentLimit : Nat := 100

/-- Whether a power to this exponent is worked out by multiplying. -/
def isSmallWhole (w : ComplexNumber) : Bool :=
  w.im.isZero && w.re.isIntegral && w.re.toRat.num.natAbs ≤ wholeExponentLimit

/-- The power of a number that is not zero, or to an exponent that is not negative. -/
def power (z w : ComplexNumber) : ComplexNumber :=
  if w.isSmallWhole then
    let exponent := w.re.toRat.num
    let size := timesPower one z 8 exponent.natAbs
    if exponent < 0 then one / size else size
  else if z.isZero then ofReal (.zero false)
  else z.polarPower w

/-- Whether a part is infinite. -/
def isInfinite (z : ComplexNumber) : Bool :=
  (!z.re.isFinite && !z.re.isNaN) || (!z.im.isFinite && !z.im.isNaN)

/-- How the parts of a complex number are written: an integral part ends in its last digit. -/
def style : NumeralStyle := { NumeralStyle.standard with integralEnd := "" }

/-- A complex number as text. The real part is left out if it is a positive zero. -/
def text (z : ComplexNumber) : String :=
  if z.re.isZero && !z.re.isNegative then style.render z.im ++ "j"
  else
    "(" ++ style.render z.re ++ (if z.im.isNegative then "" else "+") ++ style.render z.im ++ "j)"

end ComplexNumber

end IssueBoard
