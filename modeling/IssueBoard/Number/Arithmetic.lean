import IssueBoard.Failure
import IssueBoard.Number.Basic

/-!
# Arithmetic on numbers

Products and quotients of integers and floating-point numbers, and the integers next to a number.
Integers that meet a floating-point number are rounded to one first, which fails for the largest.
-/

namespace IssueBoard.Number

/-- A number in floating point. -/
def toReal (x : Number) : Except Fault Binary64 :=
  match x.toBinary64? with
  | some y => .ok y
  | none => .error .integerToReal

/-- The product of two numbers. -/
def multiply : Number → Number → Except Fault Number
  | .integer m, .integer n => .ok (.integer (m * n))
  | x, y => do return .real ((← x.toReal) * (← y.toReal))

/-- The quotient of two numbers, the second not being zero. That of two integers is rounded once. -/
def quotient : Number → Number → Except Fault Binary64
  | .integer m, .integer n =>
    match Binary64.ofQuotient (decide (m < 0) != decide (n < 0)) m.natAbs n.natAbs with
    | .infinite _ => .error .quotientToReal
    | x => .ok x
  | x, y => do return (← x.toReal) / (← y.toReal)

/-- The integer that a rounding of finite numbers gives. -/
def roundedBy (rounding : Binary64 → Option Int) : Number → Except Fault Int
  | .integer n => .ok n
  | .real .nan => .error .nanToInteger
  | .real x =>
    match rounding x with
    | some n => .ok n
    | none => .error .infiniteToInteger

/-- The integer next toward zero. -/
def truncate (x : Number) : Except Fault Int := x.roundedBy Binary64.truncate?

/-- The greatest integer that is no larger. -/
def floor (x : Number) : Except Fault Int := x.roundedBy Binary64.floor?

end IssueBoard.Number
