import IssueBoard.Number.Arithmetic
import IssueBoard.Script.Formatting

/-!
# Operators of scripts

What the operators of the script language do to values. Integers are exact and unbounded, the
quotient of two integers is a floating-point number, and the divisions that give integers round
down. Texts and lists are joined and repeated, and a remainder fills values into a text.
-/

namespace IssueBoard.Script

/-- A number in floating point. -/
def toReal (x : Number) : Except Trouble Binary64 := x.toReal.mapError .fault

/-- The quotient of two integers as the nearest floating-point number. -/
def divideIntegers (m n : Int) : Except Trouble Number :=
  if n = 0 then .error .divisionByZero
  else ((Number.quotient (.integer m) (.integer n)).map .real).mapError .fault

/-- Whether a floating-point number is an odd integer. -/
def isOdd (x : Binary64) : Bool := x.isIntegral && x.toRat.num % 2 != 0

/-- A power of floating-point numbers. -/
def realPower (base exponent : Binary64) : Except Trouble Number :=
  let one := Binary64.round 1
  let magnitude := if base.isNegative then -base else base
  if exponent.isZero || base == one then .ok (.real one)
  else if base.isNaN || exponent.isNaN then .ok Number.nan
  else if !exponent.isFinite then
    if magnitude == one then .ok (.real one)
    else if exponent.isNegative == (magnitude.compare? one == some .lt) then
      .ok (.real (.infinite false))
    else .ok (.real (.zero false))
  else if !base.isFinite then
    let sign := base.isNegative && isOdd exponent
    .ok (.real (if exponent.isNegative then .zero sign else .infinite sign))
  else if base.isZero then
    if exponent.isNegative then .error .zeroToNegativePower
    else .ok (.real (.zero (base.isNegative && isOdd exponent)))
  else
    match base.power exponent with
    | .infinite _ => .error .powerOverflow
    | x => .ok (.real x)

/-- Whether a power is a complex number: a negative number to a fraction. -/
def isComplexPower (op : BinaryOp) (x y : Number) : Bool :=
  match op, x.toBinary64?, y.toBinary64? with
  | .pow, some base, some exponent =>
    base.isFinite && base.isNegative && !base.isZero && exponent.isFinite && !exponent.isIntegral
  | _, _, _ => false

/-- What an operator makes of two numbers. -/
def arithmetic (op : BinaryOp) (x y : Number) : Except Trouble Number :=
  match op, x, y with
  | .add, .integer m, .integer n => .ok (.integer (m + n))
  | .sub, .integer m, .integer n => .ok (.integer (m - n))
  | .mul, .integer m, .integer n => .ok (.integer (m * n))
  | .div, .integer m, .integer n => divideIntegers m n
  | .floorDiv, .integer m, .integer n =>
    if n = 0 then .error .integerDivisionByZero else .ok (.integer (Int.fdiv m n))
  | .mod, .integer m, .integer n =>
    if n = 0 then .error .integerRemainderByZero else .ok (.integer (Int.fmod m n))
  | .pow, .integer m, .integer n =>
    if 0 ≤ n then .ok (.integer (Int.pow m n.toNat))
    else do realPower (← toReal x) (← toReal y)
  | op, x, y => do
    let x ← toReal x
    let y ← toReal y
    match op with
    | .add => return .real (x + y)
    | .sub => return .real (x - y)
    | .mul => return .real (x * y)
    | .div => if y.isZero then throw .realDivisionByZero else return .real (x / y)
    | .floorDiv =>
      if y.isZero then throw .realFloorDivisionByZero else return .real (x.divideFloor y).1
    | .mod => if y.isZero then throw .realRemainderByZero else return .real (x.divideFloor y).2
    | .pow => realPower x y

/-- A value as a complex number. -/
def toComplex? : Value → Option (Except Trouble ComplexNumber)
  | .complex z => some (.ok z)
  | value => value.number?.map fun x => (toReal x).map ComplexNumber.ofReal

/-- A power of complex numbers. -/
def complexPower (z w : ComplexNumber) : Except Trouble ComplexNumber :=
  let isUndefined := if w.isSmallWhole then w.re.isNegative else !w.im.isZero || w.re.isNegative
  if z.isZero && !w.isZero && isUndefined then .error .zeroToComplexPower
  else
    let power := z.power w
    if power.isInfinite then .error .complexOverflow else .ok power

/-- What an operator makes of complex numbers; the divisions with a remainder are not known. -/
def complexArithmetic? (op : BinaryOp) (z w : ComplexNumber) :
    Option (Except Trouble ComplexNumber) :=
  match op with
  | .add => some (.ok (z + w))
  | .sub => some (.ok (z - w))
  | .mul => some (.ok (z * w))
  | .div => some (if w.isZero then .error .complexDivisionByZero else .ok (z / w))
  | .pow => some (complexPower z w)
  | .floorDiv | .mod => none

/-- What an operator makes of two values of which one is a complex number, if it knows both. -/
def complexOperation? (op : BinaryOp) (left right : Value) : Option (Except Trouble Value) := do
  let z ← toComplex? left
  let w ← toComplex? right
  match z, w with
  | .error trouble, _ => return .error trouble
  | _, .error trouble => return .error trouble
  | .ok z, .ok w => return (← complexArithmetic? op z w).map .complex

/-- How often something of a size is repeated by a count, unless that is too much. -/
def repetitions (size : Nat) (count : Int) : Except Trouble Nat :=
  if Int.pow 2 63 ≤ count.natAbs then .error .indexTooLarge
  else if sizeLimit < count * size then .error .outOfMemory
  else .ok count.toNat

/-- The items of a list, repeated. -/
def repeatItems {α : Type} (count : Nat) (items : List α) : List α :=
  (List.replicate count items).flatten

/-- A text repeated by a value. -/
def repeatText {κ : Type} (s : String) (count : Value) : Action κ Value :=
  match count.integer? with
  | some n => do
    let count ← Action.ofExcept (repetitions s.length n)
    return .text (String.ofList (repeatItems count s.toList))
  | none => throw (.repetition count.typeName)

/-- A list repeated by a value. -/
def repeatList {κ : Type} (place : ListPlace) (count : Value) : Action κ Value :=
  match count.integer? with
  | some n => do
    let items ← Action.inspect fun desk => desk.items place
    let count ← Action.ofExcept (repetitions items.length n)
    Action.newList (repeatItems count items)
  | none => throw (.repetition count.typeName)

/-- Empty brackets repeated by a value. -/
def repeatNothing {κ : Type} (count : Value) : Action κ Value :=
  match count.integer? with
  | some n => do
    let _ ← Action.ofExcept (repetitions 0 n)
    return .atom emptyBrackets
  | none => throw (.repetition count.typeName)

/-- What an operator makes of two values; `spelling` is how errors name it. -/
def operate {κ : Type} (op : BinaryOp) (spelling : String) (left right : Value) :
    Action κ Value :=
  match left.number?, right.number? with
  | some x, some y =>
    if isComplexPower op x y then
      match complexOperation? op left right with
      | some result => Action.ofExcept result
      | none => throw (.operands spelling left.typeName right.typeName)
    else do Action.newNumber (← Action.ofExcept (arithmetic op x y))
  | _, _ =>
    match op, left, right with
    | .add, .text a, .text b => return .text (a ++ b)
    | .add, .list p, .list q => do
      Action.newList (← Action.inspect fun desk => desk.items p ++ desk.items q)
    | .add, .atom emptyBrackets, .atom emptyBrackets => return .atom emptyBrackets
    | .add, .text _, right => throw (.concatenation "str" right.typeName)
    | .add, .list _, right => throw (.concatenation "list" right.typeName)
    | .add, .atom emptyBrackets, right => throw (.concatenation "tuple" right.typeName)
    | .mul, .text s, right => repeatText s right
    | .mul, .list p, right => repeatList p right
    | .mul, .atom emptyBrackets, right => repeatNothing right
    | .mul, left, .text s => repeatText s left
    | .mul, left, .list p => repeatList p left
    | .mul, left, .atom emptyBrackets => repeatNothing left
    | .mod, .text s, right => Action.examine fun desk => (desk.format s right).map .text
    | op, left, right =>
      match complexOperation? op left right with
      | some result => Action.ofExcept result
      | none => throw (.operands spelling left.typeName right.typeName)

/-- How errors name an operator. -/
def BinaryOp.inErrors : BinaryOp → String
  | .pow => "** or pow()"
  | op => op.spelling

/-- What an assignment that changes a value makes of it. A list is changed in its place. -/
def augment {κ : Type} (op : BinaryOp) (left right : Value) : Action κ Value :=
  match op, left, right.integer? with
  | .add, .list place, _ => do
    let more ← Action.examine fun desk => elements desk right
    let items ← Action.inspect fun desk => desk.items place
    Action.setItems place (items ++ more)
    return left
  | .mul, .list place, some n => do
    let items ← Action.inspect fun desk => desk.items place
    let count ← Action.examine fun _ => repetitions items.length n
    Action.setItems place (repeatItems count items)
    return left
  | op, left, _ => operate op (op.spelling ++ "=") left right

/-- What a sign makes of a value. -/
def applySign {κ : Type} (op : UnaryOp) (value : Value) : Action κ Value :=
  match op, value with
  | .plus, .nan _ => return value
  | .plus, .complex _ => return value
  | .minus, .complex z => return .complex (-z)
  | op, value =>
    match op, value.number? with
    | .plus, some n => Action.newNumber n
    | .minus, some (.integer n) => return .integer (-n)
    | .minus, some (.real x) => Action.newNumber (.real (-x))
    | .plus, none => throw (.signedOperand "+" value.typeName)
    | _, _ => throw (.signedOperand "-" value.typeName)

/-- Whether a comparison holds. -/
def satisfies {κ : Type} (desk : Desk κ) (op : Comparison) (left right : Value) :
    Except Trouble Bool :=
  match op with
  | .equal => desk.same left right
  | .notEqual => (desk.same left right).map (!·)
  | .member => desk.contains right left
  | .notMember => (desk.contains right left).map (!·)
  | .identical => .ok (isOne left right)
  | .notIdentical => .ok (!isOne left right)
  | op => desk.ordered op desk.comparisonDepth left right

end IssueBoard.Script
