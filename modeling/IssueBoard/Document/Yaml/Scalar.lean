import IssueBoard.Document.Yaml.Tag
import IssueBoard.Number.Arithmetic
import IssueBoard.Number.Numeral
import IssueBoard.Text.Base64

/-!
# Values of scalars

The value that a text has as a scalar of a kind. A text of a kind that it does not spell has no
value.
-/

namespace IssueBoard.Yaml

/-- Whether the text of a number has a minus in front, and what follows the sign. The marks that
group digits are left out. -/
def signed (text : String) : Except Fault (Bool × List Char) :=
  match text.toList.filter (· != '_') with
  | [] => .error .emptyNumeral
  | c :: rest => .ok (c == '-', if c == '+' || c == '-' then rest else c :: rest)

/-- Reads an integer to a base, behind the mark of the base if it is there. -/
def toBase (base : Nat) (cs : List Char) : Except Fault Int :=
  match parseIntegerTo base (String.ofList cs) with
  | .ok n => .ok n
  | .error (.tooLong digits) => .error (.numeralTooLong digits)
  | .error .malformed => .error .malformedNumeral

/-- The integer that a text spells. -/
def integerValue (text : String) : Except Fault Int := do
  let (isNegative, digits) ← signed text
  let magnitude ← match digits with
    | [] => throw .emptyNumeral
    | ['0'] => pure 0
    | '0' :: 'b' :: rest => toBase 2 rest
    | '0' :: 'x' :: rest => toBase 16 rest
    | '0' :: rest => toBase 8 ('0' :: rest)
    | digits =>
      if digits.contains ':' then do
        let parts ← (Tag.colonParts digits).mapM (toBase 10)
        pure (parts.foldl (fun value part => value * 60 + part) 0)
      else toBase 10 digits
  return if isNegative then -magnitude else magnitude

/-- Reads a decimal floating-point number. -/
def decimalReal (cs : List Char) : Except Fault Binary64 :=
  match Binary64.parse? (String.ofList cs) with
  | some x => .ok x
  | none => .error .malformedNumeral

/-- The sum of the parts of a number to the base sixty, the last part first. -/
def sumSixtieths (weight : Int) (sum : Binary64) : List Binary64 → Except Fault Binary64
  | [] => .ok sum
  | part :: rest => do
    let weighted := part.mul (← (Number.integer weight).toReal)
    sumSixtieths (weight * 60) (sum.add weighted) rest

/-- The floating-point number that a text spells. -/
def realValue (text : String) : Except Fault Binary64 := do
  let (isNegative, digits) ← signed text
  let digits := digits.map Char.toLower
  if digits == ".nan".toList then return .nan
  else
    let magnitude ←
      if digits == ".inf".toList then pure (.infinite false)
      else if digits.contains ':' then do
        let parts ← (Tag.colonParts digits).mapM decimalReal
        sumSixtieths 1 (.zero false) parts.reverse
      else decimalReal digits
    return if isNegative then magnitude.neg else magnitude

/-- The truth value that a text spells, in letters of any case. -/
def flagValue (text : String) : Except Fault Bool :=
  let word := String.ofList (text.toList.map Char.toLower)
  match Tag.flagWords.find? fun (known, _) => known == word with
  | some (_, value) => .ok value
  | none => .error (.unknownFlag word)

/-- The value of a scalar. -/
def scalarValue (tag : Tag) (text : String) : Reading Atom :=
  match tag with
  | .null => .ok .null
  | .text => .ok (.text text)
  | .flag => ((flagValue text).map Atom.flag).mapError .fault
  | .integer => ((integerValue text).map Atom.integer).mapError .fault
  | .real => ((realValue text).map Atom.real).mapError .fault
  | .timestamp =>
    match Timestamp.parse? text.toList with
    | some stamp => stamp.value.mapError .fault
    | none => .error (.fault .malformedTimestamp)
  | .binary =>
    if text.toList.all (·.toNat < 128) then
      match Text.Base64.decode text.toList with
      | some content => .ok (.bytes content)
      | none => refuse
    else refuse
  | _ => refuse

end IssueBoard.Yaml
