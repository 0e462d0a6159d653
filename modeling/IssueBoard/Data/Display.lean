import IssueBoard.Data.Basic
import IssueBoard.Failure
import IssueBoard.Number.Layout
import IssueBoard.Number.Numeral
import IssueBoard.Text.Quoted

/-!
# Showing data as text

Data has two text forms. The literal form shows nested values as a script would write them, with
texts in quotes. The display form is what a template puts into a page: nothing for the absent value,
lower-case truth values, and integral numbers without a fractional part. Integers of more than 4300
digits have no text in either form, and neither have values that stand too deep inside one another.
-/

namespace IssueBoard

/-- An integer in decimal digits, if it does not have too many of them. -/
def integerText (n : Int) : Except Fault String :=
  if n.natAbs < Nat.pow 10 integerDigitLimit then .ok (Int.repr n) else .error .integerTooLong

/-- A number in its literal form. -/
def Number.literal : Number → Except Fault String
  | .integer n => integerText n
  | .real x => .ok (NumeralStyle.standard.render x)

/-- A number as a page shows it. -/
def Number.display : Number → Except Fault String
  | .integer n => integerText n
  | .real x =>
    if x.isNaN then .ok "NaN"
    else if x.isIntegral then integerText x.toRat.num
    else .ok (NumeralStyle.standard.render x)

namespace Text

/-- How a byte is written between the given quotes. -/
def quotedByte (quote : Char) (byte : UInt8) : List Char :=
  let c := Char.ofNat byte.toNat
  if byte < 0x20 ∨ 0x7F ≤ byte then
    if c == '\n' || c == '\r' || c == '\t' then quotedChar quote c else codeEscape c
  else quotedChar quote c

/-- Bytes in quotes, marked as such. -/
def quotedBytes (content : List UInt8) : String :=
  let quote := quoteFor (content.map fun byte => Char.ofNat byte.toNat)
  String.ofList ('b' :: quote :: content.flatMap (quotedByte quote) ++ [quote])

end Text

/-- A truth value in its literal form. -/
def flagLiteral (b : Bool) : String := if b then "True" else "False"

/-- An atom in its literal form. -/
def Atom.literal : Atom → Except Fault String
  | .null => .ok "None"
  | .flag b => .ok (flagLiteral b)
  | .integer n => integerText n
  | .real x => .ok (NumeralStyle.standard.render x)
  | .text s => .ok (Text.quoted s)
  | .bytes content => .ok (Text.quotedBytes content)
  | .foreign _ _ literal => .ok literal

namespace Data

mutual

/-- The number of values that stand inside one another. -/
def nesting : Data → Nat
  | .atom _ => 1
  | .set _ => 2
  | .list items => nestingOfItems items + 1
  | .object entries => nestingOfEntries entries + 1
  | .record _ fields => nestingOfFields fields + 1

/-- The nesting of the deepest item of a list. -/
def nestingOfItems : List Data → Nat
  | [] => 0
  | item :: rest => max (nesting item) (nestingOfItems rest)

/-- The nesting of the deepest value of an object. -/
def nestingOfEntries : List (Atom × Data) → Nat
  | [] => 0
  | (_, value) :: rest => max (nesting value) (nestingOfEntries rest)

/-- The nesting of the deepest field of a record. -/
def nestingOfFields : List (String × Data) → Nat
  | [] => 0
  | (_, value) :: rest => max (nesting value) (nestingOfFields rest)

end

mutual

/-- A value in its literal form, however deep it is. -/
def write : Data → Except Fault String
  | .atom a => a.literal
  | .list items => do return "[" ++ ", ".intercalate (← writeItems items) ++ "]"
  | .object entries => do
    return "\x7b" ++ ", ".intercalate (← writeEntries entries) ++ "\x7d"
  | .set [] => .ok "set()"
  | .set members => do
    return "\x7b" ++ ", ".intercalate (← members.mapM Atom.literal) ++ "\x7d"
  | .record kind fields => do
    return kind ++ "(" ++ ", ".intercalate (← writeFields fields) ++ ")"

/-- The literal forms of the items of a list. -/
def writeItems : List Data → Except Fault (List String)
  | [] => .ok []
  | item :: rest => do return (← write item) :: (← writeItems rest)

/-- The entries of an object: key, colon, value. -/
def writeEntries : List (Atom × Data) → Except Fault (List String)
  | [] => .ok []
  | (key, value) :: rest => do
    return ((← key.literal) ++ ": " ++ (← write value)) :: (← writeEntries rest)

/-- The fields of a record: name, equality sign, value. -/
def writeFields : List (String × Data) → Except Fault (List String)
  | [] => .ok []
  | (name, value) :: rest => do
    return (name ++ "=" ++ (← write value)) :: (← writeFields rest)

end

/-- A value in its literal form, unless it is too deep. -/
def literal (value : Data) : Except Fault String :=
  if nestingLimit < value.nesting then .error .nestedTooDeep else value.write

/-- A value as text: a text is itself, a foreign atom has a text of its own, and anything else takes
its literal form. -/
def toText : Data → Except Fault String
  | .text s => .ok s
  | .atom (.foreign _ shown _) => .ok shown
  | value => value.literal

/-- A value as a page shows it. -/
def display : Data → Except Fault String
  | .null => .ok ""
  | .flag b => .ok (if b then "true" else "false")
  | .real x => (Number.real x).display
  | value => value.toText

end Data

end IssueBoard
