import IssueBoard.Number.Arithmetic
import IssueBoard.Number.Places
import IssueBoard.Script.Items

/-!
# Values filled into a text

A text with conversions takes up values. A conversion is a percent sign, a name in brackets, flags,
a width, a precision and a letter, and all but the sign and the letter may be left out. The text is
first taken apart into characters and conversions, and then every conversion takes its value: the
one that the text is filled with, or the one under its name.
-/

namespace IssueBoard.Script

/-! ## Conversions -/

/-- Where a conversion finds its value. -/
inductive Source where
  /-- Nowhere but in the values that are left. -/
  | whole
  | named (name : String)
  /-- The bracket around the name is never closed. -/
  | cut

/-- A width or a precision. -/
inductive Extent where
  | absent
  /-- It is the next value. -/
  | argument
  | given (count : Nat)

/-- How a conversion arranges what it writes. -/
structure Flags where
  leftward : Bool := false
  plus : Bool := false
  blank : Bool := false
  marked : Bool := false
  zeros : Bool := false

/-- A place in a text where a value is filled in. -/
structure Conversion where
  source : Source
  flags : Flags
  width : Extent
  precision : Extent
  /-- The letter, unless the text ends before it. -/
  letter : Option Char

/-- A part of a text that values are filled into. -/
inductive Piece where
  | plain (c : Char)
  /-- A conversion, and the place of its letter in the text. -/
  | conversion (conversion : Conversion) (place : Nat)

/-- The characters up to the bracket that closes an open one, with `depth` more being open, and what
follows it. -/
def closed? : (depth : Nat) → List Char → Option (List Char × List Char)
  | _, [] => none
  | depth, c :: rest =>
    if c == ')' && depth == 0 then some ([], rest)
    else
      let depth := if c == ')' then depth - 1 else if c == '(' then depth + 1 else depth
      (closed? depth rest).map fun (inside, rest) => (c :: inside, rest)

/-- Reads a name in brackets. -/
def readSource : List Char → Source × List Char
  | '(' :: rest =>
    match closed? 0 rest with
    | some (name, rest) => (.named (String.ofList name), rest)
    | none => (.cut, [])
  | cs => (.whole, cs)

/-- Whether a character is a flag. -/
def isFlag (c : Char) : Bool := c == '-' || c == '+' || c == ' ' || c == '#' || c == '0'

/-- The flags that characters set. -/
def flagsOf (cs : List Char) : Flags where
  leftward := cs.contains '-'
  plus := cs.contains '+'
  blank := cs.contains ' '
  marked := cs.contains '#'
  zeros := cs.contains '0'

/-- Reads a width, or a precision behind its point. -/
def readExtent : List Char → Extent × List Char
  | '*' :: rest => (.argument, rest)
  | cs =>
    let digits := cs.takeWhile Char.isDigit
    (if digits.isEmpty then .absent else .given (Text.digitsValue digits), cs.drop digits.length)

/-- Reads a precision. A point with nothing behind it stands for none at all. -/
def readPrecision : List Char → Extent × List Char
  | '.' :: rest =>
    match readExtent rest with
    | (.absent, rest) => (.given 0, rest)
    | found => found
  | cs => (.absent, cs)

/-- Leaves out a letter that tells how wide a number is. -/
def dropSize : List Char → List Char
  | c :: rest => if c == 'h' || c == 'l' || c == 'L' then rest else c :: rest
  | [] => []

/-- Reads a conversion behind its percent sign. -/
def readConversion (cs : List Char) : Conversion × List Char :=
  let (source, rest) := readSource cs
  let flags := flagsOf (rest.takeWhile isFlag)
  let (width, rest) := readExtent (rest.dropWhile isFlag)
  let (precision, rest) := readPrecision rest
  let rest := dropSize rest
  ({ source, flags, width, precision, letter := rest.head? }, rest.drop 1)

/-- The parts of a text, of which `place` characters have been read. Two percent signs are one
character. -/
def piecesFrom (place : Nat) : List Char → List Piece
  | [] => []
  | '%' :: '%' :: rest => .plain '%' :: piecesFrom (place + 2) rest
  | '%' :: rest =>
    let (conversion, after) := readConversion rest
    let used := rest.length - after.length
    .conversion conversion (place + used) :: piecesFrom (place + 1 + used) (rest.drop used)
  | c :: rest => .plain c :: piecesFrom (place + 1) rest
termination_by cs => cs.length
decreasing_by
  all_goals
    simp only [List.length_cons, List.length_drop]
    omega

/-! ## Fields -/

/-- What a conversion writes, before it is brought to its width. -/
structure Field where
  /-- Whether zeros may stand in front of it, and a sign. -/
  isNumber : Bool := false
  isNegative : Bool := false
  /-- What stands between the sign and the zeros. -/
  mark : List Char := []
  body : List Char

/-- The sign in front of a field. -/
def Field.sign (field : Field) (flags : Flags) : List Char :=
  if !field.isNumber then []
  else if field.isNegative then ['-']
  else if flags.plus then ['+']
  else if flags.blank then [' ']
  else []

/-- A field brought to a width. -/
def Field.fit (field : Field) (flags : Flags) (width : Nat) : List Char :=
  let front := field.sign flags ++ field.mark
  let gap := width - (front.length + field.body.length)
  if flags.leftward then front ++ field.body ++ List.replicate gap ' '
  else if flags.zeros && field.isNumber then front ++ List.replicate gap '0' ++ field.body
  else List.replicate gap ' ' ++ front ++ field.body

/-- The digits of an integer with a least number of them. -/
def integerField (n : Int) (digits mark : List Char) (precision : Option Nat) : Field where
  isNumber := true
  isNegative := n < 0
  mark := mark
  body := List.replicate (precision.getD 0 - digits.length) '0' ++ digits

/-- An integer to a base other than ten. The flag puts the base in front. -/
def baseField (n : Int) (letter : Char) (flags : Flags) (precision : Option Nat) : Field :=
  let digits := Nat.toDigits (if letter == 'o' then 8 else 16) n.natAbs
  integerField n (if letter == 'X' then digits.map Char.toUpper else digits)
    (if flags.marked then ['0', letter] else []) precision

/-- The number of places of floating-point numbers that no precision is given for. -/
def defaultPlaces : Nat := 6

/-- A floating-point number; a capital letter writes it in capitals. -/
def realField (x : Binary64) (letter : Char) (flags : Flags) (precision : Option Nat) : Field :=
  let kind : Precision := match letter.toLower with
    | 'e' => .scientific
    | 'f' => .fixed
    | _ => .general
  let body := match x with
    | .nan => "nan".toList
    | .infinite _ => "inf".toList
    | x =>
      let size := if x.isNegative then -x else x
      kind.write flags.marked (precision.getD defaultPlaces) size.toRat
  { isNumber := true
    isNegative := x.isNegative
    body := if letter.isUpper then body.map Char.toUpper else body }

/-- The first characters of a text. -/
def textField (s : String) (precision : Option Nat) : Field where
  body := match precision with
    | some count => s.toList.take count
    | none => s.toList

/-- Writes all characters in ASCII. -/
def escapeForeign (s : String) : String :=
  String.ofList (s.toList.flatMap fun c => if c.toNat < 128 then [c] else Text.codeEscape c)

/-- The letters that write integers to the base ten. -/
def decimalLetters : List Char := ['d', 'i', 'u']

/-- The letters that write integers to another base. -/
def baseLetters : List Char := ['o', 'x', 'X']

/-- The letters that write floating-point numbers. -/
def realLetters : List Char := ['e', 'E', 'f', 'F', 'g', 'G']

/-- The character that a value stands for. -/
def characterOf (value : Value) : Except Trouble Char :=
  match value with
  | .text s =>
    match s.toList with
    | [c] => .ok c
    | _ => .error (.filling .notCharacter)
  | value =>
    match value.integer? with
    | some n =>
      if 0 ≤ n ∧ n < 0x110000 then .ok (Char.ofNat n.toNat)
      else .error (.filling .noSuchCharacter)
    | none => .error (.filling .notCharacter)

/-- The integer that a number is turned into, for a conversion to the base ten. -/
def decimalOf (letter : Char) (value : Value) : Except Trouble Int :=
  match value.number? with
  | some n => n.truncate.mapError .fault
  | none => .error (.filling (.notReal letter value.typeName))

namespace Desk

variable {κ : Type}

/-- What a letter makes of a value; `place` is where the letter stands. -/
def field (desk : Desk κ) (value : Value) (letter : Char) (place : Nat) (flags : Flags)
    (precision : Option Nat) : Except Trouble Field := do
  if letter == 's' then return textField (← desk.toText value) precision
  else if letter == 'r' then return textField (← desk.literal value) precision
  else if letter == 'a' then return textField (escapeForeign (← desk.literal value)) precision
  else if decimalLetters.contains letter then
    let n ← decimalOf letter value
    let digits ← (integerText n.natAbs).mapError .fault
    return integerField n digits.toList [] precision
  else if baseLetters.contains letter then
    match value.integer? with
    | some n => return baseField n letter flags precision
    | none => throw (.filling (.notInteger letter value.typeName))
  else if realLetters.contains letter then
    match value.number? with
    | some n => return realField (← n.toReal.mapError .fault) letter flags precision
    | none => throw (.filling (.notFloating value.typeName))
  else if letter == 'c' then return { body := [← characterOf value] }
  else throw (.filling (.unknownLetter letter place))

/-! ## Filling -/

/-- Whether conversions can ask for values by name. -/
def hasNames (desk : Desk κ) : Value → Bool
  | .list _ => true
  | .range .. => true
  | value => (desk.entries? value).isSome

/-- The value that is left, which is then used up. -/
def takeValue : Option Value → Except Trouble Value
  | some value => .ok value
  | none => .error (.filling .missing)

/-- The largest width. -/
def widthLimit : Nat := Nat.pow 2 63 - 1

/-- The largest precision. -/
def precisionLimit : Nat := Nat.pow 2 31 - 1

/-- An integer that gives a width or a precision, and must fit a machine word. -/
def extentValue (value : Value) (limit : Nat) (beyond : Trouble) : Except Trouble Int :=
  match value.integer? with
  | some n => if limit < n.natAbs then .error beyond else .ok n
  | none => .error (.filling .sizeType)

/-- The width of a conversion, whether it is counted from the right, and the value that is left. -/
def widthOf (unused : Option Value) : Extent → Except Trouble (Nat × Bool × Option Value)
  | .absent => .ok (0, false, unused)
  | .given count =>
    if widthLimit < count then .error (.filling .widthTooLarge) else .ok (count, false, unused)
  | .argument => do
    let n ← extentValue (← takeValue unused) widthLimit .sizeTooLarge
    return (n.natAbs, n < 0, none)

/-- The precision of a conversion, and the value that is left. -/
def precisionOf (unused : Option Value) : Extent → Except Trouble (Option Nat × Option Value)
  | .absent => .ok (none, unused)
  | .given count =>
    if precisionLimit < count then .error (.filling .precisionTooLarge)
    else .ok (some count, unused)
  | .argument => do
    let n ← extentValue (← takeValue unused) precisionLimit (.fault .wordOverflow)
    return (some n.toNat, none)

/-- The value that a conversion may take, given the one that is left. -/
def valueFor (desk : Desk κ) (right : Value) (unused : Option Value) :
    Source → Except Trouble (Option Value)
  | .whole => .ok unused
  | .named name =>
    if desk.hasNames right then (item desk right (.text name)).map some
    else .error (.filling .noNames)
  | .cut => .error (.filling (if desk.hasNames right then .openName else .noNames))

/-- What a conversion writes, and the value that is left. -/
def convert (desk : Desk κ) (right : Value) (unused : Option Value) (conversion : Conversion)
    (place : Nat) : Except Trouble (List Char × Option Value) := do
  let unused ← desk.valueFor right unused conversion.source
  let (width, leftward, unused) ← widthOf unused conversion.width
  let (precision, unused) ← precisionOf unused conversion.precision
  match conversion.letter with
  | none => throw (.filling .cut)
  | some '%' => return (['%'], unused)
  | some letter =>
    let value ← takeValue unused
    let flags := { conversion.flags with leftward := conversion.flags.leftward || leftward }
    let field ← desk.field value letter place flags precision
    if sizeLimit < width then throw .outOfMemory
    return (field.fit flags width, none)

/-- What the parts of a text write, and the value that is left. -/
def fillPieces (desk : Desk κ) (right : Value) (unused : Option Value) :
    List Piece → Except Trouble (List Char × Option Value)
  | [] => .ok ([], unused)
  | .plain c :: rest => do
    let (written, unused) ← desk.fillPieces right unused rest
    return (c :: written, unused)
  | .conversion conversion place :: rest => do
    let (here, unused) ← desk.convert right unused conversion place
    let (written, unused) ← desk.fillPieces right unused rest
    return (here ++ written, unused)

/-- A text with a value filled in. The value must be used, unless its parts can be asked for by
name. -/
def format (desk : Desk κ) (s : String) (right : Value) : Except Trouble String := do
  let given := match right with
    | .atom emptyBrackets => none
    | value => some value
  let (written, unused) ← desk.fillPieces right given (piecesFrom 0 s.toList)
  if unused.isSome && !desk.hasNames right then throw (.filling .unused)
  return String.ofList written

end Desk

end IssueBoard.Script
