import IssueBoard.Config.Complaint
import IssueBoard.Data.Basic
import IssueBoard.Number.Numeral
import IssueBoard.Text.Search

/-!
# Reading integers leniently

Where a configuration asks for an integer it also takes truth values, floating-point numbers without
a fraction, and texts that spell an integer.
-/

namespace IssueBoard.Config

/-- Whether a character is white space: a blank, but no separator of records. -/
def isWhiteSpace (c : Char) : Bool := Text.isBlank c && !(0x1C ≤ c.toNat && c.toNat ≤ 0x1F)

/-- The most characters that a numeral may have. -/
def longestNumeral : Nat := 4300

/-- Reads a plain numeral: a minus sign or none, and digits that do not start with a zero unless it
is the only one. -/
def plainNumeral (cs : List Char) : Reading Int :=
  let isNegative := cs.head? == some '-'
  let magnitude := if isNegative then cs.drop 1 else cs
  let digits := magnitude.takeWhile Char.isDigit
  let startsZero := digits.head? == some '0'
  if !startsZero && longestNumeral < digits.length + isNegative.toNat then complain .tooLarge
  else if digits.isEmpty || digits.length < magnitude.length || (startsZero && 1 < digits.length)
  then complain .notNumeral
  else
    let value : Int := Text.digitsValue digits
    .ok (if isNegative then -value else value)

/-- What is left of a numeral without its leading zeros, among which underscores may stand: it
starts with another digit, a minus sign, or the last character before a point. Without any of these
the last character is left. Nothing else begins a numeral. -/
def withoutLeadingZeros : List Char → Option (List Char)
  | [] => none
  | first :: rest =>
    if first == '0' then
      let zeros := rest.takeWhile fun c => c == '0' || c == '_'
      match rest.drop zeros.length with
      | [] => some [zeros.getLastD first]
      | c :: after =>
        if c == '.' then some (zeros.getLastD first :: c :: after)
        else if c.isDigit || c == '-' then some (c :: after)
        else none
    else if first.isDigit || first == '-' then some (first :: rest)
    else none

/-- A numeral before a fraction of zeros. -/
def withoutZeroFraction (cs : List Char) : List Char :=
  match cs.dropWhile (· != '.') with
  | [] => cs
  | _ :: fraction =>
    if !fraction.isEmpty && fraction.all (· == '0') then cs.takeWhile (· != '.') else cs

/-- A numeral without the single underscores inside it. -/
def withoutGroups (cs : List Char) : List Char :=
  if cs.head? == some '_' || cs.getLast? == some '_' || Text.occursIn ['_', '_'] cs then cs
  else cs.filter (· != '_')

/-- The plain numeral that a loosely written one stands for: without white space around it, and
without a plus sign, leading zeros, a fraction of zeros and underscores. -/
def tidyNumeral? (cs : List Char) : Option (List Char) :=
  let trimmed := Text.dropTrailing isWhiteSpace (cs.dropWhile isWhiteSpace)
  let unsigned? := match trimmed with
    | '+' :: '-' :: _ => none
    | '+' :: rest => some rest
    | cs => some cs
  (unsigned?.bind withoutLeadingZeros).map (withoutGroups ∘ withoutZeroFraction)

/-- Reads an integer from a text that is a numeral, plain or loosely written. Only a plain one can
be too large; any other that cannot be read is no numeral. -/
def readNumeral (s : String) : Reading Int :=
  match plainNumeral s.toList with
  | .ok n => .ok n
  | .error complaint =>
    if complaint.cause == .tooLarge then .error complaint
    else
      match (tidyNumeral? s.toList).map plainNumeral with
      | some (.ok n) => .ok n
      | _ => complain .notNumeral

/-- The bound on floating-point numbers that are read as integers. -/
def realBound : Int := 9223372036854775808

/-- Reads a floating-point number without a fraction as an integer. -/
def readIntegral (x : Binary64) : Reading Int :=
  if !x.isFinite then complain .infinite
  else if !x.isIntegral then complain .fractional
  else
    let value := x.toRat.num
    if -realBound < value && value < realBound then .ok value else complain .tooLarge

/-- Reads an integer. Truth values count as one and zero. -/
def readInteger : Data → Reading Int
  | .integer n => .ok n
  | .flag b => .ok (if b then 1 else 0)
  | .real x => readIntegral x
  | .text s => readNumeral s
  | .atom (.bytes content) =>
    match String.fromUTF8? ⟨content.toArray⟩ with
    | some s => readNumeral s
    | none => complain .notNumeral
  | _ => complain .notInteger

/-- Reads an integer that is not negative. -/
def readCount (d : Data) : Reading Int := do
  let n ← readInteger d
  if n < 0 then complain .negative else return n

end IssueBoard.Config
