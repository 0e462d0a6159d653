import IssueBoard.Data.Basic
import IssueBoard.Number.Numeral
import IssueBoard.Rest
import IssueBoard.Text.Hex

/-!
# JSON documents

Reading data from JSON text. Besides the standard forms, the words `NaN`, `Infinity` and `-Infinity`
are numbers, integers are of any size up to the limit on digits, and of two entries with one key the
later counts, at the place of the earlier.
-/

namespace IssueBoard.Json

/-- Why a text is no JSON document. -/
inductive ReadError where
  | malformed
  /-- An integer has more digits than are read; their number is kept. -/
  | integerTooLong (digits : Nat)
  /-- Lists and objects stand too deep inside one another. -/
  | nestedTooDeep
  deriving DecidableEq

/-- Whether a character may stand between the parts of a document. -/
def isSpace (c : Char) : Bool := c == ' ' || c == '\t' || c == '\n' || c == '\r'

/-- The characters after the leading spaces. -/
def skipSpace (cs : List Char) : Rest cs :=
  ⟨cs.dropWhile isSpace, (List.dropWhile_suffix _).length_le⟩

/-- The character that a letter behind a backslash stands for. -/
def escape? (c : Char) : Option Char :=
  if c == '"' || c == '\\' || c == '/' then some c
  else if c == 'b' then some '\x08' else if c == 'f' then some '\x0c'
  else if c == 'n' then some '\n' else if c == 'r' then some '\r'
  else if c == 't' then some '\t' else none

/-- The character of a pair of surrogates, or of a code point by itself; half a pair stands for no
character and is replaced. -/
def charOf (code : Nat) : Char := if code.isValidChar then Char.ofNat code else '\ufffd'

/-- Reads an escaped low surrogate. -/
def lowSurrogate? : (cs : List Char) → Option (Nat × Rest cs)
  | '\\' :: 'u' :: a :: b :: c :: d :: rest => do
    let low ← Text.hexNumber? [a, b, c, d]
    if 0xDC00 ≤ low && low < 0xE000 then some (low, ⟨rest, by simp; omega⟩) else none
  | _ => none

/-- Reads the code point behind `\u`; two surrogates make one code point. -/
def codePoint? : (cs : List Char) → Option (Nat × Rest cs)
  | a :: b :: c :: d :: rest => do
    let high ← Text.hexNumber? [a, b, c, d]
    match if 0xD800 ≤ high && high < 0xDC00 then lowSurrogate? rest else none with
    | some (low, after) =>
      some (0x10000 + (high - 0xD800) * 0x400 + (low - 0xDC00), after.trans (by simp; omega))
    | none => some (high, ⟨rest, by simp; omega⟩)
  | _ => none

/-- Reads the characters of a text up to its closing quote. -/
def textBody? (cs : List Char) : Option (List Char × Shorter cs) :=
  match cs with
  | [] => none
  | '"' :: rest => some ([], ⟨rest, by simp⟩)
  | '\\' :: 'u' :: rest =>
    match codePoint? rest with
    | none => none
    | some (code, ⟨after, shorter⟩) =>
      (textBody? after).map fun (body, rest) =>
        (charOf code :: body, ⟨rest.1, by have := rest.2; simp; omega⟩)
  | '\\' :: c :: rest =>
    match escape? c with
    | none => none
    | some meant => (textBody? rest).map fun (body, rest) =>
        (meant :: body, ⟨rest.1, by have := rest.2; simp; omega⟩)
  | c :: rest =>
    if c.toNat < 0x20 || c == '\\' then none
    else (textBody? rest).map fun (body, rest) =>
      (c :: body, ⟨rest.1, by have := rest.2; simp; omega⟩)
termination_by cs.length
decreasing_by all_goals simp_all <;> omega

/-- The leading ASCII digits, and the rest. -/
def digits (cs : List Char) : List Char × Rest cs := takeRun Char.isDigit cs

/-- Reads a fraction: a point and digits. Without digits there is none. -/
def fraction : (cs : List Char) → Option (List Char) × Rest cs
  | '.' :: rest =>
    let (found, after) := digits rest
    if found.isEmpty then (none, .all _) else (some found, after.trans (by simp))
  | cs => (none, .all cs)

/-- Reads an exponent: a letter, perhaps a sign, and digits. Without digits there is none. -/
def exponent : (cs : List Char) → Option Int × Rest cs
  | mark :: sign :: rest =>
    if mark == 'e' || mark == 'E' then
      if sign == '+' || sign == '-' then
        let (found, after) := digits rest
        if found.isEmpty then (none, .all _)
        else
          let value : Int := Text.digitsValue found
          (some (if sign == '-' then -value else value), after.trans (by simp; omega))
      else
        let (found, after) := digits (sign :: rest)
        if found.isEmpty then (none, .all _)
        else (some (Text.digitsValue found : Int), after.trans (by simp))
    else (none, .all _)
  | cs => (none, .all cs)

/-- Reads a number behind its sign: a zero or digits that do not start with one, a fraction, and an
exponent. -/
def number (negative : Bool) (cs : List Char) : Except ReadError (Data × Rest cs) :=
  let (whole, afterWhole) := digits cs
  let (whole, afterWhole) : List Char × Rest cs :=
    if whole.head? == some '0' then (['0'], ⟨cs.drop 1, by simp⟩) else (whole, afterWhole)
  if whole.isEmpty then .error .malformed
  else
    let (part, afterPart) := fraction afterWhole.1
    let (power, afterPower) := exponent afterPart.1
    let rest := afterPower.trans (Nat.le_trans afterPart.2 afterWhole.2)
    if part.isNone && power.isNone then
      if integerDigitLimit < whole.length then .error (.integerTooLong whole.length)
      else
        let value : Int := Text.digitsValue whole
        .ok (.integer (if negative then -value else value), rest)
    else
      let places := part.getD []
      .ok (.real (Binary64.ofDecimal negative (Text.digitsValue (whole ++ places))
        (power.getD 0 - places.length)), rest)

/-- The words that are values. -/
def words : List (List Char × Data) :=
  [("null".toList, .null), ("true".toList, .flag true), ("false".toList, .flag false),
   ("NaN".toList, .real .nan), ("Infinity".toList, .real (.infinite false)),
   ("-Infinity".toList, .real (.infinite true))]

/-- Reads a word or a number. -/
def leaf (cs : List Char) : Except ReadError (Data × Rest cs) :=
  match words.find? fun (word, _) => word.isPrefixOf cs with
  | some (word, value) => .ok (value, ⟨cs.drop word.length, by simp⟩)
  | none =>
    match cs with
    | '-' :: rest => (number true rest).map fun (value, after) => (value, after.trans (by simp))
    | cs => number false cs

/-- Takes a given character off, after spaces. -/
def expectChar (c : Char) (cs : List Char) : Option (Shorter cs) :=
  let rest := skipSpace cs
  match found : rest.1 with
  | [] => none
  | first :: after =>
    if first == c then some ⟨after, by have := rest.2; rw [found] at this; simp at this; omega⟩
    else none

/-- Stores the value of a key; a known key keeps its place. -/
def addEntry (entries : List (Atom × Data)) (name : String) (value : Data) :
    List (Atom × Data) := Data.store (.text name) value entries

mutual

/-- Reads a value, in which at most `levels` lists and objects stand inside one another. -/
def value (levels : Nat) (cs : List Char) : Except ReadError (Data × Rest cs) :=
  match expectChar '"' cs with
  | some ⟨rest, shorter⟩ =>
    match textBody? rest with
    | some (body, ⟨rest, shorter⟩) => .ok (.text (String.ofList body), ⟨rest, by omega⟩)
    | none => .error .malformed
  | none =>
    match expectChar '[' cs with
    | some ⟨rest, shorter⟩ =>
      if levels = 0 then .error .nestedTooDeep
      else
        match expectChar ']' rest with
        | some ⟨rest, shorter⟩ => .ok (.list [], ⟨rest, by omega⟩)
        | none => do
          let (items, ⟨rest, shorter⟩) ← items (levels - 1) rest
          return (.list items, ⟨rest, by omega⟩)
    | none =>
      match expectChar '{' cs with
      | some ⟨rest, shorter⟩ =>
        if levels = 0 then .error .nestedTooDeep
        else
          match expectChar '}' rest with
          | some ⟨rest, shorter⟩ => .ok (.object [], ⟨rest, by omega⟩)
          | none => do
            let (entries, ⟨rest, shorter⟩) ← entries (levels - 1) [] rest
            return (.object entries, ⟨rest, by omega⟩)
      | none =>
        let start := skipSpace cs
        (leaf start.1).map fun (found, after) => (found, after.trans start.2)
termination_by 4 * cs.length
decreasing_by all_goals omega

/-- Reads values between commas, and the closing bracket. -/
def items (levels : Nat) (cs : List Char) : Except ReadError (List Data × Rest cs) := do
  let (first, ⟨rest, shorter⟩) ← value levels cs
  match expectChar ',' rest with
  | some ⟨rest, shorter⟩ => do
    let (others, ⟨rest, shorter⟩) ← items levels rest
    return (first :: others, ⟨rest, by omega⟩)
  | none =>
    match expectChar ']' rest with
    | some ⟨rest, shorter⟩ => return ([first], ⟨rest, by omega⟩)
    | none => throw .malformed
termination_by 4 * cs.length + 1
decreasing_by all_goals omega

/-- Reads entries between commas after those that are known, and the closing brace. -/
def entries (levels : Nat) (known : List (Atom × Data)) (cs : List Char) :
    Except ReadError (List (Atom × Data) × Rest cs) :=
  match expectChar '"' cs with
  | none => .error .malformed
  | some ⟨rest, shorter⟩ =>
    match textBody? rest with
    | none => .error .malformed
    | some (name, ⟨rest, shorter⟩) =>
      match expectChar ':' rest with
      | none => .error .malformed
      | some ⟨rest, shorter⟩ => do
        let (found, ⟨rest, shorter⟩) ← value levels rest
        let known := addEntry known (String.ofList name) found
        match expectChar ',' rest with
        | some ⟨rest, shorter⟩ => do
          let (all, ⟨rest, shorter⟩) ← entries levels known rest
          return (all, ⟨rest, by omega⟩)
        | none =>
          match expectChar '}' rest with
          | some ⟨rest, shorter⟩ => return (known, ⟨rest, by omega⟩)
          | none => throw .malformed
termination_by 4 * cs.length + 1
decreasing_by all_goals omega

end

/-- Reads a whole text as a JSON document. -/
def read (source : String) : Except ReadError Data := do
  let (found, rest) ← value nestingLimit source.toList
  if (skipSpace rest.1).1.isEmpty then return found else throw .malformed

end IssueBoard.Json
