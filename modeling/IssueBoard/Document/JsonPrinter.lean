import IssueBoard.Data.Basic
import IssueBoard.Number.Layout
import IssueBoard.Text.Hex

/-!
# Writing JSON documents

Data as JSON text over several lines, each level indented by two more spaces. Only control
characters, quotes and backslashes are escaped in texts.
-/

namespace IssueBoard.Json

/-- A character inside a text. -/
def escapedChar (c : Char) : List Char :=
  if c == '"' || c == '\\' then ['\\', c]
  else if c == '\n' then ['\\', 'n'] else if c == '\r' then ['\\', 'r']
  else if c == '\t' then ['\\', 't'] else if c == '\x08' then ['\\', 'b']
  else if c == '\x0c' then ['\\', 'f']
  else if c.toNat < 0x20 then '\\' :: 'u' :: Text.hexDigits false 4 c.toNat
  else [c]

/-- A text in quotes. -/
def quote (s : String) : String :=
  String.ofList ('"' :: s.toList.flatMap escapedChar ++ ['"'])

/-- A floating-point number. -/
def realText (x : Binary64) : String :=
  match x with
  | .nan => "NaN"
  | .infinite negative => if negative then "-Infinity" else "Infinity"
  | x => NumeralStyle.standard.render x

/-- An atom; bytes and foreign values have no form in JSON and are written as `null`. -/
def atomText : Atom → String
  | .null => "null"
  | .flag b => if b then "true" else "false"
  | .integer n => Int.repr n
  | .real x => realText x
  | .text s => quote s
  | .bytes _ => "null"
  | .foreign .. => "null"

/-- A key; one that is no text is written as its text in quotes. -/
def keyText : Atom → String
  | .text s => quote s
  | key => quote (atomText key)

/-- The start of a line of the given depth. -/
def lineStart (depth : Nat) : String :=
  "\n" ++ String.ofList (List.replicate (2 * depth) ' ')

/-- Parts between brackets, each on a line of its own. -/
def bracketed (depth : Nat) (opening closing : String) (parts : List String) : String :=
  if parts.isEmpty then opening ++ closing
  else
    let start := lineStart (depth + 1)
    opening ++ start ++ ("," ++ start).intercalate parts ++ lineStart depth ++ closing

mutual

/-- A value at the given depth. -/
def text (depth : Nat) : Data → String
  | .atom a => atomText a
  | .list items => bracketed depth "[" "]" (itemTexts (depth + 1) items)
  | .object entries => bracketed depth "\x7b" "\x7d" (entryTexts (depth + 1) entries)
  | .set members => bracketed depth "[" "]" (members.map atomText)
  | .record _ fields => bracketed depth "\x7b" "\x7d" (fieldTexts (depth + 1) fields)

/-- The items of a list. -/
def itemTexts (depth : Nat) : List Data → List String
  | [] => []
  | item :: rest => text depth item :: itemTexts depth rest

/-- The entries of an object. -/
def entryTexts (depth : Nat) : List (Atom × Data) → List String
  | [] => []
  | (key, value) :: rest => (keyText key ++ ": " ++ text depth value) :: entryTexts depth rest

/-- The fields of a record. -/
def fieldTexts (depth : Nat) : List (String × Data) → List String
  | [] => []
  | (name, value) :: rest => (quote name ++ ": " ++ text depth value) :: fieldTexts depth rest

end

/-- Data as a JSON document. -/
def render (data : Data) : String := text 0 data

end IssueBoard.Json
