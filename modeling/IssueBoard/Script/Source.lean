import IssueBoard.Script.Token
import IssueBoard.Text.Blank
import IssueBoard.Text.Lines

/-!
# Script sources as tokens

A source falls into lines, and the blanks at the start of a line say how deep it is nested. Blank
lines and comments mean nothing, brackets join lines, and so does a backslash at the end of a line.
A source that breaks these rules, or holds something that is no token, has no tokens.
-/

namespace IssueBoard.Script

/-- The width of the blanks at the start of a line, with tabs to multiples of eight columns, and
with tabs of one column. Two lines are comparable only if both ways of counting agree. -/
structure Column where
  wide : Nat
  narrow : Nat
  deriving DecidableEq

/-- Reads the blanks at the start of a line. A backslash may move the rest to the next line; the
indentation is then the one before the first such backslash, if there was any. -/
def indentation (column : Column) (held : Nat) : (cs : List Char) → Option (Column × Rest cs)
  | ' ' :: rest =>
    (indentation ⟨column.wide + 1, column.narrow + 1⟩ held rest).map fun (found, after) =>
      (found, after.past ' ')
  | '\t' :: rest =>
    (indentation ⟨(column.wide / 8 + 1) * 8, column.narrow + 1⟩ held rest).map
      fun (found, after) => (found, after.past '\t')
  | '\x0c' :: rest =>
    (indentation ⟨0, 0⟩ held rest).map fun (found, after) => (found, after.past '\x0c')
  | '\\' :: '\n' :: rest =>
    if rest.isEmpty then none
    else
      (indentation column (if held = 0 then column.wide else held) rest).map
        fun (found, after) => (found, (after.past '\n').past '\\')
  | cs => some (if held = 0 then column else ⟨held, held⟩, .all cs)

/-- Leaves blocks until one of the given column is reached: the number of blocks left, and the
columns of the open ones. -/
def leaveBlocks (column : Column) : List Column → Option (Nat × List Column)
  | [] => none
  | top :: outer =>
    if column.wide < top.wide then
      (leaveBlocks column outer).map fun (count, columns) => (count + 1, columns)
    else if column = top then some (0, top :: outer)
    else none

/-- The largest number of blocks inside one another. -/
def deepestIndentation : Nat := 100

/-- The largest number of brackets inside one another. -/
def deepestBracket : Nat := 200

/-- The tokens for a line of the given column, and the columns of the blocks that are open then. -/
def changeIndentation (column : Column) (columns : List Column) :
    Option (List Token × List Column) :=
  match columns with
  | [] => none
  | top :: _ =>
    if column.wide > top.wide then
      if column.narrow ≤ top.narrow || deepestIndentation ≤ columns.length then none
      else some ([.indent], column :: columns)
    else (leaveBlocks column columns).map fun (count, columns) =>
      (List.replicate count .dedent, columns)

/-- The open brackets after a mark; each is kept as the mark that closes it. -/
def nest (mark : Mark) (brackets : List Mark) : Option (List Mark) :=
  match mark.closer? with
  | some closer => if deepestBracket ≤ brackets.length then none else some (closer :: brackets)
  | none =>
    if mark.isCloser then
      match brackets with
      | innermost :: outer => if innermost = mark then some outer else none
      | [] => none
    else some brackets

/-- The characters from the end of the line on. -/
def toLineEnd (cs : List Char) : Rest cs :=
  ⟨cs.dropWhile (· != '\n'), (List.dropWhile_suffix _).length_le⟩

/-- The tokens of a text, of which the columns of the open blocks and the open brackets are
known. -/
def tokensFrom (lineStart : Bool) (columns : List Column) (brackets : List Mark)
    (cs : List Char) : Option (List Token) :=
  if lineStart then
    match indentation ⟨0, 0⟩ 0 cs with
    | none => none
    | some (_, ⟨[], _⟩) => some (List.replicate (columns.length - 1) .dedent)
    | some (_, ⟨'\n' :: rest, _⟩) => tokensFrom true columns brackets rest
    | some (_, ⟨'#' :: rest, _⟩) => tokensFrom true columns brackets (toLineEnd rest).1
    | some (column, ⟨c :: rest, _⟩) => do
      let (changes, columns) ← changeIndentation column columns
      let tokens ← tokensFrom false columns brackets (c :: rest)
      return changes ++ tokens
  else
    match cs with
    | [] => if brackets.isEmpty then some (List.replicate (columns.length - 1) .dedent) else none
    | '\n' :: rest =>
      if brackets.isEmpty then (tokensFrom true columns brackets rest).map (.newline :: ·)
      else tokensFrom false columns brackets rest
    | '#' :: rest => tokensFrom false columns brackets (toLineEnd rest).1
    | '\\' :: '\n' :: rest =>
      if rest.isEmpty then none else tokensFrom false columns brackets rest
    | c :: rest =>
      if c == ' ' || c == '\t' || c == '\x0c' then tokensFrom false columns brackets rest
      else do
        let (token, ⟨after, _⟩) ← token? (c :: rest)
        let brackets ← match token with
          | .mark mark => nest mark brackets
          | _ => some brackets
        let tokens ← tokensFrom false columns brackets after
        return token :: tokens
termination_by 2 * cs.length + lineStart.toNat
decreasing_by
  all_goals try have := (toLineEnd rest).2
  all_goals simp_all
  all_goals omega

/-- Whether the code of a source starts with an indented line. -/
def isIndented (source : String) : Bool :=
  let firstOfCode := (Text.lines source.toList).find? fun line =>
    let code := Text.trimBlank line
    !code.isEmpty && code.head? != some '#'
  match firstOfCode with
  | some (c :: _) => Text.isBlank c
  | _ => false

/-- The tokens of a source. -/
def tokens? (source : List Char) : Option (List Token) :=
  let unified := Text.unifyBreaks source
  tokensFrom true [⟨0, 0⟩] [] (if unified.getLast? == some '\n' then unified else unified ++ ['\n'])

end IssueBoard.Script
