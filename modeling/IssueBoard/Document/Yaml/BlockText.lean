import IssueBoard.Document.Yaml.Basic

/-!
# Block texts

A text that is set off by its indentation. Its header says whether lines are folded, what becomes of
the breaks at the end, and perhaps how deeply the text is indented.
-/

namespace IssueBoard.Yaml

/-- What becomes of the breaks at the end of a block text: none is kept, the first or all. -/
inductive Chomping where
  | strip
  | clip
  | keep
  deriving DecidableEq

/-- The header of a block text behind its mark. -/
structure BlockHeader where
  chomping : Chomping := .clip
  /-- How much deeper than its surroundings the text is indented, if that is given. -/
  depth : Option Nat := none
  deriving DecidableEq

/-- Adds one character of a header, unless it is out of place. -/
def BlockHeader.add? (header : BlockHeader) (c : Char) : Option BlockHeader :=
  if c == '+' || c == '-' then
    if header.chomping == .clip then
      some { header with chomping := if c == '+' then .keep else .strip }
    else none
  else if c.isDigit && c != '0' && header.depth.isNone then
    some { header with depth := some (c.toNat - '0'.toNat) }
  else none

/-- Reads the header of a block text, and the rest of its line. -/
def blockHeader (gs : List Glyph) : Reading (BlockHeader × Rest gs) :=
  let (indicators, rest) := takeGlyphs (fun g => !g.isSpaceOrBreak) gs
  match (chars indicators).foldlM BlockHeader.add? {}, restOfLine? rest.1 with
  | some header, some after => .ok (header, after.trans rest.2)
  | _, _ => refuse

/-- Reads empty lines, and the indentation of the line behind them, at most up to `indent`. -/
def emptyLines (indent : Nat) (gs : List Glyph) : List Char × Rest gs :=
  let (_, ⟨rest, shorter⟩) := takeGlyphs (fun g => g.char == ' ' && g.column < indent) gs
  match rest with
  | [] => ([], ⟨[], shorter⟩)
  | g :: after =>
    if g.isBreak then
      let (more, last) := emptyLines indent after
      (g.char :: more, (last.past g).trans shorter)
    else ([], ⟨g :: after, shorter⟩)
termination_by gs.length
decreasing_by simp only [List.length_cons] at shorter; omega

/-- Whether a line of a block text begins here. -/
def isAtColumn (column : Nat) (gs : List Glyph) : Bool := gs.head?.any (·.column == column)

/-- Whether the text goes on with a space or a tab. -/
def startsBlank (gs : List Glyph) : Bool := gs.head?.any (·.isOneOf " \t")

/-- Reads the lines of a block text from the first character of a line on. The result has the text
before the last break, this break, and the empty lines at the end. -/
def blockLines (isFolded : Bool) (indent : Nat) (gs : List Glyph) :
    (List Char × List Char × List Char) × Rest gs :=
  let (line, ⟨rest, atEnd⟩) := takeGlyphs (!·.isBreak) gs
  match rest with
  | [] => ((chars line, [], []), ⟨[], by simp⟩)
  | g :: after =>
    let (empty, ⟨next, shorter⟩) := emptyLines indent after
    have : next.length < gs.length := by simp at atEnd; omega
    if isAtColumn indent next then
      let joint :=
        if isFolded && g.char == '\n' && !startsBlank gs && !startsBlank next then
          if empty.isEmpty then [' '] else []
        else [g.char]
      let ((text, last, trailing), rest) := blockLines isFolded indent next
      ((chars line ++ joint ++ empty ++ text, last, trailing), rest.trans (by omega))
    else ((chars line, [g.char], empty), ⟨next, by omega⟩)
termination_by gs.length

/-- The indentation of a block text that does not tell it: the one of its first line, or of a deeper
empty line before it. -/
def impliedIndent (least : Nat) (gs : List Glyph) : Nat :=
  ((gs.takeWhile Glyph.isSpaceOrBreak).filter (·.char == ' ')).foldl
    (fun deepest g => max deepest (g.column + 1)) least

/-- Reads a block text behind its mark. `indent` is the indentation of its surroundings. -/
def blockText (isFolded : Bool) (indent : Int) (gs : List Glyph) :
    Reading (List Char × Rest gs) := do
  let (header, ⟨rest, shorter⟩) ← blockHeader gs
  let least := max 1 (indent + 1).toNat
  let (indent, leading, ⟨start, later⟩) : Nat × List Char × Rest rest :=
    match header.depth with
    | some depth => (least + depth - 1, emptyLines (least + depth - 1) rest)
    | none =>
      let (run, after) := takeGlyphs Glyph.isSpaceOrBreak rest
      (impliedIndent least rest, breaks run, after)
  if isAtColumn indent start then
    let ((text, last, trailing), after) := blockLines isFolded indent start
    let ending := match header.chomping with
      | .strip => []
      | .clip => last
      | .keep => last ++ trailing
    return (leading ++ text ++ ending, after.trans (by omega))
  else return (if header.chomping == .keep then leading else [], ⟨start, by omega⟩)

end IssueBoard.Yaml
