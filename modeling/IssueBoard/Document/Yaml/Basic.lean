import IssueBoard.Failure
import IssueBoard.Rest
import IssueBoard.Text.Lines

/-!
# Text with a layout

In YAML the place of a character on its line matters, so a document is read as a list of glyphs:
characters that know where they stand. Line feeds, carriage returns and next-line characters all
count as line feeds here; the two Unicode separators are breaks of their own.
-/

namespace IssueBoard.Yaml

/-- Why a text is no YAML document. -/
inductive ReadError where
  | malformed
  /-- A scalar spells no value of its kind. -/
  | fault (fault : Fault)
  deriving DecidableEq

/-- What is read, or why it cannot be. -/
abbrev Reading := Except ReadError

/-- Refuses a document. -/
def refuse {α : Type} : Reading α := .error .malformed

/-- A character and its place: the line, the column and the distance from the start. -/
structure Glyph where
  char : Char
  line : Nat
  column : Nat
  index : Nat
  deriving DecidableEq

/-- Whether a character may stand in a document. -/
def isPermitted (c : Char) : Bool :=
  let code := c.toNat
  code == 0x9 || code == 0xA || code == 0xD || (0x20 ≤ code && code ≤ 0x7E) || code == 0x85
    || (0xA0 ≤ code && code ≤ 0xD7FF) || (0xE000 ≤ code && code ≤ 0xFFFD) || 0x10000 ≤ code

/-- Whether a character ends a line. -/
def isBreak (c : Char) : Bool := c == '\n' || c == '\u2028' || c == '\u2029'

/-- Whether a character is a space or a tab, or ends a line. -/
def isBlank (c : Char) : Bool := c == ' ' || c == '\t' || isBreak c

/-- What may stand before the text of a document and takes no room. -/
def byteOrderMark : Char := '\ufeff'

/-- Characters in their places, the first one at the given place. -/
def placeFrom (line column index : Nat) : List Char → List Glyph
  | [] => []
  | c :: rest => { char := c, line, column, index } ::
    if isBreak c then placeFrom (line + 1) 0 (index + 1) rest
    else placeFrom line (if c == byteOrderMark then column else column + 1) (index + 1) rest

/-- The glyphs of a text, if all its characters may stand in a document. -/
def glyphs (source : String) : Reading (List Glyph) :=
  let cs := source.toList
  if cs.all isPermitted then
    let unified := (Text.unifyBreaks cs).map fun c => if c == '\u0085' then '\n' else c
    .ok ((placeFrom 0 0 0 unified).dropWhile fun g => g.index == 0 && g.char == byteOrderMark)
  else refuse

namespace Glyph

/-- Whether this glyph ends a line. -/
def isBreak (g : Glyph) : Bool := Yaml.isBreak g.char

/-- Whether this glyph is a space, a tab or a break. -/
def isBlank (g : Glyph) : Bool := Yaml.isBlank g.char

/-- Whether this glyph is a space or a break. -/
def isSpaceOrBreak (g : Glyph) : Bool := g.char == ' ' || g.isBreak

/-- Whether this glyph is one of the given characters. -/
def isOneOf (g : Glyph) (cs : String) : Bool := cs.toList.contains g.char

end Glyph

/-- The characters of glyphs. -/
def chars (gs : List Glyph) : List Char := gs.map (·.char)

/-- Whether the text ends here or goes on with one of the given glyphs. -/
def endsOr (p : Glyph → Bool) (gs : List Glyph) : Bool := gs.head?.all p

/-- Whether a word ends here. -/
def atWordEnd (gs : List Glyph) : Bool := endsOr Glyph.isBlank gs

/-- Whether the text goes on with the given character. -/
def startsWith (c : Char) (gs : List Glyph) : Bool := gs.head?.any (·.char == c)

/-- Whether a line begins here with three times the same mark, standing alone. -/
def isRule (mark : Char) (gs : List Glyph) : Bool :=
  gs.head?.any (·.column == 0) && chars (gs.take 3) == [mark, mark, mark] && atWordEnd (gs.drop 3)

/-- Whether a document is bounded here. -/
def isBoundary (gs : List Glyph) : Bool := isRule '-' gs || isRule '.' gs

/-- The first glyphs that satisfy a predicate, and the rest. -/
def takeGlyphs (p : Glyph → Bool) (gs : List Glyph) : List Glyph × Rest gs :=
  (gs.takeWhile p, ⟨gs.dropWhile p, (List.dropWhile_suffix p).length_le⟩)

/-- The breaks among glyphs. -/
def breaks (gs : List Glyph) : List Char := (chars gs).filter isBreak

/-- What a run of blanks between two words of a text stands for: itself if it has no break, a space
for a single line feed, and the further breaks after a line feed. -/
def folded (run : List Glyph) : List Char :=
  match breaks run with
  | [] => chars run
  | ['\n'] => [' ']
  | '\n' :: more => more
  | all => all

/-- Takes the spaces and a comment off, up to the end of the line, which may come right here. -/
def restOfLine? (gs : List Glyph) : Option (Rest gs) :=
  let rest := gs.dropWhile (·.char == ' ')
  let rest := if startsWith '#' rest then rest.dropWhile (!·.isBreak) else rest
  if h : rest.length ≤ gs.length then
    if endsOr Glyph.isBreak rest then some ⟨rest.drop 1, by simp; omega⟩ else none
  else none

end IssueBoard.Yaml
