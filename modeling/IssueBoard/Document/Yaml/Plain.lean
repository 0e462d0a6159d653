import IssueBoard.Document.Yaml.Basic

/-!
# Plain texts

A text without quotes. It ends before a colon that ends a word, before a comment and, inside
brackets, before a comma, a bracket or a question mark; it goes on in the next line as long as the
lines are indented deeply enough.
-/

namespace IssueBoard.Yaml

/-- Whether a word of a plain text ends before a glyph. -/
def endsPlain (inFlow : Bool) (g : Glyph) (after : List Glyph) : Bool :=
  g.isBlank
    || (g.char == ':'
      && endsOr (fun next => next.isBlank || (inFlow && next.isOneOf ",[]\x7b\x7d")) after)
    || (inFlow && g.isOneOf ",?[]\x7b\x7d")

/-- The rest of a word of a plain text. -/
def plainWordFrom (inFlow : Bool) : (gs : List Glyph) → List Char × Rest gs
  | [] => ([], .all _)
  | g :: after =>
    if endsPlain inFlow g after then ([], .all _)
    else
      let (word, rest) := plainWordFrom inFlow after
      (g.char :: word, rest.trans (by simp))

/-- Reads a word of a plain text. -/
def plainWord? (inFlow : Bool) : (gs : List Glyph) → Option (List Char × Shorter gs)
  | [] => none
  | g :: after =>
    if g.char == '#' || endsPlain inFlow g after then none
    else
      let (word, rest) := plainWordFrom inFlow after
      some (g.char :: word, rest.behind g)

/-- Reads on behind a word of a plain text. The flag is set if a line ends behind the last word. -/
def plainTail (inFlow : Bool) (indent : Int) (gs : List Glyph) : List Char × Bool × Rest gs :=
  let (run, ⟨after, spaced⟩) := takeGlyphs Glyph.isSpaceOrBreak gs
  let broken := !(breaks run).isEmpty
  let stops := run.isEmpty || (broken && isBoundary after)
    || (!inFlow && after.head?.any fun g => g.column < indent)
  match if stops then none else plainWord? inFlow after with
  | none => ([], broken, ⟨after, spaced⟩)
  | some (word, ⟨rest, shorter⟩) =>
    let (more, broken, last) := plainTail inFlow indent rest
    (folded run ++ word ++ more, broken, (last.within shorter).toRest.trans spaced)
termination_by gs.length

end IssueBoard.Yaml
