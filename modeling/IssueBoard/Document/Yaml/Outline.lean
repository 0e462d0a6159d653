import IssueBoard.Document.Yaml.BlockText
import IssueBoard.Document.Yaml.Plain
import IssueBoard.Document.Yaml.Quoted
import IssueBoard.Document.Yaml.Token

/-!
# The outline of a document

Cutting a document into tokens. Indentation opens and closes blocks, and a colon makes a key of the
node before it, so the outline keeps the columns of the open blocks and, for every level of
brackets, the place where a key may have begun. Tokens are only ever added at the end; the places
that turn out to be keys are marked, and the marks are worked in when the outline is complete.
-/

namespace IssueBoard.Yaml

/-- A place where a key may have begun. -/
structure Candidate where
  /-- The number of tokens before it. -/
  token : Nat
  /-- Whether nothing but a key can stand here. -/
  isRequired : Bool
  start : Glyph
  deriving DecidableEq

/-- A key: the number of tokens before it, and whether it is the first of a block. -/
structure KeyMark where
  token : Nat
  opensBlock : Bool
  deriving DecidableEq

/-- The outline of the part of a document that has been read. -/
structure Outline where
  /-- The columns of the open blocks, the innermost first. -/
  columns : List Nat := []
  keyAllowed : Bool := true
  candidate : Option Candidate := none
  /-- The candidates outside of each open bracket, the innermost first. -/
  enclosing : List (Option Candidate) := []
  tokens : Array Token := #[]
  keys : List KeyMark := []

/-- The number of characters after which a place is no candidate any more. -/
def longestKey : Nat := 1024

/-- Skips spaces, comments and breaks. The flag is set if a line ends among them. -/
def skipGap (inComment : Bool) : (gs : List Glyph) → Bool × Rest gs
  | [] => (false, .all _)
  | g :: after =>
    if g.isBreak then (true, (skipGap false after).2.trans (by simp))
    else if inComment || g.char == ' ' || g.char == '#' then
      let (broken, rest) := skipGap (inComment || g.char == '#') after
      (broken, rest.trans (by simp))
    else (false, .all _)

namespace Candidate

/-- Whether a candidate is on another line than a glyph, or too far before it. -/
def isStale (c : Candidate) (g : Glyph) : Bool :=
  c.start.line != g.line || longestKey < g.index - c.start.index

end Candidate

namespace Outline

/-- Whether a bracket is open. -/
def inFlow (o : Outline) : Bool := !o.enclosing.isEmpty

/-- The column of the innermost block; outside of all blocks it is one to the left of the first. -/
def indent (o : Outline) : Int := o.columns.head?.elim (-1) Int.ofNat

/-- Adds a token. -/
def push (o : Outline) (token : Token) : Outline := { o with tokens := o.tokens.push token }

/-- Closes the blocks right of a column; between brackets indentation does not count. -/
def closeBlocks (o : Outline) (isRight : Nat → Bool) : Outline :=
  if o.inFlow then o
  else { o with
    columns := o.columns.dropWhile isRight
    tokens :=
      (o.columns.takeWhile isRight).foldl (fun tokens _ => tokens.push .closeBlock) o.tokens }

/-- Whether a block begins at a column. -/
def beginsBlock (o : Outline) (column : Nat) : Bool := !o.inFlow && o.indent < column

/-- Opens a block at a column, if one begins there. -/
def openBlock (o : Outline) (column : Nat) (token : Token) : Outline :=
  if o.beginsBlock column then
    { o with columns := column :: o.columns, tokens := o.tokens.push token }
  else o

/-- Forgets the candidate of this level, unless it has to be a key. -/
def dropCandidate (o : Outline) : Reading Outline :=
  if o.candidate.any (·.isRequired) then refuse else .ok { o with candidate := none }

/-- Forgets the candidates that are stale at a glyph, unless one of them has to be a key. -/
def dropStale (o : Outline) (g : Glyph) : Reading Outline :=
  if (o.candidate :: o.enclosing).any fun c => c.any fun c => c.isRequired && c.isStale g then
    refuse
  else
    let fresh := Option.filter fun (c : Candidate) => !c.isStale g
    .ok { o with candidate := fresh o.candidate, enclosing := o.enclosing.map fresh }

/-- Makes a glyph the candidate of this level, if keys are allowed here. -/
def markCandidate (o : Outline) (g : Glyph) : Reading Outline :=
  if o.keyAllowed then do
    let isRequired := !o.inFlow && o.indent == g.column
    return { ← o.dropCandidate with
      candidate := some { token := o.tokens.size, isRequired, start := g } }
  else return o

/-- Adds a token that may begin a key and allows none behind it. -/
def pushNode (o : Outline) (g : Glyph) (token : Token) : Reading Outline := do
  return { (← o.markCandidate g).push token with keyAllowed := false }

/-- Adds an opening bracket. -/
def openBracket (o : Outline) (g : Glyph) (token : Token) : Reading Outline := do
  let o ← o.markCandidate g
  return { o.push token with
    enclosing := o.candidate :: o.enclosing, candidate := none, keyAllowed := true }

/-- Adds a closing bracket. -/
def closeBracket (o : Outline) (token : Token) : Reading Outline := do
  let o ← o.dropCandidate
  return { o.push token with
    candidate := o.enclosing.head?.join, enclosing := o.enclosing.drop 1, keyAllowed := false }

/-- Adds a comma. -/
def comma (o : Outline) : Reading Outline := do
  return { (← o.dropCandidate).push .comma with keyAllowed := true }

/-- Adds the dash of an item. -/
def dash (o : Outline) (g : Glyph) : Reading Outline := do
  if !o.inFlow && !o.keyAllowed then refuse
  else
    return { (← (o.openBlock g.column .openItems).dropCandidate).push .dash with
      keyAllowed := true }

/-- Adds the question mark of a key. -/
def question (o : Outline) (g : Glyph) : Reading Outline := do
  if !o.inFlow && !o.keyAllowed then refuse
  else
    return { (← (o.openBlock g.column .openEntries).dropCandidate).push .key with
      keyAllowed := !o.inFlow }

/-- Adds a colon. The candidate of this level becomes a key. -/
def colon (o : Outline) (g : Glyph) : Reading Outline :=
  match o.candidate with
  | some c =>
    let column := c.start.column
    let opensBlock := o.beginsBlock column
    .ok { o.push .colon with
      candidate := none
      keyAllowed := false
      keys := { token := c.token, opensBlock } :: o.keys
      columns := if opensBlock then column :: o.columns else o.columns }
  | none =>
    if !o.inFlow && !o.keyAllowed then refuse
    else .ok { (o.openBlock g.column .openEntries).push .colon with keyAllowed := !o.inFlow }

/-- Closes all blocks. -/
def closeAll (o : Outline) : Reading Outline := do
  return { ← (o.closeBlocks fun _ => true).dropCandidate with keyAllowed := false }

/-- Adds a token that is a single character, if one stands here. -/
def indicator? (o : Outline) (g : Glyph) (after : List Glyph) : Option (Reading Outline) :=
  match g.char with
  | '[' => some (o.openBracket g .openBracket)
  | '{' => some (o.openBracket g .openBrace)
  | ']' => some (o.closeBracket .closeBracket)
  | '}' => some (o.closeBracket .closeBrace)
  | ',' => some o.comma
  | '-' => if atWordEnd after then some (o.dash g) else none
  | '?' => if o.inFlow || atWordEnd after then some (o.question g) else none
  | ':' => if o.inFlow || atWordEnd after then some (o.colon g) else none
  | _ => none

/-- Whether a plain text begins with a glyph. -/
def beginsPlain (o : Outline) (g : Glyph) (after : List Glyph) : Bool :=
  !(g.isBlank || g.isOneOf "-?:,[]\x7b\x7d#&*!|>\x27\"%@\x60")
    || (!atWordEnd after && (g.char == '-' || (!o.inFlow && g.isOneOf "?:")))

/-- Adds a scalar or a property of a node. -/
def node (o : Outline) (g : Glyph) (after : List Glyph) : Reading (Outline × Rest after) := do
  let scalar := fun (isPlain : Bool) (text : List Char) => Token.scalar isPlain (String.ofList text)
  if g.char == '*' then
    let (name, rest) ← anchorName after
    return (← o.pushNode g (.alias name), rest)
  else if g.char == '&' then
    let (name, rest) ← anchorName after
    return (← o.pushNode g (.anchor name), rest)
  else if g.char == '!' then
    let (tag, rest) ← tagText g after
    return (← o.pushNode g (.tag tag), rest)
  else if (g.char == '|' || g.char == '>') && !o.inFlow then
    let o ← o.dropCandidate
    let (text, rest) ← blockText (g.char == '>') o.indent after
    return ({ o.push (scalar false text) with keyAllowed := true }, rest)
  else if g.char == '\x27' || g.char == '"' then
    let (text, rest) ← quotedText (g.char == '"') after
    return (← o.pushNode g (scalar false text), rest)
  else if o.beginsPlain g after then
    let (word, ⟨rest, shorter⟩) := plainWordFrom o.inFlow after
    let (more, broken, last) := plainTail o.inFlow (o.indent + 1) rest
    let o ← o.pushNode g (scalar true (g.char :: word ++ more))
    return ({ o with keyAllowed := broken }, last.trans shorter)
  else refuse

/-- Adds the token that begins with a glyph. -/
def add (o : Outline) (g : Glyph) (after : List Glyph) : Reading (Outline × Rest after) := do
  if g.column == 0 && g.char == '%' then
    let o ← o.closeAll
    let (found, rest) ← directive after
    return (o.push (.directive found), rest)
  else if isRule '-' (g :: after) then
    return ((← o.closeAll).push .documentStart, ⟨after.drop 2, by simp⟩)
  else if isRule '.' (g :: after) then
    return ((← o.closeAll).push .documentEnd, ⟨after.drop 2, by simp⟩)
  else
    match o.indicator? g after with
    | some added => return (← added, .all after)
    | none => o.node g after

/-- Adds the tokens of a text. -/
def addAll (o : Outline) (gs : List Glyph) : Reading Outline :=
  let (broken, ⟨rest, _⟩) := skipGap false gs
  let o := if broken && !o.inFlow then { o with keyAllowed := true } else o
  match rest with
  | [] => o.closeAll
  | g :: after => do
    let o ← o.dropStale g
    let (o, ⟨rest, _⟩) ← (o.closeBlocks (g.column < ·)).add g after
    addAll o rest
termination_by gs.length
decreasing_by simp_all; omega

/-- The tokens with the marks of the keys before them. -/
def marked (o : Outline) : List Token :=
  o.tokens.toList.zipIdx.flatMap fun (token, place) =>
    match o.keys.find? (·.token == place) with
    | some mark => (if mark.opensBlock then [.openEntries, .key] else [.key]) ++ [token]
    | none => [token]

end Outline

/-- The tokens of a document. -/
def tokens (source : String) : Reading (List Token) := do
  return (← Outline.addAll {} (← glyphs source)).marked

end IssueBoard.Yaml
