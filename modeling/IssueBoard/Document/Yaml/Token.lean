import IssueBoard.Document.Yaml.Basic
import IssueBoard.Text.Digit
import IssueBoard.Text.Hex

/-!
# Tokens

What a document consists of below its structure: indicators, the marks that open and close blocks,
properties of nodes, and scalars. Names, tags and directives are read here.
-/

namespace IssueBoard.Yaml

/-- A tag as it is written: the handle that abbreviates its beginning, if there is one, and the
rest. -/
structure TagText where
  handle : Option String
  suffix : String
  deriving DecidableEq

/-- A directive before a document. -/
inductive Directive where
  | version (major : Nat)
  | tagHandle (handle start : String)
  | other
  deriving DecidableEq

/-- A token. -/
inductive Token where
  | directive (directive : Directive)
  | documentStart
  | documentEnd
  | openItems
  | openEntries
  | closeBlock
  | openBracket
  | closeBracket
  | openBrace
  | closeBrace
  | dash
  | comma
  | key
  | colon
  | alias (name : String)
  | anchor (name : String)
  | tag (tag : TagText)
  | scalar (isPlain : Bool) (text : String)
  deriving DecidableEq

/-- Whether a character may stand in a name. -/
def isNameChar (c : Char) : Bool := c.isAlphanum || c == '-' || c == '_'

/-- Reads the name of an anchor. -/
def anchorName (gs : List Glyph) : Reading (String × Rest gs) :=
  let (name, rest) := takeGlyphs (fun g => isNameChar g.char) gs
  if !name.isEmpty && endsOr (fun g => g.isBlank || g.isOneOf "?:,]\x7d%@\x60") rest.1 then
    .ok (String.ofList (chars name), rest)
  else refuse

/-- Whether a character may stand in a tag. -/
def isTagChar (c : Char) : Bool :=
  c.isAlphanum || "-;/?:@&=+$,_.!~*\x27()[]%".toList.contains c

/-- The text of the characters of a tag; runs of percent escapes are UTF-8 bytes. `pending` holds
the bytes of the open run, reversed. -/
def tagChars (pending : List UInt8) : List Char → Option (List Char)
  | [] => do return (← text).toList
  | '%' :: high :: low :: rest => do
    let value ← Text.hexNumber? [high, low]
    tagChars (UInt8.ofNat value :: pending) rest
  | c :: rest =>
    if c == '%' then none
    else do return (← text).toList ++ c :: (← tagChars [] rest)
where
  /-- The text of the open run. -/
  text : Option String := String.fromUTF8? ⟨pending.reverse.toArray⟩

/-- Reads the characters of a tag, of which there has to be one. -/
def tagSuffix (gs : List Glyph) : Reading (String × Rest gs) :=
  let (found, rest) := takeGlyphs (fun g => isTagChar g.char) gs
  match found, tagChars [] (chars found) with
  | _ :: _, some text => .ok (String.ofList text, rest)
  | _, _ => refuse

/-- Reads a handle: one exclamation mark, or a name between two. -/
def tagHandle (gs : List Glyph) : Reading (String × Shorter gs) :=
  match gs with
  | [] => refuse
  | g :: after =>
    if g.char != '!' then refuse
    else if startsWith ' ' after then .ok ("!", (Rest.all after).behind g)
    else
      let (name, ⟨rest, shorter⟩) := takeGlyphs (fun g => isNameChar g.char) after
      if startsWith '!' rest then
        .ok (String.ofList ('!' :: chars name ++ ['!']),
          ((Rest.all (rest.drop 1)).ofDrop.trans shorter).behind g)
      else refuse

/-- Reads a tag behind its exclamation mark: a whole one in angle brackets, none at all, or one with
a handle. -/
def tagText (mark : Glyph) (gs : List Glyph) : Reading (TagText × Rest gs) := do
  let ends := endsOr fun g => g.char == ' ' || g.isBreak
  if startsWith '<' gs then
    let (suffix, ⟨rest, shorter⟩) ← tagSuffix (gs.drop 1)
    if startsWith '>' rest && ends (rest.drop 1) then
      return ({ handle := none, suffix }, ⟨rest.drop 1, by simp at shorter ⊢; omega⟩)
    else refuse
  else if atWordEnd gs then
    if ends gs then return ({ handle := none, suffix := "!" }, .all gs) else refuse
  else
    let (handle, ⟨rest, shorter⟩) ←
      if (gs.takeWhile fun g => !(g.char == ' ' || g.isBreak)).any (·.char == '!') then
        tagHandle (mark :: gs)
      else (.ok ("!", (Rest.all gs).behind mark) : Reading (String × Shorter (mark :: gs)))
    let (suffix, ⟨last, still⟩) ← tagSuffix rest
    if ends last then
      return ({ handle := some handle, suffix }, ⟨last, by simp at shorter; omega⟩)
    else refuse

/-- Reads the version that a directive names. -/
def versionNumber (gs : List Glyph) : Reading (Directive × Rest gs) :=
  let (major, ⟨rest, shorter⟩) := takeGlyphs (fun g => g.char.isDigit) gs
  let (minor, ⟨last, still⟩) := takeGlyphs (fun g => g.char.isDigit) (rest.drop 1)
  if !major.isEmpty && startsWith '.' rest && !minor.isEmpty
      && endsOr (fun g => g.char == ' ' || g.isBreak) last then
    .ok (.version (Text.digitsValue (chars major)), ⟨last, by simp at still; omega⟩)
  else refuse

/-- Reads a directive behind its percent sign, and the rest of its line. -/
def directive (gs : List Glyph) : Reading (Directive × Rest gs) := do
  let (name, ⟨rest, shorter⟩) := takeGlyphs (fun g => isNameChar g.char) gs
  let ends := endsOr fun g => g.char == ' ' || g.isBreak
  if name.isEmpty || !ends rest then refuse
  else
    let (_, ⟨start, spaced⟩) := takeGlyphs (·.char == ' ') rest
    let (found, ⟨last, taken⟩) : Directive × Rest gs ←
      if chars name == "YAML".toList then do
        let (found, last) ← versionNumber start
        pure (found, (last.trans spaced).trans shorter)
      else if chars name == "TAG".toList then do
        let (handle, ⟨after, handled⟩) ← tagHandle start
        let (_, ⟨next, skipped⟩) := takeGlyphs (·.char == ' ') after
        let (text, ⟨last, taken⟩) ← tagSuffix next
        if startsWith ' ' after && ends last then
          pure (.tagHandle handle text, ⟨last, by omega⟩)
        else refuse
      else
        let (_, last) := takeGlyphs (fun g => !g.isBreak) rest
        pure (.other, last.trans shorter)
    match restOfLine? last with
    | some after => return (found, after.trans taken)
    | none => refuse

end IssueBoard.Yaml
