import IssueBoard.Document.Yaml.Basic
import IssueBoard.Text.Hex

/-!
# Texts in quotes

Between single quotes only the quote itself is special and is written twice. Between double quotes a
backslash escapes. In both, a run of blanks with a break in it is folded.
-/

namespace IssueBoard.Yaml

/-- The character that a letter behind a backslash stands for. -/
def escaped? (c : Char) : Option Char :=
  match c with
  | '0' => some '\x00'
  | 'a' => some '\x07'
  | 'b' => some '\x08'
  | 't' => some '\t'
  | '\t' => some '\t'
  | 'n' => some '\n'
  | 'v' => some '\x0b'
  | 'f' => some '\x0c'
  | 'r' => some '\r'
  | 'e' => some '\x1b'
  | ' ' => some ' '
  | '"' => some '"'
  | '\\' => some '\\'
  | '/' => some '/'
  | 'N' => some '\u0085'
  | '_' => some '\u00a0'
  | 'L' => some '\u2028'
  | 'P' => some '\u2029'
  | _ => none

/-- The number of hexadecimal digits behind a letter that begins a code point. -/
def codeWidth? (c : Char) : Option Nat :=
  match c with
  | 'x' => some 2
  | 'u' => some 4
  | 'U' => some 8
  | _ => none

/-- The character at a code point; half a surrogate pair is replaced. -/
def charAt (code : Nat) : Reading Char :=
  if 0x7FFFFFFF < code then .error (.fault .wordOverflow)
  else if 0x10FFFF < code then .error (.fault .codePoint)
  else .ok (if code.isValidChar then Char.ofNat code else '\ufffd')

/-- Reads what follows a backslash. A break is left out together with the blanks behind it, but
further breaks count. -/
def escape : (gs : List Glyph) → Reading (List Char × Shorter gs)
  | [] => refuse
  | g :: after =>
    match escaped? g.char, codeWidth? g.char with
    | some meant, _ => .ok ([meant], ⟨after, by simp⟩)
    | none, some width =>
      match Text.hexNumber? (chars (after.take width)) with
      | none => refuse
      | some code =>
        if after.length < width then refuse
        else return ([← charAt code],
          ⟨after.drop width, by rw [List.length_drop, List.length_cons]; omega⟩)
    | none, none =>
      if g.isBreak then
        let (run, rest) := takeGlyphs Glyph.isBlank after
        if isBoundary rest.1 then refuse else .ok (breaks run, rest.behind g)
      else refuse

/-- Reads a text up to its closing quote. -/
def quotedText (isDouble : Bool) (gs : List Glyph) : Reading (List Char × Rest gs) :=
  match gs with
  | [] => refuse
  | g :: after =>
    if g.char == (if isDouble then '"' else '\x27') then
      if !isDouble && startsWith '\x27' after then do
        let (text, rest) ← quotedText isDouble (after.drop 1)
        return ('\x27' :: text, rest.ofDrop.past g)
      else .ok ([], (Rest.all after).past g)
    else if isDouble && g.char == '\\' then do
      let (meant, ⟨rest, shorter⟩) ← escape after
      let (text, last) ← quotedText isDouble rest
      return (meant ++ text, (last.within shorter).toRest.past g)
    else if g.isBlank then
      let (run, ⟨rest, shorter⟩) := takeGlyphs Glyph.isBlank after
      if isBoundary rest then refuse
      else do
        let (text, last) ← quotedText isDouble rest
        return (folded (g :: run) ++ text, (last.trans shorter).past g)
    else do
      let (text, rest) ← quotedText isDouble after
      return (g.char :: text, rest.past g)
termination_by gs.length
decreasing_by all_goals simp only [List.length_cons, List.length_drop]; omega

end IssueBoard.Yaml
