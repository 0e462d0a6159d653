import IssueBoard.Text.Hex
import IssueBoard.Text.Printable

/-!
# Quoted texts

A text nested in a list or an object is shown between single quotes, or between double quotes when
it holds a single quote and no double one. The quote in use, the backslash and unprintable
characters are escaped.
-/

namespace IssueBoard.Text

/-- The quote that surrounds a text. -/
def quoteFor (cs : List Char) : Char :=
  if cs.contains '\x27' && !cs.contains '"' then '"' else '\x27'

/-- The escape of an unprintable character: two, four or eight hexadecimal digits, as few as its
code point needs. -/
def codeEscape (c : Char) : List Char :=
  let code := c.toNat
  if code < 0x100 then '\\' :: 'x' :: hexDigits false 2 code
  else if code < 0x10000 then '\\' :: 'u' :: hexDigits false 4 code
  else '\\' :: 'U' :: hexDigits false 8 code

/-- How a character is written between the given quotes. -/
def quotedChar (quote c : Char) : List Char :=
  if c == quote || c == '\\' then ['\\', c]
  else if c == '\n' then ['\\', 'n']
  else if c == '\r' then ['\\', 'r']
  else if c == '\t' then ['\\', 't']
  else if isPrintable c then [c]
  else codeEscape c

/-- A text in quotes. -/
def quoted (s : String) : String :=
  let cs := s.toList
  let quote := quoteFor cs
  String.ofList (quote :: cs.flatMap (quotedChar quote) ++ [quote])

end IssueBoard.Text
