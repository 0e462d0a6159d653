/-!
# Markup escaping

Text placed between tags or inside a quoted attribute has its five special characters replaced by
character references, so it can neither open nor close anything.
-/

namespace IssueBoard.Text.Markup

/-- The reference that stands for a special character, and every other character itself. -/
def escapeChar (c : Char) : List Char :=
  match c with
  | '&' => "&amp;".toList
  | '<' => "&lt;".toList
  | '>' => "&gt;".toList
  | '"' => "&quot;".toList
  | '\x27' => "&#x27;".toList
  | other => [other]

/-- A text that is safe between tags and in attributes. -/
def escape (s : String) : String := String.ofList (s.toList.flatMap escapeChar)

end IssueBoard.Text.Markup
