import IssueBoard.Render.Html
import IssueBoard.Render.Markdown
import IssueBoard.Render.Slack

/-!
# Output formats
-/

namespace IssueBoard.Render

/-- A form in which a dashboard can be written. -/
inductive Format where
  | html
  | slack
  | markdown
  deriving DecidableEq

namespace Format

/-- The format of a name. -/
def ofName (name : String) : Except Failure Format :=
  if name == "html" then .ok .html
  else if name == "json" then .ok .slack
  else if name == "markdown" then .ok .markdown
  else .error (.render (.unknownFormat name))

/-- A static dashboard in a format. -/
def render : Format → Dashboard → Except Failure String
  | .html => Html.render
  | .slack => Slack.render
  | .markdown => Markdown.render

end Format

end IssueBoard.Render
