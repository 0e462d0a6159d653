import IssueBoard.Document.JsonPrinter
import IssueBoard.Render.Basic

/-!
# Dashboards as Slack messages

The payload of a message is a list of blocks: the title of the dashboard, then for each section its
title and one line for each number widget, with dividers between sections. Other widgets have no
form in a message and are left out.
-/

namespace IssueBoard.Render.Slack

/-- A block of a message. -/
inductive Block where
  | divider
  | text (content : String)
  deriving DecidableEq

/-- A block as data. -/
def Block.toData : Block → Data
  | .divider => .ofFields [("type", .text "divider")]
  | .text content => .ofFields [("type", .text "section"),
      ("text", .ofFields [("type", .text "mrkdwn"), ("text", .text content)])]

/-- The line of a number widget; other widgets have none. -/
def line? : Widget → Option (Except Failure String)
  | .number caption value color => some do
    let text ← withGlyph (← figureText value) color
    let linked ← match caption.url with
      | some link => pure ("<" ++ (← linkText link) ++ " | " ++ text ++ ">")
      | none => pure text
    return caption.title.getD "" ++ ": " ++ linked
  | _ => none

/-- A title in bold. -/
def heading (title : Option String) : List Block :=
  (title.map fun title => Block.text ("*" ++ title ++ "*")).toList

/-- The blocks of a section. -/
def sectionBlocks (part : Section) : Except Failure (List Block) := do
  let lines ← (part.widgets.filterMap line?).mapM id
  return heading part.title ++ if lines.isEmpty then [] else [.text ("\n".intercalate lines)]

/-- The blocks of sections, with a divider before each but the first. -/
def sectionsBlocks (sections : List Section) : Except Failure (List Block) := do
  let parts ← sections.mapM sectionBlocks
  return ((parts.zipIdx.map fun (blocks, place) =>
    if place = 0 then blocks else .divider :: blocks)).flatten

/-- The blocks of a dashboard. -/
def blocks (dashboard : Dashboard) : Except Failure (List Block) := do
  return heading dashboard.title ++ (← sectionsBlocks dashboard.sections)

/-- A static dashboard as the payload of a message. -/
def render (dashboard : Dashboard) : Except Failure String := do
  let payload := Data.ofFields [("blocks", .list ((← blocks dashboard).map Block.toData))]
  return Json.render payload ++ "\n"

end IssueBoard.Render.Slack
