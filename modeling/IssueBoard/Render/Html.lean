import IssueBoard.Render.Basic
import IssueBoard.Text.Markup

/-!
# Dashboards as HTML

A page of its own with a style sheet and a script beside it. Number widgets that follow each other
share a group, colors are classes, and every title has an anchor. All texts are escaped, except the
descriptions of the dashboard and of sections, which may hold markup.
-/

namespace IssueBoard.Render.Html

/-- The least width in percent at which a bar shows its value. -/
def labelledWidth : Int := 5

/-- Whether a title keeps a character in its anchor. -/
def isAnchorChar (c : Char) : Bool := c.isAlphanum || c == '_' || c == '-'

/-- The name of the anchor of a title: hyphens for spaces, lower case, and no other characters than
letters, digits, hyphens and underscores. -/
def anchorName (title : String) : String :=
  String.ofList (((title.toList.map fun c => if c == ' ' then '-' else c).filter isAnchorChar).map
    Char.toLower)

/-- The anchor of a title. -/
def anchor (title : String) : String := "<a name=\"" ++ anchorName title ++ "\"></a>"

/-- A class, and the color as a second one. -/
def classes (base : String) : Option String → String
  | none => base
  | some "" => base
  | some color => base ++ " " ++ Text.Markup.escape color

/-- The opening of a link, which has to be an address. -/
def linkOpening : Link → Except Failure String
  | .page url => .ok ("<a href=\"" ++ Text.Markup.escape url ++ "\">")
  | .other _ => .error (.fault .linkNotText)

/-- Something as a link, unless there is no address or an empty one. -/
def link (content : String) : Option Link → Except Failure String
  | none => .ok content
  | some address =>
    if address.toData.isTrue then do return (← linkOpening address) ++ content ++ "</a>"
    else .ok content

/-- A figure between tags. -/
def figure (value : Figure) : Except Failure String := do
  return Text.Markup.escape (← figureText value)

/-- The lines before a widget: the anchor of its title and the opening of its link. -/
def opening (caption : Caption) : Except Failure (List String) := do
  let address ← caption.url.toList.mapM linkOpening
  return (caption.title.map anchor).toList ++ address

/-- The line after a widget: the end of its link. -/
def closing (caption : Caption) : List String := if caption.url.isSome then ["</a>"] else []

/-- A number. -/
def number (caption : Caption) (value : Figure) (color : Option String) :
    Except Failure String := do
  let title := caption.title.map fun title =>
    "<span class=\"title\">" ++ Text.Markup.escape title ++ "</span>"
  return "\n".intercalate ((← opening caption)
    ++ ("<div class=\"" ++ classes "number_widget" color ++ "\">") :: title.toList
    ++ ["<span class=\"value\">" ++ (← figure value) ++ "</span>", "</div>"]
    ++ closing caption)

/-- A string. -/
def string (caption : Caption) (value : String) (color : Option String) :
    Except Failure String := do
  let title := caption.title.map fun title =>
    "<h3 class=\"title\">" ++ Text.Markup.escape title ++ "</h3>"
  return "\n".intercalate ((← opening caption)
    ++ ("<div class=\"" ++ classes "string_widget" color ++ "\">") :: title.toList
    ++ ["<span class=\"value\">" ++ Text.Markup.escape value ++ "</span>",
      "</div> <!-- string_widget -->"]
    ++ closing caption)

/-- The anchor and the heading of a graph or a table. -/
def heading (headingClass : String) (caption : Caption) : Except Failure (List String) :=
  match caption.title with
  | none => .ok []
  | some title => do
    return [anchor title, "<h3 class=\"" ++ headingClass ++ "\">"
      ++ (← link (Text.Markup.escape title) caption.url) ++ "</h3>"]

/-- The bar of an element, whose length counts as zero if it is not finite. -/
def measuredBar (element : Widget) : Except Failure (Bar × Number) := do
  let (bar, number) ← (← barOf element).measured
  return (bar, match number with
    | .real x => if x.isFinite then number else .integer 0
    | number => number)

/-- The width of a bar in percent of the largest value. -/
def width (maximum value : Number) : Except Failure Int :=
  if isPositive maximum then do
    let percent ← (do
      let part ← value.quotient maximum
      Number.floor (.real (part * Binary64.round 100)) : Except Fault Int).mapError .fault
    return max percent 0
  else .ok 0

/-- The lines of a bar. -/
def barLines (maximum : Number) (bar : Bar) (value : Number) : Except Failure (List String) := do
  let width ← width maximum value
  let label ← if labelledWidth ≤ width then figure bar.value else pure ""
  let valueClass := if 0 < width then "value" else "value empty_value"
  let title ← bar.caption.title.toList.mapM fun title =>
    link ("<span class=\"title\">" ++ Text.Markup.escape title ++ "</span>") bar.caption.url
  let drawn ← link ("<span class=\"" ++ valueClass ++ "\" style=\"width: " ++ Int.repr width
    ++ "%;\">" ++ label ++ "</span>") bar.caption.url
  return ("<div class=\"" ++ classes "graph_item" bar.color ++ "\">")
    :: "<span class=\"graph_item_title\">" :: title
    ++ ["</span>", "<span class=\"graph_item_value\">", drawn, "</span>", "</div>"]

/-- A graph. -/
def graph (caption : Caption) (elements : List Widget) : Except Failure String := do
  let bars ← elements.mapM measuredBar
  let maximum := (largest (bars.map fun (_, value) => (.number value, value))).2
  let lines ← bars.mapM fun (bar, value) => barLines maximum bar value
  return "\n".intercalate ("<div class=\"graph_widget\">" :: (← heading "graph_title" caption)
    ++ "<div class=\"graph\">" :: lines.flatten ++ ["</div>", "</div>"])

/-- The class and the alignment of a cell. -/
def attributes (color align : Option String) : String :=
  (color.elim "" fun color => " class=\"" ++ Text.Markup.escape color ++ "\"")
    ++ (align.elim "" fun align => " style=\"text-align: " ++ Text.Markup.escape align ++ "\"")

/-- A cell of a table. -/
def cell (tag : String) : Widget → Except Failure String
  | .number caption value color => do
    return "<" ++ tag ++ attributes color none ++ ">"
      ++ (← link (← figure value) caption.url) ++ "</" ++ tag ++ ">"
  | .string caption value align color => do
    return "<" ++ tag ++ attributes color align ++ ">"
      ++ (← link (Text.Markup.escape value) caption.url) ++ "</" ++ tag ++ ">"
  | _ => .error (.render .tableCell)

/-- The lines of a row. -/
def rowLines (rowClass tag : String) (cells : List Widget) : Except Failure (List String) := do
  return ("<tr class=\"" ++ rowClass ++ "\">") :: (← cells.mapM (cell tag)) ++ ["</tr>"]

/-- A table. -/
def table (caption : Caption) (headers : List Widget) (rows : List (List Widget)) :
    Except Failure String := do
  let top ← if headers.isEmpty then pure [] else rowLines "table_header" "th" headers
  let lines ← rows.mapM (rowLines "table_element" "td")
  return "\n".intercalate ("<div class=\"table_widget\">" :: (← heading "table_title" caption)
    ++ "<table class=\"table\">" :: top ++ lines.flatten ++ ["</table>", "</div>"])

/-- A widget that stands by itself. -/
def block : Widget → Except Failure String
  | .string caption value _ color => string caption value color
  | .graph caption elements => graph caption elements
  | .table caption headers rows => table caption headers rows
  | widget => .error (.render (.unknownWidget widget.kind))

/-- The end of a group of numbers. -/
def groupEnd : String := "</div> <!-- number_widgets -->"

/-- The lines of widgets; `grouping` says whether a group of numbers is open. -/
def widgetLines (grouping : Bool) : List Widget → Except Failure (List String)
  | [] => .ok (if grouping then [groupEnd] else [])
  | .number caption value color :: rest => do
    let opening := if grouping then [] else ["<div class=\"number_widgets\">"]
    let text ← number caption value color
    return opening ++ text :: (← widgetLines true rest)
  | widget :: rest => do
    let closing := if grouping then [groupEnd] else []
    let text ← block widget
    return closing ++ text :: (← widgetLines false rest)

/-- The lines of a section. -/
def sectionLines (part : Section) : Except Failure (List String) := do
  let title := match part.title with
    | none => []
    | some title =>
      [anchor title, "<h2 class=\"section_title\">" ++ Text.Markup.escape title ++ "</h2>", ""]
  let description := match part.description with
    | none => []
    | some text => ["<div class=\"description\">", text, "</div>", ""]
  let widgets ← widgetLines false part.widgets
  return ["<div class=\"section\">", "<div class=\"section_metadata\">"] ++ title ++ description
    ++ ["</div> <!-- section_metadata -->", "<div class=\"section_widgets\">"] ++ widgets
    ++ ["</div> <!-- section_widgets -->", "</div> <!-- section -->"]

/-- A static dashboard as a page. -/
def render (dashboard : Dashboard) : Except Failure String := do
  let title := match dashboard.title with
    | some title => Text.Markup.escape title
    | none => "Dashboard"
  let top := if dashboard.title.isSome then ["<h1>" ++ title ++ "</h1>", ""] else []
  let description := match dashboard.description with
    | none => []
    | some text =>
      ["<div id=\"main_description\" class=\"description\">", text, "</div>", ""]
  let sections ← dashboard.sections.mapM sectionLines
  return "\n".intercalate (["<html>", "<head>", "<title>" ++ title ++ "</title>",
      "<link rel=\"stylesheet\" href=\"dashboard.css\" type=\"text/css\" media=\"all\">",
      "<script src=\"dashboard.js\"></script>", "</head>", "<body>", "<div id=\"analytics\">"]
    ++ top ++ description ++ "<div class=\"sections\">" :: sections.flatten
    ++ ["</div> <!-- sections -->", "<div id=\"footer\">", "Generated by issue-analytics", "</div>",
      "</div> <!-- analytics -->", "</body>", "</html>", ""])

end IssueBoard.Render.Html
