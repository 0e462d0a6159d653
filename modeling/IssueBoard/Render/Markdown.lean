import IssueBoard.Render.Basic

/-!
# Dashboards as Markdown

Number widgets that follow each other share one table of two columns, a graph is a table with a
column of bars, and strings and tables stand by themselves.
-/

namespace IssueBoard.Render.Markdown

/-- The length of the longest bar. -/
def barLength : Int := 35

/-- What bars are made of. -/
def barPiece : String := "█"

/-- A text with its glyph, as a link if there is one. -/
def decorate (text : String) (color : Option String) (link : Option Link) :
    Except Failure String := do
  let text ← withGlyph text color
  match link with
  | some link => return "[" ++ text ++ "](" ++ (← linkText link) ++ ")"
  | none => return text

/-- A figure with its glyph and link. -/
def figure (caption : Caption) (value : Figure) (color : Option String) :
    Except Failure String := do
  decorate (← figureText value) color caption.url

/-- A row of the table of numbers. -/
def numberRow (caption : Caption) (value : Figure) (color : Option String) :
    Except Failure String := do
  return "| " ++ caption.title.getD "" ++ " | " ++ (← figure caption value color) ++ " |"

/-- A string on a line of its own, below its title. -/
def string (caption : Caption) (value : String) (color : Option String) :
    Except Failure String := do
  let heading := match caption.title with
    | some title => "#### " ++ title ++ "\n\n"
    | none => ""
  return heading ++ (← decorate value color caption.url) ++ "\n"

/-- The heading of a graph or a table; an empty title has none. -/
def heading (caption : Caption) : List String :=
  match caption.title with
  | none => []
  | some "" => []
  | some title => ["#### " ++ title, ""]

/-- The factor that makes the largest value a bar of full length. -/
def scale (maximum : Number) : Except Failure Number :=
  if isPositive maximum then
    ((Number.quotient (.integer barLength) maximum).map .real).mapError .fault
  else .ok (.integer 0)

/-- The number of pieces in the bar of a value. -/
def pieces (scale value : Number) : Except Failure Nat :=
  if value.isNaN then .ok 0
  else do
    let length ← (do (← value.multiply scale).truncate : Except Fault Int).mapError .fault
    return length.toNat

/-- The row of a bar for a number. -/
def barRow (scale : Number) (bar : Bar) (number : Number) : Except Failure String := do
  let length ← pieces scale number
  return "| " ++ bar.caption.title.getD "" ++ " | " ++ (← figure bar.caption bar.value bar.color)
    ++ " | " ++ String.join (List.replicate length barPiece) ++ " |"

/-- A graph as a table. -/
def graph (caption : Caption) (elements : List Widget) : Except Failure String := do
  let bars ← elements.mapM barOf
  let measured ← bars.mapM Bar.measured
  let counted := measured.filter fun (_, number) => !number.isNaN
  let maximum := largest (counted.map fun (bar, number) => (bar.value, number))
  let scale ← scale maximum.2
  let top := "| " ++ caption.title.getD "" ++ " |  | 0 - " ++ (← figureText maximum.1) ++ " |"
  let rule := "|:------------------------------------|-:|:-------|"
  let rows ← measured.mapM fun (bar, number) => barRow scale bar number
  return "\n".intercalate (heading caption ++ top :: rule :: rows ++ [""])

/-- A cell of a table. -/
def cell : Widget → Except Failure String
  | .number caption value color => figure caption value color
  | .string caption value _ color => decorate value color caption.url
  | _ => .error (.render .tableCell)

/-- How the rule below the headings aligns a column. -/
def rule : Option Widget → String
  | some (.string _ _ (some "left") _) => ":--"
  | some (.string _ _ (some "center") _) => ":-:"
  | some (.string _ _ (some "right") _) => "--:"
  | _ => "---"

/-- A line of cells, filled up with empty ones. -/
def row (columns : Nat) (cells : List Widget) : Except Failure String := do
  let texts ← cells.mapM cell
  return "| " ++ " | ".intercalate (texts ++ List.replicate (columns - texts.length) "") ++ " |"

/-- The number of columns of a table: that of its longest row. -/
def columnsOf (headers : List Widget) (rows : List (List Widget)) : Nat :=
  rows.foldl (fun columns row => max columns row.length) headers.length

/-- A table; one without columns is empty. -/
def table (caption : Caption) (headers : List Widget) (rows : List (List Widget)) :
    Except Failure String := do
  let columns := columnsOf headers rows
  if columns = 0 then return ""
  let top ← row columns headers
  let rules := (List.range columns).map fun i => rule headers[i]?
  let lines ← rows.mapM (row columns)
  return "\n".intercalate
    (heading caption ++ top :: ("|" ++ "|".intercalate rules ++ "|") :: lines ++ [""])

/-- A widget that stands by itself. -/
def block : Widget → Except Failure String
  | .string caption value _ color => string caption value color
  | .graph caption elements => graph caption elements
  | .table caption headers rows => table caption headers rows
  | widget => .error (.render (.unknownWidget widget.kind))

/-- The lines of widgets; `grouping` says whether a table of numbers is open. -/
def widgetLines (grouping : Bool) : List Widget → Except Failure (List String)
  | [] => .ok (if grouping then [""] else [])
  | .number caption value color :: rest => do
    let opening := if grouping then [] else ["| Query |  |", "|:------|-:|"]
    let row ← numberRow caption value color
    return opening ++ row :: (← widgetLines true rest)
  | widget :: rest => do
    let closing := if grouping then [""] else []
    let text ← block widget
    return closing ++ text :: (← widgetLines false rest)

/-- A text and an empty line, if there is a text. -/
def paragraph (before : String) : Option String → List String
  | none => []
  | some text => [before ++ text, ""]

/-- The lines of a section. -/
def sectionLines (part : Section) : Except Failure (List String) := do
  return paragraph "## " part.title ++ paragraph "" part.description
    ++ (← widgetLines false part.widgets)

/-- A static dashboard as Markdown. -/
def render (dashboard : Dashboard) : Except Failure String := do
  let sections ← dashboard.sections.mapM sectionLines
  return "\n".intercalate (paragraph "# " dashboard.title ++ paragraph "" dashboard.description
    ++ sections.flatten ++ [""])

end IssueBoard.Render.Markdown
