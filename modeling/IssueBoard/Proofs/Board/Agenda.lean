import IssueBoard.Board.Evaluate
import IssueBoard.Proofs.Evaluation.Trace

/-! # The agenda of a dashboard

What there is to do for a dashboard, and in which order, can be read off the dashboard itself: an agenda
lists the scripts, the texts and the searches one after the other. Only three things are left to the
course of the evaluation: which texts around a value a script has made superfluous, for how many items
the columns of a table are filled in, and which pages have to be requested. The notes of an agenda keep
what the later acts need for this.
-/

namespace IssueBoard

/-- Something to do for a dashboard. -/
inductive Act where
  /-- To run a script for what it changes. -/
  | script (source : String)
  /-- To resolve a text with everything in scope. -/
  | text (template : String)
  /-- To find the value of a number widget. -/
  | figure (value : Figure)
  /-- To find the value of a string widget. -/
  | content (template : String)
  /-- To find the number of results of a search. -/
  | total (search : Search)
  /-- To run a script for a number. -/
  | scriptNumber (source : String)
  /-- To run a script for a text. -/
  | scriptString (source : String)
  /-- To resolve a text with only the value in scope, unless the last script has set it. -/
  | around (name template : String)
  /-- To search for items. -/
  | search (search : Search) (limit : Int)
  /-- To fill in the columns for each of the items. -/
  | rows (fields : List Field)

/-! ## Agendas -/

/-- The template of a link. -/
def Link.template? : Link → Option String
  | .page template => some template
  | .other _ => none

/-- The texts of a caption, which are templates before they are resolved. -/
def Caption.texts (caption : Caption) : List String :=
  caption.title.toList ++ (caption.url.bind Link.template?).toList

/-- The template that a figure is resolved from; a number is none. -/
def Figure.template? : Figure → Option String
  | .number _ => none
  | .flag b => some (flagLiteral b)
  | .text template => some template
  | .other value => value.toText.toOption

namespace Act

/-- To resolve the texts that are there. -/
def texts (templates : List (Option String)) : List Act := templates.filterMap (·.map text)

/-- To resolve the texts around a value that are there. -/
def surroundings (templates : List (String × Option String)) : List Act :=
  templates.filterMap fun (name, template) => template.map (around name)

/-- The texts around a number. -/
def aroundNumber (caption : Caption) (color : Option String) : List Act :=
  surroundings [("title", caption.title), ("url", caption.url.bind Link.template?), ("color", color)]

/-- The texts around a text. -/
def aroundText (caption : Caption) (align color : Option String) : List Act :=
  surroundings [("title", caption.title), ("url", caption.url.bind Link.template?), ("align", align),
    ("color", color)]

/-- The texts of a graph or a table. -/
def ofCaption (caption : Caption) : List Act := texts [caption.title, caption.url.bind Link.template?]

end Act

mutual

/-- What there is to do for a widget: its value or its parts come before its texts. -/
def Widget.agenda : Widget → List Act
  | .number caption value color => .figure value :: Act.aroundNumber caption color
  | .string caption value align color => .content value :: Act.aroundText caption align color
  | .queryNumber caption search color => .total search :: Act.aroundNumber caption color
  | .scriptNumber caption script color => .scriptNumber script :: Act.aroundNumber caption color
  | .scriptString caption script align color => .scriptString script :: Act.aroundText caption align color
  | .graph caption elements => Widget.agendaOfAll elements ++ Act.ofCaption caption
  | .table caption headers rows =>
    Widget.agendaOfAll headers ++ (Widget.agendaOfRows rows ++ Act.ofCaption caption)
  | .queryTable caption search limit fields =>
    .search search limit :: .rows (resolvedFields search.kind fields) :: Act.ofCaption caption
  | .unknown .. => []

/-- What there is to do for widgets from left to right. -/
def Widget.agendaOfAll : List Widget → List Act
  | [] => []
  | widget :: rest => widget.agenda ++ Widget.agendaOfAll rest

/-- What there is to do for rows from top to bottom. -/
def Widget.agendaOfRows : List (List Widget) → List Act
  | [] => []
  | row :: rest => Widget.agendaOfAll row ++ Widget.agendaOfRows rest

end

/-- What there is to do for a section: its widgets come before its texts. -/
def Section.agenda (part : Section) : List Act :=
  part.widgets.flatMap Widget.agenda ++ Act.texts [part.title, part.description]

/-- What there is to do for a dashboard. -/
def Dashboard.agenda (dashboard : Dashboard) : List Act :=
  dashboard.setup.toList.map .script ++ dashboard.sections.flatMap Section.agenda
    ++ Act.texts [dashboard.title, dashboard.description] ++ dashboard.shutdown.toList.map .script

/-! ## Code -/

/-- The code in a template. -/
def Template.code (source : String) : List (CodeKind × String) :=
  (expressions source).map fun text => (.expression, text)

/-- The code that an act runs. -/
def Act.code : Act → List (CodeKind × String)
  | .script source | .scriptNumber source | .scriptString source => [(.script, source)]
  | .text template | .content template | .around _ template => Template.code template
  | .figure value => value.template?.toList.flatMap Template.code
  | .total sought | .search sought _ => Template.code sought.query
  | .rows fields => fields.flatMap fun field => field.template.toList.flatMap Template.code

/-- The code that stands in a dashboard. -/
def Dashboard.code (dashboard : Dashboard) : List (CodeKind × String) :=
  dashboard.agenda.flatMap Act.code

/-! ## Going through an agenda -/

variable {σ V : Type}

/-- What the acts of an agenda leave for those behind them. -/
structure Notes (V : Type) where
  /-- The value that the next texts are around. -/
  value : Data := .null
  /-- What a script has set around its value. -/
  overrides : Evaluation.Overrides V := []
  /-- What a search has found. -/
  items : List V := []

namespace Evaluation

/-- The number that a script gives, and what it sets around it. -/
def numberOfScript (world : World σ V) (script : String) : Evaluation σ V (Number × Overrides V) := do
  let (result, overrides) ← splitResult world (← runScript world Focus.whole.scope script)
  let value ← ofExcept ((IssueBoard.scriptNumber result).mapError .fault)
  return (value, overrides)

/-- The text that a script gives, and what it sets around it. -/
def textOfScript (world : World σ V) (script : String) : Evaluation σ V (String × Overrides V) := do
  let (result, overrides) ← splitResult world (← runScript world Focus.whole.scope script)
  let value ← ofExcept (result.display.mapError .fault)
  return (value, overrides)

/-- Does something, given the notes, and takes notes. -/
def perform (world : World σ V) (notes : Notes V) : Act → Evaluation σ V (Notes V)
  | .script source => do
    let _ ← runScript world Focus.whole.scope source
    return notes
  | .text template => do
    let _ ← resolve world Focus.whole.scope template
    return notes
  | .figure value => do return { value := (← resolveFigure world .whole value).toData }
  | .content template => do return { value := .text (← resolve world Focus.whole.scope template) }
  | .total search => do
    let results ← runQuery world defaultPageSize .whole search.kind search.query 0
    return { value := (Figure.ofTotal results.total).toData }
  | .scriptNumber source => do
    let (value, overrides) ← numberOfScript world source
    return { value := (Figure.number value).toData, overrides }
  | .scriptString source => do
    let (value, overrides) ← textOfScript world source
    return { value := .text value, overrides }
  | .around name template =>
    match notes.overrides.lookup name with
    | some _ => return notes
    | none => do
      let _ ← resolve world (Focus.plain notes.value).scope template
      return notes
  | .search search limit => do
    let results ← runQuery world defaultPageSize .whole search.kind search.query limit
    return { items := results.items }
  | .rows fields => do
    let _ ← evaluateItems world fields notes.items
    return notes

/-- Goes through an agenda. -/
def performAll (world : World σ V) : List Act → Notes V → Evaluation σ V (Notes V)
  | [], notes => return notes
  | act :: rest, notes => do performAll world rest (← perform world notes act)

/-- What filling in a column for an item asks. -/
def cellQuestions (world : World σ V) (item : V) (field : Field) (session : Session σ V) :
    List (Question V) :=
  match field.template with
  | some template => textQuestions (itemFocus item (world.view session item)).scope template
  | none => []

/-- What filling in columns for an item asks. -/
def rowQuestions (world : World σ V) (item : V) : List Field → Session σ V → List (Question V)
  | [], _ => []
  | field :: rest, session => cellQuestions world item field session ++
      afterwards ((evaluateField world item field).runFrom session) fun _ =>
        rowQuestions world item rest

/-- What filling in columns for items asks. -/
def itemsQuestions (world : World σ V) (fields : List Field) :
    List V → Session σ V → List (Question V)
  | [], _ => []
  | item :: rest, session => rowQuestions world item fields session ++
      afterwards ((evaluateFields world item fields).runFrom session) fun _ =>
        itemsQuestions world fields rest

/-- What an act asks, given the notes. -/
def actQuestions (world : World σ V) (notes : Notes V) : Act → Session σ V → List (Question V)
  | .script source, _ | .scriptNumber source, _ | .scriptString source, _ =>
    scriptQuestions Focus.whole.scope source
  | .text template, _ | .content template, _ => textQuestions Focus.whole.scope template
  | .figure value, _ => (value.template?.map (textQuestions Focus.whole.scope)).getD []
  | .around name template, _ =>
    if (notes.overrides.lookup name).isSome then []
    else textQuestions (Focus.plain notes.value).scope template
  | .total search, session => queryQuestions world .whole search.kind search.query 0 session
  | .search search limit, session => queryQuestions world .whole search.kind search.query limit session
  | .rows fields, session => itemsQuestions world fields notes.items session

/-- What the acts of an agenda ask one after the other, as far as they can be done. -/
def agendaQuestions (world : World σ V) : List Act → Notes V → Session σ V → List (Question V)
  | [], _, _ => []
  | act :: rest, notes, session => actQuestions world notes act session ++
      afterwards ((perform world notes act).runFrom session) (agendaQuestions world rest)

end Evaluation

end IssueBoard
