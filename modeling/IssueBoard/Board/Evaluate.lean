import IssueBoard.Board.Coercion
import IssueBoard.Board.Context

/-!
# Evaluating dashboards

Every widget is reduced to a static one: values first, then the texts around them, strictly in
order, so scripts see what earlier ones have left. The first failure ends an evaluation.
-/

namespace IssueBoard

namespace Evaluation

variable {σ V : Type}

/-- Resolves a template that may be absent. -/
def resolveOptional (world : World σ V) (focus : Focus V) :
    Option String → Evaluation σ V (Option String)
  | none => return none
  | some template => do return some (← resolve world focus.scope template)

/-- Resolves the address that something links to. -/
def resolveLink (world : World σ V) (focus : Focus V) :
    Option Link → Evaluation σ V (Option Link)
  | some (.page template) => do return some (.page (← resolve world focus.scope template))
  | link => return link

/-- The fields that a script result may set. -/
def overridable : List String := ["title", "url", "color", "align"]

/-- What the result of a script sets around its value, under the names of the fields. -/
abbrev Overrides (V : Type) := List (String × V)

/-- What the result of a script sets for some fields; what is absent sets none. -/
def overridesOf (world : World σ V) (result : V) :
    List String → Evaluation σ V (Overrides V)
  | [] => return []
  | name :: rest => do
    let found ← field? world result name
    let others ← overridesOf world result rest
    match found with
    | none => return others
    | some set => if (← view world set).isNull then return others else return (name, set) :: others

/-- The value of a script result, and the fields that it sets. Only an object with a value sets
any. -/
def splitResult (world : World σ V) (result : V) : Evaluation σ V (Data × Overrides V) := do
  match ← field? world result "value" with
  | none => return (← view world result, [])
  | some value => return (← view world value, ← overridesOf world result overridable)

/-- A field around a value: what a script has set it to, as it is by then, or its template with only
the value in scope. -/
def fillField (world : World σ V) (overrides : Overrides V) (value : Data)
    (name : String) (template : Option String) : Evaluation σ V (Option String) :=
  match overrides.lookup name with
  | some set => do return some (← display world set)
  | none => resolveOptional world (.plain value) template

/-- What a widget around a value links to: what a script has set, or its own address with only the
value in scope. -/
def fillLink (world : World σ V) (overrides : Overrides V) (value : Data)
    (link : Option Link) : Evaluation σ V (Option Link) :=
  match overrides.lookup "url" with
  | some set => do return some (.page (← display world set))
  | none => resolveLink world (.plain value) link

/-- A static number widget around a value. Without a link of its own it links to `page`. -/
def fillNumber (world : World σ V) (overrides : Overrides V) (caption : Caption)
    (value : Figure) (color page : Option String) : Evaluation σ V Widget := do
  let fill := fillField world overrides value.toData
  let title ← fill "title" caption.title
  let url ← fillLink world overrides value.toData caption.url
  let color ← fill "color" color
  return .number { title, url := url.or (page.map .page) } value color

/-- A static string widget around a value. -/
def fillString (world : World σ V) (overrides : Overrides V) (caption : Caption)
    (value : String) (align color : Option String) : Evaluation σ V Widget := do
  let fill := fillField world overrides (.text value)
  let title ← fill "title" caption.title
  let url ← fillLink world overrides (.text value) caption.url
  let align ← fill "align" align
  let color ← fill "color" color
  return .string { title, url } value align color

/-- The figure that the value of a number widget resolves to. -/
def resolveFigure (world : World σ V) (focus : Focus V) (value : Figure) :
    Evaluation σ V Figure :=
  match value with
  | .number n => return .number n
  | .flag b => do
    return .number (templateNumber (← resolve world focus.scope (flagLiteral b)))
  | .text template => do
    return .number (templateNumber (← resolve world focus.scope template))
  | .other value => do
    let template ← ofExcept (value.toText.mapError .fault)
    return .number (templateNumber (← resolve world focus.scope template))

/-- A property of an item as text; a missing one is empty. -/
def showProperty (item : Data) (name : String) : Except Failure String :=
  match item with
  | .object entries =>
    (((Data.lookup? (.text name) entries).getD .null).display).mapError .fault
  | _ => .error (.fault .notAnItem)

/-- What an item links to. -/
def itemLink (item : Data) : Except Failure (Option Link) :=
  match item with
  | .object entries => .ok ((Data.lookup? (.text "html_url") entries).bind Link.ofData?)
  | _ => .error (.fault .notAnItem)

/-- The focus on an item. An absent one is only a value that is absent. -/
def itemFocus (item : V) (shown : Data) : Focus V :=
  if shown.isNull then .plain .null else .item item

/-- The cell of an item in a column. -/
def evaluateField (world : World σ V) (item : V) (field : Field) : Evaluation σ V Widget := do
  let before ← view world item
  let text ← match field.template with
    | some template => resolve world (itemFocus item before).scope template
    | none => ofExcept (showProperty before (field.property.getD ""))
  let after ← view world item
  let url ← ofExcept (itemLink after)
  return .string { url } text none none

/-- The cells of an item, from left to right. -/
def evaluateFields (world : World σ V) (item : V) : List Field → Evaluation σ V (List Widget)
  | [] => return []
  | field :: rest => do
    let cell ← evaluateField world item field
    return cell :: (← evaluateFields world item rest)

/-- The rows of items, from top to bottom. -/
def evaluateItems (world : World σ V) (fields : List Field) :
    List V → Evaluation σ V (List (List Widget))
  | [] => return []
  | item :: rest => do
    let row ← evaluateFields world item fields
    return row :: (← evaluateItems world fields rest)

/-- A widget, provided that a container admits it. -/
def accept (container : Container) (widget : Widget) : Evaluation σ V Widget :=
  let admitted := match container with
    | .graph => widget.isNumber
    | .table => widget.isCell
  if admitted then return widget else throw (.widgetType container widget.kind)

mutual

/-- Reduces a widget to a static one. -/
def evaluate (world : World σ V) (focus : Focus V) : Widget → Evaluation σ V Widget
  | .number caption value color => do
    let value ← resolveFigure world focus value
    fillNumber world [] caption value color none
  | .string caption value align color => do
    let value ← resolve world focus.scope value
    fillString world [] caption value align color
  | .queryNumber caption search color => do
    let results ← runQuery world defaultPageSize focus search.kind search.query 0
    fillNumber world [] caption (.ofTotal results.total) color (some results.url)
  | .scriptNumber caption script color => do
    let (result, overrides) ← splitResult world (← runScript world focus.scope script)
    let value ← ofExcept ((scriptNumber result).mapError .fault)
    fillNumber world overrides caption (.number value) color none
  | .scriptString caption script align color => do
    let (result, overrides) ← splitResult world (← runScript world focus.scope script)
    let value ← ofExcept (result.display.mapError .fault)
    fillString world overrides caption value align color
  | .graph caption elements => do
    let elements ← evaluateAll world focus .graph elements
    let title ← resolveOptional world focus caption.title
    let url ← resolveLink world focus caption.url
    return .graph { title, url } elements
  | .table caption headers rows => do
    let headers ← evaluateAll world focus .table headers
    let rows ← evaluateRows world focus rows
    let title ← resolveOptional world focus caption.title
    let url ← resolveLink world focus caption.url
    return .table { title, url } headers rows
  | .queryTable caption search limit fields => do
    let results ← runQuery world defaultPageSize focus search.kind search.query limit
    let fields := resolvedFields search.kind fields
    let headers := fields.map fun field => Widget.string {} field.label none none
    let rows ← evaluateItems world fields results.items
    let title ← resolveOptional world focus caption.title
    let url ← resolveLink world focus caption.url
    return .table { title, url := url.or (some (.page results.url)) } headers rows
  | .unknown kind _ => throw (.fault (.unknownWidget kind))

/-- Reduces the widgets in a container, from left to right. -/
def evaluateAll (world : World σ V) (focus : Focus V) (container : Container) :
    List Widget → Evaluation σ V (List Widget)
  | [] => return []
  | widget :: rest => do
    let first ← accept container (← evaluate world focus widget)
    return first :: (← evaluateAll world focus container rest)

/-- Reduces the rows of a table, from top to bottom. -/
def evaluateRows (world : World σ V) (focus : Focus V) :
    List (List Widget) → Evaluation σ V (List (List Widget))
  | [] => return []
  | row :: rest => do
    let first ← evaluateAll world focus .table row
    return first :: (← evaluateRows world focus rest)

end

/-- Reduces widgets in order. -/
def evaluateWidgets (world : World σ V) (focus : Focus V) :
    List Widget → Evaluation σ V (List Widget)
  | [] => return []
  | widget :: rest => do
    let first ← evaluate world focus widget
    return first :: (← evaluateWidgets world focus rest)

/-- Evaluates a section: its widgets in order, then its title and its description. -/
def evaluateSection (world : World σ V) (focus : Focus V) (part : Section) :
    Evaluation σ V Section := do
  let widgets ← evaluateWidgets world focus part.widgets
  let title ← resolveOptional world focus part.title
  let description ← resolveOptional world focus part.description
  return { title, description, widgets }

/-- Evaluates sections in order. -/
def evaluateSections (world : World σ V) : List Section → Evaluation σ V (List Section)
  | [] => return []
  | part :: rest => do
    let first ← evaluateSection world .whole part
    return first :: (← evaluateSections world rest)

/-- Runs a script for what it changes, if there is one. -/
def runOptional (world : World σ V) : Option String → Evaluation σ V Unit
  | none => return ()
  | some script => do
    let _ ← runScript world Focus.whole.scope script

/-- Evaluates a dashboard: the setup script, the sections, the dashboard's own texts, and the
shutdown script. -/
def evaluateDashboard (world : World σ V) (dashboard : Dashboard) :
    Evaluation σ V Dashboard := do
  runOptional world dashboard.setup
  let sections ← evaluateSections world dashboard.sections
  let title ← resolveOptional world .whole dashboard.title
  let description ← resolveOptional world .whole dashboard.description
  runOptional world dashboard.shutdown
  return { title, description, sections }

end Evaluation

end IssueBoard
