import IssueBoard.Board.Basic
import IssueBoard.Data.Display

/-!
# Configurations of dashboards

A configuration describes a dashboard as its author writes it: every widget has exactly one source
of its value, and a cell of a table may be a bare value. From a configuration the dashboard is
built.
-/

namespace IssueBoard.Config

/-- A plain value in a configuration: a text, which may be a template, or a number. -/
inductive Scalar where
  | text (s : String)
  | number (n : Number)
  deriving DecidableEq

/-- Where the value of a number comes from. -/
inductive NumberSource where
  | value (value : Scalar)
  | query (query : String)
  | script (script : String)
  deriving DecidableEq

/-- Where the value of a text comes from. -/
inductive TextSource where
  | value (value : Scalar)
  | script (script : String)
  deriving DecidableEq

/-- A number widget, or an element of a graph. -/
structure NumberOptions where
  caption : Caption := {}
  color : Option String := none
  source : NumberSource

/-- A string widget, or a cell of a table. -/
structure CellOptions where
  caption : Caption := {}
  align : Option String := none
  color : Option String := none
  source : TextSource

/-- A bare value as a cell. -/
def CellOptions.bare (value : Scalar) : CellOptions := { source := .value value }

/-- A widget. -/
inductive WidgetOptions where
  | number (options : NumberOptions)
  | string (options : CellOptions)
  | graph (caption : Caption) (elements : List NumberOptions)
  | queryTable (caption : Caption) (query : String) (limit : Option Int)
      (fields : Option (List Field))
  | table (caption : Caption) (headers : List CellOptions) (rows : List (List CellOptions))

/-- A group of widgets. -/
structure SectionOptions where
  title : Option String := none
  description : Option String := none
  widgets : List WidgetOptions := []

/-- How a dashboard is to be written: the name of a format, the file that takes the text, and what
else is set for the format. -/
structure Output where
  format : String
  filename : Option String := none
  extra : List (String × Data) := []

/-- A whole configuration. -/
structure BoardOptions where
  title : Option String := none
  description : Option String := none
  setup : Option String := none
  shutdown : Option String := none
  output : Output
  sections : List SectionOptions := []

/-- A dashboard and how it is to be written. -/
structure Configuration where
  dashboard : Dashboard
  output : Output

/-! ## Building dashboards -/

/-- A scalar as the value of a number widget. -/
def Scalar.figure : Scalar → Figure
  | .text s => .text s
  | .number n => .number n

/-- A scalar as the text of a string widget. -/
def Scalar.toText : Scalar → Except Fault String
  | .text s => .ok s
  | .number n => n.literal

/-- The widget of a number. -/
def NumberOptions.widget (options : NumberOptions) : Widget :=
  match options.source with
  | .value value => .number options.caption value.figure options.color
  | .query query => .queryNumber options.caption { query } options.color
  | .script script => .scriptNumber options.caption script options.color

/-- The widget of a text. -/
def CellOptions.widget (options : CellOptions) : Except Fault Widget :=
  match options.source with
  | .value value => do
    return .string options.caption (← value.toText) options.align options.color
  | .script script => .ok (.scriptString options.caption script options.align options.color)

/-- A widget of a dashboard. -/
def WidgetOptions.widget : WidgetOptions → Except Fault Widget
  | .number options => .ok options.widget
  | .string options => options.widget
  | .graph caption elements => .ok (.graph caption (elements.map NumberOptions.widget))
  | .queryTable caption query limit fields =>
    .ok (.queryTable caption { query } (limit.getD defaultTableLimit) fields)
  | .table caption headers rows => do
    let headers ← headers.mapM CellOptions.widget
    return .table caption headers (← rows.mapM fun row => row.mapM CellOptions.widget)

/-- A section of a dashboard. -/
def SectionOptions.build (options : SectionOptions) : Except Fault Section := do
  let widgets ← options.widgets.mapM WidgetOptions.widget
  return { title := options.title, description := options.description, widgets }

/-- The dashboard of a configuration. -/
def BoardOptions.build (options : BoardOptions) : Except Fault Configuration := do
  let sections ← options.sections.mapM SectionOptions.build
  return {
    dashboard := {
      title := options.title
      description := options.description
      sections
      setup := options.setup
      shutdown := options.shutdown }
    output := options.output }

end IssueBoard.Config
