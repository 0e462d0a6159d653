import IssueBoard.Query.Server

/-!
# Dashboards

A dashboard is a list of sections, and a section a list of widgets. As they are configured, the
texts of widgets are templates and their values may come from searches and scripts; evaluation
reduces them to static widgets, which hold plain values.
-/

namespace IssueBoard

/-- The value of a number widget: a number, or the template of one. Some searches report a truth
value or something else in place of a number. -/
inductive Figure where
  | number (n : Number)
  | flag (b : Bool)
  | text (s : String)
  | other (value : Data)

namespace Figure

/-- A figure as data. -/
def toData : Figure → Data
  | .number n => .ofNumber n
  | .flag b => .flag b
  | .text s => .text s
  | .other value => value

/-- The figure that a value is. -/
def ofData : Data → Figure
  | .flag b => .flag b
  | .text s => .text s
  | value =>
    match value.number? with
    | some n => .number n
    | none => .other value

/-- The figure of a total. -/
def ofTotal (total : Total) : Figure := ofData total.toData

end Figure

/-- What a widget links to: the address of a page. A search result may hold something else in place
of an address, which is kept as it is. -/
inductive Link where
  | page (url : String)
  | other (value : Data)

/-- A link as data. -/
def Link.toData : Link → Data
  | .page url => .text url
  | .other value => value

/-- The link that a value is; the absent value is none. -/
def Link.ofData? : Data → Option Link
  | .null => none
  | .text url => some (.page url)
  | value => some (.other value)

/-- The title of a widget and the page that it links to. -/
structure Caption where
  title : Option String := none
  url : Option Link := none

/-- A search as a widget asks for it. -/
structure Search where
  query : String
  kind : QueryKind := .issue

/-- A column of a table of search results: a property of the items, or a template that is resolved
for each item. -/
structure Field where
  title : Option String := none
  property : Option String := none
  template : Option String := none
  deriving DecidableEq

/-- The heading of a column. -/
def Field.label (field : Field) : String :=
  (field.title.or field.template).getD (field.property.getD "")

/-- A widget. -/
inductive Widget where
  | number (caption : Caption) (value : Figure) (color : Option String)
  | string (caption : Caption) (value : String) (align color : Option String)
  | queryNumber (caption : Caption) (search : Search) (color : Option String)
  | scriptNumber (caption : Caption) (script : String) (color : Option String)
  | scriptString (caption : Caption) (script : String) (align color : Option String)
  | graph (caption : Caption) (elements : List Widget)
  | table (caption : Caption) (headers : List Widget) (rows : List (List Widget))
  | queryTable (caption : Caption) (search : Search) (limit : Int) (fields : Option (List Field))
  /-- A widget of a kind that nothing is known of. -/
  | unknown (kind : String) (title : Option String)

namespace Widget

/-- The word for the kind of a widget. -/
def kind : Widget → String
  | .number .. => "number"
  | .string .. => "string"
  | .queryNumber .. => "query_number"
  | .scriptNumber .. => "script_number"
  | .scriptString .. => "script_string"
  | .graph .. => "graph"
  | .table .. => "table"
  | .queryTable .. => "query_table"
  | .unknown kind _ => kind

/-- Whether this is a number widget. -/
def isNumber : Widget → Bool
  | .number .. => true
  | _ => false

/-- Whether this is a number or a string widget. -/
def isCell : Widget → Bool
  | .number .. => true
  | .string .. => true
  | _ => false

end Widget

/-- The number of rows of a table of search results unless another one is configured. -/
def defaultTableLimit : Int := 10

/-- The columns of a table of search results unless others are configured. -/
def defaultFields : QueryKind → List Field
  | .issue => [{ title := some "Issue", property := some "number" },
      { title := some "Title", property := some "title" }]
  | .other _ => []

/-- The columns of a table of search results. -/
def resolvedFields (kind : QueryKind) (fields : Option (List Field)) : List Field :=
  fields.getD (defaultFields kind)

/-- A group of widgets in order. -/
structure Section where
  title : Option String := none
  description : Option String := none
  widgets : List Widget := []

/-- A dashboard. The setup script runs before everything else and the shutdown script after it. -/
structure Dashboard where
  title : Option String := none
  description : Option String := none
  sections : List Section := []
  setup : Option String := none
  shutdown : Option String := none

end IssueBoard
