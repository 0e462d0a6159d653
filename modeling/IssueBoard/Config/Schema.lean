import IssueBoard.Config.Basic
import IssueBoard.Config.Integer
import IssueBoard.Config.Options

/-!
# The schema of configurations

Reading a configuration from plain data. An object is read option by option in the order below; then
unknown names are refused, and last the options that exclude each other are compared.
-/

namespace IssueBoard.Config

/-- Reads a plain value. Truth values count as one and zero. -/
def readScalar : Data → Reading Scalar
  | .integer n => .ok (.number (.integer n))
  | .real x => .ok (.number (.real x))
  | .flag b => .ok (.number (.integer (if b then 1 else 0)))
  | value => within "str" (Scalar.text <$> readText value)

/-- Reads the title and the link of a widget. -/
def readCaption (options : Options) : Reading Caption := do
  let title ← options.text "title"
  let url ← options.text "url"
  return { title, url := url.map .page }

/-- Reads the options of a string widget, or of a cell. -/
def readCellOptions (isWidget : Bool) (options : Options) : Reading CellOptions := do
  let caption ← readCaption options
  let color ← options.text "color"
  let align ← options.text "align"
  let value ← options.optional readScalar "value"
  let script ← options.text "script"
  options.only ((if isWidget then ["type"] else [])
    ++ ["title", "url", "color", "align", "value", "script"])
  let source ← single [("value", value.map .value), ("script", script.map .script)]
  return { caption, color, align, source }

/-- Reads a cell: options, or a bare value. -/
def readCell : Data → Reading CellOptions
  | .object options =>
    (readCellOptions false options).mapError fun _ => { place := ["str"], cause := .notText }
  | value => CellOptions.bare <$> readScalar value

/-- How a place shows that a list of cells is expected. -/
def cellList : String :=
  "list[union[str,int,float,function-after[check_source(), StringCellConfig]]]"

/-- Reads cells: a list of them, or a single one. -/
def readCells (value : Data) : Reading (List CellOptions) :=
  match value.items? with
  | some cells => within cellList (readItems readCell 0 cells)
  | none =>
    match readCell value with
    | .ok cell => .ok [cell]
    | .error _ => within cellList (complain .notList)

/-- Reads a number widget. -/
def readNumber (options : Options) : Reading NumberOptions := do
  let caption ← readCaption options
  let color ← options.text "color"
  let value ← options.optional readScalar "value"
  let script ← options.text "script"
  let query ← options.text "issue_query"
  options.only ["type", "title", "url", "color", "value", "script", "issue_query"]
  let source ← single [("issue_query", query.map .query), ("value", value.map .value),
    ("script", script.map .script)]
  return { caption, color, source }

/-- Reads an element of a graph. -/
def readGraphElement (element : Data) : Reading NumberOptions := do
  let options ← readOptions "GraphElementConfig" element
  let caption ← readCaption options
  let color ← options.text "color"
  let value ← options.optional readScalar "value"
  let query ← options.text "issue_query"
  options.only ["title", "url", "color", "value", "issue_query"]
  let source ← single [("issue_query", query.map .query), ("value", value.map .value)]
  return { caption, color, source }

/-- Reads a graph. -/
def readGraph (options : Options) : Reading WidgetOptions := do
  let caption ← readCaption options
  let elements ← options.required (readList readGraphElement) "elements"
  options.only ["type", "title", "url", "elements"]
  return .graph caption elements

/-- How a place shows that the options of a column are expected. -/
def fieldOptions : String := "function-after[check_source(), QueryTableFieldConfig]"

/-- Reads the options of a column. -/
def readFieldOptions (field : Data) : Reading Field := do
  let options ← readOptions "QueryTableFieldConfig" field
  let title ← options.text "title"
  let property ← options.text "property"
  let template ← options.text "value"
  options.only ["title", "property", "value"]
  single [("property", property.map fun property => { title, property := some property }),
    ("value", template.map fun template => { title, template := some template })]

/-- Reads a column: the name of a property, or options. -/
def readField (field : Data) : Reading Field :=
  match readText field with
  | .ok property => .ok { property := some property }
  | .error _ => within fieldOptions (readFieldOptions field)

/-- Reads a table: one of search results, or one of configured rows. -/
def readTable (options : Options) : Reading WidgetOptions := do
  let caption ← readCaption options
  let query ← options.text "issue_query"
  let limit ← options.optional readCount "limit"
  let fields ← options.optional (readList readField) "fields"
  let headers ← options.optional readCells "headers"
  let rows ← options.optional (readList readCells) "elements"
  options.only ["type", "title", "url", "issue_query", "limit", "fields", "headers", "elements"]
  match ← single [("issue_query", query.map Sum.inl), ("elements", rows.map Sum.inr)] with
  | .inl query =>
    if headers.isSome then complain (.unexpected "headers")
    else return .queryTable caption query limit fields
  | .inr rows =>
    if limit.isSome then complain (.unexpected "limit")
    else if fields.isSome then complain (.unexpected "fields")
    else return .table caption (headers.getD []) rows

/-- Reads the options of a widget of a type, if the type is known. -/
def widgetOptions? (type : String) (options : Options) : Option (Reading WidgetOptions) :=
  if type == "number" then some (.number <$> readNumber options)
  else if type == "string" then some (.string <$> readCellOptions true options)
  else if type == "graph" then some (readGraph options)
  else if type == "table" then some (readTable options)
  else none

/-- Reads a widget; its type says which options it has. -/
def readWidget : Data → Reading WidgetOptions
  | .object options =>
    match Options.find? options "type" with
    | none => complain .noType
    | some type =>
      match type.text?.bind fun name => (widgetOptions? name options).map (within name) with
      | some reading => reading
      | none => complain (.unknownType (type.toText.toOption.getD ""))
  | _ => complain .notWidget

/-- Reads a section. -/
def readSection (part : Data) : Reading SectionOptions := do
  let options ← readOptions "SectionConfig" part
  let title ← options.text "title"
  let description ← options.text "description"
  let widgets ← options.items readWidget "widgets"
  options.only ["title", "description", "widgets"]
  return { title, description, widgets }

/-- Reads how the dashboard is to be written. Formats have options of their own, so every name is
taken. -/
def readOutput (part : Data) : Reading Output := do
  let options ← readOptions "OutputConfig" part
  let format ← options.required readText "format"
  let filename ← options.text "filename"
  options.checkNames fun _ => true
  let extra := options.filterMap fun (name, value) =>
    match name with
    | .text name => if name == "format" || name == "filename" then none else some (name, value)
    | _ => none
  return { format, filename, extra }

/-- Reads a whole configuration. -/
def readBoard (options : Options) : Reading BoardOptions := do
  let title ← options.text "title"
  let description ← options.text "description"
  let setup ← options.text "setup"
  let shutdown ← options.text "shutdown"
  let output ← options.required readOutput "output"
  let sections ← options.items readSection "sections"
  options.only ["title", "description", "setup", "shutdown", "output", "sections"]
  return { title, description, setup, shutdown, output, sections }

/-- The configuration that plain data describes. -/
def Configuration.ofData : Data → Except Failure Configuration
  | .object options => do
    let read ← (readBoard options).mapError Complaint.toFailure
    read.build.mapError .fault
  | _ => .error (.config none "configuration must be an object")

end IssueBoard.Config
