import IssueBoard.Config.Options
import IssueBoard.Board.Basic
import Mathlib.Data.List.Forall2

/-! # Dashboards as documents

The document of a dashboard is what its author could have written: every widget is an object that has
the widget's type, its source and the options that are set. Some parts have short spellings as well,
and a document may use them wherever it likes.
-/

namespace IssueBoard

open Config (Options)

/-- The options with a value among some entries. -/
def Config.Options.ofEntries (entries : List (String × Option Data)) : Options :=
  entries.filterMap fun (name, value) => value.map fun there => (.text name, there)

/-! ## Documents -/

/-- The title and the link of a widget. -/
def Caption.entries (caption : Caption) : List (String × Option Data) :=
  [("title", caption.title.map .text), ("url", caption.url.map Link.toData)]

/-- A column of a table of search results as an object. -/
def Field.document (field : Field) : Data :=
  .object (Options.ofEntries [("title", field.title.map .text),
    ("property", field.property.map .text), ("value", field.template.map .text)])

namespace Widget

/-- An object with a type. -/
def typed (type : String) (entries : List (String × Option Data)) : Data :=
  .object (Options.ofEntries (("type", some (.text type)) :: entries))

/-- What is set for a number: its source is a value, a script or a query. -/
def numberEntries (caption : Caption) (color : Option String) (value : Option Figure)
    (script query : Option String) : List (String × Option Data) :=
  caption.entries ++ [("color", color.map .text), ("value", value.map Figure.toData),
    ("script", script.map .text), ("issue_query", query.map .text)]

/-- What is set for a text: its source is a value or a script. -/
def textEntries (caption : Caption) (align color value script : Option String) :
    List (String × Option Data) :=
  caption.entries ++ [("color", color.map .text), ("align", align.map .text),
    ("value", value.map .text), ("script", script.map .text)]

/-- What is set for a widget without parts. -/
def entries : Widget → List (String × Option Data)
  | .number caption value color => numberEntries caption color (some value) none none
  | .queryNumber caption search color => numberEntries caption color none none (some search.query)
  | .scriptNumber caption script color => numberEntries caption color none (some script) none
  | .string caption value align color => textEntries caption align color (some value) none
  | .scriptString caption script align color => textEntries caption align color none (some script)
  | .graph caption _ | .table caption .. | .queryTable caption .. => caption.entries
  | .unknown _ title => [("title", title.map .text)]

/-- An element of a graph, a header or a cell as an object, which has no type. -/
def partDocument (widget : Widget) : Data := .object (Options.ofEntries widget.entries)

/-- A graph of written elements. -/
def graphDocument (caption : Caption) (elements : List Data) : Data :=
  typed "graph" (caption.entries ++ [("elements", some (.list elements))])

/-- A table of written headers and rows. -/
def tableDocument (caption : Caption) (headers : Option Data) (rows : List Data) : Data :=
  typed "table" (caption.entries ++ [("headers", headers), ("elements", some (.list rows))])

/-- A table of search results with written columns. -/
def queryTableDocument (caption : Caption) (search : Search) (limit : Int) (fields : Option Data) :
    Data :=
  typed "table" (caption.entries ++ [("issue_query", some (.text search.query)),
    ("limit", some (.integer limit)), ("fields", fields)])

/-- The document of a widget. -/
def document : Widget → Data
  | .graph caption elements => graphDocument caption (elements.map partDocument)
  | .table caption headers rows =>
    tableDocument caption (some (.list (headers.map partDocument)))
      (rows.map fun row => .list (row.map partDocument))
  | .queryTable caption search limit fields =>
    queryTableDocument caption search limit (fields.map fun fields => .list (fields.map Field.document))
  | .string caption value align color => typed "string" (entries (.string caption value align color))
  | .scriptString caption script align color =>
    typed "string" (entries (.scriptString caption script align color))
  | widget => typed "number" widget.entries

end Widget

/-- A section of written widgets. -/
def Section.documentOf (part : Section) (widgets : List Data) : Data :=
  .object (Options.ofEntries [("title", part.title.map .text),
    ("description", part.description.map .text), ("widgets", some (.list widgets))])

/-- The document of a section. -/
def Section.document (part : Section) : Data := part.documentOf (part.widgets.map Widget.document)

/-- A dashboard of written sections that is to be put out in some way. -/
def Dashboard.documentOf (dashboard : Dashboard) (sections : List Data) (output : Data) : Data :=
  .object (Options.ofEntries [("title", dashboard.title.map .text),
    ("description", dashboard.description.map .text), ("setup", dashboard.setup.map .text),
    ("shutdown", dashboard.shutdown.map .text), ("sections", some (.list sections)),
    ("output", some output)])

/-- The document of a dashboard that is to be put out in some way. -/
def Dashboard.document (dashboard : Dashboard) (output : Data) : Data :=
  dashboard.documentOf (dashboard.sections.map Section.document) output

/-! ## Spellings -/

/-- The ways to write a cell: a text that has no options may stand for itself. -/
inductive SpellsCell : Widget → Data → Prop
  | object (cell : Widget) : SpellsCell cell cell.partDocument
  | bare (text : String) : SpellsCell (.string {} text none none) (.text text)

/-- The ways to write cells: a single one needs no list. -/
inductive SpellsCells : List Widget → Data → Prop
  | list {cells : List Widget} {items : List Data} (each : List.Forall₂ SpellsCell cells items) :
    SpellsCells cells (.list items)
  | single {cell : Widget} {item : Data} (spelled : SpellsCell cell item) : SpellsCells [cell] item

/-- The ways to write the headers of a table: if there are none, the option may be absent. -/
inductive SpellsHeaders : List Widget → Option Data → Prop
  | cells {headers : List Widget} {value : Data} (spelled : SpellsCells headers value) :
    SpellsHeaders headers (some value)
  | absent : SpellsHeaders [] none

/-- The ways to write a column: a property that has no title may stand for itself. -/
inductive SpellsField : Field → Data → Prop
  | object (field : Field) : SpellsField field field.document
  | bare (property : String) : SpellsField { property := some property } (.text property)

/-- The ways to write the columns of a table, if they are set. -/
inductive SpellsFields : Option (List Field) → Option Data → Prop
  | columns {fields : List Field} {items : List Data} (each : List.Forall₂ SpellsField fields items) :
    SpellsFields (some fields) (some (.list items))
  | absent : SpellsFields none none

/-- The ways to write a widget. -/
inductive SpellsWidget : Widget → Data → Prop
  | document (widget : Widget) : SpellsWidget widget widget.document
  | table {caption : Caption} {headers : List Widget} {rows : List (List Widget)}
    {value : Option Data} {items : List Data} (heads : SpellsHeaders headers value)
    (cells : List.Forall₂ SpellsCells rows items) :
    SpellsWidget (.table caption headers rows) (Widget.tableDocument caption value items)
  | queryTable {caption : Caption} {search : Search} {limit : Int} {fields : Option (List Field)}
    {value : Option Data} (columns : SpellsFields fields value) :
    SpellsWidget (.queryTable caption search limit fields)
      (Widget.queryTableDocument caption search limit value)

/-- The ways to write a section. -/
inductive SpellsSection : Section → Data → Prop
  | widgets {part : Section} {items : List Data}
    (each : List.Forall₂ SpellsWidget part.widgets items) : SpellsSection part (part.documentOf items)

/-- The ways to write a dashboard that is to be put out in some way. -/
inductive SpellsDashboard (output : Data) : Dashboard → Data → Prop
  | sections {dashboard : Dashboard} {items : List Data}
    (each : List.Forall₂ SpellsSection dashboard.sections items) :
    SpellsDashboard output dashboard (dashboard.documentOf items output)

theorem forall₂_map_document {α : Type} {Spells : α → Data → Prop} {document : α → Data}
    (each : ∀ x, Spells x (document x)) (xs : List α) : List.Forall₂ Spells xs (xs.map document) :=
  List.forall₂_map_right_iff.mpr (List.forall₂_same.mpr fun x _ => each x)

theorem spellsSection_document (part : Section) : SpellsSection part part.document :=
  .widgets (forall₂_map_document .document part.widgets)

/-- The document of a dashboard is one way to write it. -/
theorem spellsDashboard_document (dashboard : Dashboard) (output : Data) :
    SpellsDashboard output dashboard (dashboard.document output) :=
  .sections (forall₂_map_document spellsSection_document dashboard.sections)

/-! ## What can be loaded -/

/-- Whether a widget links to a page, if to anything. -/
def Caption.LinksToPage (caption : Caption) : Prop :=
  ∀ url ∈ caption.url, ∃ address, url = .page address

/-- Whether a figure may stand in a configuration: a number or a text. -/
def Figure.IsPlain : Figure → Prop
  | .number _ | .text _ => True
  | .flag _ | .other _ => False

/-- Whether a column has exactly one source. -/
def Field.HasOneSource (field : Field) : Prop := field.property.isSome ≠ field.template.isSome

namespace Widget

/-- Whether a widget may be an element of a graph. -/
def IsElement : Widget → Prop
  | .number caption value _ => caption.LinksToPage ∧ value.IsPlain
  | .queryNumber caption search _ => caption.LinksToPage ∧ search.kind = .issue
  | _ => False

/-- Whether a widget may be a cell. -/
def IsTextCell : Widget → Prop
  | .string caption .. | .scriptString caption .. => caption.LinksToPage
  | _ => False

/-- Whether a widget may stand in a configuration. -/
def IsLoadable : Widget → Prop
  | .scriptNumber caption .. => caption.LinksToPage
  | .graph caption elements => caption.LinksToPage ∧ ∀ element ∈ elements, element.IsElement
  | .table caption headers rows =>
    caption.LinksToPage ∧ (∀ header ∈ headers, header.IsTextCell) ∧
      ∀ row ∈ rows, ∀ cell ∈ row, cell.IsTextCell
  | .queryTable caption search limit fields =>
    caption.LinksToPage ∧ search.kind = .issue ∧ 0 ≤ limit ∧
      ∀ columns ∈ fields, ∀ field ∈ columns, field.HasOneSource
  | .unknown .. => False
  | widget => widget.IsElement ∨ widget.IsTextCell

end Widget

/-- Whether all widgets of a dashboard may stand in a configuration. -/
def Dashboard.IsLoadable (dashboard : Dashboard) : Prop :=
  ∀ part ∈ dashboard.sections, ∀ widget ∈ part.widgets, widget.IsLoadable

end IssueBoard
