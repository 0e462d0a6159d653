import IssueBoard.Config.Schema
import IssueBoard.Proofs.Config.Reading

/-! # The schema that configurations conform to

The schema says which data are configurations: which options an object may have, what may stand in
them, and which of them exclude each other.

What may stand as the value of a string widget or of a cell is a parameter of the schema. All numbers
may; but a dashboard is only built if the number has a text, and an integer with too many digits has
none.
-/

namespace IssueBoard.Config

/-! ## Values -/

/-- A text, or the bytes that encode one. -/
def IsText : Data → Prop
  | .text _ => True
  | .atom (.bytes content) => (String.fromUTF8? ⟨content.toArray⟩).isSome
  | _ => False

/-- A text or a number. Truth values count as numbers. -/
def IsScalar : Data → Prop
  | .integer _ | .real _ | .flag _ => True
  | value => IsText value

/-- A scalar that has a text: if it is an integer, it does not have too many digits. -/
def IsShownScalar (value : Data) : Prop :=
  IsScalar value ∧ ∀ n, value = .integer n → n.natAbs < Nat.pow 10 integerDigitLimit

/-- A number that is not negative, as lenient reading takes it. -/
def IsCount (value : Data) : Prop := ∃ n, readInteger value = .ok n ∧ 0 ≤ n

/-- A list or a set whose items are all of one kind. -/
def IsListOf (isItem : Data → Prop) (value : Data) : Prop :=
  ∃ items, value.items? = some items ∧ ∀ item ∈ items, isItem item

namespace Options

/-- Whether an option is absent, null, or of some kind. -/
def Allows (options : Options) (name : String) (isValue : Data → Prop) : Prop :=
  ∀ value, options.find? name = some value → value.isNull = false → isValue value

/-- Whether an option is absent or of some kind. -/
def AllowsNonNull (options : Options) (name : String) (isValue : Data → Prop) : Prop :=
  ∀ value, options.find? name = some value → isValue value

/-- Whether an option is there and of some kind. -/
def Requires (options : Options) (name : String) (isValue : Data → Prop) : Prop :=
  ∃ value, options.find? name = some value ∧ isValue value

end Options

/-! ## The schema -/

section Schema

/-- The options that all widgets share. -/
@[mk_iff]
structure HasCaption (options : Options) : Prop where
  title : options.Allows "title" IsText
  url : options.Allows "url" IsText

/-- The options of a number widget. -/
@[mk_iff]
structure IsNumber (options : Options) : Prop where
  caption : HasCaption options
  color : options.Allows "color" IsText
  value : options.Allows "value" IsScalar
  script : options.Allows "script" IsText
  query : options.Allows "issue_query" IsText
  known : options.KnownAmong ["type", "title", "url", "color", "value", "script", "issue_query"]
  source : options.GivesOne ["issue_query", "value", "script"]

/-- The options of an element of a graph. -/
@[mk_iff]
structure IsGraphElement (options : Options) : Prop where
  caption : HasCaption options
  color : options.Allows "color" IsText
  value : options.Allows "value" IsScalar
  query : options.Allows "issue_query" IsText
  known : options.KnownAmong ["title", "url", "color", "value", "issue_query"]
  source : options.GivesOne ["issue_query", "value"]

/-- The options of a graph. -/
@[mk_iff]
structure IsGraph (options : Options) : Prop where
  caption : HasCaption options
  elements : options.Requires "elements"
    (IsListOf fun element => ∃ own, element = .object own ∧ IsGraphElement own)
  known : options.KnownAmong ["type", "title", "url", "elements"]

/-- The options of a column. -/
@[mk_iff]
structure IsFieldOptions (options : Options) : Prop where
  title : options.Allows "title" IsText
  property : options.Allows "property" IsText
  template : options.Allows "value" IsText
  known : options.KnownAmong ["title", "property", "value"]
  source : options.GivesOne ["property", "value"]

/-- A column: the name of a property, or options. -/
def IsField (field : Data) : Prop :=
  IsText field ∨ ∃ options, field = .object options ∧ IsFieldOptions options

variable (isValue : Data → Prop)

/-- The options of a string widget, or of a cell, which has no type. -/
@[mk_iff]
structure IsString (isWidget : Bool) (options : Options) : Prop where
  caption : HasCaption options
  color : options.Allows "color" IsText
  align : options.Allows "align" IsText
  value : options.Allows "value" isValue
  script : options.Allows "script" IsText
  known : options.KnownAmong ((if isWidget then ["type"] else [])
    ++ ["title", "url", "color", "align", "value", "script"])
  source : options.GivesOne ["value", "script"]

/-- A cell: options, or a bare value. -/
def IsCell : Data → Prop
  | .object options => IsString isValue false options
  | value => isValue value

/-- Cells: a list of them, or a single one. -/
def IsCells (value : Data) : Prop :=
  match value.items? with
  | some cells => ∀ cell ∈ cells, IsCell isValue cell
  | none => IsCell isValue value

/-- The options of a table: those of search results stand apart from those of configured rows. -/
@[mk_iff]
structure IsTable (options : Options) : Prop where
  caption : HasCaption options
  query : options.Allows "issue_query" IsText
  limit : options.Allows "limit" IsCount
  fields : options.Allows "fields" (IsListOf IsField)
  headers : options.Allows "headers" (IsCells isValue)
  elements : options.Allows "elements" (IsListOf (IsCells isValue))
  known : options.KnownAmong
    ["type", "title", "url", "issue_query", "limit", "fields", "headers", "elements"]
  source : options.GivesOne ["issue_query", "elements"]
  besideRows : options.Given "headers" → options.Given "elements"
  besideQuery : options.Given "limit" ∨ options.Given "fields" → options.Given "issue_query"

/-- A widget: options of its type. -/
inductive IsWidget : Data → Prop
  | number {options : Options} (type : options.find? "type" = some (.text "number"))
    (valid : IsNumber options) : IsWidget (.object options)
  | string {options : Options} (type : options.find? "type" = some (.text "string"))
    (valid : IsString isValue true options) : IsWidget (.object options)
  | graph {options : Options} (type : options.find? "type" = some (.text "graph"))
    (valid : IsGraph options) : IsWidget (.object options)
  | table {options : Options} (type : options.find? "type" = some (.text "table"))
    (valid : IsTable isValue options) : IsWidget (.object options)

/-- The options of a section. -/
@[mk_iff]
structure IsSection (options : Options) : Prop where
  title : options.Allows "title" IsText
  description : options.Allows "description" IsText
  widgets : options.AllowsNonNull "widgets" (IsListOf (IsWidget isValue))
  known : options.KnownAmong ["title", "description", "widgets"]

/-- How a dashboard is to be written: formats may have options of their own. -/
@[mk_iff]
structure IsOutput (options : Options) : Prop where
  format : options.Requires "format" IsText
  filename : options.Allows "filename" IsText
  named : ∀ entry ∈ options, ∃ name, entry.1 = .text name

/-- The options of a whole configuration. -/
@[mk_iff]
structure IsBoard (options : Options) : Prop where
  title : options.Allows "title" IsText
  description : options.Allows "description" IsText
  setup : options.Allows "setup" IsText
  shutdown : options.Allows "shutdown" IsText
  output : options.Requires "output" fun output => ∃ own, output = .object own ∧ IsOutput own
  sections : options.AllowsNonNull "sections"
    (IsListOf fun part => ∃ own, part = .object own ∧ IsSection isValue own)
  known : options.KnownAmong ["title", "description", "setup", "shutdown", "output", "sections"]

/-- Whether data conform to the schema of configurations. -/
def Conforms (data : Data) : Prop := ∃ options, data = .object options ∧ IsBoard isValue options

end Schema

end IssueBoard.Config
