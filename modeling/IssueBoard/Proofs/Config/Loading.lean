import IssueBoard.Proofs.Config.Acceptance
import IssueBoard.Proofs.Config.Document

/-! # Loading undoes writing

Every spelling of a dashboard loads to that dashboard. Whatever is written is read back by the options
that were written, so each reading is traced through the entries of one object.
-/

namespace IssueBoard.Config

/-! ## Written options -/

namespace Options

variable {entries : List (String × Option Data)} {name other : String}

theorem find?_cons {value : Data} {rest : Options} :
    Options.find? ((.text other, value) :: rest) name =
      if other = name then some value else rest.find? name := by
  unfold Options.find? Data.lookup?
  by_cases same : other = name
  · subst same
    simp [Atom.same, Atom.number?]
  · simp [Atom.same, Atom.number?, same]

@[simp] theorem find?_ofEntries_nil : (ofEntries []).find? name = none := rfl

@[simp] theorem find?_ofEntries_cons {value : Option Data} :
    (ofEntries ((other, value) :: entries)).find? name =
      if other = name then value.or ((ofEntries entries).find? name)
      else (ofEntries entries).find? name := by
  cases value with
  | none => simp only [Option.none_or, ite_self]; rfl
  | some value => exact find?_cons

theorem knownAmong_ofEntries {names : List String}
    (known : ∀ entry ∈ entries, entry.2.isSome = true → entry.1 ∈ names) :
    (ofEntries entries).KnownAmong names := by
  intro entry there
  obtain ⟨⟨name, value⟩, member, same⟩ := List.mem_filterMap.mp there
  obtain ⟨value, rfl, rfl⟩ := Option.map_eq_some_iff.mp same
  exact ⟨name, known (name, some value) member rfl, rfl⟩

/-! ## Reading what is written -/

variable {α : Type} {read : Data → Reading α} {options : Options}

theorem optional_of_find {value : Data} {x : α} (there : options.find? name = some value)
    (present : value.isNull = false) (done : read value = .ok x) :
    options.optional read name = .ok (some x) :=
  optional_eq_ok_iff.mpr (.inr ⟨value, x, there, present, done, rfl⟩)

theorem optional_of_absent (absent : options.find? name = none) :
    options.optional read name = .ok none :=
  optional_eq_ok_iff.mpr (.inl ⟨rfl, not_given_of_find absent⟩)

theorem text_of_find {found : Option String} (there : options.find? name = found.map .text) :
    options.text name = .ok found := by
  cases found with
  | none => exact optional_of_absent there
  | some s => exact optional_of_find there rfl rfl

end Options

variable {options : Options}

theorem readCaption_of_find {caption : Caption} (links : caption.LinksToPage)
    (title : options.find? "title" = caption.title.map .text)
    (url : options.find? "url" = caption.url.map Link.toData) :
    readCaption options = .ok caption := by
  obtain ⟨titled, linked⟩ := caption
  cases linked with
  | none =>
    refine bind_eq_ok_iff.mpr ⟨titled, Options.text_of_find title, ?_⟩
    exact bind_eq_ok_iff.mpr ⟨none, Options.text_of_find url, rfl⟩
  | some link =>
    obtain ⟨address, rfl⟩ := links link rfl
    refine bind_eq_ok_iff.mpr ⟨titled, Options.text_of_find title, ?_⟩
    exact bind_eq_ok_iff.mpr ⟨some address, Options.text_of_find url, rfl⟩

/-- Items that are spelled one by one are read one by one. -/
theorem readItems_of_spelled {α β : Type} {read : Data → Reading α} {R : α → β → Prop}
    {Spells : β → Data → Prop} {xs : List β} {items : List Data}
    (spelled : List.Forall₂ Spells xs items)
    (each : ∀ x ∈ xs, ∀ item, Spells x item → Yields (read item) (R · x)) {position : Nat} :
    Yields (readItems read position items) (List.Forall₂ R · xs) := by
  simp only [Yields, readItems_eq_ok_iff]
  induction spelled with
  | nil => exact ⟨[], .nil, .nil⟩
  | cons first _ ih =>
    rw [List.forall_mem_cons] at each
    obtain ⟨r, done, means⟩ := each.1 _ first
    obtain ⟨rs, others, rest⟩ := ih each.2
    exact ⟨r :: rs, .cons done others, .cons means rest⟩

theorem readList_of_spelled {α β : Type} {read : Data → Reading α} {R : α → β → Prop}
    {Spells : β → Data → Prop} {xs : List β} {items : List Data}
    (spelled : List.Forall₂ Spells xs items)
    (each : ∀ x ∈ xs, ∀ item, Spells x item → Yields (read item) (R · x)) :
    Yields (readList read (.list items)) (List.Forall₂ R · xs) :=
  readItems_of_spelled spelled each

/-! ## Numbers -/

theorem readScalar_toData (scalar : Scalar) : readScalar scalar.figure.toData = .ok scalar := by
  cases scalar with
  | text s => rfl
  | number n => cases n <;> rfl

theorem isNull_toData (scalar : Scalar) : scalar.figure.toData.isNull = false := by
  cases scalar with
  | text s => rfl
  | number n => cases n <;> rfl

theorem exists_scalar_of_isPlain {figure : Figure} (plain : figure.IsPlain) :
    ∃ scalar : Scalar, scalar.figure = figure := by
  cases figure with
  | number n => exact ⟨.number n, rfl⟩
  | text s => exact ⟨.text s, rfl⟩
  | flag b => cases plain
  | other value => cases plain

theorem scalar_of_find {name : String} {value : Option Scalar}
    (there : options.find? name = value.map (·.figure.toData)) :
    options.optional readScalar name = .ok value := by
  cases value with
  | none => exact Options.optional_of_absent there
  | some scalar => exact Options.optional_of_find there (isNull_toData scalar) (readScalar_toData scalar)

theorem readNumber_of_find {caption : Caption} {color script query : Option String}
    {value : Option Scalar} {source : NumberSource} (captions : readCaption options = .ok caption)
    (colors : options.find? "color" = color.map .text)
    (values : options.find? "value" = value.map (·.figure.toData))
    (scripts : options.find? "script" = script.map .text)
    (queries : options.find? "issue_query" = query.map .text)
    (known : options.KnownAmong ["type", "title", "url", "color", "value", "script", "issue_query"])
    (sources : single [("issue_query", query.map NumberSource.query), ("value", value.map .value),
      ("script", script.map .script)] = .ok source) :
    readNumber options = .ok { caption, color, source } := by
  simp only [readNumber, bind_eq_ok_iff]
  exact ⟨caption, captions, color, Options.text_of_find colors, value, scalar_of_find values,
    script, Options.text_of_find scripts, query, Options.text_of_find queries, (),
    Options.only_eq_ok_iff.mpr known, source, sources, rfl⟩

theorem readNumber_entries {caption : Caption} {color script query : Option String}
    {value : Option Scalar} {source : NumberSource} (links : caption.LinksToPage)
    (sources : single [("issue_query", query.map NumberSource.query), ("value", value.map .value),
      ("script", script.map .script)] = .ok source) :
    readNumber (.ofEntries (("type", some (.text "number")) ::
      Widget.numberEntries caption color (value.map (·.figure)) script query)) =
        .ok { caption, color, source } := by
  refine readNumber_of_find (readCaption_of_find links ?_ ?_) ?_ ?_ ?_ ?_
    (Options.knownAmong_ofEntries ?_) sources
  all_goals simp [Widget.numberEntries, Caption.entries]
  all_goals rfl

theorem readGraphElement_entries {caption : Caption} (color : Option String) {query : Option String}
    {value : Option Scalar} {source : NumberSource} (links : caption.LinksToPage)
    (sources : single [("issue_query", query.map NumberSource.query), ("value", value.map .value)] =
      .ok source) :
    readGraphElement (.object (Options.ofEntries
      (Widget.numberEntries caption color (value.map (·.figure)) none query))) =
        .ok { caption, color, source } := by
  simp only [readGraphElement, readOptions, bind_eq_ok_iff]
  refine ⟨_, rfl, caption, readCaption_of_find links ?_ ?_, color, Options.text_of_find ?_, value,
    scalar_of_find ?_, query, Options.text_of_find ?_, (), Options.only_eq_ok_iff.mpr
      (Options.knownAmong_ofEntries ?_), source, sources, rfl⟩
  all_goals simp [Widget.numberEntries, Caption.entries]
  all_goals rfl

theorem readGraphElement_partDocument {element : Widget} (loadable : element.IsElement) :
    Yields (readGraphElement element.partDocument) (·.widget = element) := by
  cases element with
  | number caption value color =>
    obtain ⟨links, plain⟩ := loadable
    obtain ⟨scalar, rfl⟩ := exists_scalar_of_isPlain plain
    have sources : single [("issue_query", Option.map NumberSource.query none),
      ("value", (some scalar).map .value)] = .ok (.value scalar) := rfl
    have read := readGraphElement_entries color links sources
    exact ⟨_, read, rfl⟩
  | queryNumber caption search color =>
    obtain ⟨query, kind⟩ := search
    obtain ⟨links, rfl⟩ := loadable
    have sources : single [("issue_query", (some query).map NumberSource.query),
      ("value", Option.map .value none)] = .ok (.query query) := rfl
    have read := readGraphElement_entries color links sources
    exact ⟨_, read, rfl⟩
  | _ => cases loadable

/-! ## Cells -/

theorem readCellOptions_of_find {isWidget : Bool} {caption : Caption}
    {align color value script : Option String} {source : TextSource}
    (captions : readCaption options = .ok caption)
    (colors : options.find? "color" = color.map .text)
    (aligns : options.find? "align" = align.map .text)
    (values : options.find? "value" = value.map .text)
    (scripts : options.find? "script" = script.map .text)
    (known : options.KnownAmong ((if isWidget then ["type"] else [])
      ++ ["title", "url", "color", "align", "value", "script"]))
    (sources : single [("value", (value.map Scalar.text).map TextSource.value),
      ("script", script.map .script)] = .ok source) :
    readCellOptions isWidget options = .ok { caption, align, color, source } := by
  have value : options.optional readScalar "value" = .ok (value.map .text) := by
    refine scalar_of_find (values.trans ?_)
    cases value <;> rfl
  simp only [readCellOptions, bind_eq_ok_iff]
  exact ⟨caption, captions, color, Options.text_of_find colors, align, Options.text_of_find aligns,
    _, value, script, Options.text_of_find scripts, (), Options.only_eq_ok_iff.mpr known, source,
    sources, rfl⟩

theorem readCellOptions_entries {caption : Caption}
    {align color value script : Option String} {source : TextSource} (links : caption.LinksToPage)
    (sources : single [("value", (value.map Scalar.text).map TextSource.value),
      ("script", script.map .script)] = .ok source) :
    readCellOptions false (.ofEntries (Widget.textEntries caption align color value script)) =
        .ok { caption, align, color, source } ∧
    readCellOptions true (.ofEntries (("type", some (.text "string")) ::
        Widget.textEntries caption align color value script)) =
        .ok { caption, align, color, source } := by
  constructor
  all_goals
    refine readCellOptions_of_find (readCaption_of_find links ?_ ?_) ?_ ?_ ?_ ?_
      (Options.knownAmong_ofEntries ?_) sources
    all_goals simp [Widget.textEntries, Caption.entries]

theorem readCellOptions_entriesOf {cell : Widget} (loadable : cell.IsTextCell) :
    ∃ own : CellOptions, own.widget = .ok cell ∧
      readCellOptions false (.ofEntries cell.entries) = .ok own ∧
      readCellOptions true (.ofEntries (("type", some (.text "string")) :: cell.entries)) = .ok own := by
  cases cell with
  | string caption value align color =>
    have sources : single [("value", ((some value).map Scalar.text).map TextSource.value),
      ("script", Option.map .script none)] = .ok (.value (.text value)) := rfl
    exact ⟨_, rfl, readCellOptions_entries loadable sources⟩
  | scriptString caption script align color =>
    have sources : single [("value", (Option.map Scalar.text none).map TextSource.value),
      ("script", (some script).map .script)] = .ok (.script script) := rfl
    exact ⟨_, rfl, readCellOptions_entries loadable sources⟩
  | _ => cases loadable

theorem readCell_of_spells {cell : Widget} {item : Data} (loadable : cell.IsTextCell)
    (spelled : SpellsCell cell item) : Yields (readCell item) (·.widget = .ok cell) := by
  cases spelled with
  | object =>
    obtain ⟨own, built, read, -⟩ := readCellOptions_entriesOf loadable
    exact ⟨own, mapError_eq_ok_iff.mpr read, built⟩
  | bare text => exact ⟨_, rfl, rfl⟩

theorem items?_of_spells {cell : Widget} {item : Data} (spelled : SpellsCell cell item) :
    item.items? = none := by
  cases spelled <;> rfl

theorem isNull_of_spells {cells : List Widget} {value : Data} (spelled : SpellsCells cells value) :
    value.isNull = false := by
  rcases spelled with _ | ⟨_ | _⟩ <;> rfl

theorem readCells_of_spells {cells : List Widget} {value : Data}
    (loadable : ∀ cell ∈ cells, cell.IsTextCell) (spelled : SpellsCells cells value) :
    Yields (readCells value) (·.mapM CellOptions.widget = .ok cells) := by
  simp only [mapM_eq_ok_iff]
  cases spelled with
  | list each =>
    refine yields_within_iff.mpr (readItems_of_spelled each fun cell member item spelled => ?_)
    exact readCell_of_spells (loadable cell member) spelled
  | single spelled =>
    obtain ⟨own, read, built⟩ := readCell_of_spells (loadable _ (List.mem_singleton_self _)) spelled
    refine ⟨[own], ?_, .cons built .nil⟩
    simp only [readCells, items?_of_spells spelled, read]

/-! ## Tables -/

theorem readField_of_spells {field : Field} {item : Data} (loadable : field.HasOneSource)
    (spelled : SpellsField field item) : readField item = .ok field := by
  cases spelled with
  | bare property => rfl
  | object =>
    obtain ⟨title, property, template⟩ := field
    have read : readFieldOptions (Field.document { title, property, template }) =
        .ok { title, property, template } := by
      simp only [readFieldOptions, readOptions, bind_eq_ok_iff]
      refine ⟨_, rfl, title, Options.text_of_find ?_, property, Options.text_of_find ?_, template,
        Options.text_of_find ?_, (), Options.only_eq_ok_iff.mpr (Options.knownAmong_ofEntries ?_), ?_⟩
      case refine_5 =>
        cases property with
        | none =>
          cases template with
          | none => exact absurd rfl loadable
          | some template => rfl
        | some property =>
          cases template with
          | none => rfl
          | some template => exact absurd rfl loadable
      all_goals simp
    exact within_eq_ok_iff.mpr read

theorem readHeaders_of_spells {headers : List Widget} {value : Option Data}
    (loadable : ∀ header ∈ headers, header.IsTextCell) (spelled : SpellsHeaders headers value)
    (there : options.find? "headers" = value) :
    Yields (options.optional readCells "headers")
      (fun found => (found.getD []).mapM CellOptions.widget = .ok headers) := by
  cases spelled with
  | absent => exact ⟨none, Options.optional_of_absent there, rfl⟩
  | cells spelled =>
    obtain ⟨own, read, built⟩ := readCells_of_spells loadable spelled
    have present := isNull_of_spells spelled
    exact ⟨some own, Options.optional_of_find there present read, built⟩

theorem readWidget_typed {type : String} {entries : List (String × Option Data)}
    {reading : Reading WidgetOptions} {isGood : WidgetOptions → Prop}
    (known : widgetOptions? type (.ofEntries (("type", some (.text type)) :: entries)) = some reading)
    (done : Yields reading isGood) : Yields (readWidget (Widget.typed type entries)) isGood := by
  obtain ⟨read, done, good⟩ := done
  refine ⟨read, readWidget_eq_ok_iff.mpr ⟨_, type, reading, rfl, ?_, known, done⟩, good⟩
  simp

theorem readWidget_tableDocument {caption : Caption} {headers : List Widget}
    {rows : List (List Widget)} {value : Option Data} {items : List Data}
    (loadable : (Widget.table caption headers rows).IsLoadable) (heads : SpellsHeaders headers value)
    (cells : List.Forall₂ SpellsCells rows items) :
    Yields (readWidget (Widget.tableDocument caption value items))
      (·.widget = .ok (.table caption headers rows)) := by
  obtain ⟨links, isHeader, isCell⟩ := loadable
  refine readWidget_typed rfl ?_
  have there : Options.find? (.ofEntries (("type", some (.text "table")) :: (caption.entries ++
      [("headers", value), ("elements", some (.list items))]))) "headers" = value := by
    simp [Caption.entries]
  obtain ⟨found, readHeads, builtHeads⟩ := readHeaders_of_spells isHeader heads there
  obtain ⟨own, readRows, means⟩ := readList_of_spelled cells fun row member item spelled =>
    readCells_of_spells (isCell row member) spelled
  refine ⟨.table caption (found.getD []) own, ?_, ?_⟩
  · simp only [readTable, bind_eq_ok_iff]
    refine ⟨caption, readCaption_of_find links ?_ ?_, none, Options.text_of_find ?_, none,
      Options.optional_of_absent ?_, none, Options.optional_of_absent ?_, found, readHeads, some own,
      Options.optional_of_find ?_ rfl readRows, (), Options.only_eq_ok_iff.mpr
        (Options.knownAmong_ofEntries ?_), .inr own, rfl, rfl⟩
    all_goals simp [Caption.entries]
  · exact bind_eq_ok_iff.mpr ⟨headers, builtHeads, bind_eq_ok_iff.mpr ⟨rows, mapM_eq_ok_iff.mpr means, rfl⟩⟩

theorem readFields_of_spells {fields : Option (List Field)} {value : Option Data}
    (loadable : ∀ columns ∈ fields, ∀ field ∈ columns, field.HasOneSource)
    (spelled : SpellsFields fields value) (there : options.find? "fields" = value) :
    options.optional (readList readField) "fields" = .ok fields := by
  cases spelled with
  | absent => exact Options.optional_of_absent there
  | @columns fields items each =>
    obtain ⟨found, read, same⟩ := readList_of_spelled (R := Eq) each fun field member item spells =>
      ⟨field, readField_of_spells (loadable fields rfl field member) spells, rfl⟩
    rw [List.forall₂_eq_eq_eq] at same
    exact Options.optional_of_find there rfl (same ▸ read)

theorem readWidget_queryTableDocument {caption : Caption} {search : Search} {limit : Int}
    {fields : Option (List Field)} {value : Option Data}
    (loadable : (Widget.queryTable caption search limit fields).IsLoadable)
    (columns : SpellsFields fields value) :
    Yields (readWidget (Widget.queryTableDocument caption search limit value))
      (·.widget = .ok (.queryTable caption search limit fields)) := by
  obtain ⟨query, kind⟩ := search
  obtain ⟨links, rfl, positive, oneSource⟩ := loadable
  refine readWidget_typed rfl ⟨.queryTable caption query (some limit) fields, ?_, rfl⟩
  have counted : readCount (.integer limit) = .ok limit :=
    bind_eq_ok_iff.mpr ⟨limit, rfl, if_neg (by omega)⟩
  simp only [readTable, bind_eq_ok_iff]
  refine ⟨caption, readCaption_of_find links ?_ ?_, some query, Options.text_of_find ?_, some limit,
    Options.optional_of_find ?_ rfl counted, fields, readFields_of_spells oneSource columns ?_, none,
    Options.optional_of_absent ?_, none, Options.optional_of_absent ?_, (), Options.only_eq_ok_iff.mpr
      (Options.knownAmong_ofEntries ?_), .inl query, rfl, rfl⟩
  all_goals simp [Caption.entries]

/-! ## Widgets -/

theorem readWidget_graphDocument {caption : Caption} {elements : List Widget}
    (loadable : (Widget.graph caption elements).IsLoadable) :
    Yields (readWidget (Widget.graph caption elements).document)
      (·.widget = .ok (.graph caption elements)) := by
  obtain ⟨links, isElement⟩ := loadable
  refine readWidget_typed rfl ?_
  have spelled : List.Forall₂ (fun element item => Widget.partDocument element = item) elements
      (elements.map Widget.partDocument) :=
    forall₂_map_document (fun _ => rfl) elements
  obtain ⟨own, readElements, means⟩ := readList_of_spelled spelled fun element member item same =>
    same ▸ readGraphElement_partDocument (isElement element member)
  refine ⟨.graph caption own, ?_, ?_⟩
  · simp only [readGraph, bind_eq_ok_iff]
    refine ⟨caption, readCaption_of_find links ?_ ?_, own, Options.required_eq_ok_iff.mpr
      ⟨_, ?_, readElements⟩, (), Options.only_eq_ok_iff.mpr (Options.knownAmong_ofEntries ?_), rfl⟩
    all_goals simp [Caption.entries]
  · have same : own.map NumberOptions.widget = elements := by
      rw [← List.forall₂_eq_eq_eq, List.forall₂_map_left_iff]
      exact means
    show Except.ok (Widget.graph caption (own.map NumberOptions.widget)) = _
    rw [same]

theorem readWidget_number {caption : Caption} {color : Option String} (value : Option Scalar)
    (script query : Option String) {source : NumberSource} (links : caption.LinksToPage)
    (sources : single [("issue_query", query.map NumberSource.query), ("value", value.map .value),
      ("script", script.map .script)] = .ok source) :
    Yields (readWidget (Widget.typed "number"
      (Widget.numberEntries caption color (value.map (·.figure)) script query)))
        (·.widget = .ok (NumberOptions.widget { caption, color, source })) :=
  readWidget_typed rfl ⟨_, map_eq_ok_iff.mpr ⟨_, readNumber_entries links sources, rfl⟩, rfl⟩

theorem readWidget_string {widget : Widget} (loadable : widget.IsTextCell) :
    Yields (readWidget (Widget.typed "string" widget.entries)) (·.widget = .ok widget) := by
  obtain ⟨own, built, -, read⟩ := readCellOptions_entriesOf loadable
  exact readWidget_typed rfl ⟨_, map_eq_ok_iff.mpr ⟨own, read, rfl⟩, built⟩

theorem readWidget_document {widget : Widget} (loadable : widget.IsLoadable) :
    Yields (readWidget widget.document) (·.widget = .ok widget) := by
  cases widget with
  | number caption value color =>
    obtain ⟨links, plain⟩ := loadable.resolve_right id
    obtain ⟨scalar, rfl⟩ := exists_scalar_of_isPlain plain
    exact readWidget_number (some scalar) none none links rfl
  | queryNumber caption search color =>
    obtain ⟨query, kind⟩ := search
    obtain ⟨links, rfl⟩ := loadable.resolve_right id
    exact readWidget_number none none (some query) links rfl
  | scriptNumber caption script color => exact readWidget_number none (some script) none loadable rfl
  | string caption value align color => exact readWidget_string (loadable.resolve_left id)
  | scriptString caption script align color => exact readWidget_string (loadable.resolve_left id)
  | graph caption elements => exact readWidget_graphDocument loadable
  | table caption headers rows =>
    refine readWidget_tableDocument loadable (.cells (.list ?_)) ?_
    · exact forall₂_map_document .object headers
    · exact forall₂_map_document (fun row => .list (forall₂_map_document .object row)) rows
  | queryTable caption search limit fields =>
    refine readWidget_queryTableDocument loadable ?_
    cases fields with
    | none => exact .absent
    | some fields => exact .columns (forall₂_map_document .object fields)
  | unknown kind title => cases loadable

theorem readWidget_of_spells {widget : Widget} {item : Data} (loadable : widget.IsLoadable)
    (spelled : SpellsWidget widget item) : Yields (readWidget item) (·.widget = .ok widget) := by
  cases spelled with
  | document => exact readWidget_document loadable
  | table heads cells => exact readWidget_tableDocument loadable heads cells
  | queryTable columns => exact readWidget_queryTableDocument loadable columns

/-! ## Dashboards -/

theorem readSection_of_spells {part : Section} {item : Data}
    (loadable : ∀ widget ∈ part.widgets, widget.IsLoadable) (spelled : SpellsSection part item) :
    Yields (readSection item) (·.build = .ok part) := by
  obtain ⟨each⟩ := spelled
  obtain ⟨own, read, means⟩ := readList_of_spelled each fun widget member item spells =>
    readWidget_of_spells (loadable widget member) spells
  refine ⟨{ title := part.title, description := part.description, widgets := own }, ?_, ?_⟩
  · simp only [readSection, Section.documentOf, readOptions, bind_eq_ok_iff]
    refine ⟨_, rfl, part.title, Options.text_of_find ?_, part.description, Options.text_of_find ?_, own,
      Options.items_eq_ok_iff.mpr (.inr ⟨_, ?_, read⟩), (), Options.only_eq_ok_iff.mpr
        (Options.knownAmong_ofEntries ?_), rfl⟩
    all_goals simp
  · exact bind_eq_ok_iff.mpr ⟨part.widgets, mapM_eq_ok_iff.mpr means, rfl⟩

theorem ofData_of_spells {dashboard : Dashboard} {output : Data} {settings : Output} {data : Data}
    (loadable : dashboard.IsLoadable) (valid : readOutput output = .ok settings)
    (spelled : SpellsDashboard output dashboard data) :
    Configuration.ofData data = .ok { dashboard, output := settings } := by
  obtain ⟨each⟩ := spelled
  obtain ⟨own, read, means⟩ := readList_of_spelled each fun part member item spells =>
    readSection_of_spells (loadable part member) spells
  refine bind_eq_ok_iff.mpr ⟨{
    title := dashboard.title, description := dashboard.description, setup := dashboard.setup
    shutdown := dashboard.shutdown, output := settings, sections := own },
    mapError_eq_ok_iff.mpr ?_, mapError_eq_ok_iff.mpr ?_⟩
  · simp only [readBoard, bind_eq_ok_iff]
    refine ⟨_, Options.text_of_find ?_, _, Options.text_of_find ?_, _, Options.text_of_find ?_, _,
      Options.text_of_find ?_, settings, Options.required_eq_ok_iff.mpr ⟨output, ?_, valid⟩, own,
      Options.items_eq_ok_iff.mpr (.inr ⟨_, ?_, read⟩), (), Options.only_eq_ok_iff.mpr
        (Options.knownAmong_ofEntries ?_), rfl⟩
    all_goals simp
  · exact bind_eq_ok_iff.mpr ⟨dashboard.sections, mapM_eq_ok_iff.mpr means, rfl⟩

/-- **Loading undoes writing.** The document of a dashboard loads to the dashboard, and so does every
other way to spell it. -/
theorem ofData_document {dashboard : Dashboard} {output : Data} {settings : Output}
    (loadable : dashboard.IsLoadable) (valid : readOutput output = .ok settings) :
    Configuration.ofData (dashboard.document output) = .ok { dashboard, output := settings } ∧
      ∀ data, SpellsDashboard output dashboard data →
        Configuration.ofData data = .ok { dashboard, output := settings } :=
  ⟨ofData_of_spells loadable valid (spellsDashboard_document dashboard output),
    fun _ spelled => ofData_of_spells loadable valid spelled⟩

/-- A dashboard of values that are easily taken for absent ones. -/
def blankDashboard : Dashboard where
  title := some ""
  sections := [
    { widgets := [] },
    { widgets := [
        .number { title := some "" } (.number (.integer 0)) none,
        .table {} [.string {} "" none none] [[.string {} "" none none], []],
        .queryTable {} { query := "" } 0 (some []),
        .queryTable {} { query := "" } 0 (some [{ property := some "" }])] }]

/-- The blank dashboard is loadable and loads from each of its spellings. -/
theorem ofData_document_blankDashboard :
    blankDashboard.IsLoadable ∧
      Configuration.ofData (blankDashboard.document (.object [(.text "format", .text "")])) =
        .ok { dashboard := blankDashboard, output := { format := "" } } ∧
      ∀ data, SpellsDashboard (.object [(.text "format", .text "")]) blankDashboard data →
        Configuration.ofData data = .ok { dashboard := blankDashboard, output := { format := "" } } := by
  have loadable : blankDashboard.IsLoadable := by
    simp [Dashboard.IsLoadable, blankDashboard, Widget.IsLoadable, Widget.IsElement,
      Widget.IsTextCell, Caption.LinksToPage, Figure.IsPlain, Field.HasOneSource]
  exact ⟨loadable, ofData_document loadable rfl⟩

/-- Of its tables the shortest spelling has no cell objects, no list of headers and no field object. -/
example :
    Configuration.ofData (.ofFields [("title", .text ""), ("output", .ofFields [("format", .text "")]),
      ("sections", .list [.object [], .ofFields [("widgets", .list [
        .ofFields [("type", .text "number"), ("title", .text ""), ("value", .integer 0)],
        .ofFields [("type", .text "table"), ("headers", .text ""), ("elements", .list [.text "", .list []])],
        .ofFields [("type", .text "table"), ("issue_query", .text ""), ("limit", .integer 0),
          ("fields", .list [])],
        .ofFields [("type", .text "table"), ("issue_query", .text ""), ("limit", .integer 0),
          ("fields", .list [.text ""])]])]])]) =
      .ok { dashboard := blankDashboard, output := { format := "" } } := rfl

end IssueBoard.Config
