import IssueBoard.Config.Schema
import IssueBoard.Proofs.Config.Document
import IssueBoard.Proofs.Config.Acceptance

/-! # What the loader can build

Whatever document a dashboard is loaded from, its widgets are of the kinds that a configuration can
describe: the elements of a graph are numbers, written down or searched for; headers and cells are
texts; searches are for issues; limits are not negative; a column has one source.
-/

namespace IssueBoard.Config

variable {α β : Type} {options : Options}

/-! ## Lists -/

theorem forall_of_readList {read : Data → Reading α} {value : Data} {xs : List α} {P : α → Prop}
    (each : ∀ item x, read item = .ok x → P x) (done : readList read value = .ok xs) : ∀ x ∈ xs, P x := by
  rw [readList] at done
  split at done
  · exact forall_of_forall₂ each (readItems_eq_ok_iff.mp done)
  · exact absurd done complain_ne_ok

theorem forall_of_items {read : Data → Reading α} {name : String} {xs : List α} {P : α → Prop}
    (each : ∀ item x, read item = .ok x → P x) (done : options.items read name = .ok xs) :
    ∀ x ∈ xs, P x := by
  rcases Options.items_eq_ok_iff.mp done with ⟨-, rfl⟩ | ⟨value, -, found⟩
  · exact List.forall_mem_nil _
  · exact forall_of_readList each found

theorem forall_of_optional {read : Data → Reading α} {name : String} {found : Option α} {P : α → Prop}
    (each : ∀ value x, read value = .ok x → P x) (done : options.optional read name = .ok found) :
    ∀ x ∈ found, P x := by
  rcases Options.optional_eq_ok_iff.mp done with ⟨rfl, -⟩ | ⟨value, x, -, -, given, rfl⟩
  · exact fun _ never => nomatch never
  · intro y member
    cases member
    exact each value x given

/-- What is chosen between two options comes from one of them. -/
theorem exists_of_single_two {γ : Type} {first : Option β} {second : Option γ} {f : β → α} {g : γ → α}
    {name other : String} {x : α}
    (chosen : single [(name, first.map f), (other, second.map g)] = .ok x) :
    (∃ y, first = some y ∧ f y = x) ∨ ∃ z, second = some z ∧ g z = x := by
  obtain ⟨_, member⟩ := mem_of_single chosen
  simp only [List.mem_cons, Prod.mk.injEq, List.not_mem_nil, or_false] at member
  rcases member with ⟨-, same⟩ | ⟨-, same⟩
  · exact .inl (Option.map_eq_some_iff.mp same.symm)
  · exact .inr (Option.map_eq_some_iff.mp same.symm)

/-! ## Options that were read -/

/-- Whether the options of a number may stand in a graph. -/
def NumberOptions.IsElement (options : NumberOptions) : Prop :=
  options.caption.LinksToPage ∧ ∀ script, options.source ≠ .script script

/-- Whether the options of a widget are such that it may stand in a dashboard. -/
def WidgetOptions.IsTyped : WidgetOptions → Prop
  | .number options => options.caption.LinksToPage
  | .string options => options.caption.LinksToPage
  | .graph caption elements => caption.LinksToPage ∧ ∀ element ∈ elements, element.IsElement
  | .queryTable caption _ limit fields => caption.LinksToPage ∧ (∀ count ∈ limit, 0 ≤ count) ∧
      ∀ columns ∈ fields, ∀ field ∈ columns, field.HasOneSource
  | .table caption headers rows => caption.LinksToPage ∧
      (∀ header ∈ headers, header.caption.LinksToPage) ∧
        ∀ row ∈ rows, ∀ cell ∈ row, cell.caption.LinksToPage

theorem linksToPage_of_readCaption {caption : Caption} (done : readCaption options = .ok caption) :
    caption.LinksToPage := by
  simp only [readCaption, bind_eq_ok_iff, pure_eq_ok_iff] at done
  obtain ⟨title, -, url, -, rfl⟩ := done
  intro link member
  obtain ⟨address, -, rfl⟩ := Option.map_eq_some_iff.mp member
  exact ⟨address, rfl⟩

theorem linksToPage_of_readNumber {read : NumberOptions} (done : readNumber options = .ok read) :
    read.caption.LinksToPage := by
  simp only [readNumber, bind_eq_ok_iff, pure_eq_ok_iff] at done
  obtain ⟨caption, captions, _, -, _, -, _, -, _, -, _, -, _, -, rfl⟩ := done
  exact linksToPage_of_readCaption captions

theorem isElement_of_readGraphElement {element : Data} {read : NumberOptions}
    (done : readGraphElement element = .ok read) : read.IsElement := by
  simp only [readGraphElement, bind_eq_ok_iff, pure_eq_ok_iff] at done
  obtain ⟨_, -, caption, captions, _, -, value, -, query, -, _, -, source, chosen, rfl⟩ := done
  refine ⟨linksToPage_of_readCaption captions, ?_⟩
  rintro script rfl
  rcases exists_of_single_two chosen with ⟨_, -, never⟩ | ⟨_, -, never⟩
  · cases never
  · cases never

theorem linksToPage_of_readCellOptions {isWidget : Bool} {read : CellOptions}
    (done : readCellOptions isWidget options = .ok read) : read.caption.LinksToPage := by
  simp only [readCellOptions, bind_eq_ok_iff, pure_eq_ok_iff] at done
  obtain ⟨caption, captions, _, -, _, -, _, -, _, -, _, -, _, -, rfl⟩ := done
  exact linksToPage_of_readCaption captions

theorem linksToPage_of_readCell {cell : Data} {read : CellOptions} (done : readCell cell = .ok read) :
    read.caption.LinksToPage := by
  unfold readCell at done
  split at done
  · exact linksToPage_of_readCellOptions (mapError_eq_ok_iff.mp done)
  · obtain ⟨value, -, rfl⟩ := map_eq_ok_iff.mp done
    exact fun _ never => nomatch never

theorem linksToPage_of_readCells {value : Data} {cells : List CellOptions}
    (done : readCells value = .ok cells) : ∀ cell ∈ cells, cell.caption.LinksToPage := by
  rw [readCells] at done
  split at done
  · have items := readItems_eq_ok_iff.mp (within_eq_ok_iff.mp done)
    exact forall_of_forall₂ (fun _ _ => linksToPage_of_readCell) items
  · split at done
    · next cell read =>
      cases done
      rw [List.forall_mem_singleton]
      exact linksToPage_of_readCell read
    · exact absurd (within_eq_ok_iff.mp done) complain_ne_ok

theorem hasOneSource_of_readField {field : Data} {read : Field} (done : readField field = .ok read) :
    read.HasOneSource := by
  rw [readField] at done
  split at done
  · cases done
    exact Bool.false_ne_true.symm
  · simp only [within_eq_ok_iff, readFieldOptions, bind_eq_ok_iff] at done
    obtain ⟨_, -, title, -, property, -, template, -, _, -, chosen⟩ := done
    rcases exists_of_single_two chosen with ⟨_, -, rfl⟩ | ⟨_, -, rfl⟩
    · exact Bool.false_ne_true.symm
    · exact Bool.false_ne_true

theorem nonnegative_of_readCount {value : Data} {count : Int} (done : readCount value = .ok count) :
    0 ≤ count := by
  simp only [readCount, bind_eq_ok_iff] at done
  obtain ⟨n, -, done⟩ := done
  split at done
  · exact absurd done complain_ne_ok
  · next nonnegative =>
    cases done
    exact Int.not_lt.mp nonnegative

theorem isTyped_of_readGraph {read : WidgetOptions} (done : readGraph options = .ok read) :
    read.IsTyped := by
  simp only [readGraph, bind_eq_ok_iff, pure_eq_ok_iff] at done
  obtain ⟨caption, captions, elements, listed, _, -, rfl⟩ := done
  obtain ⟨value, -, listed⟩ := Options.required_eq_ok_iff.mp listed
  exact ⟨linksToPage_of_readCaption captions,
    forall_of_readList (fun _ _ => isElement_of_readGraphElement) listed⟩

theorem isTyped_of_readTable {read : WidgetOptions} (done : readTable options = .ok read) :
    read.IsTyped := by
  simp only [readTable, bind_eq_ok_iff] at done
  obtain ⟨caption, captions, query, -, limit, limits, fields, columns, headers, heads, rows, elements,
    _, -, source, chosen, done⟩ := done
  have links := linksToPage_of_readCaption captions
  have head := forall_of_optional (fun _ _ => linksToPage_of_readCells) heads
  split at done
  · split at done
    · exact absurd done complain_ne_ok
    · cases done
      refine ⟨links, forall_of_optional (fun _ _ => nonnegative_of_readCount) limits, ?_⟩
      exact forall_of_optional (fun _ _ => forall_of_readList fun _ _ => hasOneSource_of_readField) columns
  · next listed =>
    split at done
    · exact absurd done complain_ne_ok
    · split at done
      · exact absurd done complain_ne_ok
      · cases done
        rcases exists_of_single_two chosen with ⟨_, -, never⟩ | ⟨_, rfl, same⟩
        · cases never
        · cases same
          refine ⟨links, ?_, ?_⟩
          · cases headers with
            | none => exact List.forall_mem_nil _
            | some headers => exact head headers rfl
          · exact forall_of_optional (fun _ _ => forall_of_readList fun _ _ => linksToPage_of_readCells)
              elements listed rfl

theorem isTyped_of_readWidget {widget : Data} {read : WidgetOptions} (done : readWidget widget = .ok read) :
    read.IsTyped := by
  obtain ⟨options, type, reading, rfl, -, known, done⟩ := readWidget_eq_ok_iff.mp done
  unfold widgetOptions? at known
  split at known
  · cases known
    obtain ⟨number, read, rfl⟩ := map_eq_ok_iff.mp done
    exact linksToPage_of_readNumber read
  split at known
  · cases known
    obtain ⟨cell, read, rfl⟩ := map_eq_ok_iff.mp done
    exact linksToPage_of_readCellOptions read
  split at known
  · cases known
    exact isTyped_of_readGraph done
  split at known
  · cases known
    exact isTyped_of_readTable done
  · cases known

theorem isTyped_of_readBoard {board : BoardOptions} (done : readBoard options = .ok board) :
    ∀ part ∈ board.sections, ∀ widget ∈ part.widgets, widget.IsTyped := by
  simp only [readBoard, bind_eq_ok_iff, pure_eq_ok_iff] at done
  obtain ⟨_, -, _, -, _, -, _, -, _, -, sections, listed, _, -, rfl⟩ := done
  refine forall_of_items (fun part read done => ?_) listed
  simp only [readSection, bind_eq_ok_iff, pure_eq_ok_iff] at done
  obtain ⟨_, -, _, -, _, -, widgets, listed, _, -, rfl⟩ := done
  exact forall_of_items (fun _ _ => isTyped_of_readWidget) listed

/-! ## What is built from them -/

theorem isElement_widget {options : NumberOptions} (typed : options.IsElement) :
    options.widget.IsElement := by
  obtain ⟨links, noScript⟩ := typed
  rw [NumberOptions.widget]
  split
  · next value _ =>
    refine ⟨links, ?_⟩
    cases value <;> trivial
  · exact ⟨links, rfl⟩
  · next script same => exact absurd same (noScript script)

theorem isLoadable_numberWidget {options : NumberOptions} (links : options.caption.LinksToPage) :
    options.widget.IsLoadable := by
  rw [NumberOptions.widget]
  split
  · next value _ =>
    refine .inl ⟨links, ?_⟩
    cases value <;> trivial
  · exact .inl ⟨links, rfl⟩
  · exact links

theorem isTextCell_of_widget {options : CellOptions} {cell : Widget}
    (links : options.caption.LinksToPage) (built : options.widget = .ok cell) : cell.IsTextCell := by
  rw [CellOptions.widget] at built
  split at built
  · simp only [bind_eq_ok_iff, pure_eq_ok_iff] at built
    obtain ⟨text, -, rfl⟩ := built
    exact links
  · cases built
    exact links

theorem isLoadable_of_isTextCell {cell : Widget} (text : cell.IsTextCell) : cell.IsLoadable := by
  cases cell with
  | string | scriptString => exact .inr text
  | _ => cases text

theorem isLoadable_of_widget {options : WidgetOptions} {widget : Widget} (typed : options.IsTyped)
    (built : options.widget = .ok widget) : widget.IsLoadable := by
  cases options with
  | number options =>
    cases built
    exact isLoadable_numberWidget typed
  | string options => exact isLoadable_of_isTextCell (isTextCell_of_widget typed built)
  | graph caption elements =>
    cases built
    refine ⟨typed.1, List.forall_mem_map.mpr fun element member => ?_⟩
    exact isElement_widget (typed.2 element member)
  | queryTable caption query limit fields =>
    cases built
    obtain ⟨links, limits, columns⟩ := typed
    refine ⟨links, rfl, ?_, columns⟩
    cases limit with
    | none => decide
    | some limit => exact limits limit rfl
  | table caption headers rows =>
    obtain ⟨links, heads, cells⟩ := typed
    simp only [WidgetOptions.widget, bind_eq_ok_iff, pure_eq_ok_iff] at built
    obtain ⟨headers', builtHeaders, rows', builtRows, rfl⟩ := built
    have row (row : List CellOptions) (member : row ∈ rows) (built : List Widget)
        (done : row.mapM CellOptions.widget = .ok built) : ∀ cell ∈ built, cell.IsTextCell :=
      forall_of_mapM (fun cell own _ => isTextCell_of_widget (cells row member cell own)) done
    refine ⟨links, ?_, forall_of_mapM row builtRows⟩
    exact forall_of_mapM (fun header own _ => isTextCell_of_widget (heads header own)) builtHeaders

/-- **What the loader builds can be loaded**: of whatever document, the dashboard has no widget but those
that a configuration can describe. -/
theorem isLoadable_of_ofData {data : Data} {configuration : Configuration}
    (loaded : Configuration.ofData data = .ok configuration) : configuration.dashboard.IsLoadable := by
  cases data with
  | object options =>
    simp only [Configuration.ofData, bind_eq_ok_iff, mapError_eq_ok_iff] at loaded
    obtain ⟨board, read, built⟩ := loaded
    have typed := isTyped_of_readBoard read
    simp only [BoardOptions.build, bind_eq_ok_iff, pure_eq_ok_iff] at built
    obtain ⟨sections, sectionsBuilt, rfl⟩ := built
    refine forall_of_mapM (fun part member built partBuilt => ?_) sectionsBuilt
    simp only [SectionOptions.build, bind_eq_ok_iff, pure_eq_ok_iff] at partBuilt
    obtain ⟨widgets, widgetsBuilt, rfl⟩ := partBuilt
    exact forall_of_mapM (fun widget own _ => isLoadable_of_widget (typed part member widget own))
      widgetsBuilt
  | _ => cases loaded

end IssueBoard.Config
