import Mathlib.Data.List.SplitBy
import IssueBoard.Proofs.Render.Totality

/-! # Number widgets are shown in groups

Both renderers carry a flag along the widgets of a section that says whether a group of numbers is open.
What comes out knows nothing of the flag: the widgets fall into runs, a run of numbers is shown as a
group, and the runs are shown one after another.
-/

namespace IssueBoard

/-! ## Runs of widgets -/

namespace Widget

/-- Whether all of these are number widgets. -/
def areNumbers (widgets : List Widget) : Bool := widgets.all isNumber

theorem areNumbers_iff {widgets : List Widget} :
    areNumbers widgets = true ↔ ∀ widget ∈ widgets, widget.isNumber = true := List.all_eq_true

@[simp] theorem areNumbers_singleton (widget : Widget) : areNumbers [widget] = widget.isNumber :=
  Bool.and_true _

/-- What stands together: some numbers, or a widget of another kind by itself. -/
inductive IsRun : List Widget → Prop
  | numbers {run : List Widget} (filled : run ≠ []) (each : areNumbers run = true) : IsRun run
  | single {widget : Widget} (other : widget.isNumber = false) : IsRun [widget]

/-- Runs that are as long as they can be: no two runs of numbers follow each other. -/
structure AreRuns (runs : List (List Widget)) : Prop where
  each : ∀ run ∈ runs, IsRun run
  apart : runs.IsChain fun run next => ¬(areNumbers run = true ∧ areNumbers next = true)

/-- The runs that widgets fall into. -/
def runs (widgets : List Widget) : List (List Widget) :=
  widgets.splitBy fun widget next => widget.isNumber && next.isNumber

theorem areNumbers_of_isChain {first second : Widget} {rest : List Widget}
    (chain : (first :: second :: rest).IsChain fun widget next => widget.isNumber && next.isNumber) :
    areNumbers (first :: second :: rest) = true := by
  induction rest generalizing first second with
  | nil =>
    obtain ⟨both, -⟩ := List.isChain_cons_cons.mp chain
    simpa [areNumbers] using both
  | cons third rest ih =>
    obtain ⟨both, chain⟩ := List.isChain_cons_cons.mp chain
    rw [Bool.and_eq_true] at both
    rw [areNumbers, List.all_cons, both.1, Bool.true_and]
    exact ih chain

theorem isRun_of_isChain {run : List Widget} (filled : run ≠ [])
    (chain : run.IsChain fun widget next => widget.isNumber && next.isNumber) : IsRun run := by
  match run with
  | [] => exact absurd rfl filled
  | [widget] =>
    cases kind : widget.isNumber with
    | false => exact .single kind
    | true => exact .numbers filled (areNumbers_iff.mpr (List.forall_mem_singleton.mpr kind))
  | first :: second :: rest => exact .numbers filled (areNumbers_of_isChain chain)

theorem areRuns_runs (widgets : List Widget) : AreRuns (runs widgets) where
  each run member :=
    isRun_of_isChain (List.ne_nil_of_mem_splitBy member) (List.isChain_of_mem_splitBy member)
  apart := by
    refine (List.isChain_getLast_head_splitBy _ widgets).imp ?_
    rintro run next ⟨some, others, split⟩ ⟨numbers, more⟩
    rw [areNumbers_iff.mp numbers _ (List.getLast_mem some), areNumbers_iff.mp more _ (List.head_mem others)]
      at split
    cases split

theorem flatten_runs (widgets : List Widget) : (runs widgets).flatten = widgets :=
  List.flatten_splitBy _ widgets

end Widget

namespace Render

/-! ## Lists of widgets in general -/

/-- How widgets are set below each other. -/
structure Layout where
  /-- The lines before a group of numbers. -/
  opening : List String
  /-- The lines after a group of numbers. -/
  closing : List String
  /-- A widget by itself, or in a group if it is a number. -/
  text : Widget → Except Failure String

/-- What a run of widgets is shown as. -/
inductive Piece where
  | group (rows : List String)
  | block (text : String)

/-- Whether this is a group. -/
def Piece.isGroup : Piece → Bool
  | .group _ => true
  | .block _ => false

namespace Layout

/-- The lines between two widgets, of which the one or the other may be a number. -/
def between (layout : Layout) : Bool → Bool → List String
  | false, true => layout.opening
  | true, false => layout.closing
  | _, _ => []

/-- The lines of widgets; `grouping` says whether a group of numbers is open. -/
def lines (layout : Layout) (grouping : Bool) : List Widget → Except Failure (List String)
  | [] => .ok (layout.between grouping false)
  | widget :: rest => do
    let text ← layout.text widget
    return layout.between grouping widget.isNumber ++ text :: (← layout.lines widget.isNumber rest)

/-- The lines of a section that its widgets stand for. -/
def body (layout : Layout) : List Widget → Except Failure (List String) := layout.lines false

/-- The lines of a piece. -/
def pieceLines (layout : Layout) : Piece → List String
  | .group rows => layout.opening ++ rows ++ layout.closing
  | .block text => [text]

/-- What a run is shown as: numbers row by row as a group, and another widget as a block. -/
inductive Shows (layout : Layout) : List Widget → Piece → Prop
  | group {run : List Widget} {rows : List String} (numbers : Widget.areNumbers run = true)
    (each : List.Forall₂ (fun widget row => layout.text widget = .ok row) run rows) :
    Shows layout run (.group rows)
  | block {widget : Widget} {text : String} (other : widget.isNumber = false)
    (own : layout.text widget = .ok text) : Shows layout [widget] (.block text)

variable (layout : Layout)

theorem lines_nil (grouping : Bool) : layout.lines grouping [] = pure (layout.between grouping false) := rfl

theorem body_nil : layout.body [] = pure [] := rfl

theorem body_singleton {widget : Widget} (other : widget.isNumber = false) :
    layout.body [widget] = do return [← layout.text widget] := by
  rw [body, lines, other]
  rfl

/-- A widget that is no number closes the group before it and leaves none open. -/
theorem lines_append {widget : Widget} (other : widget.isNumber = false) (before behind : List Widget)
    (grouping : Bool) :
    layout.lines grouping (before ++ widget :: behind) = do
      return (← layout.lines grouping before) ++ (← layout.body [widget]) ++ (← layout.body behind) := by
  induction before generalizing grouping with
  | nil =>
    rw [body_singleton _ other, lines_nil, List.nil_append, lines, other]
    simp only [bind_assoc, pure_bind, List.append_assoc]
    rfl
  | cons first before ih =>
    rw [List.cons_append, lines, lines, ih]
    simp only [bind_assoc, pure_bind, List.append_assoc, List.cons_append]

/-- Numbers go on with an open group. -/
theorem lines_numbers {run : List Widget} (numbers : Widget.areNumbers run = true) :
    layout.lines true run = do return (← run.mapM layout.text) ++ layout.closing := by
  induction run with
  | nil => rfl
  | cons first rest ih =>
    rw [Widget.areNumbers, List.all_cons, Bool.and_eq_true] at numbers
    rw [lines, numbers.1, ih numbers.2, List.mapM_cons]
    simp only [bind_assoc, pure_bind, between, List.nil_append, List.cons_append]

theorem body_numbers {run : List Widget} (filled : run ≠ []) (numbers : Widget.areNumbers run = true) :
    layout.body run = do return layout.opening ++ (← run.mapM layout.text) ++ layout.closing := by
  obtain ⟨first, rest, rfl⟩ := List.exists_cons_of_ne_nil filled
  rw [Widget.areNumbers, List.all_cons, Bool.and_eq_true] at numbers
  rw [body, lines, numbers.1, lines_numbers _ numbers.2, List.mapM_cons]
  simp only [bind_assoc, pure_bind, between, List.append_assoc, List.cons_append]

/-- Runs that are as long as they can be do not touch each other. -/
theorem body_append {run : List Widget} {rest : List (List Widget)} (runs : Widget.AreRuns (run :: rest)) :
    layout.body (run ++ rest.flatten) = do
      return (← layout.body run) ++ (← layout.body rest.flatten) := by
  have next {widget : Widget} (other : widget.isNumber = false) (behind : List Widget) :
      layout.body (widget :: behind) = do
        return (← layout.body [widget]) ++ (← layout.body behind) := by
    rw [body, ← List.nil_append (widget :: behind), lines_append _ other]
    rfl
  obtain ⟨first, others⟩ := List.forall_mem_cons.mp runs.each
  cases first with
  | single other => exact next other rest.flatten
  | numbers filled numbers =>
    cases rest with
    | nil => simp only [List.flatten_nil, List.append_nil, body_nil, pure_bind, bind_pure]
    | cons second rest =>
      have apart := (List.isChain_cons_cons.mp runs.apart).1
      cases others second List.mem_cons_self with
      | numbers _ more => exact absurd ⟨numbers, more⟩ apart
      | single other =>
        rw [List.flatten_cons, List.singleton_append, next other, body, lines_append _ other]
        simp only [bind_assoc, pure_bind, List.append_assoc]
        rfl

theorem body_run {run : List Widget} (isRun : Widget.IsRun run) {lines : List String} :
    layout.body run = .ok lines ↔ ∃ piece, layout.Shows run piece ∧ layout.pieceLines piece = lines := by
  cases isRun with
  | numbers filled numbers =>
    simp only [body_numbers layout filled numbers, bind_eq_ok_iff, mapM_eq_ok_iff, pure_eq_ok_iff]
    constructor
    · rintro ⟨rows, each, rfl⟩
      exact ⟨.group rows, .group numbers each, rfl⟩
    · rintro ⟨_, ⟨-, each⟩ | ⟨other, -⟩, rfl⟩
      · exact ⟨_, each, rfl⟩
      · rw [Widget.areNumbers_singleton, other] at numbers
        cases numbers
  | single other =>
    simp only [body_singleton layout other, bind_eq_ok_iff, pure_eq_ok_iff]
    constructor
    · rintro ⟨text, own, rfl⟩
      exact ⟨.block text, .block other own, rfl⟩
    · rintro ⟨_, ⟨numbers, -⟩ | ⟨-, own⟩, rfl⟩
      · rw [Widget.areNumbers_singleton, other] at numbers
        cases numbers
      · exact ⟨_, own, rfl⟩

/-- The widgets of a section are shown run by run. -/
theorem body_runs {runs : List (List Widget)} (areRuns : Widget.AreRuns runs) {lines : List String} :
    layout.body runs.flatten = .ok lines ↔
      ∃ pieces, List.Forall₂ layout.Shows runs pieces ∧ pieces.flatMap layout.pieceLines = lines := by
  induction runs generalizing lines with
  | nil =>
    simp only [List.flatten_nil, body_nil, pure_eq_ok_iff, List.forall₂_nil_left_iff, exists_eq_left,
      List.flatMap_nil]
  | cons run runs ih =>
    have rest : Widget.AreRuns runs :=
      ⟨fun run member => areRuns.each run (List.mem_cons_of_mem _ member), areRuns.apart.tail⟩
    rw [List.flatten_cons, body_append layout areRuns]
    simp only [bind_eq_ok_iff, pure_eq_ok_iff, body_run layout (areRuns.each run List.mem_cons_self), ih rest,
      List.forall₂_cons_left_iff]
    constructor
    · rintro ⟨_, ⟨piece, shows, rfl⟩, _, ⟨pieces, others, rfl⟩, rfl⟩
      exact ⟨_, ⟨piece, pieces, shows, others, rfl⟩, List.flatMap_cons⟩
    · rintro ⟨_, ⟨piece, pieces, shows, others, rfl⟩, rfl⟩
      exact ⟨_, ⟨piece, shows, rfl⟩, _, ⟨pieces, others, rfl⟩, List.flatMap_cons.symm⟩

variable {layout}

/-- A group stands for a run of numbers and a block for another widget. -/
theorem Shows.isGroup_eq {run : List Widget} {piece : Piece} (shows : layout.Shows run piece) :
    piece.isGroup = Widget.areNumbers run := by
  cases shows with
  | group numbers => exact numbers.symm
  | block other => rw [Widget.areNumbers_singleton, other, Piece.isGroup]

theorem countP_isGroup {runs : List (List Widget)} {pieces : List Piece}
    (shows : List.Forall₂ layout.Shows runs pieces) :
    pieces.countP Piece.isGroup = runs.countP Widget.areNumbers := by
  induction shows with
  | nil => rfl
  | cons first _ ih => rw [List.countP_cons, List.countP_cons, ih, first.isGroup_eq]

/-- There is only one way to carry the flag along. -/
theorem eq_lines {f : Bool → List Widget → Except Failure (List String)}
    (nil : ∀ grouping, f grouping [] = pure (layout.between grouping false))
    (cons : ∀ grouping widget rest, f grouping (widget :: rest) = do
      let text ← layout.text widget
      return layout.between grouping widget.isNumber ++ text :: (← f widget.isNumber rest))
    (grouping : Bool) (widgets : List Widget) : f grouping widgets = layout.lines grouping widgets := by
  induction widgets generalizing grouping with
  | nil => exact nil grouping
  | cons widget rest ih => rw [cons, lines, ih]

/-- What a list of widgets needs: each of them has to be shown. -/
theorem exists_text_of_lines {widgets : List Widget} {grouping : Bool} {lines : List String}
    (done : layout.lines grouping widgets = .ok lines) :
    ∀ widget ∈ widgets, ∃ text, layout.text widget = .ok text := by
  induction widgets generalizing grouping lines with
  | nil => exact List.forall_mem_nil _
  | cons widget widgets ih =>
    simp only [Layout.lines, bind_eq_ok_iff] at done
    obtain ⟨text, own, _, others, -⟩ := done
    exact List.forall_mem_cons.mpr ⟨⟨text, own⟩, ih others⟩

end Layout

/-! ## The two renderers -/

/-- Numbers as rows of a table of two columns. -/
def Markdown.layout : Layout where
  opening := ["| Query |  |", "|:------|-:|"]
  closing := [""]
  text
    | .number caption value color => Markdown.numberRow caption value color
    | widget => Markdown.block widget

/-- Numbers as blocks in an element of their own. -/
def Html.layout : Layout where
  opening := ["<div class=\"number_widgets\">"]
  closing := [Html.groupEnd]
  text
    | .number caption value color => Html.number caption value color
    | widget => Html.block widget

theorem Markdown.widgetLines_eq (grouping : Bool) (widgets : List Widget) :
    Markdown.widgetLines grouping widgets = Markdown.layout.lines grouping widgets := by
  refine Layout.eq_lines (fun grouping => ?_) (fun grouping widget rest => ?_) grouping widgets
  · cases grouping <;> rfl
  · cases widget <;> cases grouping <;> rfl

theorem Html.widgetLines_eq (grouping : Bool) (widgets : List Widget) :
    Html.widgetLines grouping widgets = Html.layout.lines grouping widgets := by
  refine Layout.eq_lines (fun grouping => ?_) (fun grouping widget rest => ?_) grouping widgets
  · cases grouping <;> rfl
  · cases widget <;> cases grouping <;> rfl

/-- The lines of a section above its widgets. -/
def Markdown.above (title description : Option String) : List String :=
  paragraph "## " title ++ paragraph "" description

theorem Markdown.sectionLines_eq (title description : Option String) (widgets : List Widget) :
    sectionLines { title, description, widgets } = do
      return above title description ++ (← widgetLines false widgets) := rfl

/-- The lines of a section above its widgets. -/
def Html.above (title description : Option String) : List String :=
  ["<div class=\"section\">", "<div class=\"section_metadata\">"]
    ++ title.elim [] (fun title =>
      [anchor title, "<h2 class=\"section_title\">" ++ Text.Markup.escape title ++ "</h2>", ""])
    ++ description.elim [] (fun text => ["<div class=\"description\">", text, "</div>", ""])
    ++ ["</div> <!-- section_metadata -->", "<div class=\"section_widgets\">"]

theorem Html.sectionLines_eq (title description : Option String) (widgets : List Widget) :
    sectionLines { title, description, widgets } = do
      return above title description ++ (← widgetLines false widgets)
        ++ ["</div> <!-- section_widgets -->", "</div> <!-- section -->"] := by
  cases title <;> cases description <;> rfl

/-! ## Widgets that can be shown -/

/-- Whether this is a number widget that may stand in a graph. -/
inductive IsBar : Widget → Prop
  | mark {caption : Caption} {value : Figure} {color : Option String} (noText : ∀ text, value ≠ .text text) :
    IsBar (.number caption value color)

/-- Whether a widget is of a kind that can be shown, and so are the widgets in it where they stand. -/
inductive IsShowable : Widget → Prop
  | number {caption : Caption} {value : Figure} {color : Option String} :
    IsShowable (.number caption value color)
  | string {caption : Caption} {value : String} {align color : Option String} :
    IsShowable (.string caption value align color)
  | graph {caption : Caption} {elements : List Widget} (each : ∀ element ∈ elements, IsBar element) :
    IsShowable (.graph caption elements)
  | table {caption : Caption} {headers : List Widget} {rows : List (List Widget)}
    (tops : ∀ cell ∈ headers, cell.isCell = true) (each : ∀ row ∈ rows, ∀ cell ∈ row, cell.isCell = true) :
    IsShowable (.table caption headers rows)

theorem isBar_of_barOf {element : Widget} {bar : Bar} (done : barOf element = .ok bar) : IsBar element := by
  cases element with
  | number _ value =>
    refine .mark ?_
    rintro text rfl
    cases done
  | _ => cases done

theorem Markdown.isCell_of_cell {widget : Widget} {text : String} (done : cell widget = .ok text) :
    widget.isCell = true := by
  cases widget with
  | number | string => rfl
  | _ => cases done

theorem Html.isCell_of_cell {tag : String} {widget : Widget} {text : String}
    (done : cell tag widget = .ok text) : widget.isCell = true := by
  cases widget with
  | number | string => rfl
  | _ => cases done

theorem Markdown.isShowable_of_text {widget : Widget} {text : String} (done : layout.text widget = .ok text) :
    IsShowable widget := by
  have cells {columns : Nat} {cells : List Widget} {text : String} (done : row columns cells = .ok text) :
      ∀ cell ∈ cells, cell.isCell = true := by
    obtain ⟨texts, each, -⟩ := bind_eq_ok_iff.mp done
    exact fun cell member =>
      have ⟨_, own⟩ := exists_mapM_eq_ok_iff.mp ⟨_, each⟩ cell member
      isCell_of_cell own
  cases widget with
  | number => exact .number
  | string => exact .string
  | graph caption elements =>
    obtain ⟨bars, each, -⟩ := bind_eq_ok_iff.mp done
    refine .graph fun element member => ?_
    obtain ⟨bar, own⟩ := exists_mapM_eq_ok_iff.mp ⟨_, each⟩ element member
    exact isBar_of_barOf own
  | table caption headers rows =>
    rw [layout] at done
    simp only [block, table] at done
    split at done
    · next none =>
      obtain ⟨rfl, empty⟩ := eq_nil_of_columnsOf none
      refine .table (List.forall_mem_nil _) fun row member => ?_
      rw [empty row member]
      exact List.forall_mem_nil _
    · simp only [bind_eq_ok_iff] at done
      obtain ⟨_, top, _, lines, -⟩ := done
      refine .table (cells top) fun row member => ?_
      obtain ⟨_, own⟩ := exists_mapM_eq_ok_iff.mp ⟨_, lines⟩ row member
      exact cells own
  | _ => cases done

theorem Html.isShowable_of_text {widget : Widget} {text : String} (done : layout.text widget = .ok text) :
    IsShowable widget := by
  have cells {rowClass tag : String} {cells : List Widget} {lines : List String}
      (done : rowLines rowClass tag cells = .ok lines) : ∀ cell ∈ cells, cell.isCell = true := by
    obtain ⟨texts, each, -⟩ := bind_eq_ok_iff.mp done
    exact fun cell member =>
      have ⟨_, own⟩ := exists_mapM_eq_ok_iff.mp ⟨_, each⟩ cell member
      isCell_of_cell own
  cases widget with
  | number => exact .number
  | string => exact .string
  | graph caption elements =>
    obtain ⟨bars, each, -⟩ := bind_eq_ok_iff.mp done
    refine .graph fun element member => ?_
    obtain ⟨_, own⟩ := exists_mapM_eq_ok_iff.mp ⟨_, each⟩ element member
    obtain ⟨bar, own, -⟩ := bind_eq_ok_iff.mp own
    exact isBar_of_barOf own
  | table caption headers rows =>
    change table caption headers rows = .ok text at done
    rw [table, ← apply_ite (· >>= _)] at done
    obtain ⟨top, drawn, more⟩ := bind_eq_ok_iff.mp done
    obtain ⟨lines, each, -⟩ := bind_eq_ok_iff.mp more
    refine .table ?_ fun row member => ?_
    · cases headers with
      | nil => exact List.forall_mem_nil _
      | cons => exact cells drawn
    · obtain ⟨_, own⟩ := exists_mapM_eq_ok_iff.mp ⟨_, each⟩ row member
      exact cells own
  | _ => cases done

/-- A section is shown only if each of its widgets is. -/
theorem isShowable_of_body {layout : Layout}
    (each : ∀ {widget : Widget} {text : String}, layout.text widget = .ok text → IsShowable widget)
    {widgets : List Widget} {lines : List String} (done : layout.body widgets = .ok lines) :
    ∀ widget ∈ widgets, IsShowable widget := by
  intro widget member
  obtain ⟨text, own⟩ := layout.exists_text_of_lines done widget member
  exact each own

theorem Markdown.isShowable_of_render {dashboard : Dashboard} {text : String}
    (done : render dashboard = .ok text) :
    ∀ part ∈ dashboard.sections, ∀ widget ∈ part.widgets, IsShowable widget := by
  obtain ⟨sections, each, -⟩ := bind_eq_ok_iff.mp done
  intro part member
  obtain ⟨_, own⟩ := exists_mapM_eq_ok_iff.mp ⟨_, each⟩ part member
  obtain ⟨lines, own, -⟩ := bind_eq_ok_iff.mp own
  rw [widgetLines_eq] at own
  exact isShowable_of_body isShowable_of_text own

theorem Html.isShowable_of_render {dashboard : Dashboard} {text : String}
    (done : render dashboard = .ok text) :
    ∀ part ∈ dashboard.sections, ∀ widget ∈ part.widgets, IsShowable widget := by
  obtain ⟨sections, each, -⟩ := bind_eq_ok_iff.mp done
  intro part member
  obtain ⟨_, own⟩ := exists_mapM_eq_ok_iff.mp ⟨_, each⟩ part member
  obtain ⟨lines, own, -⟩ := bind_eq_ok_iff.mp own
  rw [widgetLines_eq] at own
  exact isShowable_of_body isShowable_of_text own

/-! ## Grouping -/

/-- What it means for the lines of widgets to show numbers in groups. -/
structure Layout.Groups (layout : Layout) (body : List Widget → Except Failure (List String)) : Prop where
  split : ∀ before widget behind, widget.isNumber = false →
    body (before ++ widget :: behind) = do
      return (← body before) ++ (← body [widget]) ++ (← body behind)
  alone : ∀ widget, widget.isNumber = false → body [widget] = do return [← layout.text widget]
  together : ∀ run, run ≠ [] → Widget.areNumbers run = true →
    body run = do return layout.opening ++ (← run.mapM layout.text) ++ layout.closing
  runByRun : ∀ widgets lines, body widgets = .ok lines ↔ ∃ pieces,
    List.Forall₂ layout.Shows (Widget.runs widgets) pieces ∧ pieces.flatMap layout.pieceLines = lines
  counted : ∀ widgets pieces, List.Forall₂ layout.Shows (Widget.runs widgets) pieces →
    pieces.countP Piece.isGroup = (Widget.runs widgets).countP Widget.areNumbers

theorem Layout.groups_body (layout : Layout) : layout.Groups layout.body where
  split before widget behind other := layout.lines_append other before behind false
  alone widget other := layout.body_singleton other
  together run := layout.body_numbers
  runByRun widgets lines := by
    rw [← layout.body_runs (Widget.areRuns_runs widgets), Widget.flatten_runs]
  counted widgets pieces := countP_isGroup

/-- **Numbers are shown in groups.** Both renderers show the widgets of a section between lines that only
the title and the description of the section decide. A widget that is no number splits what is shown in
three, and numbers alone are one group of rows in their order. So a section has a group for each of the
longest runs of numbers that its widgets fall into, and nothing is shown at all of a dashboard with a
widget that is of another kind than can be shown where it stands. -/
theorem groups_numbers :
    Markdown.layout.Groups (Markdown.widgetLines false) ∧ Html.layout.Groups (Html.widgetLines false) ∧
    (∀ title description widgets, Markdown.sectionLines { title, description, widgets } = do
      return Markdown.above title description ++ (← Markdown.widgetLines false widgets)) ∧
    (∀ title description widgets, Html.sectionLines { title, description, widgets } = do
      return Html.above title description ++ (← Html.widgetLines false widgets)
        ++ ["</div> <!-- section_widgets -->", "</div> <!-- section -->"]) ∧
    (∀ widgets, Widget.AreRuns (Widget.runs widgets) ∧ (Widget.runs widgets).flatten = widgets) ∧
    ∀ dashboard : Dashboard,
      (∃ part ∈ dashboard.sections, ∃ widget ∈ part.widgets, ¬IsShowable widget) →
      ∀ text, Markdown.render dashboard ≠ .ok text ∧ Html.render dashboard ≠ .ok text := by
  have markdown : Markdown.widgetLines false = Markdown.layout.body := funext (Markdown.widgetLines_eq false)
  have html : Html.widgetLines false = Html.layout.body := funext (Html.widgetLines_eq false)
  refine ⟨markdown ▸ Markdown.layout.groups_body, html ▸ Html.layout.groups_body,
    Markdown.sectionLines_eq, Html.sectionLines_eq,
    fun widgets => ⟨Widget.areRuns_runs widgets, Widget.flatten_runs widgets⟩, ?_⟩
  rintro dashboard ⟨part, partMember, widget, member, foreign⟩ text
  exact ⟨fun done => foreign (Markdown.isShowable_of_render done part partMember widget member),
    fun done => foreign (Html.isShowable_of_render done part partMember widget member)⟩

example :
    let count (n : Int) : Widget := .number { title := some "n" } (.number (.integer n)) none
    Markdown.widgetLines false [count 1, count 2, .string {} "between" none none, count 3] =
      .ok ["| Query |  |", "|:------|-:|", "| n | 1 |", "| n | 2 |", "", "between\n",
        "| Query |  |", "|:------|-:|", "| n | 3 |", ""] := by
  decide +kernel

end Render

end IssueBoard
