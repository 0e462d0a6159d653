import IssueBoard.Proofs.Render.Scaling
import IssueBoard.Render.Format

/-! # Rendering static dashboards

A static dashboard holds numbers and texts only. Each rendering of one succeeds exactly if its numbers can
be written and drawn and its colors have glyphs where they are shown, and fails for no other reason.
-/

namespace IssueBoard

open Render

/-- Whether numbers can be drawn in a format. -/
def Render.Format.Draws : Format → List Number → Prop
  | .html => Html.Spans
  | .markdown => Markdown.Scales
  | .slack => fun _ => True

namespace Widget

/-- The number that a number widget shows. -/
def number? : Widget → Option Number
  | .number _ (.number n) _ => some n
  | _ => none

/-- The color of a number or a string. -/
def color? : Widget → Option String
  | .number _ _ color => color
  | .string _ _ _ color => color
  | _ => none

/-- Whether this is a number widget that holds a number. -/
inductive IsStaticNumber : Widget → Prop
  | mark {caption : Caption} (n : Number) (color : Option String) (links : caption.LinksToPage) :
    IsStaticNumber (.number caption (.number n) color)

/-- Whether this is a cell that holds a number or a text. -/
inductive IsStaticCell : Widget → Prop
  | number {caption : Caption} (n : Number) (color : Option String) (links : caption.LinksToPage) :
    IsStaticCell (.number caption (.number n) color)
  | string {caption : Caption} (value : String) (align color : Option String)
    (links : caption.LinksToPage) : IsStaticCell (.string caption value align color)

/-- Whether nothing of a widget is left to be evaluated. -/
inductive IsStatic : Widget → Prop
  | cell {widget : Widget} (static : IsStaticCell widget) : IsStatic widget
  | graph {caption : Caption} {elements : List Widget} (links : caption.LinksToPage)
    (static : ∀ element ∈ elements, IsStaticNumber element) : IsStatic (.graph caption elements)
  | table {caption : Caption} {headers : List Widget} {rows : List (List Widget)}
    (links : caption.LinksToPage) (tops : ∀ cell ∈ headers, IsStaticCell cell)
    (cells : ∀ row ∈ rows, ∀ cell ∈ row, IsStaticCell cell) : IsStatic (.table caption headers rows)

/-- Whether the number of a widget can be written. -/
def IsPrintable : Widget → Prop
  | .number _ (.number n) _ => n.IsPrintable
  | _ => True

/-- Whether the numbers of a widget can be shown in a format. -/
def Fits (format : Format) : Widget → Prop
  | .graph _ elements => format.Draws (elements.filterMap number?)
  | .table _ headers rows => format ≠ .slack →
    (∀ cell ∈ headers, cell.IsPrintable) ∧ ∀ row ∈ rows, ∀ cell ∈ row, cell.IsPrintable
  | widget => widget.IsPrintable

/-- Whether there is a glyph for each color of a widget that a format shows as a glyph. -/
def HasGlyphs (format : Format) : Widget → Prop
  | .number _ _ color => format ≠ .html → Known color
  | .string _ _ _ color => format = .markdown → Known color
  | .graph _ elements => format = .markdown → ∀ element ∈ elements, Known element.color?
  | .table _ headers rows => format = .markdown →
    (∀ cell ∈ headers, Known cell.color?) ∧ ∀ row ∈ rows, ∀ cell ∈ row, Known cell.color?
  | _ => True

/-- Whether the numbers of a widget can be written, and those of a graph are of moderate size. -/
def IsModest : Widget → Prop
  | .graph _ elements => ∀ n ∈ elements.filterMap number?, IsModerate n
  | .table _ headers rows =>
    (∀ cell ∈ headers, cell.IsPrintable) ∧ ∀ row ∈ rows, ∀ cell ∈ row, cell.IsPrintable
  | widget => widget.IsPrintable

theorem exists_marks {elements : List Widget} (static : ∀ element ∈ elements, element.IsStaticNumber) :
    ∃ marks : List Mark, elements = marks.map Mark.widget ∧ ∀ mark ∈ marks, mark.caption.LinksToPage := by
  induction elements with
  | nil => exact ⟨[], rfl, List.forall_mem_nil _⟩
  | cons element elements ih =>
    obtain ⟨⟨n, color, links⟩, rest⟩ := List.forall_mem_cons.mp static
    obtain ⟨marks, rfl, others⟩ := ih rest
    exact ⟨⟨_, n, color⟩ :: marks, rfl, List.forall_mem_cons.mpr ⟨links, others⟩⟩

theorem IsStatic.of_isNumber {widget : Widget} (static : widget.IsStatic)
    (number : widget.isNumber = true) : widget.IsStaticNumber := by
  cases static with
  | cell static =>
    cases static with
    | number n color links => exact .mark n color links
    | string => cases number
  | graph => cases number
  | table => cases number

theorem filterMap_number? (marks : List Mark) :
    (marks.map Mark.widget).filterMap number? = marks.map Mark.number := by
  rw [List.filterMap_map, ← List.filterMap_eq_map]
  rfl

end Widget

namespace Dashboard

/-- Whether nothing of a dashboard is left to be evaluated. -/
def IsStatic (dashboard : Dashboard) : Prop :=
  ∀ part ∈ dashboard.sections, ∀ widget ∈ part.widgets, widget.IsStatic

/-- Whether all numbers of a dashboard can be shown in a format. -/
def Fits (format : Format) (dashboard : Dashboard) : Prop :=
  ∀ part ∈ dashboard.sections, ∀ widget ∈ part.widgets, widget.Fits format

/-- Whether all colors of a dashboard have glyphs that a format shows as glyphs. -/
def HasGlyphs (format : Format) (dashboard : Dashboard) : Prop :=
  ∀ part ∈ dashboard.sections, ∀ widget ∈ part.widgets, widget.HasGlyphs format

/-- Whether all numbers of a dashboard can be written, and those of graphs are of moderate size. -/
def IsModest (dashboard : Dashboard) : Prop :=
  ∀ part ∈ dashboard.sections, ∀ widget ∈ part.widgets, widget.IsModest

end Dashboard

namespace Render

namespace Html

theorem exists_opening {caption : Caption} (links : caption.LinksToPage) :
    ∃ lines, opening caption = .ok lines := by
  obtain ⟨address, opened⟩ := exists_mapM_eq_ok_iff.mpr fun url (member : url ∈ caption.url.toList) =>
    exists_linkOpening (links url (Option.mem_toList.mp member))
  exact ⟨_, bind_eq_ok_iff.mpr ⟨address, opened, rfl⟩⟩

theorem ends_number {caption : Caption} (links : caption.LinksToPage) (n : Number)
    (color : Option String) : Ends (number caption (.number n) color) n.IsPrintable True := by
  obtain ⟨lines, opened⟩ := exists_opening links
  exact .after opened ((ends_figure n).map _)

theorem ends_string {caption : Caption} (links : caption.LinksToPage) (value : String)
    (color : Option String) : Ends (string caption value color) True True := by
  obtain ⟨lines, opened⟩ := exists_opening links
  exact .after opened (.ok trivial trivial)

theorem ends_cell (tag : String) {widget : Widget} (static : widget.IsStaticCell) :
    Ends (cell tag widget) widget.IsPrintable True := by
  cases static with
  | number n color links =>
    exact (ends_figure n).followed fun text => exists_bind_pure_iff.mpr (exists_link text links)
  | string value align color links =>
    obtain ⟨linked, done⟩ := exists_link (Text.Markup.escape value) links
    exact .after done (.ok trivial trivial)

theorem ends_rowLines (rowClass tag : String) {cells : List Widget}
    (static : ∀ cell ∈ cells, cell.IsStaticCell) :
    Ends (rowLines rowClass tag cells) (∀ cell ∈ cells, cell.IsPrintable) True :=
  (Ends.mapM_numbers fun widget member => ends_cell tag (static widget member)).map _

theorem ends_table {caption : Caption} {headers : List Widget} {rows : List (List Widget)}
    (links : caption.LinksToPage) (tops : ∀ cell ∈ headers, cell.IsStaticCell)
    (cells : ∀ row ∈ rows, ∀ cell ∈ row, cell.IsStaticCell) :
    Ends (table caption headers rows)
      ((∀ cell ∈ headers, cell.IsPrintable) ∧ ∀ row ∈ rows, ∀ cell ∈ row, cell.IsPrintable) True := by
  have top : Ends (if headers.isEmpty then pure [] else rowLines "table_header" "th" headers)
      (∀ cell ∈ headers, cell.IsPrintable) True := by
    cases headers with
    | nil => exact .ok (List.forall_mem_nil _) trivial
    | cons => exact ends_rowLines _ _ tops
  have lines := Ends.mapM_numbers fun row member =>
    ends_rowLines "table_element" "td" (cells row member)
  rw [table, ← apply_ite (· >>= _)]
  refine top.bind_numbers fun _ _ => lines.followed fun _ => ?_
  exact exists_bind_pure_iff.mpr (exists_heading "table_title" links)

theorem ends_block {widget : Widget} (static : widget.IsStatic) (single : widget.isNumber = false) :
    Ends (block widget) (widget.Fits .html) True := by
  cases static with
  | cell static =>
    cases static with
    | number => cases single
    | string value align color links => exact ends_string links value color
  | graph links static =>
    obtain ⟨marks, rfl, each⟩ := Widget.exists_marks static
    rw [Widget.Fits, Widget.filterMap_number?]
    exact ends_graph links each
  | table links tops cells =>
    exact (ends_table links tops cells).congr (imp_iff_right Format.noConfusion).symm Iff.rfl

theorem ends_widgetLines {widgets : List Widget} (static : ∀ widget ∈ widgets, widget.IsStatic)
    (grouping : Bool) :
    Ends (widgetLines grouping widgets) (∀ widget ∈ widgets, widget.Fits .html) True := by
  induction widgets generalizing grouping with
  | nil => exact .ok (List.forall_mem_nil _) trivial
  | cons widget widgets ih =>
    rw [List.forall_mem_cons] at static ⊢
    cases single : widget.isNumber with
    | false =>
      rw [widgetLines_of_block single]
      exact (ends_block static.1 single).bind_numbers fun _ _ => (ih static.2 false).map _
    | true =>
      obtain ⟨n, color, links⟩ := static.1.of_isNumber single
      exact (ends_number links n color).bind_numbers fun _ _ => (ih static.2 true).map _

theorem ends_sectionLines {part : Section} (static : ∀ widget ∈ part.widgets, widget.IsStatic) :
    Ends (sectionLines part) (∀ widget ∈ part.widgets, widget.Fits .html) True :=
  (ends_widgetLines static false).map _

theorem ends_render {dashboard : Dashboard} (static : dashboard.IsStatic) :
    Ends (render dashboard) (dashboard.Fits .html) True :=
  (Ends.mapM_numbers fun part member => ends_sectionLines (static part member)).map _

end Html

namespace Markdown

theorem ends_numberRow {caption : Caption} (links : caption.LinksToPage) (n : Number)
    (color : Option String) : Ends (numberRow caption (.number n) color) n.IsPrintable (Known color) :=
  (ends_figure links n color).map _

theorem ends_string {caption : Caption} (links : caption.LinksToPage) (value : String)
    (color : Option String) : Ends (string caption value color) True (Known color) :=
  (ends_decorate value color links).map _

theorem ends_cell {widget : Widget} (static : widget.IsStaticCell) :
    Ends (cell widget) widget.IsPrintable (Known widget.color?) := by
  cases static with
  | number n color links => exact ends_figure links n color
  | string value align color links => exact ends_decorate value color links

theorem ends_row (columns : Nat) {cells : List Widget} (static : ∀ cell ∈ cells, cell.IsStaticCell) :
    Ends (row columns cells) (∀ cell ∈ cells, cell.IsPrintable) (∀ cell ∈ cells, Known cell.color?) :=
  (Ends.mapM fun widget member => ends_cell (static widget member)).map _

theorem le_columnsOf (headers : List Widget) (rows : List (List Widget)) :
    headers.length ≤ columnsOf headers rows ∧ ∀ row ∈ rows, row.length ≤ columnsOf headers rows := by
  rw [columnsOf]
  generalize headers.length = columns
  induction rows generalizing columns with
  | nil => exact ⟨le_refl columns, List.forall_mem_nil _⟩
  | cons row rows ih =>
    obtain ⟨most, each⟩ := ih (max columns row.length)
    rw [List.foldl_cons, List.forall_mem_cons]
    exact ⟨(le_max_left _ _).trans most, (le_max_right _ _).trans most, each⟩

theorem eq_nil_of_columnsOf {headers : List Widget} {rows : List (List Widget)}
    (none : columnsOf headers rows = 0) : headers = [] ∧ ∀ row ∈ rows, row = [] := by
  obtain ⟨top, each⟩ := le_columnsOf headers rows
  rw [none] at top each
  exact ⟨List.eq_nil_of_length_eq_zero (Nat.le_zero.mp top),
    fun row member => List.eq_nil_of_length_eq_zero (Nat.le_zero.mp (each row member))⟩

theorem ends_table {caption : Caption} {headers : List Widget} {rows : List (List Widget)}
    (tops : ∀ cell ∈ headers, cell.IsStaticCell)
    (cells : ∀ row ∈ rows, ∀ cell ∈ row, cell.IsStaticCell) :
    Ends (table caption headers rows)
      ((∀ cell ∈ headers, cell.IsPrintable) ∧ ∀ row ∈ rows, ∀ cell ∈ row, cell.IsPrintable)
      ((∀ cell ∈ headers, Known cell.color?) ∧ ∀ row ∈ rows, ∀ cell ∈ row, Known cell.color?) := by
  have top (columns : Nat) := ends_row columns tops
  have lines (columns : Nat) := Ends.mapM fun row member => ends_row columns (cells row member)
  rw [table]
  split
  · next none =>
    obtain ⟨rfl, empty⟩ := eq_nil_of_columnsOf none
    refine .ok ⟨List.forall_mem_nil _, fun row member => ?_⟩ ⟨List.forall_mem_nil _, fun row member => ?_⟩
    · rw [empty row member]
      exact List.forall_mem_nil _
    · rw [empty row member]
      exact List.forall_mem_nil _
  · exact (top _).bind fun _ _ => (lines _).map _

theorem ends_block {widget : Widget} (static : widget.IsStatic) (single : widget.isNumber = false) :
    Ends (block widget) (widget.Fits .markdown) (widget.HasGlyphs .markdown) := by
  cases static with
  | cell static =>
    cases static with
    | number => cases single
    | string value align color links =>
      exact (ends_string links value color).congr Iff.rfl (imp_iff_right rfl).symm
  | graph links static =>
    obtain ⟨marks, rfl, each⟩ := Widget.exists_marks static
    rw [Widget.Fits, Widget.filterMap_number?]
    refine (ends_graph each).congr Iff.rfl ?_
    rw [Widget.HasGlyphs, List.forall_mem_map]
    exact (imp_iff_right rfl).symm
  | table links tops cells =>
    exact (ends_table tops cells).congr (imp_iff_right Format.noConfusion).symm (imp_iff_right rfl).symm

theorem widgetLines_of_block {widget : Widget} (single : widget.isNumber = false) (grouping : Bool)
    (rest : List Widget) :
    widgetLines grouping (widget :: rest) = (block widget >>= fun text =>
      widgetLines false rest >>= fun lines =>
        pure ((if grouping then [""] else []) ++ text :: lines)) := by
  cases widget with
  | number => cases single
  | _ => rfl

theorem ends_widgetLines {widgets : List Widget} (static : ∀ widget ∈ widgets, widget.IsStatic)
    (grouping : Bool) :
    Ends (widgetLines grouping widgets) (∀ widget ∈ widgets, widget.Fits .markdown)
      (∀ widget ∈ widgets, widget.HasGlyphs .markdown) := by
  induction widgets generalizing grouping with
  | nil => exact .ok (List.forall_mem_nil _) (List.forall_mem_nil _)
  | cons widget widgets ih =>
    rw [List.forall_mem_cons] at static
    rw [List.forall_mem_cons, List.forall_mem_cons]
    cases single : widget.isNumber with
    | false =>
      rw [widgetLines_of_block single]
      exact (ends_block static.1 single).bind fun _ _ => (ih static.2 false).map _
    | true =>
      obtain ⟨n, color, links⟩ := static.1.of_isNumber single
      refine Ends.bind ?_ fun _ _ => (ih static.2 true).map _
      exact (ends_numberRow links n color).congr Iff.rfl (imp_iff_right Format.noConfusion).symm

theorem ends_render {dashboard : Dashboard} (static : dashboard.IsStatic) :
    Ends (render dashboard) (dashboard.Fits .markdown) (dashboard.HasGlyphs .markdown) :=
  (Ends.mapM fun part member => (ends_widgetLines (static part member) false).map _).map _

end Markdown

namespace Slack

theorem ends_line {caption : Caption} (links : caption.LinksToPage) (n : Number)
    (color : Option String) :
    ∃ line, line? (.number caption (.number n) color) = some line ∧
      Ends line n.IsPrintable (Known color) := by
  refine ⟨_, rfl, ?_⟩
  refine ((ends_figureText n).bind_numbers fun text _ => ?_).congr (and_iff_left trivial) Iff.rfl
  refine (ends_withGlyph text color).followed fun shown => ?_
  rcases present : caption.url with _ | url
  · exact ⟨_, rfl⟩
  · obtain ⟨address, rfl⟩ := links url present
    exact ⟨_, rfl⟩

theorem line?_of_block {widget : Widget} (single : widget.isNumber = false) : line? widget = none := by
  cases widget with
  | number => cases single
  | _ => rfl

theorem fits_of_block {widget : Widget} (static : widget.IsStatic) (single : widget.isNumber = false) :
    widget.Fits .slack ∧ widget.HasGlyphs .slack := by
  cases static with
  | cell static =>
    cases static with
    | number => cases single
    | string => exact ⟨trivial, nofun⟩
  | graph => exact ⟨trivial, nofun⟩
  | table => exact ⟨fun never => absurd rfl never, nofun⟩

/-- Only number widgets have lines in a message, and they ask for what they show. -/
theorem ends_lines {widgets : List Widget} (static : ∀ widget ∈ widgets, widget.IsStatic) :
    Ends ((widgets.filterMap line?).mapM id) (∀ widget ∈ widgets, widget.Fits .slack)
      (∀ widget ∈ widgets, widget.HasGlyphs .slack) := by
  induction widgets with
  | nil => exact .ok (List.forall_mem_nil _) (List.forall_mem_nil _)
  | cons widget widgets ih =>
    rw [List.forall_mem_cons] at static
    rw [List.forall_mem_cons, List.forall_mem_cons]
    cases single : widget.isNumber with
    | false =>
      obtain ⟨fits, glyphs⟩ := fits_of_block static.1 single
      rw [List.filterMap_cons_none (line?_of_block single)]
      exact (ih static.2).congr (and_iff_right fits).symm (and_iff_right glyphs).symm
    | true =>
      obtain ⟨n, color, links⟩ := static.1.of_isNumber single
      obtain ⟨line, shown, ends⟩ := ends_line links n color
      rw [List.filterMap_cons_some shown, List.mapM_cons]
      refine Ends.bind ?_ fun _ _ => (ih static.2).map _
      exact ends.congr Iff.rfl (imp_iff_right Format.noConfusion).symm

theorem ends_render {dashboard : Dashboard} (static : dashboard.IsStatic) :
    Ends (render dashboard) (dashboard.Fits .slack) (dashboard.HasGlyphs .slack) := by
  have parts := Ends.mapM fun part member => (ends_lines (static part member)).map fun lines =>
    heading part.title ++ if lines.isEmpty then [] else [.text ("\n".intercalate lines)]
  exact (parts.map _).map _ |>.map _

end Slack

/-! ## All formats -/

section

variable {dashboard : Dashboard}

/-- A page shows colors as classes and needs no glyph. -/
theorem hasGlyphs_html (dashboard : Dashboard) : dashboard.HasGlyphs .html := by
  intro part _ widget _
  cases widget with
  | number => exact fun never => absurd rfl never
  | string => exact nofun
  | graph => exact nofun
  | table => exact nofun
  | _ => trivial

theorem ends_render (static : dashboard.IsStatic) (format : Format) :
    Ends (format.render dashboard) (dashboard.Fits format) (dashboard.HasGlyphs format) := by
  cases format with
  | html => exact (Html.ends_render static).congr Iff.rfl (iff_of_true trivial (hasGlyphs_html dashboard))
  | slack => exact Slack.ends_render static
  | markdown => exact Markdown.ends_render static

theorem draws_of_moderate {numbers : List Number} (moderate : ∀ n ∈ numbers, IsModerate n)
    (format : Format) : format.Draws numbers := by
  cases format with
  | html => exact IsModerate.spans moderate
  | slack => trivial
  | markdown => exact IsModerate.scales moderate

theorem fits_of_isModest (modest : dashboard.IsModest) (format : Format) : dashboard.Fits format := by
  intro part partMember widget member
  have own := modest part partMember widget member
  cases widget with
  | graph => exact draws_of_moderate own format
  | table => exact fun _ => own
  | _ => exact own

/-- **A static dashboard can be rendered**, in every format, if its numbers can be written and drawn and
its colors have glyphs; pages need no glyphs, and numbers of moderate size can be drawn. Otherwise the
rendering fails, and the failure says why: it names a color without a glyph, or it comes from the
arithmetic on numbers that cannot be written or drawn. -/
theorem render_static (static : dashboard.IsStatic) (format : Format) :
    ((∃ text, format.render dashboard = .ok text) ↔
      dashboard.Fits format ∧ dashboard.HasGlyphs format) ∧
    (dashboard.Fits format → ¬dashboard.HasGlyphs format → ∃ color, glyphs.lookup color = none ∧
      format.render dashboard = .error (.render (.unknownColor color))) ∧
    (∀ failure, format.render dashboard = .error failure →
      (∃ fault, failure = .fault fault ∧ fault.IsArithmetic ∧ ¬dashboard.Fits format) ∨
        ∃ color, failure = .render (.unknownColor color) ∧ glyphs.lookup color = none ∧
          ¬dashboard.HasGlyphs format) ∧
    dashboard.HasGlyphs .html ∧ (dashboard.IsModest → dashboard.Fits format) := by
  have ends := ends_render static format
  refine ⟨ends.exists_iff, fun fits stray => ?_, fun failure failed => ?_, hasGlyphs_html dashboard,
    fun modest => fits_of_isModest modest format⟩
  · rcases outcome : format.render dashboard with failure | text
    · rw [outcome] at ends
      cases ends with
      | fault misfit => exact absurd fits misfit
      | color _ missing => exact ⟨_, missing, rfl⟩
    · exact absurd (ends.exists_iff.mp ⟨text, outcome⟩).2 stray
  · rw [failed] at ends
    cases ends with
    | fault misfit arithmetic => exact .inl ⟨_, rfl, arithmetic, misfit⟩
    | color stray missing => exact .inr ⟨_, rfl, missing, stray⟩

end

/-- A dashboard of one graph of untitled bars. -/
def graphBoard (bars : List (Number × Option String)) : Dashboard :=
  { sections := [{ widgets := [.graph {} ((bars.map fun (n, color) => ⟨{}, n, color⟩).map Mark.widget)] }] }

section

variable {bars : List (Number × Option String)}

theorem isStatic_graphBoard : (graphBoard bars).IsStatic := by
  simp only [Dashboard.IsStatic, graphBoard, List.mem_singleton, forall_eq]
  refine .graph nofun ?_
  rw [List.forall_mem_map]
  rintro ⟨caption, n, color⟩ member
  obtain ⟨bar, -, same⟩ := List.mem_map.mp member
  cases same
  exact .mark bar.1 bar.2 nofun

theorem hasGlyphs_graphBoard (all : ∀ bar ∈ bars, Known bar.2) (format : Format) :
    (graphBoard bars).HasGlyphs format := by
  simp only [Dashboard.HasGlyphs, graphBoard, List.mem_singleton, forall_eq]
  intro _
  rw [List.forall_mem_map, List.forall_mem_map]
  exact all

theorem isModest_graphBoard (all : ∀ bar ∈ bars, IsModerate bar.1) : (graphBoard bars).IsModest := by
  simp only [Dashboard.IsModest, graphBoard, List.mem_singleton, forall_eq, Widget.IsModest]
  rw [Widget.filterMap_number?, List.forall_mem_map, List.forall_mem_map]
  exact all

end

theorem render_static_graphBoard :
    let board := graphBoard [(.integer 3, some "red"), (.nan, none), (.integer (-7), none)]
    (∃ page, Format.html.render board = .ok page) ∧ ∃ rows, Format.markdown.render board = .ok rows := by
  intro board
  have modest : board.IsModest := by
    refine isModest_graphBoard ?_
    rw [List.forall_mem_cons, List.forall_mem_cons, List.forall_mem_singleton]
    exact ⟨.integer (by decide), .inl rfl, .integer (by decide)⟩
  have known (format : Format) : board.HasGlyphs format :=
    hasGlyphs_graphBoard (by simp [Known, glyphs]) format
  have every (format : Format) := render_static (isStatic_graphBoard : board.IsStatic) format
  exact ⟨(every .html).1.mpr ⟨(every .html).2.2.2.2 modest, known .html⟩,
    (every .markdown).1.mpr ⟨(every .markdown).2.2.2.2 modest, known .markdown⟩⟩

/-- A finite number makes a page fail, and finite and infinite ones make a table fail. -/
theorem render_unscalable :
    let low := graphBoard [(.integer 1, none), (.real (Binary64.round (-10 ^ 307)), none)]
    let tiny := graphBoard [(.real (Binary64.round (1 / 10 ^ 310)), none)]
    let infinite := graphBoard [(.real (.infinite false), none)]
    low.IsStatic ∧ Format.html.render low = .error (.fault .infiniteToInteger) ∧
      (tiny.IsStatic ∧ tiny.HasGlyphs .markdown ∧
        Format.markdown.render tiny = .error (.fault .infiniteToInteger)) ∧
      infinite.IsStatic ∧ infinite.HasGlyphs .markdown ∧
        Format.markdown.render infinite = .error (.fault .nanToInteger) := by
  intro low tiny infinite
  exact ⟨isStatic_graphBoard, by decide +kernel,
    ⟨isStatic_graphBoard, hasGlyphs_graphBoard (by simp [Known]) _, by decide +kernel⟩,
    isStatic_graphBoard, hasGlyphs_graphBoard (by simp [Known]) _, by decide +kernel⟩

end Render

end IssueBoard
