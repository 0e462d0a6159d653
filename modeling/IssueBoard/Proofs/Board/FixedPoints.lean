import IssueBoard.Proofs.Board.Agenda
import IssueBoard.Proofs.Board.Reduction
import IssueBoard.Proofs.Render.Totality

/-! # Static dashboards evaluate to themselves

Evaluation builds every widget anew, one field after the other. A dashboard that holds only numbers and
texts without expressions comes out of this as it went in, and the world is asked for nothing.
-/

namespace IssueBoard

variable {σ V : Type}

/-! ## The texts of a dashboard -/

/-- Whether a text holds no opener of an expression. -/
def Template.IsLiteral (text : String) : Prop := ¬ ['{', '{'] <:+: text.toList

instance : DecidablePred Template.IsLiteral := fun text =>
  inferInstanceAs (Decidable (¬ ['{', '{'] <:+: text.toList))

theorem Template.hasExpressions_of_isLiteral {text : String} (literal : IsLiteral text) :
    hasExpressions text = false := by
  rw [← Bool.not_eq_true, hasExpressions, hasOpening_iff]
  exact literal

mutual

/-- The texts that stand in a widget. -/
def Widget.texts : Widget → List String
  | .number caption value color => value.template?.toList ++ caption.texts ++ color.toList
  | .string caption value align color => value :: caption.texts ++ align.toList ++ color.toList
  | .queryNumber caption search color => search.query :: caption.texts ++ color.toList
  | .scriptNumber caption script color => script :: caption.texts ++ color.toList
  | .scriptString caption script align color => script :: caption.texts ++ align.toList ++ color.toList
  | .graph caption elements => Widget.textsOfAll elements ++ caption.texts
  | .table caption headers rows =>
    Widget.textsOfAll headers ++ Widget.textsOfRows rows ++ caption.texts
  | .queryTable caption search _ fields =>
    search.query :: (resolvedFields search.kind fields).flatMap (fun field => field.title.toList ++
      field.property.toList ++ field.template.toList) ++ caption.texts
  | .unknown kind title => kind :: title.toList

/-- The texts that stand in widgets. -/
def Widget.textsOfAll : List Widget → List String
  | [] => []
  | widget :: rest => widget.texts ++ Widget.textsOfAll rest

/-- The texts that stand in the rows of a table. -/
def Widget.textsOfRows : List (List Widget) → List String
  | [] => []
  | row :: rest => Widget.textsOfAll row ++ Widget.textsOfRows rest

end

/-- The texts of a section: its own and those of its widgets. -/
def Section.texts (part : Section) : List String :=
  part.title.toList ++ part.description.toList ++ part.widgets.flatMap Widget.texts

/-- The texts of a dashboard: its own and those of its sections. -/
def Dashboard.texts (dashboard : Dashboard) : List String :=
  dashboard.title.toList ++ dashboard.description.toList ++ dashboard.sections.flatMap Section.texts

theorem Widget.textsOfAll_eq (widgets : List Widget) :
    textsOfAll widgets = widgets.flatMap texts := by
  induction widgets with
  | nil => rfl
  | cons widget rest ih => rw [textsOfAll, ih, List.flatMap_cons]

theorem Widget.textsOfRows_eq (rows : List (List Widget)) :
    textsOfRows rows = rows.flatMap fun row => row.flatMap texts := by
  induction rows with
  | nil => rfl
  | cons row rest ih => rw [textsOfRows, textsOfAll_eq, ih, List.flatMap_cons]

namespace Widget

theorem IsStaticNumber.isStaticCell {widget : Widget} (static : widget.IsStaticNumber) :
    widget.IsStaticCell := by
  cases static with
  | mark n color links => exact .number n color links

theorem IsStaticNumber.isNumber {widget : Widget} (static : widget.IsStaticNumber) :
    widget.isNumber = true := by
  cases static
  rfl

theorem IsStaticCell.isCell {widget : Widget} (static : widget.IsStaticCell) : widget.isCell = true := by
  cases static <;> rfl

end Widget

namespace Evaluation

open Template (IsLiteral)

variable (world : World σ V) (focus : Focus V)

/-! ## Texts -/

/-- No focus binds a name that no binding may have. -/
theorem checkNames_scope : checkNames (focus.scope.map (·.1)) = .ok () := by
  cases focus with
  | whole => exact (rfl : checkNames ["github", "userdata", "querycache"] = .ok ())
  | item item => exact (rfl : checkNames ["github", "userdata", "item"] = .ok ())
  | value value => exact (rfl : checkNames ["github", "userdata", "value"] = .ok ())

theorem resolve_literal {text : String} (literal : IsLiteral text) :
    resolve world focus.scope text = pure text := by
  have plain := Template.hasExpressions_of_isLiteral literal
  funext session
  exact runFrom_resolve_plain world (checkNames_scope focus) plain session

theorem resolveOptional_literal {template : Option String}
    (literal : ∀ text ∈ template.toList, IsLiteral text) :
    resolveOptional world focus template = pure template := by
  cases template with
  | none => rfl
  | some text =>
    rw [resolveOptional, resolve_literal world focus (literal text (List.mem_singleton_self text)),
      pure_bind]

theorem resolveLink_literal {link : Option Link}
    (literal : ∀ text ∈ (link.bind Link.template?).toList, IsLiteral text) :
    resolveLink world focus link = pure link := by
  rcases link with _ | ⟨text⟩ | ⟨value⟩
  · rfl
  · rw [resolveLink, resolve_literal world focus (literal text (List.mem_singleton_self text)), pure_bind]
  · rfl

/-! ## Numbers and texts

A static widget sets nothing around its own value, so its title, link, color and alignment are resolved
like any other text.
-/

theorem fillNumber_literal {caption : Caption} {color : Option String} (value : Figure)
    (captions : ∀ text ∈ caption.texts, IsLiteral text) (colors : ∀ text ∈ color.toList, IsLiteral text) :
    fillNumber world [] caption value color none = pure (.number caption value color) := by
  obtain ⟨titles, urls⟩ := List.forall_mem_append.mp captions
  have title : fillField world [] value.toData "title" caption.title = pure caption.title :=
    resolveOptional_literal world _ titles
  have url : fillLink world [] value.toData caption.url = pure caption.url :=
    resolveLink_literal world _ urls
  have color : fillField world [] value.toData "color" color = pure color :=
    resolveOptional_literal world _ colors
  simp only [fillNumber, title, url, color, pure_bind, Option.map_none, Option.or_none]

theorem fillString_literal {caption : Caption} {align color : Option String} (value : String)
    (captions : ∀ text ∈ caption.texts, IsLiteral text) (aligns : ∀ text ∈ align.toList, IsLiteral text)
    (colors : ∀ text ∈ color.toList, IsLiteral text) :
    fillString world [] caption value align color = pure (.string caption value align color) := by
  obtain ⟨titles, urls⟩ := List.forall_mem_append.mp captions
  have title : fillField world [] (.text value) "title" caption.title = pure caption.title :=
    resolveOptional_literal world _ titles
  have url : fillLink world [] (.text value) caption.url = pure caption.url :=
    resolveLink_literal world _ urls
  have align : fillField world [] (.text value) "align" align = pure align :=
    resolveOptional_literal world _ aligns
  have color : fillField world [] (.text value) "color" color = pure color :=
    resolveOptional_literal world _ colors
  simp only [fillString, title, url, align, color, pure_bind]

theorem evaluate_staticCell {cell : Widget} (static : cell.IsStaticCell)
    (literal : ∀ text ∈ cell.texts, IsLiteral text) : evaluate world focus cell = pure cell := by
  cases static with
  | number n color links =>
    simp only [Widget.texts, Figure.template?, List.forall_mem_append] at literal
    obtain ⟨⟨-, captions⟩, colors⟩ := literal
    simp only [evaluate, resolveFigure, pure_bind, fillNumber_literal world (.number n) captions colors]
  | string value align color links =>
    simp only [Widget.texts, List.cons_append, List.forall_mem_cons, List.forall_mem_append] at literal
    obtain ⟨values, ⟨captions, aligns⟩, colors⟩ := literal
    simp only [evaluate, resolve_literal world focus values, pure_bind,
      fillString_literal world value captions aligns colors]

/-! ## Containers -/

theorem evaluateAll_static {container : Container} {cells : List Widget}
    (static : ∀ cell ∈ cells, cell.IsStaticCell)
    (literal : ∀ cell ∈ cells, ∀ text ∈ cell.texts, IsLiteral text)
    (admitted : ∀ cell ∈ cells, container.admits cell = true) :
    evaluateAll world focus container cells = pure cells := by
  induction cells with
  | nil => rfl
  | cons cell rest ih =>
    obtain ⟨first, others⟩ := List.forall_mem_cons.mp static
    obtain ⟨plain, plains⟩ := List.forall_mem_cons.mp literal
    obtain ⟨fits, fit⟩ := List.forall_mem_cons.mp admitted
    simp only [evaluateAll, evaluate_staticCell world focus first plain, accept_eq, fits, if_true,
      ih others plains fit, pure_bind]

theorem evaluateRows_static {rows : List (List Widget)}
    (static : ∀ row ∈ rows, ∀ cell ∈ row, cell.IsStaticCell)
    (literal : ∀ row ∈ rows, ∀ cell ∈ row, ∀ text ∈ cell.texts, IsLiteral text) :
    evaluateRows world focus rows = pure rows := by
  induction rows with
  | nil => rfl
  | cons row rest ih =>
    obtain ⟨first, others⟩ := List.forall_mem_cons.mp static
    obtain ⟨plain, plains⟩ := List.forall_mem_cons.mp literal
    have cells : evaluateAll world focus .table row = pure row :=
      evaluateAll_static world focus first plain fun cell member => (first cell member).isCell
    simp only [evaluateRows, cells, ih others plains, pure_bind]

theorem evaluate_static {widget : Widget} (static : widget.IsStatic)
    (literal : ∀ text ∈ widget.texts, IsLiteral text) : evaluate world focus widget = pure widget := by
  cases static with
  | cell static => exact evaluate_staticCell world focus static literal
  | @graph caption elements links static =>
    simp only [Widget.texts, Widget.textsOfAll_eq, Caption.texts, List.forall_mem_append,
      List.forall_mem_flatMap] at literal
    obtain ⟨inside, titles, urls⟩ := literal
    have numbers : evaluateAll world focus .graph elements = pure elements :=
      evaluateAll_static world focus (fun element member => (static element member).isStaticCell) inside
        fun element member => (static element member).isNumber
    simp only [evaluate, numbers, resolveOptional_literal world focus titles,
      resolveLink_literal world focus urls, pure_bind]
  | @table caption headers rows links tops cells =>
    simp only [Widget.texts, Widget.textsOfAll_eq, Widget.textsOfRows_eq, Caption.texts,
      List.forall_mem_append, List.forall_mem_flatMap] at literal
    obtain ⟨⟨above, inside⟩, titles, urls⟩ := literal
    have header : evaluateAll world focus .table headers = pure headers :=
      evaluateAll_static world focus tops above fun cell member => (tops cell member).isCell
    simp only [evaluate, header, evaluateRows_static world focus cells inside,
      resolveOptional_literal world focus titles, resolveLink_literal world focus urls, pure_bind]

/-! ## Sections and dashboards -/

theorem evaluateWidgets_static {widgets : List Widget} (static : ∀ widget ∈ widgets, widget.IsStatic)
    (literal : ∀ widget ∈ widgets, ∀ text ∈ widget.texts, IsLiteral text) :
    evaluateWidgets world focus widgets = pure widgets := by
  induction widgets with
  | nil => rfl
  | cons widget rest ih =>
    obtain ⟨first, others⟩ := List.forall_mem_cons.mp static
    obtain ⟨plain, plains⟩ := List.forall_mem_cons.mp literal
    simp only [evaluateWidgets, evaluate_static world focus first plain, ih others plains, pure_bind]

theorem evaluateSection_static {part : Section} (static : ∀ widget ∈ part.widgets, widget.IsStatic)
    (literal : ∀ text ∈ part.texts, IsLiteral text) : evaluateSection world focus part = pure part := by
  simp only [Section.texts, List.forall_mem_append, List.forall_mem_flatMap] at literal
  obtain ⟨⟨titles, descriptions⟩, inside⟩ := literal
  simp only [evaluateSection, evaluateWidgets_static world focus static inside,
    resolveOptional_literal world focus titles, resolveOptional_literal world focus descriptions, pure_bind]

theorem evaluateSections_static {sections : List Section}
    (static : ∀ part ∈ sections, ∀ widget ∈ part.widgets, widget.IsStatic)
    (literal : ∀ part ∈ sections, ∀ text ∈ part.texts, IsLiteral text) :
    evaluateSections world sections = pure sections := by
  induction sections with
  | nil => rfl
  | cons part rest ih =>
    obtain ⟨first, others⟩ := List.forall_mem_cons.mp static
    obtain ⟨plain, plains⟩ := List.forall_mem_cons.mp literal
    simp only [evaluateSections, evaluateSection_static world .whole first plain, ih others plains,
      pure_bind]

/-- To evaluate a static dashboard is to give it back. -/
theorem evaluateDashboard_eq_pure {dashboard : Dashboard} (static : dashboard.IsStatic)
    (literal : ∀ text ∈ dashboard.texts, IsLiteral text) (setup : dashboard.setup = none)
    (shutdown : dashboard.shutdown = none) : evaluateDashboard world dashboard = pure dashboard := by
  obtain ⟨title, description, sections, _, _⟩ := dashboard
  obtain rfl : _ = none := setup
  obtain rfl : _ = none := shutdown
  simp only [Dashboard.texts, List.forall_mem_append, List.forall_mem_flatMap] at literal
  obtain ⟨⟨titles, descriptions⟩, inside⟩ := literal
  simp only [evaluateDashboard, runOptional, evaluateSections_static world static inside,
    resolveOptional_literal world .whole titles, resolveOptional_literal world .whole descriptions,
    pure_bind]

/-- **A static dashboard is a fixed point of evaluation**, whatever the world: without scripts and
without expressions in its texts it comes out as it went in, field by field, the session stays as it
is, and neither is code run nor a page of search results requested. -/
theorem evaluateDashboard_fixed (world : World σ V) {dashboard : Dashboard} (static : dashboard.IsStatic)
    (literal : ∀ text ∈ dashboard.texts, IsLiteral text) (setup : dashboard.setup = none)
    (shutdown : dashboard.shutdown = none) (session : Session σ V) (trace : List (Asked V)) :
    (evaluateDashboard world dashboard).runFrom session = (.ok dashboard, session) ∧
      (evaluateDashboard world.traced dashboard).runFrom (session.withTrace trace) =
        (.ok dashboard, session.withTrace trace) := by
  constructor
  · rw [evaluateDashboard_eq_pure world static literal setup shutdown, runFrom_pure]
  · rw [evaluateDashboard_eq_pure world.traced static literal setup shutdown, runFrom_pure]

/-- A dashboard with a widget of each static kind, and with texts that hold single braces only. -/
def staticBoard : Dashboard where
  title := some "Release \x7b4\x7d"
  sections := [{
    description := some "Braces \x7d\x7d that nothing opens"
    widgets := [
      .number { title := some "Open", url := some (.page "https://github.com") } (.number .nan) (some "red"),
      .graph { title := some "Weeks" } [.number {} (.number (.integer 3)) none],
      .table {} [.string {} "Team" none none]
        [[.string {} "Core" (some "left") none, .number {} (.number (.integer 7)) none], []]] }]

theorem isStatic_staticBoard : staticBoard.IsStatic := by
  have page : Caption.LinksToPage { title := some "Open", url := some (.page "https://github.com") } := by
    rintro _ ⟨⟩
    exact ⟨_, rfl⟩
  have number : Widget.IsStatic (.number
      { title := some "Open", url := some (.page "https://github.com") } (.number .nan) (some "red")) :=
    .cell (.number .nan _ page)
  have graph : Widget.IsStatic (.graph { title := some "Weeks" } [.number {} (.number (.integer 3)) none]) :=
    .graph nofun (List.forall_mem_singleton.mpr (.mark _ _ nofun))
  have table : Widget.IsStatic (.table {} [.string {} "Team" none none]
      [[.string {} "Core" (some "left") none, .number {} (.number (.integer 7)) none], []]) := by
    refine .table nofun (List.forall_mem_singleton.mpr (.string _ _ _ nofun)) ?_
    simp only [List.forall_mem_cons, List.not_mem_nil, false_implies, implies_true, and_true]
    exact ⟨.string _ _ _ nofun, .number _ _ nofun⟩
  simp only [Dashboard.IsStatic, staticBoard, List.forall_mem_cons, List.not_mem_nil, false_implies,
    implies_true, and_true]
  exact ⟨number, graph, table⟩

theorem evaluateDashboard_fixed_staticBoard :
    let world := Catalogue.world [] "https://github.com"
    staticBoard.IsStatic ∧ (∀ text ∈ staticBoard.texts, IsLiteral text) ∧ staticBoard.setup = none ∧
      staticBoard.shutdown = none ∧
      (evaluateDashboard world staticBoard).runFrom { state := openIssues } =
        (.ok staticBoard, { state := openIssues }) := by
  intro world
  have literal : ∀ text ∈ staticBoard.texts, IsLiteral text := by decide +kernel
  refine ⟨isStatic_staticBoard, literal, rfl, rfl, ?_⟩
  exact (evaluateDashboard_fixed world isStatic_staticBoard literal rfl rfl _ []).1

end Evaluation

end IssueBoard
