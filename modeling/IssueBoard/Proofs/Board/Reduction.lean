import IssueBoard.Board.Evaluate
import IssueBoard.Proofs.Config.Document
import IssueBoard.Proofs.Evaluation.Preservation
import IssueBoard.Proofs.Query.Pagination
import IssueBoard.Proofs.Query.Provenance
import Mathlib.Data.List.Forall2

/-! # What widgets reduce to

Whatever a world answers, a widget that is evaluated comes to a widget of the form that its own form
promises: a number, a text, a graph of numbers or a table of numbers and texts. A text around a value is
there afterwards exactly if it was there before or something has taken its place: what a script has set,
or the address of a search. A container keeps the number and the order of its parts.
-/

namespace IssueBoard

variable {σ V : Type}

/-- Whether a container admits a widget as one of its parts. -/
def Container.admits : Container → Widget → Bool
  | .graph => Widget.isNumber
  | .table => Widget.isCell

/-- The figure of a total shows the total as it is. -/
theorem Figure.toData_ofTotal (total : Total) : (Figure.ofTotal total).toData = total.toData := by
  rw [ofTotal]
  generalize total.toData = value
  unfold ofData
  split
  · rfl
  · rfl
  · rcases value with (_ | _ | _ | _ | _ | _ | _) | _ | _ | _ | _ <;> rfl

/-- What stands under a name in the result of a script, unless it is absent. -/
def World.setting? (world : World σ V) (session : Session σ V) (result : V) (name : String) : Option V :=
  (world.field? session result name).filter fun value => !(world.view session value).isNull

/-- What the result of a script stands for: what it holds under `value`, or else itself. -/
def World.payload (world : World σ V) (session : Session σ V) (result : V) : Data :=
  world.view session ((world.field? session result "value").getD result)

/-- Whether the result of a script sets a field around its value. -/
def World.Sets (world : World σ V) (session : Session σ V) (result : V) (name : String) : Prop :=
  (world.field? session result "value").isSome ∧ (world.setting? session result name).isSome

/-- Whether a text is there exactly if it was there before or its field has been set. -/
def Filled (set : String → Prop) (name : String) (before after : Option String) : Prop :=
  after.isSome ↔ before.isSome ∨ set name

/-- A caption whose texts have been filled in, given which fields have been set. -/
structure Caption.Filled (set : String → Prop) (before after : Caption) : Prop where
  title : IssueBoard.Filled set "title" before.title after.title
  url : after.url.isSome ↔ before.url.isSome ∨ set "url"
  page : before.LinksToPage → after.LinksToPage

/-- Whether nothing has been set. -/
def unset : String → Prop := fun _ => False

/-- The address of a search takes the place of a link that is absent. -/
theorem Caption.Filled.orPage {before after : Caption} (filled : before.Filled unset after)
    (page : String) :
    before.Filled (· = "url") { after with url := after.url.or (some (.page page)) } ∧
      (before.url = none → after.url.or (some (.page page)) = some (.page page)) := by
  refine ⟨⟨?_, ?_, ?_⟩, ?_⟩
  · have title := filled.title
    simpa [IssueBoard.Filled, unset] using title
  · simp
  · intro links link member
    rcases linked : after.url with _ | own
    · rw [linked, Option.none_or] at member
      cases member
      exact ⟨page, rfl⟩
    · rw [linked, Option.some_or] at member
      exact filled.page links link (linked ▸ member)
  · intro absent
    have none : after.url = none := by
      have url := filled.url
      rw [absent] at url
      simpa [unset] using url
    rw [none, Option.none_or]

namespace Evaluation

variable {world : World σ V} {focus : Focus V}

/-- The cell of an item in a table of search results: a text that links to the page of the item, as
the item is once the text is known. -/
def ShowsItem (world : World σ V) (item : V) (cell : Widget) : Prop :=
  ∃ text url during, itemLink (world.view during item) = .ok url ∧ cell = .string { url } text none none

mutual

/-- What a widget comes to that is evaluated in a session. -/
inductive Reduces (world : World σ V) (focus : Focus V) : Session σ V → Widget → Widget → Prop
  | number {session : Session σ V} {before after : Caption} {value : Figure}
    {color color' : Option String} (n : Number) (caption : before.Filled unset after)
    (colors : Filled unset "color" color color') :
    Reduces world focus session (.number before value color) (.number after (.number n) color')
  | string {session : Session σ V} {before after : Caption} {template : String}
    {align color align' color' : Option String} (text : String) (caption : before.Filled unset after)
    (aligns : Filled unset "align" align align') (colors : Filled unset "color" color color') :
    Reduces world focus session (.string before template align color) (.string after text align' color')
  | queryNumber {session during : Session σ V} {before after : Caption} {search : Search}
    {color color' : Option String} {results : QueryResults V}
    (ran : (runQuery world defaultPageSize focus search.kind search.query 0).runFrom session =
      (.ok results, during))
    (value : Figure) (shown : value.toData = results.total.toData)
    (caption : before.Filled (· = "url") after)
    (url : before.url = none → after.url = some (.page results.url))
    (colors : Filled unset "color" color color') :
    Reduces world focus session (.queryNumber before search color) (.number after value color')
  | scriptNumber {session during : Session σ V} {before after : Caption} {script : String}
    {color color' : Option String} {result : V}
    (ran : (runScript world focus.scope script).runFrom session = (.ok result, during)) (n : Number)
    (caption : before.Filled (world.Sets during result) after)
    (colors : Filled (world.Sets during result) "color" color color') :
    Reduces world focus session (.scriptNumber before script color) (.number after (.number n) color')
  | scriptString {session during : Session σ V} {before after : Caption} {script : String}
    {align color align' color' : Option String} {result : V}
    (ran : (runScript world focus.scope script).runFrom session = (.ok result, during)) (text : String)
    (caption : before.Filled (world.Sets during result) after)
    (aligns : Filled (world.Sets during result) "align" align align')
    (colors : Filled (world.Sets during result) "color" color color') :
    Reduces world focus session (.scriptString before script align color)
      (.string after text align' color')
  | graph {session during : Session σ V} {before after : Caption} {elements numbers : List Widget}
    (inTurn : ReduceInTurn world focus session elements numbers during)
    (admitted : ∀ number ∈ numbers, number.isNumber = true) (caption : before.Filled unset after) :
    Reduces world focus session (.graph before elements) (.graph after numbers)
  | table {session between during : Session σ V} {before after : Caption}
    {headers headers' : List Widget} {rows rows' : List (List Widget)}
    (inTurn : ReduceInTurn world focus session headers headers' between)
    (admitted : ∀ header ∈ headers', header.isCell = true)
    (rowsInTurn : RowsReduceInTurn world focus between rows rows' during)
    (caption : before.Filled unset after) :
    Reduces world focus session (.table before headers rows) (.table after headers' rows')
  | queryTable {session during : Session σ V} {before after : Caption} {search : Search} {limit : Int}
    {fields : Option (List Field)} {results : QueryResults V} {rows : List (List Widget)}
    (ran : (runQuery world defaultPageSize focus search.kind search.query limit).runFrom session =
      (.ok results, during))
    (rowsOfItems : List.Forall₂ (fun item row => List.Forall₂ (fun _ cell => ShowsItem world item cell)
      (resolvedFields search.kind fields) row) results.items rows)
    (caption : before.Filled (· = "url") after)
    (url : before.url = none → after.url = some (.page results.url)) :
    Reduces world focus session (.queryTable before search limit fields)
      (.table after ((resolvedFields search.kind fields).map fun field => .string {} field.label none none)
        rows)

/-- What widgets come to that are evaluated one after the other. -/
inductive ReduceInTurn (world : World σ V) (focus : Focus V) :
    Session σ V → List Widget → List Widget → Session σ V → Prop
  | nil (session : Session σ V) : ReduceInTurn world focus session [] [] session
  | cons {session during after : Session σ V} {widget result : Widget} {widgets results : List Widget}
    (ran : (evaluate world focus widget).runFrom session = (.ok result, during))
    (first : Reduces world focus session widget result)
    (rest : ReduceInTurn world focus during widgets results after) :
    ReduceInTurn world focus session (widget :: widgets) (result :: results) after

/-- What rows of cells come to that are evaluated one after the other. -/
inductive RowsReduceInTurn (world : World σ V) (focus : Focus V) :
    Session σ V → List (List Widget) → List (List Widget) → Session σ V → Prop
  | nil (session : Session σ V) : RowsReduceInTurn world focus session [] [] session
  | cons {session during after : Session σ V} {row cells : List Widget} {rows results : List (List Widget)}
    (first : ReduceInTurn world focus session row cells during)
    (admitted : ∀ cell ∈ cells, cell.isCell = true)
    (rest : RowsReduceInTurn world focus during rows results after) :
    RowsReduceInTurn world focus session (row :: rows) (cells :: results) after

end

/-! ## Texts around values -/

section Texts

variable {session after : Session σ V}

theorem isSome_of_resolveOptional {template found : Option String}
    (ran : (resolveOptional world focus template).runFrom session = (.ok found, after)) :
    found.isSome = template.isSome := by
  cases template with
  | none =>
    cases ran
    rfl
  | some template =>
    rw [resolveOptional, runFrom_bind_eq_ok_iff] at ran
    obtain ⟨text, during, -, done⟩ := ran
    cases done
    rfl

theorem filled_of_resolveOptional {template found : Option String} {set : String → Prop} {name : String}
    (ran : (resolveOptional world focus template).runFrom session = (.ok found, after))
    (left : ¬ set name) : Filled set name template found := by
  rw [Filled, isSome_of_resolveOptional ran, or_iff_left left]

theorem resolveLink_ok {link found : Option Link}
    (ran : (resolveLink world focus link).runFrom session = (.ok found, after)) :
    found.isSome = link.isSome ∧
      (Caption.LinksToPage { url := link } → Caption.LinksToPage { url := found }) := by
  rcases link with _ | template | value
  · cases ran
    exact ⟨rfl, id⟩
  · simp only [resolveLink, runFrom_bind_eq_ok_iff] at ran
    obtain ⟨text, during, -, done⟩ := ran
    cases done
    refine ⟨rfl, fun _ => ?_⟩
    rintro _ ⟨⟩
    exact ⟨text, rfl⟩
  · cases ran
    exact ⟨rfl, id⟩

/-- What the result of a script sets is read off without changing anything. -/
theorem runFrom_overridesOf (world : World σ V) (result : V) (names : List String) (session : Session σ V) :
    (overridesOf world result names).runFrom session =
      (.ok (names.filterMap fun name => (world.setting? session result name).map (name, ·)), session) := by
  induction names with
  | nil => rfl
  | cons first rest ih =>
    have fieldRan : (field? world result first).runFrom session =
        (.ok (world.field? session result first), session) := rfl
    have viewRan (value : V) : (view world value).runFrom session =
        (.ok (world.view session value), session) := rfl
    simp only [overridesOf, runFrom_bind, fieldRan, ih, List.filterMap_cons]
    rcases present : world.field? session result first with _ | value
    · have setting : world.setting? session result first = none := by rw [World.setting?, present]; rfl
      simp only [setting, Option.map_none, runFrom_pure]
    · have setting : world.setting? session result first =
          if (world.view session value).isNull then none else some value := by
        rw [World.setting?, present]
        cases null : (world.view session value).isNull <;> simp [null]
      simp only [runFrom_bind, viewRan, setting]
      cases (world.view session value).isNull <;> rfl

theorem lookup_settings (setting? : String → Option V) (names : List String) (name : String) :
    (names.filterMap fun name => (setting? name).map (name, ·)).lookup name =
      if name ∈ names then setting? name else none := by
  induction names with
  | nil => rfl
  | cons first rest ih =>
    rw [List.filterMap_cons]
    by_cases here : name = first
    · subst here
      cases present : setting? name with
      | none => simp [ih, present]
      | some value => simp
    · cases present : setting? first with
      | none => simp [ih, here]
      | some value => simp [List.lookup_cons, beq_eq_false_iff_ne.mpr here, ih, here]

/-- All that the result of a script sets. -/
def settings (world : World σ V) (session : Session σ V) (result : V) : Overrides V :=
  if (world.field? session result "value").isSome then
    overridable.filterMap fun name => (world.setting? session result name).map (name, ·)
  else []

/-- The result of a script is split into its payload and what it sets. -/
theorem runFrom_splitResult_eq (world : World σ V) (result : V) (session : Session σ V) :
    (splitResult world result).runFrom session =
      (.ok (world.payload session result, settings world session result), session) := by
  have fieldRan : (field? world result "value").runFrom session =
      (.ok (world.field? session result "value"), session) := rfl
  have viewRan (value : V) : (view world value).runFrom session =
      (.ok (world.view session value), session) := rfl
  simp only [splitResult, runFrom_bind, fieldRan, World.payload, settings]
  cases world.field? session result "value" with
  | none => rfl
  | some value => simp only [runFrom_bind, viewRan, runFrom_overridesOf, runFrom_pure, Option.getD_some,
      Option.isSome_some, if_true]

/-- The value of a script's result, and exactly the fields that the result sets. -/
theorem runFrom_splitResult (world : World σ V) (result : V) (session : Session σ V) :
    ∃ value overrides,
      (splitResult world result).runFrom session = (.ok (value, overrides), session) ∧
        ∀ name ∈ overridable, ((overrides.lookup name).isSome ↔ world.Sets session result name) := by
  refine ⟨_, _, runFrom_splitResult_eq world result session, fun name member => ?_⟩
  rw [settings, World.Sets]
  split
  next object => rw [lookup_settings, if_pos member, and_iff_right object]
  next absent => simp [absent]

/-- Fields are filled in by what a script sets, or by their own templates. -/
theorem filled_of_fillField {overrides : Overrides V} {value : Data} {name : String}
    {template found : Option String} {set : String → Prop}
    (sets : (overrides.lookup name).isSome ↔ set name)
    (ran : (fillField world overrides value name template).runFrom session = (.ok found, after)) :
    Filled set name template found := by
  rw [fillField] at ran
  rw [Filled, ← sets]
  cases known : overrides.lookup name with
  | none =>
    simp only [known] at ran
    simp [isSome_of_resolveOptional ran]
  | some replaced =>
    simp only [known, runFrom_bind_eq_ok_iff] at ran
    obtain ⟨text, during, -, done⟩ := ran
    cases done
    simp

theorem fillLink_ok {overrides : Overrides V} {value : Data} {link found : Option Link}
    {set : String → Prop} (sets : (overrides.lookup "url").isSome ↔ set "url")
    (ran : (fillLink world overrides value link).runFrom session = (.ok found, after)) :
    (found.isSome ↔ link.isSome ∨ set "url") ∧
      (Caption.LinksToPage { url := link } → Caption.LinksToPage { url := found }) := by
  rw [fillLink] at ran
  rw [← sets]
  cases known : overrides.lookup "url" with
  | none =>
    simp only [known] at ran
    obtain ⟨same, page⟩ := resolveLink_ok ran
    refine ⟨?_, page⟩
    simp [same]
  | some replaced =>
    simp only [known, runFrom_bind_eq_ok_iff] at ran
    obtain ⟨text, during, -, done⟩ := ran
    cases done
    refine ⟨by simp, fun _ => ?_⟩
    rintro _ ⟨⟩
    exact ⟨text, rfl⟩

theorem sets_nothing : ∀ name ∈ overridable,
    ((([] : Overrides V).lookup name).isSome ↔ unset name) := by
  intro name _
  simp [unset]

theorem fillNumber_ok {overrides : Overrides V} {caption : Caption} {value : Figure}
    {color page : Option String} {widget : Widget} {set : String → Prop}
    (sets : ∀ name ∈ overridable, ((overrides.lookup name).isSome ↔ set name))
    (ran : (fillNumber world overrides caption value color page).runFrom session = (.ok widget, after)) :
    ∃ filled color', caption.Filled set filled ∧ Filled set "color" color color' ∧
      widget = .number { filled with url := filled.url.or (page.map .page) } value color' := by
  simp only [fillNumber, runFrom_bind_eq_ok_iff] at ran
  obtain ⟨title, _, titleRan, url, _, urlRan, color', _, colorRan, done⟩ := ran
  cases done
  have ⟨there, page⟩ := fillLink_ok (sets "url" (by decide)) urlRan
  refine ⟨{ title, url }, color', ⟨?_, there, page⟩, ?_, rfl⟩
  · exact filled_of_fillField (sets "title" (by decide)) titleRan
  · exact filled_of_fillField (sets "color" (by decide)) colorRan

theorem fillString_ok {overrides : Overrides V} {caption : Caption} {value : String}
    {align color : Option String} {widget : Widget} {set : String → Prop}
    (sets : ∀ name ∈ overridable, ((overrides.lookup name).isSome ↔ set name))
    (ran : (fillString world overrides caption value align color).runFrom session = (.ok widget, after)) :
    ∃ filled align' color', caption.Filled set filled ∧ Filled set "align" align align' ∧
      Filled set "color" color color' ∧ widget = .string filled value align' color' := by
  simp only [fillString, runFrom_bind_eq_ok_iff] at ran
  obtain ⟨title, _, titleRan, url, _, urlRan, align', _, alignRan, color', _, colorRan, done⟩ := ran
  cases done
  have ⟨there, page⟩ := fillLink_ok (sets "url" (by decide)) urlRan
  refine ⟨{ title, url }, align', color', ⟨?_, there, page⟩, ?_, ?_, rfl⟩
  · exact filled_of_fillField (sets "title" (by decide)) titleRan
  · exact filled_of_fillField (sets "align" (by decide)) alignRan
  · exact filled_of_fillField (sets "color" (by decide)) colorRan

end Texts

/-- The caption of a container is filled in after its parts. -/
theorem filled_of_resolved {caption : Caption} {title : Option String} {url : Option Link}
    {session between during after : Session σ V}
    (titleRan : (resolveOptional world focus caption.title).runFrom session = (.ok title, between))
    (urlRan : (resolveLink world focus caption.url).runFrom during = (.ok url, after)) :
    caption.Filled unset { title, url } := by
  obtain ⟨same, page⟩ := resolveLink_ok urlRan
  refine ⟨filled_of_resolveOptional titleRan id, ?_, page⟩
  rw [same, unset, or_false]

/-! ## Rows of search results -/

section Items

variable {session after : Session σ V}

theorem showsItem_of_evaluateField {item : V} {field : Field} {cell : Widget}
    (ran : (evaluateField world item field).runFrom session = (.ok cell, after)) :
    ShowsItem world item cell := by
  rw [evaluateField, runFrom_bind_eq_ok_iff] at ran
  obtain ⟨before, _, -, ran⟩ := ran
  rcases template : field.template with _ | template
  all_goals
    simp only [template, runFrom_bind_eq_ok_iff] at ran
    obtain ⟨text, during, -, shown, _, viewed, url, _, linked, done⟩ := ran
    cases viewed
    cases done
    rw [runFrom_ofExcept, Prod.mk.injEq] at linked
    exact ⟨text, url, during, linked.1, rfl⟩

theorem showsItem_of_evaluateFields {item : V} {fields : List Field} {cells : List Widget}
    (ran : (evaluateFields world item fields).runFrom session = (.ok cells, after)) :
    List.Forall₂ (fun _ cell => ShowsItem world item cell) fields cells := by
  induction fields generalizing session cells with
  | nil =>
    cases ran
    exact .nil
  | cons field rest ih =>
    simp only [evaluateFields, runFrom_bind_eq_ok_iff] at ran
    obtain ⟨cell, during, first, others, _, later, done⟩ := ran
    cases done
    exact .cons (showsItem_of_evaluateField first) (ih later)

theorem showsItem_of_evaluateItems {fields : List Field} {items : List V} {rows : List (List Widget)}
    (ran : (evaluateItems world fields items).runFrom session = (.ok rows, after)) :
    List.Forall₂ (fun item row => List.Forall₂ (fun _ cell => ShowsItem world item cell) fields row)
      items rows := by
  induction items generalizing session rows with
  | nil =>
    cases ran
    exact .nil
  | cons item rest ih =>
    simp only [evaluateItems, runFrom_bind_eq_ok_iff] at ran
    obtain ⟨row, during, first, others, _, later, done⟩ := ran
    cases done
    exact .cons (showsItem_of_evaluateFields first) (ih later)

end Items

/-! ## Widgets -/

theorem resolveFigure_ok {value figure : Figure} {session after : Session σ V}
    (ran : (resolveFigure world focus value).runFrom session = (.ok figure, after)) :
    ∃ n, figure = .number n := by
  rcases value with n | b | template | value
  · cases ran
    exact ⟨n, rfl⟩
  all_goals
    simp only [resolveFigure, runFrom_bind_eq_ok_iff] at ran
  · obtain ⟨text, _, -, done⟩ := ran
    cases done
    exact ⟨_, rfl⟩
  · obtain ⟨text, _, -, done⟩ := ran
    cases done
    exact ⟨_, rfl⟩
  · obtain ⟨template, _, -, text, _, -, done⟩ := ran
    cases done
    exact ⟨_, rfl⟩

theorem accept_eq (container : Container) (widget : Widget) :
    (accept container widget : Evaluation σ V Widget) =
      if container.admits widget then pure widget
      else throw (.widgetType container widget.kind) := by
  cases container <;> rfl

theorem accept_ok {container : Container} {widget result : Widget} {session after : Session σ V}
    (ran : (accept container widget : Evaluation σ V Widget).runFrom session = (.ok result, after)) :
    result = widget ∧ after = session ∧ container.admits widget = true := by
  rw [accept_eq] at ran
  cases admitted : container.admits widget with
  | true =>
    rw [admitted, if_pos rfl] at ran
    cases ran
    exact ⟨rfl, rfl, rfl⟩
  | false =>
    rw [admitted, if_neg Bool.false_ne_true] at ran
    cases ran

mutual

/-- A widget that is evaluated reduces to its result. -/
theorem reduces_of_evaluate (world : World σ V) (focus : Focus V) (widget : Widget)
    {session after : Session σ V} {result : Widget}
    (ran : (evaluate world focus widget).runFrom session = (.ok result, after)) :
    Reduces world focus session widget result :=
  match widget with
  | .number caption value color => by
    simp only [evaluate, runFrom_bind_eq_ok_iff] at ran
    obtain ⟨figure, during, figured, filled⟩ := ran
    obtain ⟨n, rfl⟩ := resolveFigure_ok figured
    obtain ⟨after, color', captions, colors, rfl⟩ := fillNumber_ok sets_nothing filled
    simp only [Option.map_none, Option.or_none]
    exact .number n captions colors
  | .string caption value align color => by
    simp only [evaluate, runFrom_bind_eq_ok_iff] at ran
    obtain ⟨text, during, -, filled⟩ := ran
    obtain ⟨after, align', color', captions, aligns, colors, rfl⟩ := fillString_ok sets_nothing filled
    exact .string text captions aligns colors
  | .queryNumber caption search color => by
    simp only [evaluate, runFrom_bind_eq_ok_iff] at ran
    obtain ⟨results, during, found, filled⟩ := ran
    obtain ⟨after, color', captions, colors, rfl⟩ := fillNumber_ok sets_nothing filled
    obtain ⟨captions, url⟩ := captions.orPage results.url
    exact .queryNumber found _ (Figure.toData_ofTotal results.total) captions url colors
  | .scriptNumber caption script color => by
    simp only [evaluate, runFrom_bind_eq_ok_iff] at ran
    obtain ⟨result, during, called, ⟨value, overrides⟩, _, split, n, _, -, filled⟩ := ran
    obtain ⟨value', overrides', split', sets⟩ := runFrom_splitResult world result during
    rw [split'] at split
    cases split
    obtain ⟨after, color', captions, colors, rfl⟩ := fillNumber_ok sets filled
    simp only [Option.map_none, Option.or_none]
    exact .scriptNumber called n captions colors
  | .scriptString caption script align color => by
    simp only [evaluate, runFrom_bind_eq_ok_iff] at ran
    obtain ⟨result, during, called, ⟨value, overrides⟩, _, split, text, _, -, filled⟩ := ran
    obtain ⟨value', overrides', split', sets⟩ := runFrom_splitResult world result during
    rw [split'] at split
    cases split
    obtain ⟨after, align', color', captions, aligns, colors, rfl⟩ := fillString_ok sets filled
    exact .scriptString called text captions aligns colors
  | .graph caption elements => by
    simp only [evaluate, runFrom_bind_eq_ok_iff] at ran
    obtain ⟨numbers, during, inTurn, title, _, titleRan, url, _, urlRan, done⟩ := ran
    cases done
    obtain ⟨inTurn, admitted⟩ := reduceInTurn_of_evaluateAll world focus .graph elements inTurn
    exact .graph inTurn admitted (filled_of_resolved titleRan urlRan)
  | .table caption headers rows => by
    simp only [evaluate, runFrom_bind_eq_ok_iff] at ran
    obtain ⟨headers', between, inTurn, rows', during, rowsInTurn, title, _, titleRan, url, _, urlRan,
      done⟩ := ran
    cases done
    obtain ⟨inTurn, admitted⟩ := reduceInTurn_of_evaluateAll world focus .table headers inTurn
    exact .table inTurn admitted (rowsReduceInTurn_of_evaluateRows world focus rows rowsInTurn)
      (filled_of_resolved titleRan urlRan)
  | .queryTable caption search limit fields => by
    simp only [evaluate, runFrom_bind_eq_ok_iff] at ran
    obtain ⟨results, during, found, rows, _, shown, title, _, titleRan, url, _, urlRan, done⟩ := ran
    cases done
    obtain ⟨captions, url⟩ := (filled_of_resolved titleRan urlRan).orPage results.url
    exact .queryTable found (showsItem_of_evaluateItems shown) captions url
  | .unknown kind title => by
    rw [evaluate] at ran
    cases ran

/-- The widgets in a container are reduced one after the other, and the container admits them. -/
theorem reduceInTurn_of_evaluateAll (world : World σ V) (focus : Focus V) (container : Container)
    (widgets : List Widget) {session after : Session σ V} {results : List Widget}
    (ran : (evaluateAll world focus container widgets).runFrom session = (.ok results, after)) :
    ReduceInTurn world focus session widgets results after ∧
      ∀ result ∈ results, container.admits result = true :=
  match widgets with
  | [] => by
    rw [evaluateAll] at ran
    cases ran
    exact ⟨.nil session, List.forall_mem_nil _⟩
  | widget :: rest => by
    simp only [evaluateAll, runFrom_bind_eq_ok_iff] at ran
    obtain ⟨first, during, evaluated, _, _, accepted, others, _, later, done⟩ := ran
    cases done
    obtain ⟨rfl, rfl, admitted⟩ := accept_ok accepted
    obtain ⟨inTurn, others⟩ := reduceInTurn_of_evaluateAll world focus container rest later
    refine ⟨.cons evaluated (reduces_of_evaluate world focus widget evaluated) inTurn, ?_⟩
    exact List.forall_mem_cons.mpr ⟨admitted, others⟩

/-- The rows of a table are reduced one after the other. -/
theorem rowsReduceInTurn_of_evaluateRows (world : World σ V) (focus : Focus V)
    (rows : List (List Widget)) {session after : Session σ V} {results : List (List Widget)}
    (ran : (evaluateRows world focus rows).runFrom session = (.ok results, after)) :
    RowsReduceInTurn world focus session rows results after :=
  match rows with
  | [] => by
    rw [evaluateRows] at ran
    cases ran
    exact .nil session
  | row :: rest => by
    simp only [evaluateRows, runFrom_bind_eq_ok_iff] at ran
    obtain ⟨cells, during, evaluated, others, _, later, done⟩ := ran
    cases done
    obtain ⟨inTurn, admitted⟩ := reduceInTurn_of_evaluateAll world focus .table row evaluated
    exact .cons inTurn admitted (rowsReduceInTurn_of_evaluateRows world focus rest later)

end

/-! ## Sections and dashboards -/

theorem reduceInTurn_of_evaluateWidgets {widgets results : List Widget} {session after : Session σ V}
    (ran : (evaluateWidgets world focus widgets).runFrom session = (.ok results, after)) :
    ReduceInTurn world focus session widgets results after := by
  induction widgets generalizing session results with
  | nil =>
    cases ran
    exact .nil after
  | cons widget rest ih =>
    simp only [evaluateWidgets, runFrom_bind_eq_ok_iff] at ran
    obtain ⟨first, during, evaluated, others, _, later, done⟩ := ran
    cases done
    exact .cons evaluated (reduces_of_evaluate world focus widget evaluated) (ih later)

/-- What a section comes to: its widgets one after the other, under the texts that it has. -/
structure SectionReduces (world : World σ V) (before after : Section) : Prop where
  title : after.title.isSome = before.title.isSome
  description : after.description.isSome = before.description.isSome
  widgets : ∃ session during,
    ReduceInTurn world .whole session before.widgets after.widgets during

theorem sectionReduces_of_evaluateSection {part result : Section} {session after : Session σ V}
    (ran : (evaluateSection world .whole part).runFrom session = (.ok result, after)) :
    SectionReduces world part result := by
  simp only [evaluateSection, runFrom_bind_eq_ok_iff] at ran
  obtain ⟨widgets, during, evaluated, title, _, titleRan, description, _, descriptionRan, done⟩ := ran
  cases done
  refine ⟨isSome_of_resolveOptional titleRan, isSome_of_resolveOptional descriptionRan, ?_⟩
  exact ⟨session, during, reduceInTurn_of_evaluateWidgets evaluated⟩

theorem sectionReduces_of_evaluateSections {sections results : List Section}
    {session after : Session σ V}
    (ran : (evaluateSections world sections).runFrom session = (.ok results, after)) :
    List.Forall₂ (SectionReduces world) sections results := by
  induction sections generalizing session results with
  | nil =>
    cases ran
    exact .nil
  | cons part rest ih =>
    simp only [evaluateSections, runFrom_bind_eq_ok_iff] at ran
    obtain ⟨first, during, evaluated, others, _, later, done⟩ := ran
    cases done
    exact .cons (sectionReduces_of_evaluateSection evaluated) (ih later)

/-- What a dashboard comes to: its sections one after the other, under the texts that it has, and
nothing left to run. -/
structure DashboardReduces (world : World σ V) (before after : Dashboard) : Prop where
  title : after.title.isSome = before.title.isSome
  description : after.description.isSome = before.description.isSome
  sections : List.Forall₂ (SectionReduces world) before.sections after.sections
  setup : after.setup = none
  shutdown : after.shutdown = none

theorem dashboardReduces_of_evaluateDashboard {dashboard result : Dashboard}
    {session after : Session σ V}
    (ran : (evaluateDashboard world dashboard).runFrom session = (.ok result, after)) :
    DashboardReduces world dashboard result := by
  simp only [evaluateDashboard, runFrom_bind_eq_ok_iff] at ran
  obtain ⟨_, _, -, sections, _, evaluated, title, _, titleRan, description, _, descriptionRan, _, _, -,
    done⟩ := ran
  cases done
  exact ⟨isSome_of_resolveOptional titleRan, isSome_of_resolveOptional descriptionRan,
    sectionReduces_of_evaluateSections evaluated, rfl, rfl⟩

/-- The page of an item is the address that the item holds, if it holds one or nothing. -/
theorem linksToPage_of_itemLink {item : Data} {url : Option Link} (linked : itemLink item = .ok url)
    (plain : ∀ value, item.field? "html_url" = some value → value = .null ∨ ∃ page, value = .text page) :
    Caption.LinksToPage { url } := by
  cases item with
  | object entries =>
    cases linked
    intro link member
    obtain ⟨value, found, shown⟩ := Option.bind_eq_some_iff.mp member
    rcases plain value found with rfl | ⟨page, rfl⟩
    · cases shown
    · cases shown
      exact ⟨page, rfl⟩
  | atom | list | set | record => cases linked

/-- **What evaluation gives is static and keeps its shape**, whatever the world answers. A widget that
is evaluated reduces to its result; the cells of items link to pages if the items do; and a dashboard
keeps its sections with their widgets, and has nothing left to run. -/
theorem evaluate_reduces (world : World σ V) :
    (∀ focus widget session result after,
      (evaluate world focus widget).runFrom session = (.ok result, after) →
        Reduces world focus session widget result) ∧
    (∀ item url, itemLink item = .ok url →
      (∀ value, item.field? "html_url" = some value → value = .null ∨ ∃ page, value = .text page) →
        Caption.LinksToPage { url }) ∧
    ∀ dashboard session result after,
      (evaluateDashboard world dashboard).runFrom session = (.ok result, after) →
        DashboardReduces world dashboard result :=
  ⟨fun focus widget _ _ _ ran => reduces_of_evaluate world focus widget ran,
    fun _ _ linked plain => linksToPage_of_itemLink linked plain,
    fun _ _ _ _ ran => dashboardReduces_of_evaluateDashboard ran⟩

/-- A graph of a number that is written down and one that is searched for, with a title only. -/
def openGraph : Widget :=
  .graph { title := some "Open" } [.number {} (.text "3") none, .queryNumber {} { query := "is:open" } none]

theorem evaluate_reduces_openGraph :
    let world := Catalogue.world [] "https://github.com"
    let run := (evaluate world .whole openGraph).runFrom { state := openIssues }
    ∃ result, run.1 = .ok result ∧ Reduces world .whole { state := openIssues } openGraph result := by
  intro world run
  have succeeds : run.1.isOk = true := by decide +kernel
  rcases outcome : run with ⟨failure | result, after⟩
  · rw [outcome] at succeeds
    cases succeeds
  · exact ⟨result, rfl, (evaluate_reduces world).1 .whole openGraph _ result after outcome⟩

/-- Between two searches for the same issues a script puts a word in place of their number. -/
def manyIssues : List Widget :=
  [.queryNumber {} { query := "is:open" } none,
    .scriptNumber {} "querycache['is:open'].total_count = 'many'\nreturn 1" none,
    .queryNumber {} { query := "is:open" } none]

/-- The text that the third and last widget holds as its number. -/
def thirdNumberText? : List Widget → Option String
  | [_, _, .number _ (.text text) _] => some text
  | _ => none

theorem eq_of_thirdNumberText? {widgets : List Widget} {text : String}
    (shown : thirdNumberText? widgets = some text) :
    ∃ first second caption color, widgets = [first, second, .number caption (.text text) color] := by
  revert shown
  fun_cases thirdNumberText? widgets with
  | case1 first second caption word color =>
    rintro ⟨⟩
    exact ⟨first, second, caption, color, rfl⟩
  | case2 => exact nofun

/-- A number widget may come to hold a text if a script has put it into the query cache. -/
theorem evaluate_shows_text :
    ∃ first second caption color,
      ((evaluateWidgets catalogueHost.world .whole manyIssues).runFrom { state := oneIssue }).1 =
        .ok [first, second, .number caption (.text "many") color] := by
  have shown :
      (((evaluateWidgets catalogueHost.world .whole manyIssues).runFrom { state := oneIssue }).1.map
        thirdNumberText?).toOption = some (some "many") := by decide +kernel
  rcases outcome :
      ((evaluateWidgets catalogueHost.world .whole manyIssues).runFrom { state := oneIssue }).1 with
    failure | widgets
  · rw [outcome] at shown
    cases shown
  · rw [outcome] at shown
    obtain ⟨first, second, caption, color, rfl⟩ := eq_of_thirdNumberText? (Option.some.inj shown)
    exact ⟨first, second, caption, color, rfl⟩

end Evaluation

end IssueBoard
