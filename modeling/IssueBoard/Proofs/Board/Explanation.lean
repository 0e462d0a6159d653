import IssueBoard.Proofs.Board.Chronicle
import IssueBoard.Proofs.Config.Typing

/-! # Failures of evaluations

Evaluating a dashboard fails in ways of the program's own, or because author code does; apart from that
only values without a text, numerals of too many digits and a query cache that author code has put out of
order can make it fail. The history of an evaluation shows which of these it was.
-/

namespace IssueBoard

variable {σ V α β : Type}

/-! ## Typed dashboards -/

/-- Whether a kind of queries has a name. -/
def QueryKind.IsNamed : QueryKind → Prop
  | .issue => True
  | .other name => ∃ text, name = .text text

/-- Whether a widget is of a known kind and has values of the types that its kind asks for. -/
inductive Widget.IsTyped : Widget → Prop
  | number {caption : Caption} {value : Figure} {color : Option String}
    (plain : ∀ data, value ≠ .other data) : IsTyped (.number caption value color)
  | string {caption : Caption} {value : String} {align color : Option String} :
    IsTyped (.string caption value align color)
  | queryNumber {caption : Caption} {search : Search} {color : Option String}
    (named : search.kind.IsNamed) : IsTyped (.queryNumber caption search color)
  | scriptNumber {caption : Caption} {script : String} {color : Option String} :
    IsTyped (.scriptNumber caption script color)
  | scriptString {caption : Caption} {script : String} {align color : Option String} :
    IsTyped (.scriptString caption script align color)
  | graph {caption : Caption} {elements : List Widget} (bars : ∀ element ∈ elements, IsTyped element) :
    IsTyped (.graph caption elements)
  | table {caption : Caption} {headers : List Widget} {rows : List (List Widget)}
    (tops : ∀ header ∈ headers, IsTyped header) (cells : ∀ row ∈ rows, ∀ cell ∈ row, IsTyped cell) :
    IsTyped (.table caption headers rows)
  | queryTable {caption : Caption} {search : Search} {limit : Int} {fields : Option (List Field)}
    (named : search.kind.IsNamed) : IsTyped (.queryTable caption search limit fields)

/-- Whether all widgets of a dashboard are of known kinds and have values of their types. -/
def Dashboard.IsTyped (dashboard : Dashboard) : Prop :=
  ∀ part ∈ dashboard.sections, ∀ widget ∈ part.widgets, widget.IsTyped

theorem isTyped_of_isElement {element : Widget} (fits : element.IsElement) : element.IsTyped := by
  cases element with
  | number caption value color =>
    refine .number fun data same => ?_
    subst same
    exact fits.2
  | queryNumber caption search color =>
    refine .queryNumber ?_
    rw [fits.2]
    trivial
  | _ => cases fits

theorem isTyped_of_isTextCell {cell : Widget} (fits : cell.IsTextCell) : cell.IsTyped := by
  cases cell with
  | string => exact .string
  | scriptString => exact .scriptString
  | _ => cases fits

theorem isTyped_of_isLoadable {widget : Widget} (loadable : widget.IsLoadable) : widget.IsTyped := by
  cases widget with
  | number | string | queryNumber | scriptString =>
    exact loadable.elim isTyped_of_isElement isTyped_of_isTextCell
  | scriptNumber => exact .scriptNumber
  | graph => exact .graph fun element member => isTyped_of_isElement (loadable.2 element member)
  | table =>
    refine .table (fun header member => isTyped_of_isTextCell (loadable.2.1 header member)) ?_
    exact fun row member cell among => isTyped_of_isTextCell (loadable.2.2 row member cell among)
  | queryTable caption search limit fields =>
    refine .queryTable ?_
    rw [loadable.2.1]
    trivial
  | unknown => cases loadable

/-- What is loaded from a configuration is typed. -/
theorem isTyped_of_ofData {data : Data} {configuration : Config.Configuration}
    (loaded : Config.Configuration.ofData data = .ok configuration) : configuration.dashboard.IsTyped :=
  fun part member widget among =>
    isTyped_of_isLoadable (Config.isLoadable_of_ofData loaded part member widget among)

namespace Evaluation

variable {world : World σ V} {known : List (Event σ V)} {now : Session σ V → Prop} {focus : Focus V}

/-! ## Values and what stands around them -/

theorem tells_resolveOptional (template : Option String) :
    Tells world known now (resolveOptional world focus template)
      (resolveOptional world.chronicled focus template) := by
  cases template with
  | none => exact tells_pure none
  | some template => exact (tells_resolve _ template).bind_pure _

theorem tells_resolveLink (link : Option Link) :
    Tells world known now (resolveLink world focus link) (resolveLink world.chronicled focus link) := by
  rcases link with _ | template | value
  · exact tells_pure none
  · exact (tells_resolve _ template).bind_pure _
  · exact tells_pure _

/-- Whether overrides are what results of scripts have set. -/
def SetBy (world : World σ V) (known : List (Event σ V)) (overrides : Overrides V) : Prop :=
  ∀ name part, overrides.lookup name = some part → ∃ request before result after,
    .called request before (.ok result) after ∈ known ∧ (world.split after result).2.lookup name = some part

theorem SetBy.mono {later : List (Event σ V)} {overrides : Overrides V} (sets : SetBy world known overrides)
    (longer : known ⊆ later) : SetBy world later overrides := by
  intro name part set
  obtain ⟨request, before, result, after, called, same⟩ := sets name part set
  exact ⟨request, before, result, after, longer called, same⟩

theorem setBy_nil : SetBy world known [] := fun _ _ never => nomatch never

theorem tells_displaySet {overrides : Overrides V} {name : String} {part : V}
    (sets : SetBy world known overrides) (set : overrides.lookup name = some part) :
    Tells world known now (display world part) (display world.chronicled part) := by
  obtain ⟨request, before, result, after, called, same⟩ := sets name part set
  exact tells_display fun _ _ _ longer _ unwritten => .override (longer called) same unwritten

theorem tells_fillField {overrides : Overrides V} (sets : SetBy world known overrides) (value : Data)
    (name : String) (template : Option String) :
    Tells world known now (fillField world overrides value name template)
      (fillField world.chronicled overrides value name template) := by
  rw [fillField, fillField]
  cases set : overrides.lookup name with
  | none => exact tells_resolveOptional template
  | some part => exact (tells_displaySet sets set).bind_pure _

theorem tells_fillLink {overrides : Overrides V} (sets : SetBy world known overrides) (value : Data)
    (link : Option Link) :
    Tells world known now (fillLink world overrides value link)
      (fillLink world.chronicled overrides value link) := by
  rw [fillLink, fillLink]
  cases set : overrides.lookup "url" with
  | none => exact tells_resolveLink link
  | some part => exact (tells_displaySet sets set).bind_pure _

theorem tells_fillNumber {overrides : Overrides V} (sets : SetBy world known overrides) (caption : Caption)
    (value : Figure) (color page : Option String) :
    Tells world known now (fillNumber world overrides caption value color page)
      (fillNumber world.chronicled overrides caption value color page) := by
  refine (tells_fillField sets _ "title" caption.title).bind fun _ _ longer => ?_
  have sets := sets.mono longer
  refine (tells_fillLink sets _ caption.url).bind fun _ _ longer => ?_
  have sets := sets.mono longer
  exact (tells_fillField sets _ "color" color).bind_pure _

theorem tells_fillString {overrides : Overrides V} (sets : SetBy world known overrides) (caption : Caption)
    (value : String) (align color : Option String) :
    Tells world known now (fillString world overrides caption value align color)
      (fillString world.chronicled overrides caption value align color) := by
  refine (tells_fillField sets _ "title" caption.title).bind fun _ _ longer => ?_
  have sets := sets.mono longer
  refine (tells_fillLink sets _ caption.url).bind fun _ _ longer => ?_
  have sets := sets.mono longer
  refine (tells_fillField sets _ "align" align).bind fun _ _ longer => ?_
  have sets := sets.mono longer
  exact (tells_fillField sets _ "color" color).bind_pure _

theorem tells_resolveFigure {value : Figure} (plain : ∀ data, value ≠ .other data) :
    Tells world known now (resolveFigure world focus value)
      (resolveFigure world.chronicled focus value) := by
  rcases value with n | b | template | data
  · exact tells_pure _
  · exact (tells_resolve _ _).bind_pure _
  · exact (tells_resolve _ template).bind_pure _
  · exact absurd rfl (plain data)

/-! ## Scripts -/

/-- The number of a script's result is missed for a value without a text or for a text of too many
digits. -/
theorem strays_of_scriptNumber {history : List (Event σ V)} {final : Session σ V} {request : Call V}
    {before after : Session σ V} {result : V} {fault : Fault}
    (called : .called request before (.ok result) after ∈ history)
    (failed : scriptNumber (world.split after result).1 = .error fault) :
    world.Strays history final fault := by
  rw [scriptNumber] at failed
  split at failed
  · cases failed
  · rcases bind_eq_error_iff.mp failed with unwritten | ⟨text, written, failed⟩
    · exact .script called unwritten
    · dsimp only at failed
      split at failed
      · cases failed
      · next digits =>
        split at failed
        · next long =>
          cases failed
          simp only [Bool.or_eq_true, Bool.not_eq_true', not_or, Bool.not_eq_false] at digits
          exact .numeral called written (List.all_eq_true.mp digits.2) long
        · cases failed

/-- A script's result is at hand, taken apart. -/
def HasParts (world : World σ V) (known : List (Event σ V)) (parts : Data × Overrides V)
    (session : Session σ V) : Prop :=
  ∃ request before result, .called request before (.ok result) session ∈ known ∧
    parts = world.split session result

/-- A value is read from a script's result, and the rest goes on with it. -/
theorem tells_read {read : Data → Except Fault α} {value : Data} {overrides : Overrides V}
    {next : α → Evaluation σ V β} {toldNext : α → Evaluation (σ × List (Event σ V)) V β}
    (strays : ∀ history final request before after result fault,
      .called request before (.ok result) after ∈ history → read (world.split after result).1 = .error fault →
        world.Strays history final fault)
    (rest : ∀ later value, SetBy world later overrides →
      Tells world later (fun _ => True) (next value) (toldNext value)) :
    Tells world known (HasParts world known (value, overrides))
      (ofExcept ((read value).mapError .fault) >>= next)
      (ofExcept ((read value).mapError .fault) >>= toldNext) := by
  refine (recounts_ofFault ?_).bind fun later found longer => ?_
  · rintro final session fault longer ⟨request, before, result, called, parts⟩ missed
    obtain ⟨rfl, rfl⟩ := Prod.mk.inj parts
    exact strays final session request before session result fault (longer called) missed
  · refine Recounts.assume (P := SetBy world later overrides) ?_ fun sets => ?_
    · rintro session ⟨-, request, before, result, called, parts⟩ name part set
      obtain ⟨rfl, rfl⟩ := Prod.mk.inj parts
      exact ⟨request, before, result, session, longer called, set⟩
    · exact (rest later found sets).mono (fun _ _ => trivial) fun _ _ _ _ _ => trivial

/-- A script runs, its result is taken apart, and the rest goes on with the parts. -/
theorem tells_script (script : String) (bindings : Scope V)
    {next : Data × Overrides V → Evaluation σ V α}
    {toldNext : Data × Overrides V → Evaluation (σ × List (Event σ V)) V α}
    (rest : ∀ later parts, Tells world later (HasParts world later parts) (next parts) (toldNext parts)) :
    Tells world known now
      (runScript world bindings script >>= fun result => splitResult world result >>= next)
      (runScript world.chronicled bindings script >>= fun result =>
        splitResult world.chronicled result >>= toldNext) := by
  refine (recounts_runScript bindings script).bind fun _ result _ => ?_
  refine (recounts_splitResult result).bind fun later parts longer => (rest later parts).mono ?_ ?_
  · rintro session ⟨rfl, request, before, called⟩
    exact ⟨request, before, result, longer called, rfl⟩
  · exact fun _ _ _ _ _ => trivial

/-! ## Queries and items -/

theorem recounts_runQuery (fair : world.IsFair) {kind : QueryKind} (named : kind.IsNamed) (query : String)
    (limit : Int) :
    Recounts world known now (runQuery world defaultPageSize focus kind query limit)
      (runQuery world.chronicled defaultPageSize focus kind query limit)
      fun later results _ => (∀ item ∈ results.items, ∃ event ∈ later, event.Offers item) ∧
        ((∀ item ∈ results.items, world.IsObject item) ∨ ∃ event ∈ later, world.Upsets event) := by
  cases kind with
  | other name =>
    obtain ⟨text, rfl⟩ := named
    exact recounts_of_look fun session history _ => ⟨.error (.queryType text), rfl, rfl, fun _ _ => .own rfl⟩
  | issue =>
    refine (tells_resolve _ query).bind fun _ resolved _ => ?_
    refine (recounts_own fair.site).bind fun _ webUrl _ => ?_
    refine (recounts_fetch fair resolved limit).bind fun _ entry _ => recounts_pure ?_
    have given {item : V} (member : item ∈ slice none (some limit) entry.items) : item ∈ entry.items :=
      List.mem_of_mem_take (List.mem_of_mem_drop member)
    rintro later session longer ⟨offered, objects⟩
    refine ⟨fun item member => ?_, ?_⟩
    · obtain ⟨event, happened, offers⟩ := offered item (given member)
      exact ⟨event, longer happened, offers⟩
    · rcases objects with objects | ⟨event, happened, upsets⟩
      · exact .inl fun item member => objects item (given member)
      · exact .inr ⟨event, longer happened, upsets⟩

/-- What is known of an item of search results. -/
structure IsResult (world : World σ V) (known : List (Event σ V)) (item : V) : Prop where
  offered : ∃ event ∈ known, event.Offers item
  object : world.IsObject item ∨ ∃ event ∈ known, world.Upsets event

theorem IsResult.mono {later : List (Event σ V)} {item : V} (result : IsResult world known item)
    (longer : known ⊆ later) : IsResult world later item where
  offered := by
    obtain ⟨event, happened, offers⟩ := result.offered
    exact ⟨event, longer happened, offers⟩
  object := by
    rcases result.object with object | ⟨event, happened, upsets⟩
    · exact .inl object
    · exact .inr ⟨event, longer happened, upsets⟩

/-- An item of search results is an object unless the cache is out of order. -/
theorem IsResult.strays {item : V} (result : IsResult world known item) {session : Session σ V}
    (other : ∀ entries, world.view session item ≠ .object entries) :
    world.Strays known session .notAnItem := by
  refine .upset (result.object.resolve_left fun object => ?_) (.inl rfl)
  obtain ⟨entries, shown⟩ := object session
  exact other entries shown

theorem explains_showProperty {item : V} (result : IsResult world known item) {session : Session σ V}
    {name : String} {failure : Failure}
    (failed : showProperty (world.view session item) name = .error failure) :
    world.Explains known session failure := by
  unfold showProperty at failed
  split at failed
  · next entries object =>
    obtain ⟨fault, unwritten, rfl⟩ := mapError_eq_error_iff.mp failed
    exact .fault (.property result.offered object unwritten)
  · next other =>
    cases failed
    exact .fault (result.strays other)

theorem explains_itemLink {item : V} (result : IsResult world known item) {session : Session σ V}
    {failure : Failure} (failed : itemLink (world.view session item) = .error failure) :
    world.Explains known session failure := by
  unfold itemLink at failed
  split at failed
  · cases failed
  · next other =>
    cases failed
    exact .fault (result.strays other)

theorem tells_evaluateField {item : V} (result : IsResult world known item) (field : Field) :
    Tells world known now (evaluateField world item field) (evaluateField world.chronicled item field) := by
  refine (recounts_view item).bind fun later before longer => ?_
  have result := result.mono longer
  -- Whatever the text is made of, the link is read after it.
  have ending (text : String) (known : List (Event σ V)) (now : Session σ V → Prop) (more : later ⊆ known) :
      Tells world known now
        (view world item >>= fun after => ofExcept (itemLink after) >>= fun url =>
          pure (Widget.string { url } text none none))
        (view world.chronicled item >>= fun after => ofExcept (itemLink after) >>= fun url =>
          pure (Widget.string { url } text none none)) := by
    refine (recounts_view item).bind fun _ after longer => (recounts_ofExcept ?_).bind_pure _
    rintro final session failure last ⟨rfl, -⟩ failed
    exact explains_itemLink (((result.mono more).mono longer).mono last) failed
  dsimp only
  cases field.template with
  | some template => exact (tells_resolve _ template).bind fun _ text => ending text _ _
  | none =>
    refine (recounts_ofExcept ?_).bind fun _ text => ending text _ _
    rintro final session failure more ⟨rfl, -⟩ failed
    exact explains_showProperty (result.mono more) failed

theorem tells_evaluateFields {item : V} (result : IsResult world known item) (fields : List Field) :
    Tells world known now (evaluateFields world item fields)
      (evaluateFields world.chronicled item fields) := by
  induction fields generalizing known now with
  | nil => exact tells_pure []
  | cons field rest ih =>
    refine (tells_evaluateField result field).bind fun _ _ longer => ?_
    exact (ih (result.mono longer)).bind_pure _

theorem tells_evaluateItems {items : List V} (results : ∀ item ∈ items, IsResult world known item)
    (fields : List Field) :
    Tells world known now (evaluateItems world fields items)
      (evaluateItems world.chronicled fields items) := by
  induction items generalizing known now with
  | nil => exact tells_pure []
  | cons item rest ih =>
    obtain ⟨first, others⟩ := List.forall_mem_cons.mp results
    refine (tells_evaluateFields first fields).bind fun _ _ longer => ?_
    exact (ih fun item member => (others item member).mono longer).bind_pure _

/-! ## Widgets -/

theorem tells_accept (container : Container) (widget : Widget) :
    Tells world known now (accept container widget) (accept container widget) := by
  rw [accept_eq, accept_eq]
  split
  · exact tells_pure widget
  · exact recounts_of_look fun session history _ =>
      ⟨.error (.widgetType container widget.kind), rfl, rfl, fun _ _ => .own rfl⟩

theorem tells_evaluateAll {container : Container} {widgets : List Widget}
    (each : ∀ widget ∈ widgets, ∀ (known : List (Event σ V)) (now : Session σ V → Prop),
      Tells world known now (evaluate world focus widget) (evaluate world.chronicled focus widget)) :
    Tells world known now (evaluateAll world focus container widgets)
      (evaluateAll world.chronicled focus container widgets) := by
  induction widgets generalizing known now with
  | nil =>
    rw [evaluateAll, evaluateAll]
    exact tells_pure []
  | cons widget rest ih =>
    obtain ⟨first, others⟩ := List.forall_mem_cons.mp each
    rw [evaluateAll, evaluateAll]
    refine (first known now).bind fun _ result _ => (tells_accept container result).bind fun _ _ _ => ?_
    exact (ih others).bind_pure _

theorem tells_evaluateRows {rows : List (List Widget)}
    (each : ∀ row ∈ rows, ∀ widget ∈ row, ∀ (known : List (Event σ V)) (now : Session σ V → Prop),
      Tells world known now (evaluate world focus widget) (evaluate world.chronicled focus widget)) :
    Tells world known now (evaluateRows world focus rows) (evaluateRows world.chronicled focus rows) := by
  induction rows generalizing known now with
  | nil =>
    rw [evaluateRows, evaluateRows]
    exact tells_pure []
  | cons row rest ih =>
    obtain ⟨first, others⟩ := List.forall_mem_cons.mp each
    rw [evaluateRows, evaluateRows]
    exact (tells_evaluateAll first).bind fun _ _ _ => (ih others).bind_pure _

theorem tells_evaluate (fair : world.IsFair) {widget : Widget} (typed : widget.IsTyped) (focus : Focus V)
    (known : List (Event σ V)) (now : Session σ V → Prop) :
    Tells world known now (evaluate world focus widget) (evaluate world.chronicled focus widget) := by
  induction typed generalizing known now with
  | number plain =>
    rw [evaluate, evaluate]
    exact (tells_resolveFigure plain).bind fun _ _ _ => tells_fillNumber setBy_nil _ _ _ _
  | string =>
    rw [evaluate, evaluate]
    exact (tells_resolve _ _).bind fun _ _ _ => tells_fillString setBy_nil _ _ _ _
  | queryNumber named =>
    rw [evaluate, evaluate]
    exact (recounts_runQuery fair named _ _).bind fun _ _ _ => tells_fillNumber setBy_nil _ _ _ _
  | scriptNumber =>
    rw [evaluate, evaluate]
    refine tells_script _ _ fun later parts => ?_
    exact tells_read (fun _ _ _ _ _ _ _ => strays_of_scriptNumber) fun _ _ sets =>
      tells_fillNumber sets _ _ _ _
  | scriptString =>
    rw [evaluate, evaluate]
    refine tells_script _ _ fun later parts => ?_
    exact tells_read (fun _ _ _ _ _ _ _ => .script) fun _ _ sets => tells_fillString sets _ _ _ _
  | graph _ each =>
    rw [evaluate, evaluate]
    refine (tells_evaluateAll each).bind fun _ _ _ => ?_
    exact (tells_resolveOptional _).bind fun _ _ _ => (tells_resolveLink _).bind_pure _
  | table _ _ tops cells =>
    rw [evaluate, evaluate]
    refine (tells_evaluateAll tops).bind fun _ _ _ => (tells_evaluateRows cells).bind fun _ _ _ => ?_
    exact (tells_resolveOptional _).bind fun _ _ _ => (tells_resolveLink _).bind_pure _
  | queryTable named =>
    rw [evaluate, evaluate]
    refine (recounts_runQuery fair named _ _).bind fun later results _ => ?_
    refine Recounts.assume (P := ∀ item ∈ results.items, IsResult world later item) ?_ fun items => ?_
    · rintro session ⟨offered, objects⟩ item member
      exact ⟨offered item member, objects.imp_left fun object => object item member⟩
    refine (tells_evaluateItems items _).bind fun _ _ _ => ?_
    exact (tells_resolveOptional _).bind fun _ _ _ => (tells_resolveLink _).bind_pure _

/-! ## Dashboards -/

theorem tells_evaluateWidgets (fair : world.IsFair) {widgets : List Widget}
    (typed : ∀ widget ∈ widgets, widget.IsTyped) :
    Tells world known now (evaluateWidgets world focus widgets)
      (evaluateWidgets world.chronicled focus widgets) := by
  induction widgets generalizing known now with
  | nil => exact tells_pure []
  | cons widget rest ih =>
    obtain ⟨first, others⟩ := List.forall_mem_cons.mp typed
    exact (tells_evaluate fair first focus known now).bind fun _ _ _ => (ih others).bind_pure _

theorem tells_evaluateSection (fair : world.IsFair) {part : Section}
    (typed : ∀ widget ∈ part.widgets, widget.IsTyped) :
    Tells world known now (evaluateSection world focus part)
      (evaluateSection world.chronicled focus part) := by
  refine (tells_evaluateWidgets fair typed).bind fun _ _ _ => ?_
  exact (tells_resolveOptional _).bind fun _ _ _ => (tells_resolveOptional _).bind_pure _

theorem tells_evaluateSections (fair : world.IsFair) {sections : List Section}
    (typed : ∀ part ∈ sections, ∀ widget ∈ part.widgets, widget.IsTyped) :
    Tells world known now (evaluateSections world sections) (evaluateSections world.chronicled sections) := by
  induction sections generalizing known now with
  | nil => exact tells_pure []
  | cons part rest ih =>
    obtain ⟨first, others⟩ := List.forall_mem_cons.mp typed
    exact (tells_evaluateSection fair first).bind fun _ _ _ => (ih others).bind_pure _

theorem tells_runOptional (script : Option String) :
    Tells world known now (runOptional world script) (runOptional world.chronicled script) := by
  cases script with
  | none => exact tells_pure ()
  | some script => exact (recounts_runScript _ script).bind_pure _

/-- **The history of an evaluation explains why it fails.** -/
theorem tells_evaluateDashboard (fair : world.IsFair) {dashboard : Dashboard} (typed : dashboard.IsTyped) :
    Tells world known now (evaluateDashboard world dashboard)
      (evaluateDashboard world.chronicled dashboard) := by
  refine (tells_runOptional dashboard.setup).bind fun _ _ _ => ?_
  refine (tells_evaluateSections fair typed).bind fun _ _ _ => ?_
  refine (tells_resolveOptional dashboard.title).bind fun _ _ _ => ?_
  refine (tells_resolveOptional dashboard.description).bind fun _ _ _ => ?_
  exact (tells_runOptional dashboard.shutdown).bind_pure _

end Evaluation

end IssueBoard
