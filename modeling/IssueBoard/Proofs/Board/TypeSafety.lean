import IssueBoard.Proofs.Board.Order
import IssueBoard.Proofs.Board.Reduction
import IssueBoard.Proofs.Config.Typing
import IssueBoard.Proofs.Data.Display
import IssueBoard.Service.Client

/-! # Type safety of loaded dashboards

The checks that evaluation makes on the parts of a container, on the kind of a query and on the kind of a
widget cannot fail for a dashboard that was loaded. If a run of one fails all the same as such a check
would, then author code, the server or a spoiled entry of the query cache has given this failure, and the
run has only passed it on.
-/

namespace IssueBoard

variable {σ V α β : Type}

/-- Whether a failure says that something is of a kind that is not admitted where it stands. -/
def Failure.IsMismatch : Failure → Prop
  | .widgetType .. | .queryType _ | .fault (.unknownWidget _) => True
  | _ => False

namespace Widget

/-- Whether this is a string widget. -/
def isText : Widget → Bool
  | .string .. => true
  | _ => false

/-- Whether a widget stands for a single value. -/
def isValue : Widget → Bool
  | .number .. | .string .. | .queryNumber .. | .scriptNumber .. | .scriptString .. => true
  | _ => false

end Widget

/-- How a world may give a failure that ends a run: as the answer to the last question, in place of the
address of its site, or in place of an entry of the query cache. -/
inductive World.Gives (world : World σ V) (asked : List (Asked V)) (cache : QueryCache V) :
    Failure → Prop
  | answer {failure : Failure} {before : List (Asked V)} {last : Asked V}
    (ends : asked = before ++ [last]) (failed : last.failure = some failure) :
    Gives world asked cache failure
  | site {failure : Failure} (address : world.webUrl = .error failure) : Gives world asked cache failure
  | kept {query : String} {fault : Fault} (spoiled : cache.fault? query = some fault) :
    Gives world asked cache (.fault fault)

namespace Evaluation

/-- Whether an evaluation in a traced world makes no mismatch of its own. -/
def Safe (world : World σ V) (evaluation : Evaluation (σ × List (Asked V)) V α) : Prop :=
  ∀ session failure after, evaluation.runFrom session = (.error failure, after) → failure.IsMismatch →
    world.Gives after.trace after.cache failure

variable {world : World σ V} {focus : Focus V}

section Calculus

variable {evaluation : Evaluation (σ × List (Asked V)) V α}
  {next : α → Evaluation (σ × List (Asked V)) V β}

theorem safe_ofExcept {result : Except Failure α}
    (fine : ∀ failure, result = .error failure → ¬ failure.IsMismatch) :
    Safe world (ofExcept result : Evaluation (σ × List (Asked V)) V α) := by
  intro session failure after ran mismatch
  rw [runFrom_ofExcept, Prod.mk.injEq] at ran
  exact absurd mismatch (fine failure ran.1)

theorem safe_pure (value : α) : Safe world (pure value : Evaluation (σ × List (Asked V)) V α) := by
  intro session failure after ran
  cases ran

/-- The second part need be safe only after a run of the first that gives a result. -/
theorem Safe.bind_of_ran (first : Safe world evaluation)
    (rest : ∀ session value during, evaluation.runFrom session = (.ok value, during) →
      Safe world (next value)) : Safe world (evaluation >>= next) := by
  intro session failure after ran
  rw [runFrom_bind] at ran
  rcases part : evaluation.runFrom session with ⟨other | value, during⟩
  · rw [part] at ran
    cases ran
    exact first session failure after part
  · rw [part] at ran
    exact rest session value during part during failure after ran

theorem Safe.bind (first : Safe world evaluation) (rest : ∀ value, Safe world (next value)) :
    Safe world (evaluation >>= next) :=
  first.bind_of_ran fun _ value _ _ => rest value

end Calculus

/-! ## Texts and scripts -/

theorem safe_call (request : Call V) : Safe world (call world.traced request) := by
  intro session failure after ran _
  have answered : (call world.traced request).runFrom session =
      ((world.run request session.untraced).1, (world.run request session.untraced).2.withTrace
        (session.trace ++ [⟨.code request, failure? (world.run request session.untraced).1⟩])) := rfl
  rw [answered, Prod.mk.injEq] at ran
  obtain ⟨failed, rfl⟩ := ran
  exact .answer (Session.trace_withTrace _ _) (by rw [failed]; rfl)

theorem safe_view (value : V) : Safe world (view world.traced value) := by
  intro session failure after ran
  cases ran

theorem not_isMismatch_of_fault {fault : Fault} (plain : fault = .integerTooLong ∨ fault = .nestedTooDeep) :
    ¬ Failure.IsMismatch (.fault fault) := by
  rcases plain with rfl | rfl
  · exact id
  · exact id

theorem not_isMismatch_of_display {value : Data} {failure : Failure}
    (failed : value.display.mapError .fault = .error failure) : ¬ failure.IsMismatch := by
  cases shown : value.display with
  | ok text =>
    rw [shown] at failed
    cases failed
  | error fault =>
    rw [shown] at failed
    cases failed
    exact not_isMismatch_of_fault (Data.display_error shown)

theorem safe_display (value : V) : Safe world (display world.traced value) :=
  (safe_view value).bind fun _ => safe_ofExcept fun _ => not_isMismatch_of_display

theorem not_isMismatch_of_createScope {bindings : Scope V} {failure : Failure}
    (failed : createScope bindings = .error failure) : ¬ failure.IsMismatch := by
  obtain ⟨name, cause, rfl⟩ := eq_scope_of_createScope failed
  exact id

theorem safe_resolveSegments (scope : Scope V) (segments : List Segment) :
    Safe world (resolveSegments world.traced scope segments) := by
  induction segments with
  | nil => exact safe_pure ""
  | cons segment rest ih =>
    have first : Safe world (resolveSegment world.traced scope segment) := by
      rw [resolveSegment]
      split
      · exact (safe_call _).bind safe_display
      · exact safe_pure _
    exact first.bind fun _ => ih.bind fun _ => safe_pure _

theorem safe_resolve (bindings : Scope V) (source : String) :
    Safe world (resolve world.traced bindings source) := by
  refine (safe_ofExcept fun _ => not_isMismatch_of_createScope).bind fun scope => ?_
  split
  · refine (safe_ofExcept fun failure failed => ?_).bind fun segments => safe_resolveSegments scope segments
    cases scanned : Template.scan source with
    | ok segments =>
      rw [scanned] at failed
      cases failed
    | error error =>
      rw [scanned] at failed
      cases failed
      exact id
  · exact safe_pure _

theorem safe_runScript (bindings : Scope V) (source : String) :
    Safe world (runScript world.traced bindings source) :=
  (safe_ofExcept fun _ => not_isMismatch_of_createScope).bind fun _ => safe_call _

theorem safe_resolveOptional (template : Option String) :
    Safe world (resolveOptional world.traced focus template) := by
  cases template with
  | none => exact safe_pure none
  | some template => exact (safe_resolve _ template).bind fun _ => safe_pure _

theorem safe_resolveLink (link : Option Link) : Safe world (resolveLink world.traced focus link) := by
  rcases link with _ | template | value
  · exact safe_pure none
  · exact (safe_resolve _ template).bind fun _ => safe_pure _
  · exact safe_pure _

theorem safe_splitResult (result : V) : Safe world (splitResult world.traced result) := by
  intro session failure after ran
  obtain ⟨value, overrides, split, -⟩ := runFrom_splitResult world.traced result session
  rw [split] at ran
  cases ran

/-! ## Values and what stands around them -/

theorem safe_fillField (overrides : Overrides V) (value : Data) (name : String)
    (template : Option String) : Safe world (fillField world.traced overrides value name template) := by
  rw [fillField]
  cases overrides.lookup name with
  | none => exact safe_resolveOptional template
  | some set => exact (safe_display set).bind fun _ => safe_pure _

theorem safe_fillLink (overrides : Overrides V) (value : Data) (link : Option Link) :
    Safe world (fillLink world.traced overrides value link) := by
  rw [fillLink]
  cases overrides.lookup "url" with
  | none => exact safe_resolveLink link
  | some set => exact (safe_display set).bind fun _ => safe_pure _

theorem safe_fillNumber (overrides : Overrides V) (caption : Caption) (value : Figure)
    (color page : Option String) :
    Safe world (fillNumber world.traced overrides caption value color page) := by
  refine (safe_fillField overrides _ "title" caption.title).bind fun _ => ?_
  refine (safe_fillLink overrides _ caption.url).bind fun _ => ?_
  exact (safe_fillField overrides _ "color" color).bind fun _ => safe_pure _

theorem safe_fillString (overrides : Overrides V) (caption : Caption) (value : String)
    (align color : Option String) :
    Safe world (fillString world.traced overrides caption value align color) := by
  refine (safe_fillField overrides _ "title" caption.title).bind fun _ => ?_
  refine (safe_fillLink overrides _ caption.url).bind fun _ => ?_
  refine (safe_fillField overrides _ "align" align).bind fun _ => ?_
  exact (safe_fillField overrides _ "color" color).bind fun _ => safe_pure _

theorem not_isMismatch_of_toText {value : Data} {failure : Failure}
    (failed : value.toText.mapError .fault = .error failure) : ¬ failure.IsMismatch := by
  cases shown : value.toText with
  | ok text =>
    rw [shown] at failed
    cases failed
  | error fault =>
    rw [shown] at failed
    cases failed
    exact not_isMismatch_of_fault (Data.toText_error shown)

theorem safe_resolveFigure (value : Figure) : Safe world (resolveFigure world.traced focus value) := by
  rcases value with n | b | template | value
  · exact safe_pure _
  · exact (safe_resolve _ _).bind fun _ => safe_pure _
  · exact (safe_resolve _ _).bind fun _ => safe_pure _
  · refine (safe_ofExcept fun _ => not_isMismatch_of_toText).bind fun template => ?_
    exact (safe_resolve _ template).bind fun _ => safe_pure _

theorem not_isMismatch_of_scriptNumber {result : Data} {failure : Failure}
    (failed : (scriptNumber result).mapError .fault = .error failure) : ¬ failure.IsMismatch := by
  rcases number : scriptNumber result with fault | n
  · rw [number] at failed
    cases failed
    rw [scriptNumber] at number
    split at number
    · cases number
    · rcases bind_eq_error_iff.mp number with shown | ⟨text, -, number⟩
      · exact not_isMismatch_of_fault (Data.display_error shown)
      · dsimp only at number
        split at number
        · cases number
        · split at number
          · cases number
            exact id
          · cases number
  · rw [number] at failed
    cases failed

/-! ## Queries -/

/-- Fetching pages stops for what the server has answered, or because a total is no number. -/
theorem gives_of_fetchPages {query : String} {limit : Int} {entry final : QueryEntry V}
    {state last : σ × List (Asked V)} {failure : Failure}
    (fetched : Query.fetchPages world.traced.search query defaultPageSize limit entry state =
      (some failure, final, last)) (mismatch : failure.IsMismatch) :
    ∃ before asked, last.2 = before ++ [asked] ∧ asked.failure = some failure := by
  fun_induction Query.fetchPages world.traced.search query defaultPageSize limit entry state with
  | case1 entry state needed reason after answered =>
    obtain ⟨stopped, rest⟩ := Prod.mk.inj fetched
    cases stopped
    obtain ⟨-, rfl⟩ := Prod.mk.inj rest
    have step := (search_traced rfl state.2).symm.trans answered
    obtain ⟨failed, rfl⟩ := Prod.mk.inj step
    exact ⟨_, _, rfl, congrArg failure? failed⟩
  | case2 entry state needed page after answered ih => exact ih fetched
  | case3 entry state enough =>
    rw [Prod.mk.injEq] at fetched
    have stopped := fetched.1
    rw [QueryEntry.totalFault?] at stopped
    split at stopped
    · cases stopped
      exact mismatch.elim
    · cases stopped

theorem safe_fetch (query : String) (limit : Int) :
    Safe world (ofFunction fun session =>
      let (answer, cache, state) :=
        Query.fetch world.traced.search query defaultPageSize limit session.cache session.state
      (answer, { cache, state })) := by
  intro session failure after ran mismatch
  simp only [runFrom_ofFunction, Query.fetch] at ran
  cases spoiled : session.cache.fault? query with
  | some fault =>
    rw [spoiled] at ran
    cases ran
    exact .kept spoiled
  | none =>
    rw [spoiled] at ran
    rcases fetched : Query.fetchPages world.traced.search query defaultPageSize limit
      ((session.cache.find? query).getD (.fresh query)) session.state with ⟨_ | reason, entry, state⟩
    · rw [fetched] at ran
      cases ran
    · rw [fetched] at ran
      cases ran
      obtain ⟨before, asked, ends, failed⟩ := gives_of_fetchPages fetched mismatch
      exact .answer ends failed

/-- Queries for issues are supported. -/
theorem safe_runQuery (query : String) (limit : Int) :
    Safe world (runQuery world.traced defaultPageSize focus .issue query limit) := by
  refine (safe_resolve _ query).bind fun resolved => ?_
  have site : Safe world (ofExcept world.webUrl : Evaluation (σ × List (Asked V)) V String) := by
    intro session failure after ran _
    rw [runFrom_ofExcept, Prod.mk.injEq] at ran
    exact .site ran.1
  refine site.bind fun webUrl => ?_
  exact (safe_fetch resolved limit).bind fun entry => safe_pure _

/-- A query gives no more items than it asks for. -/
theorem length_le_of_runQuery {world : World σ V} {query : String} {limit : Int}
    {session after : Session σ V} {results : QueryResults V} (positive : 0 ≤ limit)
    (ran : (runQuery world defaultPageSize focus .issue query limit).runFrom session =
      (.ok results, after)) : (results.items.length : Int) ≤ limit := by
  obtain ⟨count, rfl⟩ := Int.eq_ofNat_of_zero_le positive
  simp only [runQuery, runFrom_bind_eq_ok_iff] at ran
  obtain ⟨_, _, -, _, _, -, entry, _, -, done⟩ := ran
  cases done
  rw [slice_none_some]
  exact Int.ofNat_le.mpr (List.length_take_le count entry.items)

/-! ## Items -/

theorem safe_evaluateField (item : V) (field : Field) :
    Safe world (evaluateField world.traced item field) := by
  have link (text : String) : Safe world (do
      let after ← view world.traced item
      let url ← ofExcept (itemLink after)
      return Widget.string { url } text none none) := by
    refine (safe_view item).bind fun shown => ?_
    refine (safe_ofExcept fun failure failed => ?_).bind fun _ => safe_pure _
    unfold itemLink at failed
    split at failed
    · cases failed
    · cases failed
      exact id
  refine (safe_view item).bind fun before => ?_
  cases field.template with
  | some template => exact (safe_resolve _ template).bind link
  | none =>
    refine (safe_ofExcept fun failure failed => ?_).bind link
    unfold showProperty at failed
    split at failed
    · exact not_isMismatch_of_display failed
    · cases failed
      exact id

theorem safe_evaluateFields (item : V) (fields : List Field) :
    Safe world (evaluateFields world.traced item fields) := by
  induction fields with
  | nil => exact safe_pure []
  | cons field rest ih => exact (safe_evaluateField item field).bind fun _ => ih.bind fun _ => safe_pure _

theorem safe_evaluateItems (fields : List Field) (items : List V) :
    Safe world (evaluateItems world.traced fields items) := by
  induction items with
  | nil => exact safe_pure []
  | cons item rest ih => exact (safe_evaluateFields item fields).bind fun _ => ih.bind fun _ => safe_pure _

/-! ## Widgets -/

/-- An element of a graph comes to a number. -/
theorem isNumber_of_element {world : World σ V} {element result : Widget} (typed : element.IsElement)
    {session after : Session σ V}
    (ran : (evaluate world focus element).runFrom session = (.ok result, after)) :
    result.isNumber = true := by
  have reduces := reduces_of_evaluate world focus element ran
  cases reduces with
  | number | queryNumber => rfl
  | _ => cases typed

/-- A header or a cell comes to a text. -/
theorem isText_of_textCell {world : World σ V} {cell result : Widget} (typed : cell.IsTextCell)
    {session after : Session σ V}
    (ran : (evaluate world focus cell).runFrom session = (.ok result, after)) :
    result.isText = true := by
  have reduces := reduces_of_evaluate world focus cell ran
  cases reduces with
  | string | scriptString => rfl
  | _ => cases typed

theorem safe_element {element : Widget} (typed : element.IsElement) :
    Safe world (evaluate world.traced focus element) := by
  cases element with
  | number caption value color =>
    exact (safe_resolveFigure value).bind fun _ => safe_fillNumber _ _ _ _ _
  | queryNumber caption search color =>
    obtain ⟨-, issue⟩ := typed
    rw [evaluate, issue]
    exact (safe_runQuery search.query 0).bind fun _ => safe_fillNumber _ _ _ _ _
  | _ => cases typed

theorem safe_textCell {cell : Widget} (typed : cell.IsTextCell) :
    Safe world (evaluate world.traced focus cell) := by
  cases cell with
  | string caption value align color =>
    exact (safe_resolve _ value).bind fun _ => safe_fillString _ _ _ _ _
  | scriptString caption script align color =>
    refine (safe_runScript _ script).bind fun result => (safe_splitResult result).bind fun split => ?_
    exact (safe_ofExcept fun _ => not_isMismatch_of_display).bind fun _ => safe_fillString _ _ _ _ _
  | _ => cases typed

/-- Parts that come to what their container admits are safe in it. -/
theorem safe_evaluateAll {container : Container} {widgets : List Widget}
    (safe : ∀ widget ∈ widgets, Safe world (evaluate world.traced focus widget))
    (admitted : ∀ widget ∈ widgets, ∀ session result after,
      (evaluate world.traced focus widget).runFrom session = (.ok result, after) →
        container.admits result = true) :
    Safe world (evaluateAll world.traced focus container widgets) := by
  induction widgets with
  | nil =>
    rw [evaluateAll]
    exact safe_pure []
  | cons widget rest ih =>
    obtain ⟨first, later⟩ := List.forall_mem_cons.mp safe
    obtain ⟨firstAdmitted, laterAdmitted⟩ := List.forall_mem_cons.mp admitted
    rw [evaluateAll]
    refine first.bind_of_ran fun session result after ran => ?_
    rw [accept_eq, if_pos (firstAdmitted session result after ran)]
    exact (safe_pure result).bind fun _ => (ih later laterAdmitted).bind fun _ => safe_pure _

theorem safe_elements {elements : List Widget} (typed : ∀ element ∈ elements, element.IsElement) :
    Safe world (evaluateAll world.traced focus .graph elements) := by
  refine safe_evaluateAll (fun element member => safe_element (typed element member)) ?_
  intro element member session result after ran
  exact isNumber_of_element (typed element member) ran

theorem isCell_of_isText {widget : Widget} (text : widget.isText = true) : widget.isCell = true := by
  cases widget with
  | string => rfl
  | _ => cases text

theorem safe_cells {cells : List Widget} (typed : ∀ cell ∈ cells, cell.IsTextCell) :
    Safe world (evaluateAll world.traced focus .table cells) := by
  refine safe_evaluateAll (fun cell member => safe_textCell (typed cell member)) ?_
  intro cell member session result after ran
  exact isCell_of_isText (isText_of_textCell (typed cell member) ran)

theorem safe_rows {rows : List (List Widget)} (typed : ∀ row ∈ rows, ∀ cell ∈ row, cell.IsTextCell) :
    Safe world (evaluateRows world.traced focus rows) := by
  induction rows with
  | nil =>
    rw [evaluateRows]
    exact safe_pure []
  | cons row rest ih =>
    obtain ⟨first, later⟩ := List.forall_mem_cons.mp typed
    rw [evaluateRows]
    exact (safe_cells first).bind fun _ => (ih later).bind fun _ => safe_pure _

/-- A widget that can be loaded makes no mismatch. -/
theorem safe_evaluate {widget : Widget} (loadable : widget.IsLoadable) :
    Safe world (evaluate world.traced focus widget) := by
  cases widget with
  | number | queryNumber =>
    rcases loadable with element | never
    · exact safe_element element
    · cases never
  | string | scriptString =>
    rcases loadable with never | cell
    · cases never
    · exact safe_textCell cell
  | scriptNumber caption script color =>
    refine (safe_runScript _ script).bind fun result => (safe_splitResult result).bind fun split => ?_
    exact (safe_ofExcept fun _ => not_isMismatch_of_scriptNumber).bind fun _ => safe_fillNumber _ _ _ _ _
  | graph caption elements =>
    rw [evaluate]
    refine (safe_elements loadable.2).bind fun _ => ?_
    exact (safe_resolveOptional _).bind fun _ => (safe_resolveLink _).bind fun _ => safe_pure _
  | table caption headers rows =>
    rw [evaluate]
    refine (safe_cells loadable.2.1).bind fun _ => (safe_rows loadable.2.2).bind fun _ => ?_
    exact (safe_resolveOptional _).bind fun _ => (safe_resolveLink _).bind fun _ => safe_pure _
  | queryTable caption search limit fields =>
    obtain ⟨-, issue, -, -⟩ := loadable
    rw [evaluate, issue]
    refine (safe_runQuery search.query limit).bind fun results => ?_
    refine (safe_evaluateItems _ results.items).bind fun _ => ?_
    exact (safe_resolveOptional _).bind fun _ => (safe_resolveLink _).bind fun _ => safe_pure _
  | unknown => cases loadable

/-! ## What a loaded widget comes to -/

/-- Whether the parts of a result are what a loaded container promises: numbers in a graph, texts in a
table, and no more rows than there may be results of a search. -/
inductive Settles : Widget → Widget → Prop
  | graph {before after : Caption} {elements numbers : List Widget}
    (same : numbers.length = elements.length) (each : ∀ number ∈ numbers, number.isNumber = true) :
    Settles (.graph before elements) (.graph after numbers)
  | table {before after : Caption} {headers headers' : List Widget} {rows rows' : List (List Widget)}
    (heads : ∀ header ∈ headers', header.isText = true)
    (cells : ∀ row ∈ rows', ∀ cell ∈ row, cell.isText = true) :
    Settles (.table before headers rows) (.table after headers' rows')
  | queryTable {before after : Caption} {search : Search} {limit : Int} {fields : Option (List Field)}
    {headers : List Widget} {rows : List (List Widget)} (few : (rows.length : Int) ≤ limit) :
    Settles (.queryTable before search limit fields) (.table after headers rows)
  | alone {before after : Widget} (value : before.isValue = true) (cell : after.isCell = true) :
    Settles before after

theorem length_of_reduceInTurn {world : World σ V} {widgets results : List Widget}
    {session after : Session σ V} (reduce : ReduceInTurn world focus session widgets results after) :
    results.length = widgets.length := by
  induction widgets generalizing session results with
  | nil =>
    cases reduce
    rfl
  | cons widget rest ih =>
    cases reduce with
    | cons ran first later => rw [List.length_cons, List.length_cons, ih later]

theorem isText_of_reduceInTurn {world : World σ V} {cells results : List Widget}
    (typed : ∀ cell ∈ cells, cell.IsTextCell) {session after : Session σ V}
    (reduce : ReduceInTurn world focus session cells results after) :
    ∀ result ∈ results, result.isText = true := by
  induction cells generalizing session results with
  | nil =>
    cases reduce
    exact List.forall_mem_nil _
  | cons cell rest ih =>
    obtain ⟨here, there⟩ := List.forall_mem_cons.mp typed
    cases reduce with
    | cons ran first later =>
      exact List.forall_mem_cons.mpr ⟨isText_of_textCell here ran, ih there later⟩

theorem isText_of_rowsReduceInTurn {world : World σ V} {rows results : List (List Widget)}
    (typed : ∀ row ∈ rows, ∀ cell ∈ row, cell.IsTextCell) {session after : Session σ V}
    (reduce : RowsReduceInTurn world focus session rows results after) :
    ∀ row ∈ results, ∀ cell ∈ row, cell.isText = true := by
  induction rows generalizing session results with
  | nil =>
    cases reduce
    exact List.forall_mem_nil _
  | cons row rest ih =>
    obtain ⟨here, there⟩ := List.forall_mem_cons.mp typed
    cases reduce with
    | cons first admitted later =>
      exact List.forall_mem_cons.mpr ⟨isText_of_reduceInTurn here first, ih there later⟩

theorem settles_of_reduces {world : World σ V} {widget result : Widget} (loadable : widget.IsLoadable)
    {session : Session σ V} (reduces : Reduces world focus session widget result) :
    Settles widget result := by
  cases reduces with
  | graph inTurn admitted caption => exact .graph (length_of_reduceInTurn inTurn) admitted
  | table inTurn admitted rowsInTurn caption =>
    exact .table (isText_of_reduceInTurn loadable.2.1 inTurn)
      (isText_of_rowsReduceInTurn loadable.2.2 rowsInTurn)
  | queryTable ran rowsOfItems caption url =>
    obtain ⟨-, issue, positive, -⟩ := loadable
    rw [issue] at ran
    have few := length_le_of_runQuery positive ran
    rw [rowsOfItems.length_eq] at few
    exact .queryTable few
  | number | string | queryNumber | scriptNumber | scriptString => exact .alone rfl rfl

theorem settle_of_reduceInTurn {world : World σ V} {widgets results : List Widget}
    (loadable : ∀ widget ∈ widgets, widget.IsLoadable) {session after : Session σ V}
    (reduce : ReduceInTurn world focus session widgets results after) :
    List.Forall₂ Settles widgets results := by
  induction widgets generalizing session results with
  | nil =>
    cases reduce
    exact .nil
  | cons widget rest ih =>
    obtain ⟨here, there⟩ := List.forall_mem_cons.mp loadable
    cases reduce with
    | cons ran first later => exact .cons (settles_of_reduces here first) (ih there later)

/-! ## Dashboards -/

theorem safe_evaluateWidgets {widgets : List Widget} (loadable : ∀ widget ∈ widgets, widget.IsLoadable) :
    Safe world (evaluateWidgets world.traced focus widgets) := by
  induction widgets with
  | nil => exact safe_pure []
  | cons widget rest ih =>
    obtain ⟨first, later⟩ := List.forall_mem_cons.mp loadable
    exact (safe_evaluate first).bind fun _ => (ih later).bind fun _ => safe_pure _

theorem safe_evaluateSections {sections : List Section}
    (loadable : ∀ part ∈ sections, ∀ widget ∈ part.widgets, widget.IsLoadable) :
    Safe world (evaluateSections world.traced sections) := by
  induction sections with
  | nil => exact safe_pure []
  | cons part rest ih =>
    obtain ⟨first, later⟩ := List.forall_mem_cons.mp loadable
    have safe : Safe world (evaluateSection world.traced .whole part) := by
      refine (safe_evaluateWidgets first).bind fun _ => ?_
      exact (safe_resolveOptional _).bind fun _ => (safe_resolveOptional _).bind fun _ => safe_pure _
    exact safe.bind fun _ => (ih later).bind fun _ => safe_pure _

theorem safe_runOptional (script : Option String) : Safe world (runOptional world.traced script) := by
  cases script with
  | none => exact safe_pure ()
  | some script => exact (safe_runScript _ script).bind fun _ => safe_pure ()

theorem safe_evaluateDashboard {dashboard : Dashboard} (loadable : dashboard.IsLoadable) :
    Safe world (evaluateDashboard world.traced dashboard) := by
  refine (safe_runOptional _).bind fun _ => (safe_evaluateSections loadable).bind fun _ => ?_
  refine (safe_resolveOptional _).bind fun _ => (safe_resolveOptional _).bind fun _ => ?_
  exact (safe_runOptional _).bind fun _ => safe_pure _

theorem settle_of_sectionsReduce {world : World σ V} {sections results : List Section}
    (loadable : ∀ part ∈ sections, ∀ widget ∈ part.widgets, widget.IsLoadable)
    (reduce : List.Forall₂ (SectionReduces world) sections results) :
    List.Forall₂ (fun part found => List.Forall₂ Settles part.widgets found.widgets)
      sections results := by
  induction reduce with
  | nil => exact .nil
  | cons first _ ih =>
    obtain ⟨here, there⟩ := List.forall_mem_cons.mp loadable
    obtain ⟨session, during, inTurn⟩ := first.widgets
    exact .cons (settle_of_reduceInTurn here inTurn) (ih there)

/-- **Loaded dashboards are type safe.** The dashboard of a document that is accepted has only widgets
that a configuration can describe. A run of it, from any session of any world, that fails by a mismatch
was given this failure by the world; with a trace of what is asked, by the answer to the last question
unless it is kept in the cache or stands for the site. A run that succeeds turns elements of graphs into
numbers and headers and cells into texts, and gives no more rows than a table may have. -/
theorem evaluateDashboard_typeSafe {data : Data} {configuration : Config.Configuration}
    (loaded : Config.Configuration.ofData data = .ok configuration) (world : World σ V)
    (session : Session σ V) :
    let run := (evaluateDashboard world configuration.dashboard).runFrom session
    configuration.dashboard.IsLoadable ∧
    (∃ asked, (evaluateDashboard world.traced configuration.dashboard).runFrom (session.withTrace []) =
        (run.1, run.2.withTrace asked) ∧
      ∀ failure, run.1 = .error failure → failure.IsMismatch → world.Gives asked run.2.cache failure) ∧
    ∀ result, run.1 = .ok result →
      List.Forall₂ (fun part found => List.Forall₂ Settles part.widgets found.widgets)
        configuration.dashboard.sections result.sections := by
  intro run
  have loadable := Config.isLoadable_of_ofData loaded
  refine ⟨loadable, ?_, ?_⟩
  · obtain ⟨asked, ran, -⟩ :=
      (follows_evaluateDashboard world configuration.dashboard {}).asks session []
    refine ⟨asked, ran, fun failure failed mismatch => ?_⟩
    change _ = (run.1, run.2.withTrace asked) at ran
    rw [failed] at ran
    exact safe_evaluateDashboard loadable _ failure _ ran mismatch
  · intro result done
    have ran : run = (.ok result, run.2) := Prod.ext done rfl
    exact settle_of_sectionsReduce loadable (dashboardReduces_of_evaluateDashboard ran).sections

/-- A document of a table that shows one open issue. -/
def openTable : Data :=
  .ofFields [("output", .ofFields [("format", .text "html")]),
    ("sections", .list [.ofFields [("widgets", .list [.ofFields [("type", .text "table"),
      ("issue_query", .text "is:open"), ("limit", .integer 1),
      ("fields", .list [.text "number"])]])]])]

theorem evaluateDashboard_typeSafe_openTable :
    let world := Catalogue.world [] "https://github.com"
    ∃ configuration, Config.Configuration.ofData openTable = .ok configuration ∧
      ∀ result, ((evaluateDashboard world configuration.dashboard).runFrom { state := openIssues }).1 =
          .ok result →
        List.Forall₂ (fun part found => List.Forall₂ Settles part.widgets found.widgets)
          configuration.dashboard.sections result.sections := by
  intro world
  have accepted : (Config.Configuration.ofData openTable).isOk = true := by decide +kernel
  rcases loaded : Config.Configuration.ofData openTable with failure | configuration
  · rw [loaded] at accepted
    cases accepted
  · exact ⟨configuration, rfl, (evaluateDashboard_typeSafe loaded world { state := openIssues }).2.2⟩

/-- A document whose setup script asks the server for something other than issues. -/
def pullRequests : Data :=
  .ofFields [("output", .ofFields [("format", .text "html")]),
    ("setup", .text "await github.search('pr', 'is:open', 1, 1)")]

/-- A host that runs author code, with the search service on a connection without responses. -/
def serviceHost : Script.Host (Service.Connection (List Service.Response)) Data :=
  { now := catalogueHost.now
    server := Service.server {} Service.recorded
    takeIn := fun item store => Script.load store item }

/-- Author code may ask the server for a kind of query that it does not support. -/
theorem evaluateDashboard_unsupported :
    ∃ configuration, Config.Configuration.ofData pullRequests = .ok configuration ∧
      ((evaluateDashboard serviceHost.world configuration.dashboard).runFrom
        (Script.Desk.ofServer { remote := [] })).1 = .error (.queryType "pr") := by
  have refused : (match Config.Configuration.ofData pullRequests with
      | .ok configuration => failure? ((evaluateDashboard serviceHost.world
          configuration.dashboard).runFrom (Script.Desk.ofServer { remote := [] })).1
      | .error _ => none) = some (.queryType "pr") := by decide +kernel
  rcases loaded : Config.Configuration.ofData pullRequests with failure | configuration
  · rw [loaded] at refused
    cases refused
  · rw [loaded] at refused
    exact ⟨configuration, rfl, eq_error_of_failure? refused⟩

end Evaluation

end IssueBoard
