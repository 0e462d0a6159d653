import IssueBoard.Proofs.Board.Order
import IssueBoard.Proofs.Query.InOrder
import IssueBoard.Proofs.Query.Provenance

/-! # Tables of search results

A table of search results has a row for each item that the search gives and a cell for each column, in
their order. It comes about step by step, since filling in a cell runs author code, which may change what
the later cells show. What an item holds is shown as it is and never resolved.
-/

namespace IssueBoard

variable {σ V α β S : Type}

/-- Steps in turn, each on its own input and from the state in which the one before has ended. -/
inductive InTurn (Step : α → S → β → S → Prop) : List α → S → List β → S → Prop
  | nil (state : S) : InTurn Step [] state [] state
  | cons {a : α} {b : β} {as : List α} {bs : List β} {before between after : S}
    (first : Step a before b between) (rest : InTurn Step as between bs after) :
    InTurn Step (a :: as) before (b :: bs) after

/-- The page of an item. -/
def Data.page? (item : Data) : Option Link := (item.field? "html_url").bind Link.ofData?

namespace Field

/-- The heading of a column: its title, or else its template as it is written, or else its property. -/
inductive Heads (field : Field) : String → Prop
  | title {text : String} (given : field.title = some text) : Heads field text
  | template {text : String} (untitled : field.title = none) (given : field.template = some text) :
    Heads field text
  | property {text : String} (untitled : field.title = none) (plain : field.template = none)
    (given : field.property = some text) : Heads field text
  | blank (untitled : field.title = none) (plain : field.template = none)
    (missing : field.property = none) : Heads field ""

/-- Whether two columns differ at most in a property beside a template. -/
structure Alike (field other : Field) : Prop where
  title : field.title = other.title
  template : field.template = other.template
  property : field.template = none → field.property = other.property

theorem heads_label (field : Field) : field.Heads field.label := by
  rw [label]
  rcases titled : field.title with _ | title
  · rcases given : field.template with _ | template
    · rcases named : field.property with _ | property
      · exact .blank titled given named
      · exact .property titled given named
    · exact .template titled given
  · exact .title titled

theorem heads_iff {field : Field} {text : String} : field.Heads text ↔ text = field.label := by
  refine ⟨fun heads => ?_, fun same => same ▸ heads_label field⟩
  cases heads with
  | title given => rw [label, given]; rfl
  | template untitled given => rw [label, untitled, given]; rfl
  | property untitled plain given => rw [label, untitled, plain, given]; rfl
  | blank untitled plain missing => rw [label, untitled, plain, missing]; rfl

theorem Alike.label {field other : Field} (alike : field.Alike other) : field.label = other.label := by
  rw [Field.label, Field.label, ← alike.title, ← alike.template]
  cases plain : field.template with
  | some template => rw [Option.or_some, Option.getD_some, Option.getD_some]
  | none => rw [alike.property plain]

end Field

namespace InTurn

variable {Step : α → S → β → S → Prop} {as : List α} {bs : List β} {before after : S}

theorem nil_iff : InTurn Step [] before bs after ↔ bs = [] ∧ before = after := by
  constructor
  · rintro ⟨⟩
    exact ⟨rfl, rfl⟩
  · rintro ⟨rfl, rfl⟩
    exact .nil before

theorem cons_iff {a : α} : InTurn Step (a :: as) before bs after ↔
    ∃ b between, Step a before b between ∧
      ∃ rest, InTurn Step as between rest after ∧ b :: rest = bs := by
  constructor
  · rintro (_ | ⟨first, rest⟩)
    exact ⟨_, _, first, _, rest, rfl⟩
  · rintro ⟨b, between, first, rest, others, rfl⟩
    exact .cons first others

theorem length_eq (inTurn : InTurn Step as before bs after) : bs.length = as.length := by
  induction inTurn with
  | nil state => rfl
  | cons first rest ih => rw [List.length_cons, List.length_cons, ih]

theorem exists_of_mem (inTurn : InTurn Step as before bs after) {b : β} (member : b ∈ bs) :
    ∃ a ∈ as, ∃ start stop, Step a start b stop := by
  induction inTurn with
  | nil state => cases member
  | cons first rest ih =>
    rcases List.mem_cons.mp member with rfl | later
    · exact ⟨_, List.mem_cons_self, _, _, first⟩
    · obtain ⟨a, among, step⟩ := ih later
      exact ⟨a, List.mem_cons_of_mem _ among, step⟩

end InTurn

namespace Evaluation

variable {world : World σ V} {focus : Focus V} {item : V}

/-- A loop that evaluates one step after the other and collects the results. -/
theorem runFrom_loop_eq_ok_iff (step : α → Evaluation σ V β) (loop : List α → Evaluation σ V (List β))
    (stop : loop [] = pure [])
    (go : ∀ a as, loop (a :: as) = step a >>= fun b => loop as >>= fun bs => pure (b :: bs))
    {Step : α → Session σ V → β → Session σ V → Prop} {as : List α}
    (steps : ∀ a ∈ as, ∀ before b after, (step a).runFrom before = (.ok b, after) ↔ Step a before b after)
    {before after : Session σ V} {bs : List β} :
    (loop as).runFrom before = (.ok bs, after) ↔ InTurn Step as before bs after := by
  induction as generalizing before bs with
  | nil =>
    rw [stop, InTurn.nil_iff, runFrom_pure, Prod.mk.injEq, Except.ok.injEq, eq_comm (a := [])]
  | cons a as ih =>
    obtain ⟨first, others⟩ := List.forall_mem_cons.mp steps
    rw [go, InTurn.cons_iff, runFrom_bind_eq_ok_iff]
    simp only [first, runFrom_bind_pure_eq_ok_iff, ih others]

/-! ## Cells -/

/-- The text of an item in a column, and the session that writing it leads to: a template with the item
in scope, or a property of the item, which is empty if the item lacks it. -/
inductive TextOf (world : World σ V) (item : V) (field : Field) :
    Session σ V → String → Session σ V → Prop
  | template {session after : Session σ V} {template text : String}
    (given : field.template = some template)
    (resolved : (resolve world (Focus.item item).scope template).runFrom session = (.ok text, after)) :
    TextOf world item field session text after
  | property {session : Session σ V} {value : Data} {text : String} (plain : field.template = none)
    (held : (world.view session item).field? (field.property.getD "") = some value)
    (shown : value.display = .ok text) : TextOf world item field session text session
  | missing {session : Session σ V} (plain : field.template = none)
    (lacks : (world.view session item).field? (field.property.getD "") = none) :
    TextOf world item field session "" session

/-- The cell of an item in a column: its text, with a link to the page that the item has by then. -/
def CellOf (world : World σ V) (item : V) (field : Field) (session : Session σ V) (cell : Widget)
    (after : Session σ V) : Prop :=
  ∃ text, TextOf world item field session text after ∧
    cell = .string { url := (world.view after item).page? } text none none

theorem showProperty_eq_ok_iff {entries : List (Atom × Data)} {name text : String} :
    showProperty (.object entries) name = .ok text ↔
      (∃ value, (Data.object entries).field? name = some value ∧ value.display = .ok text) ∨
        (Data.object entries).field? name = none ∧ text = "" := by
  have missing : Data.null.display = .ok "" := rfl
  rw [showProperty, mapError_eq_ok_iff, Data.field?]
  cases Data.lookup? (.text name) entries with
  | some value => simp
  | none =>
    rw [Option.getD_none, missing]
    simp [eq_comm]

theorem textOf_template_iff {field : Field} {template : String} (given : field.template = some template)
    {session after : Session σ V} {text : String} :
    TextOf world item field session text after ↔
      (resolve world (Focus.item item).scope template).runFrom session = (.ok text, after) := by
  refine ⟨fun written => ?_, .template given⟩
  cases written with
  | template same resolved =>
    obtain rfl := Option.some.inj (given.symm.trans same)
    exact resolved
  | property plain | missing plain => cases given.symm.trans plain

theorem textOf_plain_iff {field : Field} (plain : field.template = none) {session after : Session σ V}
    {entries : List (Atom × Data)} (seen : world.view session item = .object entries) {text : String} :
    TextOf world item field session text after ↔
      (ofExcept (showProperty (.object entries) (field.property.getD ""))).runFrom session =
        (.ok text, after) := by
  rw [runFrom_ofExcept, Prod.mk.injEq, showProperty_eq_ok_iff, ← seen]
  constructor
  · intro written
    cases written with
    | template given => cases given.symm.trans plain
    | property _ held shown => exact ⟨.inl ⟨_, held, shown⟩, rfl⟩
    | missing _ lacks => exact ⟨.inr ⟨lacks, rfl⟩, rfl⟩
  · rintro ⟨⟨value, held, shown⟩ | ⟨lacks, rfl⟩, rfl⟩
    · exact .property plain held shown
    · exact .missing plain lacks

/-- A text becomes the cell of an item by linking to the page of the item. -/
theorem runFrom_linked_eq_ok_iff (object : world.IsObject item) {written : Evaluation σ V String}
    {session after : Session σ V} {cell : Widget} :
    (written >>= fun text => view world item >>= fun shown => ofExcept (itemLink shown) >>= fun url =>
      pure (Widget.string { url } text none none)).runFrom session = (.ok cell, after) ↔
      ∃ text, written.runFrom session = (.ok text, after) ∧
        cell = .string { url := (world.view after item).page? } text none none := by
  have viewed (during : Session σ V) :
      (view world item).runFrom during = (.ok (world.view during item), during) := rfl
  have linked (text : String) (during : Session σ V) :
      (view world item >>= fun shown => ofExcept (itemLink shown) >>= fun url =>
        pure (Widget.string { url } text none none)).runFrom during =
          (.ok (.string { url := (world.view during item).page? } text none none), during) := by
    -- the item is looked at once more, since writing its text may have changed it
    obtain ⟨entries, seen⟩ := object during
    rw [runFrom_bind, viewed, seen]
    rfl
  rw [runFrom_bind_eq_ok_iff]
  simp only [linked]
  constructor
  · rintro ⟨text, during, ran, done⟩
    cases done
    exact ⟨text, ran, rfl⟩
  · rintro ⟨text, ran, rfl⟩
    exact ⟨text, after, ran, rfl⟩

theorem evaluateField_eq_ok_iff (object : world.IsObject item) (field : Field)
    (session : Session σ V) (cell : Widget) (after : Session σ V) :
    (evaluateField world item field).runFrom session = (.ok cell, after) ↔
      CellOf world item field session cell after := by
  have viewed : (view world item).runFrom session = (.ok (world.view session item), session) := rfl
  obtain ⟨entries, seen⟩ := object session
  have focus : itemFocus item (.object entries) = .item item := rfl
  rw [evaluateField, runFrom_bind, viewed, seen, CellOf]
  cases given : field.template with
  | some template =>
    simp only [focus, textOf_template_iff given]
    exact runFrom_linked_eq_ok_iff object
  | none =>
    simp only [textOf_plain_iff given seen]
    exact runFrom_linked_eq_ok_iff object

/-! ## Rows -/

theorem evaluateFields_eq_ok_iff (object : world.IsObject item) {fields : List Field}
    {session after : Session σ V} {cells : List Widget} :
    (evaluateFields world item fields).runFrom session = (.ok cells, after) ↔
      InTurn (CellOf world item) fields session cells after :=
  runFrom_loop_eq_ok_iff (evaluateField world item) (evaluateFields world item) rfl (fun _ _ => rfl)
    fun field _ => evaluateField_eq_ok_iff object field

theorem evaluateItems_eq_ok_iff {fields : List Field} {items : List V}
    (objects : ∀ item ∈ items, world.IsObject item) {session after : Session σ V}
    {rows : List (List Widget)} :
    (evaluateItems world fields items).runFrom session = (.ok rows, after) ↔
      InTurn (fun item => InTurn (CellOf world item) fields) items session rows after :=
  runFrom_loop_eq_ok_iff (fun item => evaluateFields world item fields) (evaluateItems world fields) rfl
    (fun _ _ => rfl) fun item member _ _ _ => evaluateFields_eq_ok_iff (objects item member)

/-! ## Tables -/

/-- What a table of search results links to, and the session that this leads to: its own address once it
is resolved, or else the page of the search. -/
inductive LinkOf (world : World σ V) (focus : Focus V) (page : String) :
    Option Link → Session σ V → Link → Session σ V → Prop
  | own {session after : Session σ V} {template address : String}
    (resolved : (resolve world focus.scope template).runFrom session = (.ok address, after)) :
    LinkOf world focus page (some (.page template)) session (.page address) after
  | kept (value : Data) (session : Session σ V) :
    LinkOf world focus page (some (.other value)) session (.other value) session
  | search (session : Session σ V) : LinkOf world focus page none session (.page page) session

/-- A table of search results, and the session that it leads to: a header for each column, below it the
rows of the items that the search has given, and then the title and the link of the table. -/
inductive Tabulates (world : World σ V) (focus : Focus V) (caption : Caption) (search : Search)
    (limit : Int) (columns : List Field) : Session σ V → Widget → Session σ V → Prop
  | table {session asked searched filled titled after : Session σ V} {query webUrl : String}
    {results : QueryResults V} {headers : List Widget} {rows : List (List Widget)}
    {title : Option String} {url : Link}
    (resolved : (resolve world focus.scope search.query).runFrom session = (.ok query, asked))
    (site : world.webUrl = .ok webUrl)
    (found : (runQuery world defaultPageSize focus search.kind search.query limit).runFrom session =
      (.ok results, searched))
    (heads : List.Forall₂ (fun column header => ∃ text, column.Heads text ∧
      header = .string {} text none none) columns headers)
    (items : InTurn (fun item => InTurn (CellOf world item) columns) results.items searched rows filled)
    (titles : (resolveOptional world focus caption.title).runFrom filled = (.ok title, titled))
    (links : LinkOf world focus (Query.link query webUrl) caption.url titled url after) :
    Tabulates world focus caption search limit columns session
      (.table { title, url := some url } headers rows) after

theorem linkOf_iff {page : String} {link : Option Link} {session after : Session σ V} {url : Link} :
    LinkOf world focus page link session url after ↔
      ∃ own, (resolveLink world focus link).runFrom session = (.ok own, after) ∧
        own.or (some (.page page)) = some url := by
  constructor
  · intro linked
    cases linked with
    | @own _ _ template address resolved =>
      refine ⟨some (.page address), ?_, rfl⟩
      exact runFrom_bind_pure_eq_ok_iff.mpr ⟨address, resolved, rfl⟩
    | kept value session => exact ⟨some (.other value), rfl, rfl⟩
    | search session => exact ⟨none, rfl, rfl⟩
  · rintro ⟨own, ran, same⟩
    rcases link with _ | ⟨template⟩ | ⟨value⟩
    · cases ran
      cases same
      exact .search session
    · rw [resolveLink, runFrom_bind_pure_eq_ok_iff] at ran
      obtain ⟨address, resolved, rfl⟩ := ran
      cases same
      exact .own resolved
    · cases ran
      cases same
      exact .kept value session

/-- The page of a search is made of the query as it is once it is resolved. -/
theorem url_of_runQuery {pageSize limit : Int} {kind : QueryKind} {template : String}
    {session after : Session σ V} {results : QueryResults V}
    (found : (runQuery world pageSize focus kind template limit).runFrom session = (.ok results, after)) :
    ∃ query asked webUrl, (resolve world focus.scope template).runFrom session = (.ok query, asked) ∧
      world.webUrl = .ok webUrl ∧ results.url = Query.link query webUrl := by
  cases kind with
  | other name =>
    rw [runQuery, runFrom_bind_eq_ok_iff] at found
    obtain ⟨_, _, -, never⟩ := found
    cases never
  | issue =>
    simp only [runQuery, runFrom_bind_eq_ok_iff, runFrom_ofExcept, Prod.mk.injEq] at found
    obtain ⟨query, asked, resolved, webUrl, _, ⟨site, -⟩, entry, _, -, done⟩ := found
    cases done
    exact ⟨query, asked, webUrl, resolved, site, rfl⟩

theorem forall₂_heads_iff {columns : List Field} {headers : List Widget} :
    List.Forall₂ (fun column header => ∃ text, column.Heads text ∧ header = .string {} text none none)
      columns headers ↔
      columns.map (fun column => Widget.string {} column.label none none) = headers := by
  rw [← List.forall₂_eq_eq_eq, List.forall₂_map_left_iff]
  simp only [Field.heads_iff, exists_eq_left, eq_comm]

theorem evaluate_queryTable_eq_ok_iff {caption : Caption} {search : Search} {limit : Int}
    {fields : Option (List Field)} {session : Session σ V}
    (objects : ∀ results searched,
      (runQuery world defaultPageSize focus search.kind search.query limit).runFrom session =
        (.ok results, searched) → ∀ item ∈ results.items, world.IsObject item)
    {result : Widget} {after : Session σ V} :
    (evaluate world focus (.queryTable caption search limit fields)).runFrom session = (.ok result, after) ↔
      Tabulates world focus caption search limit (resolvedFields search.kind fields) session result
        after := by
  constructor
  · intro ran
    simp only [evaluate, runFrom_bind_eq_ok_iff] at ran
    obtain ⟨results, searched, found, rows, filled, items, title, titled, titles, own, _, linked, done⟩ :=
      ran
    cases done
    obtain ⟨query, asked, webUrl, resolved, site, page⟩ := url_of_runQuery found
    rw [evaluateItems_eq_ok_iff (objects results searched found)] at items
    obtain ⟨url, either⟩ : ∃ url, own.or (some (.page results.url)) = some url :=
      Option.isSome_iff_exists.mp (by simp)
    rw [either]
    refine .table resolved site found (forall₂_heads_iff.mpr rfl) items titles (linkOf_iff.mpr ?_)
    exact ⟨own, linked, page ▸ either⟩
  · rintro ⟨resolved, site, found, heads, items, titles, links⟩
    -- the search has resolved the same text from the same session, so it has the same query
    obtain ⟨query, _, webUrl, resolved', site', page⟩ := url_of_runQuery found
    obtain ⟨rfl, -⟩ : _ ∧ _ := by simpa using resolved.symm.trans resolved'
    obtain rfl : _ = _ := by simpa using site.symm.trans site'
    obtain ⟨own, linked, either⟩ := linkOf_iff.mp links
    rw [← evaluateItems_eq_ok_iff (objects _ _ found)] at items
    obtain rfl := forall₂_heads_iff.mp heads
    simp only [evaluate, runFrom_bind_eq_ok_iff]
    refine ⟨_, _, found, _, _, items, _, _, titles, _, _, linked, ?_⟩
    rw [page, either]
    rfl

/-! ## Properties beside templates -/

theorem evaluateField_alike {field other : Field} (alike : field.Alike other) :
    evaluateField world item field = evaluateField world item other := by
  rw [evaluateField, evaluateField, ← alike.template]
  cases plain : field.template with
  | some template => rfl
  | none => rw [alike.property plain]

theorem evaluateFields_alike {fields others : List Field} (alike : List.Forall₂ Field.Alike fields others) :
    evaluateFields world item fields = evaluateFields world item others := by
  induction alike with
  | nil => rfl
  | cons first rest ih => rw [evaluateFields, evaluateFields, evaluateField_alike first, ih]

theorem evaluateItems_alike {fields others : List Field} (alike : List.Forall₂ Field.Alike fields others)
    (items : List V) : evaluateItems world fields items = evaluateItems world others items := by
  induction items with
  | nil => rfl
  | cons item rest ih => rw [evaluateItems, evaluateItems, evaluateFields_alike alike, ih]

theorem headers_alike {fields others : List Field} (alike : List.Forall₂ Field.Alike fields others) :
    fields.map (fun field => Widget.string {} field.label none none) =
      others.map fun field => Widget.string {} field.label none none := by
  induction alike with
  | nil => rfl
  | cons first rest ih => rw [List.map_cons, List.map_cons, first.label, ih]

/-- A property beside a template is never read. -/
theorem evaluate_queryTable_alike {search : Search} {fields : Option (List Field)} {others : List Field}
    (alike : List.Forall₂ Field.Alike (resolvedFields search.kind fields) others) (caption : Caption)
    (limit : Int) :
    evaluate world focus (.queryTable caption search limit fields) =
      evaluate world focus (.queryTable caption search limit (some others)) := by
  have given : resolvedFields search.kind (some others) = others := rfl
  simp only [evaluate, given, headers_alike alike, evaluateItems_alike alike]

/-! ## Code -/

/-- Whether an evaluation, once it is traced, asks for no code but the expressions of some templates. -/
def Cites (templates : List String) (traced : Evaluation (σ × List (Asked V)) V α)
    (plain : Evaluation σ V α) : Prop :=
  ∃ questions, Asks traced plain questions ∧
    ∀ session, ∀ question ∈ questions session, Quotes (templates.flatMap Template.code) question

section Cites

variable {templates : List String}

theorem cites_of_silent {traced : Evaluation (σ × List (Asked V)) V α} {plain : Evaluation σ V α}
    (silent : Silent traced plain) : Cites templates traced plain :=
  ⟨fun _ => [], silent.asks, fun _ => List.forall_mem_nil _⟩

theorem Cites.bind {traced : Evaluation (σ × List (Asked V)) V α} {plain : Evaluation σ V α}
    {tracedNext : α → Evaluation (σ × List (Asked V)) V β} {next : α → Evaluation σ V β}
    (first : Cites templates traced plain)
    (rest : ∀ value, Cites templates (tracedNext value) (next value)) :
    Cites templates (traced >>= tracedNext) (plain >>= next) := by
  obtain ⟨questions, asks, quotes⟩ := first
  choose more asksMore quotesMore using rest
  refine ⟨_, asks.bind_afterwards asksMore, fun session question member => ?_⟩
  rcases List.mem_append.mp member with own | later
  · exact quotes session question own
  · obtain ⟨value, after, later⟩ := exists_of_mem_afterwards later
    exact quotesMore value after question later

/-- The code of one of the templates is code of the templates. -/
theorem code_subset {template : String} (member : template ∈ templates) :
    Template.code template ⊆ templates.flatMap Template.code := by
  intro code written
  exact List.mem_flatMap.mpr ⟨template, member, written⟩

theorem cites_resolve (world : World σ V) (bindings : Scope V) {template : String}
    (member : template ∈ templates) :
    Cites templates (resolve world.traced bindings template) (resolve world bindings template) := by
  refine ⟨_, asks_resolve world bindings template, fun session question asked => ?_⟩
  exact quotes_mono (code_subset member) (quotes_textQuestions bindings template question asked)

theorem cites_resolveOptional (world : World σ V) (focus : Focus V) {template : Option String}
    (members : template.toList ⊆ templates) :
    Cites templates (resolveOptional world.traced focus template) (resolveOptional world focus template) := by
  cases template with
  | none => exact cites_of_silent (silent_pure none)
  | some text =>
    exact (cites_resolve world focus.scope (members (List.mem_singleton_self text))).bind fun _ =>
      cites_of_silent (silent_pure _)

theorem cites_resolveLink (world : World σ V) (focus : Focus V) {link : Option Link}
    (members : (link.bind Link.template?).toList ⊆ templates) :
    Cites templates (resolveLink world.traced focus link) (resolveLink world focus link) := by
  rcases link with _ | ⟨text⟩ | ⟨value⟩
  · exact cites_of_silent (silent_pure none)
  · exact (cites_resolve world focus.scope (members (List.mem_singleton_self text))).bind fun _ =>
      cites_of_silent (silent_pure _)
  · exact cites_of_silent (silent_pure _)

theorem cites_runQuery (world : World σ V) (focus : Focus V) (kind : QueryKind) {query : String}
    (limit : Int) (member : query ∈ templates) :
    Cites templates (runQuery world.traced defaultPageSize focus kind query limit)
      (runQuery world defaultPageSize focus kind query limit) := by
  refine ⟨_, asks_runQuery world focus kind query limit, fun session question asked => ?_⟩
  exact quotes_mono (code_subset member)
    (quotes_queryQuestions world focus kind query limit session question asked)

theorem cites_evaluateItems (world : World σ V) {fields : List Field} (items : List V)
    (members : fields.filterMap (·.template) ⊆ templates) :
    Cites templates (evaluateItems world.traced fields items) (evaluateItems world fields items) := by
  refine ⟨_, asks_evaluateItems world fields items, fun session question asked => ?_⟩
  refine quotes_mono ?_ (quotes_itemsQuestions world fields items session question asked)
  intro code written
  obtain ⟨field, member, written⟩ := List.mem_flatMap.mp written
  obtain ⟨template, given, written⟩ := List.mem_flatMap.mp written
  exact code_subset (members (List.mem_filterMap.mpr ⟨field, member, Option.mem_toList.mp given⟩)) written

/-- A table of search results runs no code but that of its own texts. -/
theorem cites_evaluate_queryTable (world : World σ V) (focus : Focus V) {caption : Caption}
    {search : Search} (limit : Int) {fields : Option (List Field)} (query : search.query ∈ templates)
    (columns : (resolvedFields search.kind fields).filterMap (·.template) ⊆ templates)
    (titles : caption.title.toList ⊆ templates)
    (links : (caption.url.bind Link.template?).toList ⊆ templates) :
    Cites templates (evaluate world.traced focus (.queryTable caption search limit fields))
      (evaluate world focus (.queryTable caption search limit fields)) := by
  rw [evaluate, evaluate]
  refine (cites_runQuery world focus search.kind limit query).bind fun results => ?_
  refine (cites_evaluateItems world results.items columns).bind fun rows => ?_
  refine (cites_resolveOptional world focus titles).bind fun title => ?_
  exact (cites_resolveLink world focus links).bind fun url => cites_of_silent (silent_pure _)

end Cites

/-- The size of a table of search results. -/
theorem Tabulates.length_eq {caption : Caption} {search : Search} {limit : Int} {columns : List Field}
    {session after : Session σ V} {result : Widget}
    (tabulates : Tabulates world focus caption search limit columns session result after) :
    ∃ results searched filled headers rows,
      (runQuery world defaultPageSize focus search.kind search.query limit).runFrom session =
        (.ok results, searched) ∧
      result = .table filled headers rows ∧ headers.length = columns.length ∧
      rows.length = results.items.length ∧ ∀ row ∈ rows, row.length = columns.length := by
  obtain ⟨-, -, found, heads, items, -, -⟩ := tabulates
  refine ⟨_, _, _, _, _, found, rfl, heads.length_eq.symm, items.length_eq, fun row member => ?_⟩
  obtain ⟨item, -, _, _, cells⟩ := items.exists_of_mem member
  exact cells.length_eq

/-- **A table of search results shows each item once.** Of items that are objects the table comes about
exactly as stated: a header for each column, a row for each item and in it a cell for each column, in their
order, each with the text of that item in that column and a link to that item's page. Whatever the items are,

* a property beside a template makes no difference, so it is never read;
* all code that is run stands in the query, a column, the title or the link, so no text of an item is
  taken for a template. -/
theorem evaluate_queryTable_showsEach (world : World σ V) (focus : Focus V) (caption : Caption)
    (search : Search) (limit : Int) (fields : Option (List Field)) (session : Session σ V)
    (objects : ∀ results searched,
      (runQuery world defaultPageSize focus search.kind search.query limit).runFrom session =
        (.ok results, searched) → ∀ item ∈ results.items, world.IsObject item) :
    let columns := resolvedFields search.kind fields
    let table := evaluate world focus (.queryTable caption search limit fields)
    (∀ result after, table.runFrom session = (.ok result, after) ↔
      Tabulates world focus caption search limit columns session result after) ∧
    (∀ result after, table.runFrom session = (.ok result, after) →
      ∃ results searched filled headers rows,
        (runQuery world defaultPageSize focus search.kind search.query limit).runFrom session =
          (.ok results, searched) ∧
        result = .table filled headers rows ∧ headers.length = columns.length ∧
        rows.length = results.items.length ∧ ∀ row ∈ rows, row.length = columns.length) ∧
    (∀ others, List.Forall₂ Field.Alike columns others →
      table = evaluate world focus (.queryTable caption search limit (some others))) ∧
    ∃ asked : List (Asked V),
      (evaluate world.traced focus (.queryTable caption search limit fields)).runFrom
          (session.withTrace []) = ((table.runFrom session).1, (table.runFrom session).2.withTrace asked) ∧
      ∀ entry ∈ asked, ∀ request, entry.question = .code request → request.kind = .expression ∧
        ∃ template ∈ search.query :: (columns.filterMap (·.template) ++ caption.texts),
          request.source ∈ Template.expressions template := by
  intro columns table
  have tabulates (result : Widget) (after : Session σ V) : table.runFrom session = (.ok result, after) ↔
      Tabulates world focus caption search limit columns session result after :=
    evaluate_queryTable_eq_ok_iff objects
  refine ⟨tabulates, fun result after ran => ((tabulates result after).mp ran).length_eq,
    fun others alike => evaluate_queryTable_alike alike caption limit, ?_⟩
  have cites : Cites (search.query :: (columns.filterMap (·.template) ++ caption.texts))
      (evaluate world.traced focus (.queryTable caption search limit fields)) table := by
    refine cites_evaluate_queryTable world focus limit (List.mem_cons_self ..) ?_ ?_ ?_
    · exact List.subset_cons_of_subset _ (List.subset_append_left _ _)
    · exact List.subset_cons_of_subset _
        (List.subset_append_of_subset_right _ (List.subset_append_left _ _))
    · exact List.subset_cons_of_subset _
        (List.subset_append_of_subset_right _ (List.subset_append_right _ _))
  obtain ⟨questions, asks, quotes⟩ := cites
  obtain ⟨asked, ran, all⟩ := asks session []
  refine ⟨asked, ran, fun entry member request same => ?_⟩
  have quoted := quotes session entry.question (all.inOrder.subset (List.mem_map_of_mem member))
  rw [same] at quoted
  obtain ⟨template, given, written⟩ := List.mem_flatMap.mp quoted
  obtain ⟨source, expression, code⟩ := List.mem_map.mp written
  obtain ⟨kind, rfl⟩ := Prod.mk.inj code
  exact ⟨kind.symm, template, given, expression⟩

/-- A machine whose server finds two issues: one with braces in its title, and one without a title. -/
def twoIssues : Script.Machine (Catalogue Script.Value) where
  store := #[.object [],
    .object [(.text "number", .integer 1), (.text "title", .text "Say \x7b\x7b1\x7d\x7d"),
      (.text "html_url", .text "https://github.com/issues/1")],
    .object [(.text "number", .integer 2)]]
  userdata := .object 0
  server := { results := [("is:open", [.object 1, .object 2])] }

/-- A column of titles, and one of numbers with a property beside its template. -/
def titleAndNumber : List Field :=
  [{ property := some "title" },
    { title := some "Next", property := some "title", template := some "\x7b\x7bitem['number'] + 1\x7d\x7d" }]

/-- Whether a value is a place of an object. -/
def isPlace : Script.Value → Bool
  | .object _ => true
  | _ => false

theorem evaluate_queryTable_showsEach_twoIssues :
    let world := catalogueHost.world
    let session : Session _ _ := { state := twoIssues }
    let table := evaluate world .whole (.queryTable {} { query := "is:open" } 5 (some titleAndNumber))
    (∀ results searched, (runQuery world defaultPageSize .whole .issue "is:open" 5).runFrom session =
      (.ok results, searched) → ∀ item ∈ results.items, world.IsObject item) ∧
    ∃ result after, table.runFrom session = (.ok result, after) ∧
      Tabulates world .whole {} { query := "is:open" } 5 titleAndNumber session result after := by
  intro world session table
  have places : ((runQuery world defaultPageSize .whole .issue "is:open" 5).runFrom session).1.map
      (fun results => results.items.all isPlace) = .ok true := by decide +kernel
  have objects (results : QueryResults Script.Value) (searched : Session _ _)
      (found : (runQuery world defaultPageSize .whole .issue "is:open" 5).runFrom session =
        (.ok results, searched)) : ∀ item ∈ results.items, world.IsObject item := by
    intro item member
    rw [found] at places
    have place : isPlace item = true := List.all_eq_true.mp (Except.ok.inj places) item member
    cases item with
    | object cell => exact fun _ => ⟨_, rfl⟩
    | _ => cases place
  have succeeds : (table.runFrom session).1.isOk = true := by decide +kernel
  refine ⟨objects, ?_⟩
  rcases outcome : table.runFrom session with ⟨failure | result, after⟩
  · rw [outcome] at succeeds
    cases succeeds
  · refine ⟨result, after, rfl, ?_⟩
    exact ((evaluate_queryTable_showsEach world .whole {} { query := "is:open" } 5 (some titleAndNumber)
      session objects).1 result after).mp outcome

end Evaluation

end IssueBoard
