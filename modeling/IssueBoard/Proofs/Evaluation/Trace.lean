import IssueBoard.Board.Context
import IssueBoard.Proofs.Evaluation.Preservation
import IssueBoard.Proofs.Outcome
import IssueBoard.Proofs.Template.RoundTrip

/-! # Tracing what is asked of a world

A traced world answers like the world it is made from and keeps a trace of everything that it is asked:
to run author code, and for pages of search results. Author code never sees the trace, so evaluation
goes on as it does without it. What an evaluation asks is stated as a list of questions, of which a run
that fails has asked the first few.
-/

namespace IssueBoard

/-- What is asked of a world: to run author code, or for a page of search results. -/
inductive Question (V : Type) where
  | code (request : Call V)
  | page (request : SearchRequest)

/-- A question that was asked, and why it was not answered. -/
structure Asked (V : Type) where
  question : Question V
  failure : Option Failure

variable {σ V α β : Type}

namespace Session

/-- The session of a traced world without its trace. -/
def untraced (session : Session (σ × List (Asked V)) V) : Session σ V :=
  { cache := session.cache, state := session.state.1 }

/-- What has been asked so far in a traced world, in order. -/
def trace (session : Session (σ × List (Asked V)) V) : List (Asked V) := session.state.2

/-- A session of a traced world with the given trace. -/
def withTrace (session : Session σ V) (trace : List (Asked V)) : Session (σ × List (Asked V)) V :=
  { cache := session.cache, state := (session.state, trace) }

@[simp] theorem untraced_withTrace (session : Session σ V) (trace : List (Asked V)) :
    (session.withTrace trace).untraced = session := rfl

@[simp] theorem trace_withTrace (session : Session σ V) (trace : List (Asked V)) :
    (session.withTrace trace).trace = trace := rfl

end Session

/-- Why there is no result. -/
def failure? : Except Failure α → Option Failure
  | .ok _ => none
  | .error failure => some failure

theorem eq_error_of_failure? {result : Except Failure α} {failure : Failure}
    (failed : failure? result = some failure) : result = .error failure := by
  cases result with
  | ok value => cases failed
  | error other => exact congrArg Except.error (Option.some.inj failed)

/-- The world that answers like this one and keeps a trace of what it is asked. -/
def World.traced (world : World σ V) : World (σ × List (Asked V)) V where
  webUrl := world.webUrl
  run request session :=
    let (result, after) := world.run request session.untraced
    (result, after.withTrace (session.trace ++ [⟨.code request, failure? result⟩]))
  view session := world.view session.untraced
  field? session := world.field? session.untraced
  search request state :=
    let (answer, after) := world.search request state.1
    (answer, (after, state.2 ++ [⟨.page request, failure? answer⟩]))

/-! ## Runs up to a failure -/

/-- Whether a question without an answer is the last one, and the run fails for its reason. -/
def StopsAt (ending : Option Failure) : List (Asked V) → Prop
  | [] => True
  | entry :: rest =>
    match entry.failure with
    | none => StopsAt ending rest
    | some failure => rest = [] ∧ ending = some failure

theorem StopsAt.append {ending : Option Failure} {first rest : List (Asked V)}
    (answered : StopsAt none first) (stops : StopsAt ending rest) : StopsAt ending (first ++ rest) := by
  induction first with
  | nil => exact stops
  | cons entry first ih =>
    rw [StopsAt] at answered
    rw [List.cons_append, StopsAt]
    cases failed : entry.failure with
    | none =>
      rw [failed] at answered
      exact ih answered
    | some failure =>
      rw [failed] at answered
      cases answered.2

theorem StopsAt.last {ending : Option Failure} {before after : List (Asked V)} {entry : Asked V}
    {failure : Failure} (stops : StopsAt ending (before ++ entry :: after))
    (failed : entry.failure = some failure) : after = [] ∧ ending = some failure := by
  induction before with
  | nil =>
    rw [List.nil_append, StopsAt, failed] at stops
    exact stops
  | cons first before ih =>
    rw [List.cons_append, StopsAt] at stops
    cases answered : first.failure with
    | none =>
      rw [answered] at stops
      exact ih stops
    | some reason =>
      rw [answered] at stops
      exact absurd stops.1 (by simp)

/-- What was asked of some questions: the first few, and all of them unless the run fails. -/
structure AskedOf (questions : List (Question V)) (asked : List (Asked V))
    (ending : Option Failure) : Prop where
  stops : StopsAt ending asked
  inOrder : asked.map (·.question) <+: questions
  complete : ending = none → asked.map (·.question) = questions

namespace AskedOf

variable {questions more : List (Question V)} {asked later : List (Asked V)} {ending : Option Failure}

theorem nil (ending : Option Failure) : AskedOf ([] : List (Question V)) [] ending :=
  ⟨trivial, List.nil_prefix, fun _ => rfl⟩

theorem none_of_some (questions : List (Question V)) (failure : Failure) :
    AskedOf questions [] (some failure) :=
  ⟨trivial, List.nil_prefix, nofun⟩

theorem single (question : Question V) (ending : Option Failure) :
    AskedOf [question] [⟨question, ending⟩] ending := by
  refine ⟨?_, List.prefix_rfl, fun _ => rfl⟩
  cases ending with
  | none => trivial
  | some failure => exact ⟨rfl, rfl⟩

theorem append (first : AskedOf questions asked none) (rest : AskedOf more later ending) :
    AskedOf (questions ++ more) (asked ++ later) ending := by
  have all := first.complete rfl
  refine ⟨first.stops.append rest.stops, ?_, fun done => ?_⟩
  · rw [List.map_append, all]
    exact (List.prefix_append_right_inj _).mpr rest.inOrder
  · rw [List.map_append, all, rest.complete done]

/-- After a failure nothing is asked any more. -/
theorem extend {failure : Failure} (first : AskedOf questions asked (some failure))
    (few : questions <+: more) : AskedOf more asked (some failure) :=
  ⟨first.stops, first.inOrder.trans few, nofun⟩

end AskedOf

namespace Template

/-- The expressions of a template, in order. -/
def expressions (source : String) : List String :=
  match scan source with
  | .ok segments => (segments.filter (·.isExpression)).map (·.text)
  | .error _ => []

theorem expressions_of_plain {source : String} (plain : hasExpressions source = false) :
    expressions source = [] := by
  have free : ¬ ['{', '{'] <:+: source.toList := by
    rw [← hasOpening_iff, ← hasExpressions, plain]
    exact Bool.false_ne_true
  have scanned : scan source = .ok (literalAt 0 source.toList) := by
    rw [scan, segments_of_free free]
    rfl
  simp only [expressions, scanned, literalAt]
  split <;> rfl

end Template

namespace Evaluation

/-- Whether an evaluation in a traced world does what another one does without the trace, and has then
asked certain questions. -/
def Asks (traced : Evaluation (σ × List (Asked V)) V α) (plain : Evaluation σ V α)
    (questions : Session σ V → List (Question V)) : Prop :=
  ∀ session trace, ∃ asked, traced.runFrom (session.withTrace trace) =
      ((plain.runFrom session).1, (plain.runFrom session).2.withTrace (trace ++ asked)) ∧
    AskedOf (questions session) asked (failure? (plain.runFrom session).1)

/-- Whether an evaluation asks nothing and leaves the session as it is. -/
def Silent (traced : Evaluation (σ × List (Asked V)) V α) (plain : Evaluation σ V α) : Prop :=
  ∀ session trace, ∃ result, traced.runFrom (session.withTrace trace) = (result, session.withTrace trace) ∧
    plain.runFrom session = (result, session)

/-- What is asked once there is a result. -/
def afterwards (outcome : Except Failure α × Session σ V)
    (next : α → Session σ V → List (Question V)) : List (Question V) :=
  match outcome with
  | (.ok value, session) => next value session
  | (.error _, _) => []

section Calculus

variable {traced : Evaluation (σ × List (Asked V)) V α} {plain : Evaluation σ V α}
  {tracedNext : α → Evaluation (σ × List (Asked V)) V β} {next : α → Evaluation σ V β}
  {questions : Session σ V → List (Question V)}

theorem silent_pure (value : α) :
    Silent (pure value : Evaluation (σ × List (Asked V)) V α) (pure value) :=
  fun _ _ => ⟨.ok value, rfl, rfl⟩

theorem silent_ofExcept (result : Except Failure α) :
    Silent (ofExcept result : Evaluation (σ × List (Asked V)) V α) (ofExcept result) :=
  fun _ _ => ⟨result, rfl, rfl⟩

theorem silent_view (world : World σ V) (value : V) : Silent (view world.traced value) (view world value) :=
  fun session _ => ⟨.ok (world.view session value), rfl, rfl⟩

theorem silent_field? (world : World σ V) (value : V) (name : String) :
    Silent (field? world.traced value name) (field? world value name) :=
  fun session _ => ⟨.ok (world.field? session value name), rfl, rfl⟩

theorem Silent.bind (first : Silent traced plain) (rest : ∀ value, Silent (tracedNext value) (next value)) :
    Silent (traced >>= tracedNext) (plain >>= next) := by
  intro session trace
  obtain ⟨result, ran, same⟩ := first session trace
  rw [runFrom_bind, runFrom_bind, ran, same]
  cases result with
  | ok value => exact rest value session trace
  | error failure => exact ⟨.error failure, rfl, rfl⟩

theorem Silent.asks (silent : Silent traced plain) : Asks traced plain fun _ => [] := by
  intro session trace
  obtain ⟨result, ran, same⟩ := silent session trace
  refine ⟨[], ?_, .nil _⟩
  rw [ran, same, List.append_nil]

/-- The second part asks its questions after those of the first; what these are may depend on the
first part's result and on the session that it leaves. -/
theorem Asks.bind {all : Session σ V → List (Question V)} (first : Asks traced plain questions)
    (rest : ∀ session value after, plain.runFrom session = (.ok value, after) →
      ∃ more, Asks (tracedNext value) (next value) more ∧ all session = questions session ++ more after)
    (few : ∀ session failure after, plain.runFrom session = (.error failure, after) →
      questions session <+: all session) :
    Asks (traced >>= tracedNext) (plain >>= next) all := by
  intro session trace
  obtain ⟨asked, ran, firsts⟩ := first session trace
  rw [runFrom_bind, runFrom_bind, ran]
  rcases outcome : plain.runFrom session with ⟨failure | value, after⟩
  · rw [outcome] at firsts
    exact ⟨asked, rfl, firsts.extend (few session failure after outcome)⟩
  · rw [outcome] at firsts
    obtain ⟨more, second, same⟩ := rest session value after outcome
    obtain ⟨later, ran, others⟩ := second after (trace ++ asked)
    refine ⟨asked ++ later, ?_, ?_⟩
    · rw [← List.append_assoc]
      exact ran
    · rw [same]
      exact firsts.append others

theorem Asks.bind_afterwards {more : α → Session σ V → List (Question V)}
    (first : Asks traced plain questions)
    (rest : ∀ value, Asks (tracedNext value) (next value) (more value)) :
    Asks (traced >>= tracedNext) (plain >>= next)
      fun session => questions session ++ afterwards (plain.runFrom session) more := by
  refine first.bind (fun session value after outcome => ⟨more value, rest value, ?_⟩) fun _ _ _ _ => ?_
  · rw [outcome]
    rfl
  · exact List.prefix_append _ _

/-- What the second part asks may be known beforehand. -/
theorem Asks.bind_known {more : List (Question V)} (first : Asks traced plain questions)
    (rest : ∀ value, Asks (tracedNext value) (next value) fun _ => more) :
    Asks (traced >>= tracedNext) (plain >>= next) fun session => questions session ++ more :=
  first.bind (fun _ value _ _ => ⟨fun _ => more, rest value, rfl⟩) fun _ _ _ _ => List.prefix_append _ _

theorem Asks.bind_silent (first : Asks traced plain questions)
    (rest : ∀ value, Silent (tracedNext value) (next value)) :
    Asks (traced >>= tracedNext) (plain >>= next) questions :=
  first.bind (fun _ value _ _ => ⟨fun _ => [], (rest value).asks, (List.append_nil _).symm⟩)
    fun _ _ _ _ => List.prefix_rfl

theorem Silent.bind_asks (first : Silent traced plain)
    (rest : ∀ value, Asks (tracedNext value) (next value) questions) :
    Asks (traced >>= tracedNext) (plain >>= next) questions := by
  refine first.asks.bind (fun session value after outcome => ⟨questions, rest value, ?_⟩)
    fun _ _ _ _ => List.nil_prefix
  obtain ⟨result, -, same⟩ := first session []
  rw [same] at outcome
  cases outcome
  rfl

end Calculus

/-! ## Code and pages -/

theorem asks_call (world : World σ V) (request : Call V) :
    Asks (call world.traced request) (call world request) fun _ => [.code request] :=
  fun session _ => ⟨[⟨.code request, failure? (world.run request session).1⟩], rfl, .single _ _⟩

/-- What resolving a piece of a template asks. -/
def segmentQuestions (scope : Scope V) (segment : Segment) : List (Question V) :=
  if segment.isExpression then [.code ⟨.expression, segment.text, scope⟩] else []

theorem silent_display (world : World σ V) (value : V) :
    Silent (display world.traced value) (display world value) :=
  (silent_view world value).bind fun _ => silent_ofExcept _

theorem asks_resolveSegment (world : World σ V) (scope : Scope V) (segment : Segment) :
    Asks (resolveSegment world.traced scope segment) (resolveSegment world scope segment)
      fun _ => segmentQuestions scope segment := by
  unfold resolveSegment segmentQuestions
  split
  · exact (asks_call world _).bind_silent fun value => silent_display world value
  · exact (silent_pure _).asks

theorem asks_resolveSegments (world : World σ V) (scope : Scope V) (segments : List Segment) :
    Asks (resolveSegments world.traced scope segments) (resolveSegments world scope segments)
      fun _ => segments.flatMap (segmentQuestions scope) := by
  induction segments with
  | nil => exact (silent_pure "").asks
  | cons segment rest ih =>
    refine (asks_resolveSegment world scope segment).bind_known fun text => ?_
    exact ih.bind_silent fun others => silent_pure _

/-- What resolving a template with some bindings asks. -/
def textQuestions (bindings : Scope V) (source : String) : List (Question V) :=
  (Template.expressions source).map fun text => .code ⟨.expression, text, helperScope ++ bindings⟩

theorem textQuestions_of_scan {bindings : Scope V} {source : String} {segments : List Segment}
    (scanned : Template.scan source = .ok segments) :
    textQuestions bindings source = segments.flatMap (segmentQuestions (helperScope ++ bindings)) := by
  simp only [textQuestions, Template.expressions, scanned]
  clear scanned
  induction segments with
  | nil => rfl
  | cons segment rest ih =>
    rw [List.flatMap_cons, ← ih, segmentQuestions]
    cases expression : segment.isExpression with
    | true => simp only [List.filter_cons, expression, if_true, List.map_cons, List.singleton_append]
    | false =>
      simp only [List.filter_cons, expression, Bool.false_eq_true, if_false, List.nil_append]

theorem eq_of_createScope {bindings scope : Scope V} (created : createScope bindings = .ok scope) :
    scope = helperScope ++ bindings := by
  obtain ⟨⟨⟩, -, same⟩ := bind_eq_ok_iff.mp created
  exact (pure_eq_ok_iff.mp same).symm

/-- Code is run in the scope of the helpers and the bindings, if there is such a scope. -/
theorem asks_inScope (questions : Scope V → Session σ V → List (Question V))
    {traced : Scope V → Evaluation (σ × List (Asked V)) V α} {plain : Scope V → Evaluation σ V α}
    (bindings : Scope V) (asks : Asks (traced (helperScope ++ bindings)) (plain (helperScope ++ bindings))
      (questions (helperScope ++ bindings))) :
    Asks (ofExcept (createScope bindings) >>= traced) (ofExcept (createScope bindings) >>= plain)
      (questions (helperScope ++ bindings)) := by
  refine (silent_ofExcept _).asks.bind (fun session scope after outcome => ?_) fun _ _ _ _ =>
    List.nil_prefix
  rw [runFrom_ofExcept] at outcome
  obtain ⟨created, rfl⟩ := Prod.mk.inj outcome
  obtain rfl := eq_of_createScope created
  exact ⟨_, asks, rfl⟩

/-- A text asks for the values of its expressions, from left to right. -/
theorem asks_resolve (world : World σ V) (bindings : Scope V) (source : String) :
    Asks (resolve world.traced bindings source) (resolve world bindings source)
      fun _ => textQuestions bindings source := by
  refine asks_inScope (fun _ _ => textQuestions bindings source) bindings ?_
  cases spans : Template.hasExpressions source with
  | true =>
    simp only [if_true]
    refine (silent_ofExcept _).asks.bind (fun session segments after outcome => ?_) fun _ _ _ _ =>
      List.nil_prefix
    obtain ⟨scanned, rfl⟩ := Prod.mk.inj outcome
    rw [textQuestions_of_scan (mapError_eq_ok_iff.mp scanned)]
    exact ⟨_, asks_resolveSegments world _ segments, rfl⟩
  | false =>
    rw [textQuestions, Template.expressions_of_plain spans]
    exact (silent_pure source).asks

/-- What running a script asks. -/
def scriptQuestions (bindings : Scope V) (source : String) : List (Question V) :=
  [.code ⟨.script, source, helperScope ++ bindings⟩]

theorem asks_runScript (world : World σ V) (bindings : Scope V) (source : String) :
    Asks (runScript world.traced bindings source) (runScript world bindings source)
      fun _ => scriptQuestions bindings source :=
  asks_inScope (fun scope _ => [.code ⟨.script, source, scope⟩]) bindings (asks_call world _)

/-! ## Pages -/

/-- The requests for pages of a query's results, from one page on. -/
def pageQuestions (query : String) (first count : Nat) : List (Question V) :=
  (List.range' first count).map fun page : Nat => .page ⟨.issue, query, defaultPageSize, page⟩

/-- What a query asks, given what the cache holds: the pages from the first one that it does not hold. -/
def fetchQuestions (world : World σ V) (query : String) (limit : Int) (session : Session σ V) :
    List (Question V) :=
  let known := (session.cache.find? query).getD (.fresh query)
  let (failure, entry, _) := Query.fetchPages world.search query defaultPageSize limit known session.state
  pageQuestions query (known.pagesFetched + 1)
    (entry.pagesFetched - known.pagesFetched + if failure.isSome then 1 else 0)

theorem le_pagesFetched_fetchPages (search : SearchRequest → σ → Except Failure (SearchPage V) × σ)
    (query : String) (pageSize limit : Int) (entry : QueryEntry V) (state : σ) :
    entry.pagesFetched ≤ (Query.fetchPages search query pageSize limit entry state).2.1.pagesFetched := by
  fun_induction Query.fetchPages search query pageSize limit entry state with
  | case1 entry state needed failure after answer => exact le_rfl
  | case2 entry state needed page after answer ih => exact (Nat.le_succ _).trans ih
  | case3 entry state enough => exact le_rfl

theorem pageQuestions_succ (query : String) (first count : Nat) :
    (pageQuestions query first (count + 1) : List (Question V)) =
      .page ⟨.issue, query, defaultPageSize, first⟩ :: pageQuestions query (first + 1) count := by
  rw [pageQuestions, List.range'_succ, List.map_cons, pageQuestions]

theorem search_traced {world : World σ V} {request : SearchRequest} {state after : σ}
    {answer : Except Failure (SearchPage V)} (answered : world.search request state = (answer, after))
    (trace : List (Asked V)) :
    world.traced.search request (state, trace) =
      (answer, (after, trace ++ [⟨.page request, failure? answer⟩])) := by
  simp only [World.traced, answered]

theorem fetchPages_traced {world : World σ V} {query : String} {limit : Int}
    {entry final : QueryEntry V} {state last : σ} {failure : Option Failure}
    (fetched : Query.fetchPages world.search query defaultPageSize limit entry state =
      (failure, final, last)) (trace : List (Asked V)) : ∃ asked,
      Query.fetchPages world.traced.search query defaultPageSize limit entry (state, trace) =
        (failure, final, (last, trace ++ asked)) ∧
      AskedOf (pageQuestions query (entry.pagesFetched + 1)
        (final.pagesFetched - entry.pagesFetched + if failure.isSome then 1 else 0)) asked failure := by
  fun_induction Query.fetchPages world.search query defaultPageSize limit entry state
    generalizing trace with
  | case1 entry state needed reason after answered =>
    obtain ⟨rfl, rest⟩ := Prod.mk.inj fetched
    obtain ⟨rfl, rfl⟩ := Prod.mk.inj rest
    refine ⟨[⟨.page ⟨.issue, query, defaultPageSize, entry.pagesFetched + 1⟩, some reason⟩], ?_, ?_⟩
    · rw [Query.fetchPages, dif_pos needed, search_traced answered]
      rfl
    · rw [Nat.sub_self, Option.isSome_some, if_pos rfl, pageQuestions_succ]
      exact .single _ (some reason)
  | case2 entry state needed page after answered ih =>
    obtain ⟨asked, ran, rest⟩ := ih fetched
      (trace ++ [⟨.page ⟨.issue, query, defaultPageSize, entry.pagesFetched + 1⟩, none⟩])
    refine ⟨⟨.page ⟨.issue, query, defaultPageSize, entry.pagesFetched + 1⟩, none⟩ :: asked, ?_, ?_⟩
    · rw [Query.fetchPages, dif_pos needed, search_traced answered]
      rw [List.append_assoc] at ran
      exact ran
    · have further := le_pagesFetched_fetchPages world.search query defaultPageSize limit
        (entry.addPage page) after
      rw [fetched] at further
      have count : final.pagesFetched - entry.pagesFetched =
          final.pagesFetched - (entry.addPage page).pagesFetched + 1 := by
        simp only [QueryEntry.addPage] at further ⊢
        omega
      rw [count, Nat.add_right_comm, pageQuestions_succ]
      exact (AskedOf.single _ none).append rest
  | case3 entry state enough =>
    obtain ⟨rfl, rest⟩ := Prod.mk.inj fetched
    obtain ⟨rfl, rfl⟩ := Prod.mk.inj rest
    refine ⟨[], ?_, ?_⟩
    · rw [Query.fetchPages, dif_neg enough, List.append_nil]
    · rw [Nat.sub_self]
      cases entry.totalFault? limit with
      | none => exact .nil _
      | some reason => exact .none_of_some _ reason

/-- What a query in a focus asks: its text, and then for pages. -/
def queryQuestions (world : World σ V) (focus : Focus V) (kind : QueryKind) (query : String)
    (limit : Int) (session : Session σ V) : List (Question V) :=
  match kind with
  | .issue => textQuestions focus.scope query ++
      afterwards ((resolve world focus.scope query).runFrom session) fun resolved =>
        fetchQuestions world resolved limit
  | .other _ => []

theorem asks_fetch (world : World σ V) (query : String) (limit : Int) :
    Asks (ofFunction fun session =>
        let (answer, cache, state) :=
          Query.fetch world.traced.search query defaultPageSize limit session.cache session.state
        (answer, { cache, state }))
      (ofFunction fun session =>
        let (answer, cache, state) :=
          Query.fetch world.search query defaultPageSize limit session.cache session.state
        (answer, { cache, state }))
      (fetchQuestions world query limit) := by
  intro session trace
  simp only [runFrom_ofFunction, Query.fetch]
  cases spoiled : session.cache.fault? query with
  | some fault =>
    refine ⟨[], ?_, ?_⟩
    · simp only [Session.withTrace, spoiled, List.append_nil]
    · exact .none_of_some _ (.fault fault)
  | none =>
    rcases fetched : Query.fetchPages world.search query defaultPageSize limit
      ((session.cache.find? query).getD (.fresh query)) session.state with ⟨failure, entry, state⟩
    obtain ⟨asked, ran, pages⟩ := fetchPages_traced fetched trace
    refine ⟨asked, ?_, ?_⟩
    · simp only [Session.withTrace, spoiled, ran]
      cases failure <;> rfl
    · rw [fetchQuestions, fetched]
      cases failure <;> exact pages

theorem asks_runQuery (world : World σ V) (focus : Focus V) (kind : QueryKind) (query : String)
    (limit : Int) :
    Asks (runQuery world.traced defaultPageSize focus kind query limit)
      (runQuery world defaultPageSize focus kind query limit)
      (queryQuestions world focus kind query limit) := by
  cases kind with
  | issue =>
    refine (asks_resolve world focus.scope query).bind_afterwards fun resolved => ?_
    refine (silent_ofExcept world.webUrl).bind_asks fun webUrl => ?_
    exact (asks_fetch world resolved limit).bind_silent fun entry => silent_pure _
  | other name => 
    refine ((silent_ofExcept _).bind fun shown => ?_).asks
    exact fun _ _ => ⟨_, rfl, rfl⟩

end Evaluation

end IssueBoard
