import IssueBoard.Board.Context
import IssueBoard.Proofs.Evaluation.Recorded
import IssueBoard.Proofs.Query.Entries

/-! # Putting queries one after another

An inquiry puts a list of queries to a world, each one in the session that the one before has left,
whether that one has failed or not. Its replies say what the templates stood for and what came of
them. On a cache made by queries, fetching one query keeps or replaces one entry.
-/

namespace IssueBoard

/-- A query as it is put: a template that stands for its text, and the number of items wanted. -/
structure Ask (V : Type) where
  focus : Focus V := .whole
  kind : QueryKind := .issue
  template : String
  limit : Nat

/-- What a template stood for when its query was put, and what came of the query. -/
structure Reply (V : Type) where
  query : Except Failure String
  limit : Nat
  outcome : Except Failure (QueryResults V)

variable {σ κ V ι : Type}

namespace Ask

/-- Finds out the query that the template stands for. -/
def resolve (world : World σ V) (ask : Ask V) : Evaluation σ V String :=
  Evaluation.resolve world ask.focus.scope ask.template

/-- Runs the query. -/
def put (world : World σ V) (pageSize : Int) (ask : Ask V) : Evaluation σ V (QueryResults V) :=
  Evaluation.runQuery world pageSize ask.focus ask.kind ask.template ask.limit

/-- The reply to a query that is put in a session, and the session after it. -/
def reply (world : World σ V) (pageSize : Int) (ask : Ask V) (session : Session σ V) :
    Reply V × Session σ V :=
  let (outcome, after) := (ask.put world pageSize).runFrom session
  (⟨((ask.resolve world).runFrom session).1, ask.limit, outcome⟩, after)

end Ask

/-- The numbers of the first pages, counted from one. -/
def pageNumbers (pages : Nat) : List Int := (List.range pages).map fun page : Nat => (page : Int) + 1

theorem pageNumbers_succ (pages : Nat) :
    pageNumbers (pages + 1) = pageNumbers pages ++ [(pages : Int) + 1] := by
  rw [pageNumbers, List.range_succ, List.map_append, List.map_singleton, ← pageNumbers]

/-- Puts queries one after another. -/
def inquire (world : World σ V) (pageSize : Int) :
    List (Ask V) → Session σ V → List (Reply V) × Session σ V
  | [], session => ([], session)
  | ask :: rest, session =>
    let (reply, after) := ask.reply world pageSize session
    let (replies, last) := inquire world pageSize rest after
    (reply :: replies, last)

/-- Every query has a reply, in the same place. -/
theorem limits_inquire (world : World σ V) (pageSize : Int) (asks : List (Ask V))
    (session : Session σ V) :
    (inquire world pageSize asks session).1.map (·.limit) = asks.map (·.limit) := by
  induction asks generalizing session with
  | nil => rfl
  | cons ask rest ih =>
    simp only [inquire, List.map_cons, ih]
    rfl

/-- Whether no template touches the query cache while it is resolved, all along an inquiry. -/
def Undisturbed (world : World σ V) (pageSize : Int) : List (Ask V) → Session σ V → Prop
  | [], _ => True
  | ask :: rest, session =>
    ((ask.resolve world).runFrom session).2.cache = session.cache ∧
      Undisturbed world pageSize rest (ask.reply world pageSize session).2

/-- A cut of an inquiry: what comes behind it starts from the session before it. -/
theorem inquire_append (world : World σ V) (pageSize : Int) (before after : List (Ask V))
    (session : Session σ V) :
    inquire world pageSize (before ++ after) session =
      ((inquire world pageSize before session).1 ++
          (inquire world pageSize after (inquire world pageSize before session).2).1,
        (inquire world pageSize after (inquire world pageSize before session).2).2) := by
  induction before generalizing session with
  | nil => rfl
  | cons ask rest ih => simp only [List.cons_append, inquire, ih]

theorem inquire_concat (world : World σ V) (pageSize : Int) (before : List (Ask V)) (last : Ask V)
    (session : Session σ V) :
    inquire world pageSize (before ++ [last]) session =
      ((inquire world pageSize before session).1 ++
          [(last.reply world pageSize (inquire world pageSize before session).2).1],
        (last.reply world pageSize (inquire world pageSize before session).2).2) :=
  inquire_append world pageSize before [last] session

theorem undisturbed_concat {world : World σ V} {pageSize : Int} {before : List (Ask V)} {last : Ask V}
    {session : Session σ V} :
    Undisturbed world pageSize (before ++ [last]) session ↔
      Undisturbed world pageSize before session ∧
        ((last.resolve world).runFrom (inquire world pageSize before session).2).2.cache =
          (inquire world pageSize before session).2.cache := by
  induction before generalizing session with
  | nil => simp only [List.nil_append, Undisturbed, inquire, and_true, true_and]
  | cons ask rest ih => simp only [List.cons_append, Undisturbed, ih, inquire, and_assoc]

/-- Where author code leaves the cache alone, no template touches it. -/
theorem undisturbed_of_call {world : World σ V}
    (code : ∀ request cache,
      Evaluation.Preserves (fun session => session.cache = cache) (Evaluation.call world request))
    (pageSize : Int) (asks : List (Ask V)) (session : Session σ V) :
    Undisturbed world pageSize asks session := by
  induction asks generalizing session with
  | nil => trivial
  | cons ask rest ih =>
    refine ⟨?_, ih _⟩
    exact Evaluation.preserves_resolve (fun request => code request session.cache) ask.focus.scope
      ask.template session rfl

namespace Ask

/-- In a recorded world a template that leaves the cache alone changes nothing but the state. -/
theorem runFrom_resolve_recorded {world : World σ V} {ask : Ask V}
    {session : Session (σ × List (Exchange V)) V}
    (kept : ((ask.resolve world.recorded).runFrom session).2.cache = session.cache) :
    (ask.resolve world.recorded).runFrom session =
      (((ask.resolve world).runFrom session.unlogged).1,
        { cache := session.cache
          state := (((ask.resolve world).runFrom session.unlogged).2.state, session.log) }) := by
  rw [resolve, Evaluation.resolve_recorded, Evaluation.runFrom_recorded] at kept ⊢
  rw [Session.cache_withLog] at kept
  rw [← kept]
  rfl

/-- The results that a query gives from its entry. -/
def resultsOf (ask : Ask V) (query webUrl : String) (entry : QueryEntry V) : QueryResults V :=
  { total := entry.total, items := entry.items.take ask.limit, url := Query.link query webUrl }

/-- A query of a known kind is resolved, linked and fetched, in this order. -/
theorem runFrom_put {ask : Ask V} (issue : ask.kind = .issue) (world : World σ V) (pageSize : Int)
    (session : Session σ V) :
    (ask.put world pageSize).runFrom session =
      match (ask.resolve world).runFrom session with
      | (.error failure, after) => (.error failure, after)
      | (.ok query, after) =>
        match world.webUrl with
        | .error failure => (.error failure, after)
        | .ok webUrl =>
          let fetched := Query.fetch world.search query pageSize ask.limit after.cache after.state
          (fetched.1.map (ask.resultsOf query webUrl), { cache := fetched.2.1, state := fetched.2.2 }) := by
  simp only [put, Evaluation.runQuery, issue, Evaluation.runFrom_bind, resolve]
  rcases (Evaluation.resolve world ask.focus.scope ask.template).runFrom session with
    ⟨failure | query, after⟩
  · rfl
  · simp only [Evaluation.runFrom_ofExcept]
    rcases world.webUrl with failure | webUrl
    · rfl
    · simp only [Evaluation.runFrom_ofFunction, slice_none_some]
      rcases Query.fetch world.search query pageSize ask.limit after.cache after.state with
        ⟨failure | entry, cache, state⟩ <;> rfl

theorem runFrom_put_other {ask : Ask V} {name : Data} (other : ask.kind = .other name)
    (world : World σ V) (pageSize : Int) (session : Session σ V) :
    ∃ failure, (ask.put world pageSize).runFrom session = (.error failure, session) := by
  simp only [put, Evaluation.runQuery, other, Evaluation.runFrom_bind, Evaluation.runFrom_ofExcept]
  rcases name.toText.mapError Failure.fault with failure | shown
  · exact ⟨failure, rfl⟩
  · exact ⟨_, rfl⟩

end Ask

namespace Query

variable (search : SearchRequest → κ → Except Failure (SearchPage ι) × κ)

theorem fetchPages_query (query : String) (pageSize limit : Int) (entry : QueryEntry ι) (state : κ) :
    (fetchPages search query pageSize limit entry state).2.1.query = entry.query := by
  fun_induction fetchPages search query pageSize limit entry state with
  | case1 => rfl
  | case2 entry state needed page after answered ih => exact ih
  | case3 => rfl

theorem fetchPages_fault (query : String) (pageSize limit : Int) (entry : QueryEntry ι) (state : κ) :
    (fetchPages search query pageSize limit entry state).2.1.fault = entry.fault := by
  fun_induction fetchPages search query pageSize limit entry state with
  | case1 => rfl
  | case2 entry state needed page after answered ih => exact ih
  | case3 => rfl

/-- The entry that a query starts from. -/
def startingEntry (query : String) (entries : List (QueryEntry ι)) : QueryEntry ι :=
  (entryFor? query entries).getD (.fresh query)

theorem startingEntry_query (query : String) (entries : List (QueryEntry ι)) :
    (startingEntry query entries).query = query := by
  rw [startingEntry]
  cases found : entryFor? query entries with
  | none => rfl
  | some entry => exact query_of_entryFor? found

theorem startingEntry_of_known {entries : List (QueryEntry ι)} {query : String} {entry : QueryEntry ι}
    (known : entryFor? query entries = some entry) : startingEntry query entries = entry := by
  rw [startingEntry, known, Option.getD_some]

theorem startingEntry_of_unknown {entries : List (QueryEntry ι)} {query : String}
    (unknown : entryFor? query entries = none) : startingEntry query entries = .fresh query := by
  rw [startingEntry, unknown, Option.getD_none]

/-- The entry that pages of a query have been fetched into goes by that query. -/
theorem query_of_fetched {query : String} {pageSize limit : Int} {entries : List (QueryEntry ι)}
    {state after : κ} {stop : Option Failure} {entry : QueryEntry ι}
    (fetched : fetchPages search query pageSize limit (startingEntry query entries) state =
      (stop, entry, after)) : entry.query = query := by
  have same := fetchPages_query search query pageSize limit (startingEntry query entries) state
  rwa [fetched, startingEntry_query] at same

theorem fault_of_fetched {query : String} {pageSize limit : Int} {entries : List (QueryEntry ι)}
    (sound : ∀ entry ∈ entries, entry.fault = none) {state after : κ} {stop : Option Failure}
    {entry : QueryEntry ι}
    (fetched : fetchPages search query pageSize limit (startingEntry query entries) state =
      (stop, entry, after)) : entry.fault = none := by
  have same := fetchPages_fault search query pageSize limit (startingEntry query entries) state
  rw [fetched] at same
  cases known : entryFor? query entries with
  | none =>
    rw [startingEntry_of_unknown known] at same
    exact same
  | some old =>
    rw [startingEntry_of_known known, sound old (mem_of_entryFor? known)] at same
    exact same

/-- Fetching on a cache made by queries: success keeps the entry, and failure replaces it where it
was known. -/
theorem fetch_ofEntries {entries : List (QueryEntry ι)} (sound : ∀ entry ∈ entries, entry.fault = none)
    (query : String) (pageSize limit : Int) (state : κ) :
    fetch search query pageSize limit (.ofEntries entries) state =
      match fetchPages search query pageSize limit (startingEntry query entries) state with
      | (some failure, entry, after) => (.error failure, .ofEntries (replaceEntry entry entries), after)
      | (none, entry, after) => (.ok entry, .ofEntries (keepEntry entry entries), after) := by
  simp only [fetch, QueryCache.fault?_ofEntries sound, QueryCache.find?_ofEntries]
  rw [← startingEntry]
  rcases fetched : fetchPages search query pageSize limit (startingEntry query entries) state with
    ⟨_ | failure, entry, after⟩
  · have same := query_of_fetched search fetched
    simp only [← same, QueryCache.insert_ofEntries]
  · have same := query_of_fetched search fetched
    simp only [← same, QueryCache.update_ofEntries]

end Query

end IssueBoard
