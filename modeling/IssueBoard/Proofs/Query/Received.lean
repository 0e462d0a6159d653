import IssueBoard.Proofs.Query.Inquiry

/-! # Entries made of what has been received

A server may report any total and give any items, other ones every time, or fail. An entry reflects
some pages if it holds their items, each page once and in order from the first one on, and tells of the
last one how many results there are and whether it was empty. Fetching from any server goes on with the
pages that come behind.
-/

namespace IssueBoard

variable {σ V ι : Type}

/-! ## Pages that have been received -/

/-- The page of a query that a server has given in an exchange, with its number. -/
def Exchange.page? (query : String) (exchange : Exchange ι) : Option (Int × SearchPage ι) :=
  match exchange.answer with
  | .ok page => if exchange.request.query = query then some (exchange.request.page, page) else none
  | .error _ => none

/-- The pages of a query that a server has given, with their numbers. -/
def pagesReceived (query : String) (log : List (Exchange ι)) : List (Int × SearchPage ι) :=
  log.filterMap (Exchange.page? query)

/-- An entry that holds some pages and nothing else. They are the first pages of its query, the last
one of them has reported the total, and the entry is exhausted if that one was empty. -/
structure QueryEntry.Reflects (entry : QueryEntry ι) (received : List (Int × SearchPage ι)) : Prop where
  numbers : received.map (·.1) = pageNumbers entry.pagesFetched
  items : entry.items = received.flatMap (·.2.items)
  total : ∀ last, received.getLast? = some last → entry.total = last.2.total
  exhausted : entry.exhausted = received.getLast?.any (·.2.items.isEmpty)

theorem pagesReceived_append (query : String) (before after : List (Exchange ι)) :
    pagesReceived query (before ++ after) = pagesReceived query before ++ pagesReceived query after :=
  List.filterMap_append

theorem pagesReceived_given (query : String) (kind : QueryKind) (perPage number : Int)
    (page : SearchPage ι) :
    pagesReceived query [⟨⟨kind, query, perPage, number⟩, .ok page⟩] = [(number, page)] := by
  simp [pagesReceived, Exchange.page?]

theorem pagesReceived_refused (query : String) (request : SearchRequest) (failure : Failure) :
    pagesReceived query [(⟨request, .error failure⟩ : Exchange ι)] = [] := rfl

/-- What is asked for one query brings no pages of another. -/
theorem pagesReceived_of_other {query other : String} {log : List (Exchange ι)}
    (asked : ∀ exchange ∈ log, exchange.request.query = query) (different : other ≠ query) :
    pagesReceived other log = [] := by
  rw [pagesReceived, List.filterMap_eq_nil_iff]
  intro exchange member
  have elsewhere : exchange.request.query ≠ other := by
    rw [asked exchange member]
    exact different.symm
  rw [Exchange.page?]
  split
  · rw [if_neg elsewhere]
  · rfl

namespace QueryEntry

variable {entry : QueryEntry ι} {received : List (Int × SearchPage ι)}

theorem reflects_fresh (query : String) : (fresh query : QueryEntry ι).Reflects [] where
  numbers := rfl
  items := rfl
  total last none := by cases none
  exhausted := rfl

/-- An entry that needs a further page is not exhausted. -/
theorem Reflects.going (own : entry.Reflects received) {limit : Int}
    (needed : entry.needsPage limit = true) : entry.exhausted = false := by
  rcases unfinished_of_needsPage needed with first | ⟨going, _⟩
  · have numbers := own.numbers
    rw [first] at numbers
    have empty : received = [] := List.map_eq_nil_iff.mp numbers
    rw [own.exhausted, empty]
    rfl
  · exact going

theorem Reflects.addPage (own : entry.Reflects received) (going : entry.exhausted = false)
    (page : SearchPage ι) :
    (entry.addPage page).Reflects (received ++ [((entry.pagesFetched : Int) + 1, page)]) where
  numbers := by
    rw [List.map_append, own.numbers, List.map_singleton]
    exact (pageNumbers_succ entry.pagesFetched).symm
  items := by
    rw [List.flatMap_append, ← own.items, List.flatMap_singleton]
    rfl
  total last latest := by
    rw [List.getLast?_concat, Option.some.injEq] at latest
    rw [← latest]
    rfl
  exhausted := by
    rw [List.getLast?_concat, Option.any_some]
    simp only [QueryEntry.addPage, going, Bool.false_or]

end QueryEntry

/-! ## Fetching from any server -/

theorem World.log_search_recorded (world : World σ V) (request : SearchRequest)
    (state : σ × List (Exchange V)) :
    (world.recorded.search request state).2.2 =
      state.2 ++ [⟨request, (world.recorded.search request state).1⟩] := rfl

/-- What fetching pages into an entry comes to: only pages of its query are asked for, the entry goes on
where it has stopped, and an exhausted entry asks for nothing. -/
structure QueryEntry.Continues (entry later : QueryEntry V) (query : String)
    (received : List (Int × SearchPage V)) (stop : Option Failure) (new : List (Exchange V)) :
    Prop where
  asked : ∀ exchange ∈ new, exchange.request.query = query
  reflects : later.Reflects (received ++ pagesReceived query new)
  grown : entry.pagesFetched ≤ later.pagesFetched
  started : stop = none → 1 ≤ later.pagesFetched
  quiet : entry.exhausted = true → new = []

theorem fetchPages_continues {world : World σ V} {query : String} {pageSize limit : Int}
    {entry later : QueryEntry V} {received : List (Int × SearchPage V)} (own : entry.Reflects received)
    {state after : σ × List (Exchange V)} {stop : Option Failure}
    (fetched : Query.fetchPages world.recorded.search query pageSize limit entry state =
      (stop, later, after)) :
    ∃ new, after.2 = state.2 ++ new ∧ entry.Continues later query received stop new := by
  -- The induction is on the pages: each one is added to those that the entry reflects.
  fun_induction Query.fetchPages world.recorded.search query pageSize limit entry state
    generalizing received with
  | case1 entry state needed failure middle refused =>
    have log := world.log_search_recorded ⟨.issue, query, pageSize, entry.pagesFetched + 1⟩ state
    rw [refused] at log
    cases fetched
    refine ⟨_, log, ?_, ?_, Nat.le_refl _, ?_, ?_⟩
    · intro exchange member
      rw [List.mem_singleton.mp member]
    · rw [pagesReceived_refused, List.append_nil]
      exact own
    · intro none
      cases none
    · intro exhausted
      rw [own.going needed] at exhausted
      cases exhausted
  | case2 entry state needed page middle answered ih =>
    have log := world.log_search_recorded ⟨.issue, query, pageSize, entry.pagesFetched + 1⟩ state
    rw [answered] at log
    have going := own.going needed
    obtain ⟨new, more, rest⟩ := ih (own.addPage going page) fetched
    refine ⟨⟨⟨.issue, query, pageSize, entry.pagesFetched + 1⟩, .ok page⟩ :: new, ?_, ?_, ?_, ?_,
      rest.started, ?_⟩
    · rw [more, log, List.append_assoc]
      rfl
    · exact List.forall_mem_cons.mpr ⟨rfl, rest.asked⟩
    · rw [← List.singleton_append, pagesReceived_append, pagesReceived_given, ← List.append_assoc]
      exact rest.reflects
    · exact Nat.le_trans (Nat.le_succ entry.pagesFetched) rest.grown
    · intro exhausted
      rw [going] at exhausted
      cases exhausted
  | case3 entry state enough =>
    cases fetched
    refine ⟨[], (List.append_nil _).symm, ?_, ?_, Nat.le_refl _, ?_, fun _ => rfl⟩
    · intro exchange member
      cases member
    · rw [pagesReceived, List.filterMap_nil, List.append_nil]
      exact own
    · intro _
      have notFresh : later.pagesFetched ≠ 0 := by
        intro first
        apply enough
        rw [QueryEntry.needsPage, first]
        rfl
      exact Nat.one_le_iff_ne_zero.mpr notFresh

end IssueBoard
