import IssueBoard.Proofs.Query.HonestServer
import Mathlib.Data.List.Induction
import Mathlib.Data.List.Perm.Basic

/-! # Pagination against an honest server

Queries put to an honest server one after another give the total and the items that they ask for. The
entry that a query leaves holds as many pages as its largest limit needs, and each of these pages has
been asked for once, in order. So neither the results nor the cache depend on the order of the queries.
-/

namespace IssueBoard

variable {σ V : Type}

/-- The limit of a reply, if it is one to the given query. -/
def Reply.limitFor? (query : String) (reply : Reply V) : Option Nat :=
  match reply.query with
  | .ok known => if known = query then some reply.limit else none
  | .error _ => none

/-- The limits with which a query has been put. -/
def askedLimits (query : String) (replies : List (Reply V)) : List Nat :=
  replies.filterMap (Reply.limitFor? query)

/-- The largest limit with which a query has been put. -/
def largestLimit (query : String) (replies : List (Reply V)) : Nat :=
  (askedLimits query replies).foldr max 0

/-- The number of pages that an honest server has been asked for. -/
def pagesHeld (pageSize : Nat) (results : String → List V) (replies : List (Reply V))
    (query : String) : Nat :=
  if (askedLimits query replies).isEmpty then 0
  else pagesNeeded pageSize (results query).length (largestLimit query replies)

theorem askedLimits_append (query : String) (before after : List (Reply V)) :
    askedLimits query (before ++ after) = askedLimits query before ++ askedLimits query after :=
  List.filterMap_append

theorem Reply.limitFor?_eq_none_iff {query : String} {reply : Reply V} :
    reply.limitFor? query = none ↔ reply.query ≠ .ok query := by
  rw [limitFor?]
  split
  · next known resolved => simp [resolved]
  · next failure resolved => simp [resolved]

theorem askedLimits_ne_nil_iff (query : String) (replies : List (Reply V)) :
    askedLimits query replies ≠ [] ↔ ∃ reply ∈ replies, reply.query = .ok query := by
  rw [Ne, askedLimits, List.filterMap_eq_nil_iff]
  simp only [Reply.limitFor?_eq_none_iff, not_forall, Ne, not_not, exists_prop]

theorem askedLimits_perm {replies others : List (Reply V)} (perm : replies.Perm others)
    (query : String) : (askedLimits query replies).Perm (askedLimits query others) :=
  perm.filterMap _

theorem largestLimit_perm {replies others : List (Reply V)} (perm : replies.Perm others)
    (query : String) : largestLimit query replies = largestLimit query others :=
  (askedLimits_perm perm query).foldr_eq 0

theorem largestLimit_append (query : String) (before after : List (Reply V)) :
    largestLimit query (before ++ after) =
      max (largestLimit query before) (largestLimit query after) := by
  rw [largestLimit, askedLimits_append, List.foldr_append, largestLimit, largestLimit]
  induction askedLimits query before with
  | nil => rw [List.foldr_nil, List.foldr_nil, Nat.zero_max]
  | cons limit rest ih => rw [List.foldr_cons, List.foldr_cons, ih, Nat.max_assoc]

section Run

variable {pageSize : Nat} {results : String → List V} {replies : List (Reply V)}

/-- A query that is put once more needs as many pages as the larger of the limits. -/
theorem pagesHeld_concat (reply : Reply V) {asked : String} (resolved : reply.query = .ok asked)
    (query : String) :
    pagesHeld pageSize results (replies ++ [reply]) query =
      if query = asked then
        max (pagesHeld pageSize results replies asked)
          (pagesNeeded pageSize (results asked).length reply.limit)
      else pagesHeld pageSize results replies query := by
  by_cases same : query = asked
  · subst same
    have one : askedLimits query [reply] = [reply.limit] := by
      simp [askedLimits, Reply.limitFor?, resolved]
    have largest : largestLimit query [reply] = reply.limit := by
      rw [largestLimit, one, List.foldr_cons, List.foldr_nil, Nat.max_zero]
    rw [if_pos rfl, pagesHeld, pagesHeld, largestLimit_append, largest, askedLimits_append, one,
      pagesNeeded_max]
    cases limits : askedLimits query replies with
    | nil =>
      have least := one_le_pagesNeeded pageSize (results query).length reply.limit
      have zero : pagesNeeded pageSize (results query).length (largestLimit query replies) ≤
          pagesNeeded pageSize (results query).length reply.limit :=
        pagesNeeded_mono pageSize _ (by rw [largestLimit, limits]; exact Nat.zero_le _)
      simp only [List.nil_append, List.isEmpty_cons, List.isEmpty_nil, Bool.false_eq_true, if_false,
        if_true, Nat.zero_max]
      omega
    | cons => rfl
  · have none : askedLimits query [reply] = [] := by
      simp [askedLimits, Reply.limitFor?, resolved, Ne.symm same]
    rw [if_neg same, pagesHeld, pagesHeld, largestLimit_append, askedLimits_append, none,
      List.append_nil, largestLimit, largestLimit, none, List.foldr_nil, Nat.max_zero]

/-- A template that stands for nothing puts no query. -/
theorem pagesHeld_concat_failed (reply : Reply V) {failure : Failure}
    (failed : reply.query = .error failure) (query : String) :
    pagesHeld pageSize results (replies ++ [reply]) query = pagesHeld pageSize results replies query := by
  have none : askedLimits query [reply] = [] := by simp [askedLimits, Reply.limitFor?, failed]
  rw [pagesHeld, pagesHeld, largestLimit_append, askedLimits_append, none, List.append_nil,
    largestLimit, largestLimit, none, List.foldr_nil, Nat.max_zero]

/-- What a session holds once queries have been put to an honest server: under each of them an entry
of as many pages as the largest limit needs, and for each of these pages one request. -/
structure HoldsPages (pageSize : Nat) (results : String → List V) (fixed : σ → Prop)
    (replies : List (Reply V)) (session : Session (σ × List (Exchange V)) V) : Prop where
  state : fixed session.unlogged.state
  cache : ∃ entries, session.cache = .ofEntries entries ∧ (entries.map (·.query)).Nodup ∧
    (∀ query, query ∈ entries.map (·.query) ↔ ∃ reply ∈ replies, reply.query = .ok query) ∧
    ∀ query ∈ entries.map (·.query), entryFor? query entries =
      some (.ofPages query (results query) pageSize (pagesHeld pageSize results replies query))
  requests : ∀ query,
    pagesAsked query session.log = pageNumbers (pagesHeld pageSize results replies query)

theorem pagesHeld_eq_zero_iff {query : String} :
    pagesHeld pageSize results replies query = 0 ↔ ¬ ∃ reply ∈ replies, reply.query = .ok query := by
  have least := one_le_pagesNeeded pageSize (results query).length (largestLimit query replies)
  rw [← askedLimits_ne_nil_iff, not_not, pagesHeld]
  cases askedLimits query replies with
  | nil => simp
  | cons limit rest =>
    simp only [List.isEmpty_cons, Bool.false_eq_true, if_false, reduceCtorEq, iff_false]
    omega

/-- Every query starts from the entry of the pages that are held. -/
theorem startingEntry_eq_pagedEntry {entries : List (QueryEntry V)}
    (known : ∀ query, query ∈ entries.map (·.query) ↔ ∃ reply ∈ replies, reply.query = .ok query)
    (held : ∀ query ∈ entries.map (·.query), entryFor? query entries =
      some (.ofPages query (results query) pageSize (pagesHeld pageSize results replies query)))
    (query : String) :
    Query.startingEntry query entries =
      pagedEntry query (results query) pageSize (pagesHeld pageSize results replies query) := by
  rw [Query.startingEntry, pagedEntry]
  by_cases member : query ∈ entries.map (·.query)
  · have started : pagesHeld pageSize results replies query ≠ 0 := by
      rw [Ne, pagesHeld_eq_zero_iff, not_not]
      exact (known query).mp member
    rw [held query member, if_neg started, Option.getD_some]
  · have missing : entryFor? query entries = none := by
      rw [← Option.isNone_iff_eq_none, ← Option.not_isSome, Bool.not_eq_true', ← Bool.not_eq_true]
      exact fun found => member (entryFor?_isSome_iff.mp found)
    have zero : pagesHeld pageSize results replies query = 0 := by
      rw [pagesHeld_eq_zero_iff, ← known]
      exact member
    rw [missing, if_pos zero, Option.getD_none]

variable {world : World σ V} {webUrl : String} {fixed : σ → Prop}

/-- What a query has to give: the length of its list of results, and the first of them. -/
def honestResults (results : String → List V) (webUrl : String) (limit : Nat) (query : String) :
    QueryResults V :=
  { total := .count (results query).length, items := (results query).take limit
    url := Query.link query webUrl }

theorem resultsOf_ofPages (ask : Ask V) (positive : 1 ≤ pageSize) (query : String) {pages : Nat}
    (enough : pagesNeeded pageSize (results query).length ask.limit ≤ pages) :
    ask.resultsOf query webUrl (.ofPages query (results query) pageSize pages) =
      honestResults results webUrl ask.limit query := by
  simp only [Ask.resultsOf, QueryEntry.ofPages, honestResults, take_pages positive enough]

theorem mem_concat_iff {reply : Reply V} {query : String} :
    (∃ other ∈ replies ++ [reply], other.query = .ok query) ↔
      (∃ other ∈ replies, other.query = .ok query) ∨ reply.query = .ok query := by
  simp only [List.mem_append, List.mem_singleton, or_and_right, exists_or, exists_eq_left]

variable {session after : Session (σ × List (Exchange V)) V}

theorem HoldsPages.concat_failed (holds : HoldsPages pageSize results fixed replies session)
    {reply : Reply V} {failure : Failure} (failed : reply.query = .error failure)
    (state : fixed after.unlogged.state) (cache : after.cache = session.cache)
    (log : after.log = session.log) :
    HoldsPages pageSize results fixed (replies ++ [reply]) after := by
  obtain ⟨_, ⟨entries, stored, distinct, known, held⟩, requests⟩ := holds
  refine ⟨state, ⟨entries, cache.trans stored, distinct, ?_, ?_⟩, ?_⟩
  · intro query
    rw [known, mem_concat_iff, failed]
    simp only [reduceCtorEq, or_false]
  · intro query member
    rw [pagesHeld_concat_failed reply failed]
    exact held query member
  · intro query
    rw [log, pagesHeld_concat_failed reply failed]
    exact requests query

/-- A query that has been fetched brings its own entry, and no other, to the last page needed. -/
theorem HoldsPages.concat_kept (holds : HoldsPages pageSize results fixed replies session)
    {entries : List (QueryEntry V)} (stored : session.cache = .ofEntries entries)
    {reply : Reply V} {asked : String} (resolved : reply.query = .ok asked)
    {new : List (Exchange V)} (state : fixed after.unlogged.state)
    (cache : after.cache = .ofEntries (keepEntry (.ofPages asked (results asked) pageSize
      (max (pagesHeld pageSize results replies asked)
        (pagesNeeded pageSize (results asked).length reply.limit))) entries))
    (log : after.log = session.log ++ new)
    (pages : new.map (·.request) = requestsFor asked pageSize
      ((pageNumbers (pagesNeeded pageSize (results asked).length reply.limit)).drop
        (pagesHeld pageSize results replies asked))) :
    HoldsPages pageSize results fixed (replies ++ [reply]) after := by
  obtain ⟨_, ⟨entries', stored', distinct, known, held⟩, requests⟩ := holds
  have same : entries' = entries := congrArg QueryCache.entries (stored'.symm.trans stored)
  subst same
  refine ⟨state, ⟨_, cache, nodup_keepEntry distinct, ?_, ?_⟩, ?_⟩
  · intro query
    rw [mem_queries_keepEntry, known, mem_concat_iff, resolved, Except.ok.injEq]
    exact or_congr_right eq_comm
  · intro query member
    rw [entryFor?_keepEntry, pagesHeld_concat reply resolved]
    by_cases here : query = asked
    · subst here
      rw [if_pos rfl]
      exact if_pos rfl
    · have other : query ≠ (QueryEntry.ofPages asked (results asked) pageSize
          (max (pagesHeld pageSize results replies asked)
            (pagesNeeded pageSize (results asked).length reply.limit))).query := here
      rw [if_neg other, if_neg here]
      exact held query ((mem_queries_keepEntry.mp member).resolve_right other)
  · intro query
    rw [log, pagesAsked_append, pagesAsked_of_requestsFor pages, requests,
      pagesHeld_concat reply resolved]
    by_cases here : query = asked
    · subst here
      rw [if_pos rfl, if_pos rfl]
      exact pageNumbers_append_drop_max _ _
    · rw [if_neg here, if_neg here, List.append_nil]

/-- One more query. A template that fails to resolve leaves everything as it is; any other gives its
results and fetches the pages that are missing. -/
theorem HoldsPages.reply (holds : HoldsPages pageSize results fixed replies session)
    (honest : HonestServer world pageSize results webUrl fixed) (positive : 1 ≤ pageSize)
    {ask : Ask V} (issue : ask.kind = .issue)
    (kept : ((ask.resolve world.recorded).runFrom session).2.cache = session.cache) :
    HoldsPages pageSize results fixed (replies ++ [(ask.reply world.recorded pageSize session).1])
        (ask.reply world.recorded pageSize session).2 ∧
      (ask.reply world.recorded pageSize session).1.outcome =
        (ask.reply world.recorded pageSize session).1.query.map
          (honestResults results webUrl (ask.reply world.recorded pageSize session).1.limit) := by
  obtain ⟨entries, stored, distinct, known, held⟩ := holds.cache
  have resolved : fixed ((ask.resolve world).runFrom session.unlogged).2.state :=
    Evaluation.preserves_resolve honest.code ask.focus.scope ask.template session.unlogged holds.state
  simp only [Ask.reply, Ask.runFrom_put issue, Ask.runFrom_resolve_recorded kept]
  rcases ((ask.resolve world).runFrom session.unlogged).1 with failure | query
  · exact ⟨holds.concat_failed rfl resolved rfl rfl, rfl⟩
  · have site : world.recorded.webUrl = .ok webUrl := honest.site
    have sound : ∀ entry ∈ entries, entry.fault = none := by
      intro entry member
      have found := held entry.query (List.mem_map_of_mem member)
      rw [entryFor?_of_mem distinct member, Option.some.injEq] at found
      rw [found]
      rfl
    obtain ⟨after, new, state, fetched, asked⟩ := fetchPages_pagedEntry honest positive query
      (pagesHeld pageSize results replies query) ask.limit resolved session.log
    simp only [site, stored, Query.fetch_ofEntries _ sound, startingEntry_eq_pagedEntry known held,
      fetched]
    refine ⟨holds.concat_kept stored rfl state rfl rfl asked, ?_⟩
    exact congrArg Except.ok (resultsOf_ofPages ask positive query (Nat.le_max_right _ _))

/-- A whole inquiry, from an empty cache. -/
theorem holdsPages_inquire (honest : HonestServer world pageSize results webUrl fixed)
    (positive : 1 ≤ pageSize) {asks : List (Ask V)} (issues : ∀ ask ∈ asks, ask.kind = .issue)
    {state : σ} (start : fixed state)
    (undisturbed : Undisturbed world.recorded pageSize asks { state := (state, []) }) :
    HoldsPages pageSize results fixed
        (inquire world.recorded pageSize asks { state := (state, []) }).1
        (inquire world.recorded pageSize asks { state := (state, []) }).2 ∧
      ∀ reply ∈ (inquire world.recorded pageSize asks { state := (state, []) }).1,
        reply.outcome = reply.query.map (honestResults results webUrl reply.limit) := by
  -- What the queries before have left is the invariant; the last query extends it.
  induction asks using List.reverseRecOn with
  | nil =>
    refine ⟨⟨start, ⟨[], rfl, List.nodup_nil, ?_, ?_⟩, ?_⟩, ?_⟩
    · simp [inquire]
    · simp
    · intro query
      rfl
    · simp [inquire]
  | append_singleton asks ask ih =>
    obtain ⟨before, kept⟩ := undisturbed_concat.mp undisturbed
    obtain ⟨holds, replied⟩ :=
      ih (fun other member => issues other (List.mem_append_left _ member)) before
    have last : ask ∈ asks ++ [ask] := List.mem_append_right _ (List.mem_singleton_self ask)
    obtain ⟨after, outcome⟩ := holds.reply honest positive (issues ask last) kept
    rw [inquire_concat]
    refine ⟨after, ?_⟩
    intro reply member
    rcases List.mem_append.mp member with earlier | here
    · exact replied reply earlier
    · rw [List.mem_singleton.mp here]
      exact outcome

theorem pagesHeld_of_asked {query : String} (asked : ∃ reply ∈ replies, reply.query = .ok query) :
    pagesHeld pageSize results replies query =
      pagesNeeded pageSize (results query).length (largestLimit query replies) := by
  rw [pagesHeld, List.isEmpty_eq_false_iff.mpr ((askedLimits_ne_nil_iff query replies).mpr asked)]
  rfl

/-- The entries that are held, from the queries that have been put. -/
theorem HoldsPages.exists_queries (holds : HoldsPages pageSize results fixed replies session) :
    ∃ queries : List String, queries.Nodup ∧
      (∀ query, query ∈ queries ↔ ∃ reply ∈ replies, reply.query = .ok query) ∧
      session.cache = .ofEntries (queries.map fun query => .ofPages query (results query) pageSize
        (pagesNeeded pageSize (results query).length (largestLimit query replies))) := by
  obtain ⟨entries, stored, distinct, known, held⟩ := holds.cache
  refine ⟨entries.map (·.query), distinct, known, ?_⟩
  rw [stored]
  refine congrArg QueryCache.ofEntries ((eq_map_of_entryFor? distinct held).trans ?_)
  refine List.map_congr_left ?_
  intro query member
  rw [pagesHeld_of_asked ((known query).mp member)]

/-- Replies of an honest server are known from the queries and their limits. -/
theorem replies_perm {others : List (Reply V)}
    (replied : ∀ reply ∈ replies,
      reply.outcome = reply.query.map (honestResults results webUrl reply.limit))
    (replied' : ∀ reply ∈ others,
      reply.outcome = reply.query.map (honestResults results webUrl reply.limit))
    (same : (replies.map fun reply => (reply.query, reply.limit)).Perm
      (others.map fun reply => (reply.query, reply.limit))) : replies.Perm others := by
  have rebuilt (list : List (Reply V))
      (all : ∀ reply ∈ list, reply.outcome = reply.query.map (honestResults results webUrl reply.limit)) :
      (list.map fun reply => (reply.query, reply.limit)).map
        (fun put => (⟨put.1, put.2, put.1.map (honestResults results webUrl put.2)⟩ : Reply V)) = list := by
    rw [List.map_map]
    refine (List.map_congr_left ?_).trans (List.map_id list)
    intro reply member
    rw [Function.comp_apply, ← all reply member]
    rfl
  have perm := same.map
    fun put => (⟨put.1, put.2, put.1.map (honestResults results webUrl put.2)⟩ : Reply V)
  rwa [rebuilt replies replied, rebuilt others replied'] at perm

/-- The same replies, in any order, leave the same entries. -/
theorem HoldsPages.toList_perm {others : List (Reply V)} {session' : Session (σ × List (Exchange V)) V}
    (holds : HoldsPages pageSize results fixed replies session)
    (holds' : HoldsPages pageSize results fixed others session') (same : replies.Perm others) :
    session.cache.toList.Perm session'.cache.toList := by
  obtain ⟨queries, distinct, asked, cache⟩ := holds.exists_queries
  obtain ⟨queries', distinct', asked', cache'⟩ := holds'.exists_queries
  have perm : queries.Perm queries' := by
    rw [List.perm_ext_iff_of_nodup distinct distinct']
    intro query
    rw [asked, asked']
    simp only [same.mem_iff]
  rw [cache, cache', QueryCache.toList_ofEntries, QueryCache.toList_ofEntries, List.map_map,
    List.map_map]
  simp only [largestLimit_perm same]
  exact perm.map _

end Run

/-- Queries put to an honest server. Every query that resolves gives the length of its list of results
and the first of them; the cache holds one entry for each query, of as many pages as the largest limit
needs; and these are the pages that have been asked for, each once and in order. Another inquiry that
puts the same queries with the same limits in any other order gives the same replies and entries. -/
theorem inquire_honest {world : World σ V} {pageSize : Nat} {results : String → List V}
    {webUrl : String} {fixed : σ → Prop}
    (honest : HonestServer world pageSize results webUrl fixed) (positive : 1 ≤ pageSize)
    (asks : List (Ask V)) (issues : ∀ ask ∈ asks, ask.kind = .issue) (state : σ) (start : fixed state)
    (undisturbed : Undisturbed world.recorded pageSize asks { state := (state, []) }) :
    let run := inquire world.recorded pageSize asks { state := (state, []) }
    let replies := run.1
    let last := run.2
    let pages := fun query =>
      pagesNeeded pageSize (results query).length (largestLimit query replies)
    replies.map (·.limit) = asks.map (·.limit) ∧
    (∀ reply ∈ replies, reply.outcome = reply.query.map fun query =>
      { total := .count (results query).length
        items := (results query).take (min reply.limit (results query).length)
        url := Query.link query webUrl }) ∧
    (∃ queries : List String, queries.Nodup ∧
      (∀ query, query ∈ queries ↔ ∃ reply ∈ replies, reply.query = .ok query) ∧
      last.cache = .ofEntries (queries.map fun query =>
        { query, total := .count (results query).length
          items := (results query).take (pages query * pageSize), pagesFetched := pages query
          exhausted := (results query).isEmpty })) ∧
    (∀ query, (∃ reply ∈ replies, reply.query = .ok query) →
      pagesAsked query last.log = pageNumbers (pages query)) ∧
    (∀ query, (¬ ∃ reply ∈ replies, reply.query = .ok query) → pagesAsked query last.log = []) ∧
    ∀ (others : List (Ask V)), (∀ ask ∈ others, ask.kind = .issue) → ∀ state', fixed state' →
      Undisturbed world.recorded pageSize others { state := (state', []) } →
      let run' := inquire world.recorded pageSize others { state := (state', []) }
      (replies.map fun reply => (reply.query, reply.limit)).Perm
        (run'.1.map fun reply => (reply.query, reply.limit)) →
      replies.Perm run'.1 ∧ last.cache.toList.Perm run'.2.cache.toList := by
  obtain ⟨holds, replied⟩ := holdsPages_inquire honest positive issues start undisturbed
  refine ⟨limits_inquire _ _ _ _, ?_, holds.exists_queries, ?_, ?_, ?_⟩
  · intro reply member
    rw [replied reply member]
    congr 1
    funext query
    rw [honestResults, ← List.take_eq_take_min]
  · intro query asked
    rw [holds.requests, pagesHeld_of_asked asked]
  · intro query notAsked
    rw [holds.requests, pagesHeld_eq_zero_iff.mpr notAsked]
    rfl
  · intro others issues' state' start' undisturbed' run' same
    obtain ⟨holds', replied'⟩ := holdsPages_inquire honest positive issues' start' undisturbed'
    have perm := replies_perm replied replied' same
    exact ⟨perm, holds.toList_perm holds' perm⟩

/-- A catalogue of three open issues. -/
def openIssues : Catalogue Data :=
  { results := [("is:open", [.integer 1, .integer 2, .integer 3])] }

/-- Open issues are asked for twice, with a query for closed ones in between. -/
def openAndClosed : List (Ask Data) :=
  [{ template := "is:open", limit := 1 }, { template := "is:closed", limit := 0 },
    { template := "is:\x7b\x7bstate\x7d\x7d", limit := 3 }]

theorem inquire_honest_openIssues :
    let world := Catalogue.world [("state", .text "open")] "https://github.com"
    let last := (inquire world.recorded 2 openAndClosed { state := (openIssues, []) }).2
    pagesAsked "is:open" last.log = [1, 2] ∧ pagesAsked "is:closed" last.log = [1] ∧
      pagesAsked "is:merged" last.log = [] := by
  intro world last
  have result := inquire_honest (openIssues.honest [("state", .text "open")] "https://github.com" 2)
    (by decide) openAndClosed (by simp [openAndClosed]) openIssues ⟨rfl, rfl, rfl⟩
    (Catalogue.undisturbed _ _ 2 openAndClosed _)
  obtain ⟨-, -, -, asked, unasked, -⟩ := result
  refine ⟨?_, ?_, unasked "is:merged" ?_⟩
  · refine (asked "is:open" ((askedLimits_ne_nil_iff _ _).mp ?_)).trans ?_
    · decide +kernel
    · decide +kernel
  · refine (asked "is:closed" ((askedLimits_ne_nil_iff _ _).mp ?_)).trans ?_
    · decide +kernel
    · decide +kernel
  · rw [← askedLimits_ne_nil_iff, not_not]
    decide +kernel

end IssueBoard
