import IssueBoard.Proofs.Query.Pagination
import IssueBoard.Proofs.Query.Provenance

/-! # Servers that fail now and then

A faltering server answers like an honest one or fails, whenever it likes. A query that meets a failure
keeps the pages it has fetched if its entry was known, and leaves nothing behind otherwise; so every
entry is made of whole pages, and a later query goes on behind the last of them. A query that succeeds
gives what an honest server makes it give, however many have failed before.
-/

namespace IssueBoard

variable {σ V : Type}

/-- A server that holds a fixed list of results for each query, and answers a request for a page of them
like an honest server, or fails. `fixed` describes the states in which it holds the lists. -/
structure FalteringServer (world : World σ V) (pageSize : Nat) (results : String → List V)
    (fixed : σ → Prop) : Prop where
  pages : ∀ (query : String) (page : Nat) (state : σ), fixed state → 1 ≤ page →
    ∃ answer after, fixed after ∧
      world.search ⟨.issue, query, pageSize, page⟩ state = (answer, after) ∧
      (answer = .ok (honestPage (results query) pageSize page) ∨ ∃ failure, answer = .error failure)
  code : ∀ request, Evaluation.Preserves (fun session : Session σ V => fixed session.state)
    (Evaluation.call world request)

/-! ## Schedules of failures -/

namespace Session

/-- The session of a world that counts requests, without the count. -/
def uncounted (session : Session (σ × Nat) V) : Session σ V :=
  { cache := session.cache, state := session.state.1 }

/-- A session with a count of requests. -/
def withCount (session : Session σ V) (count : Nat) : Session (σ × Nat) V :=
  { cache := session.cache, state := (session.state, count) }

end Session

/-- The world whose server fails to answer the requests that a schedule names, counted from zero, and
answers all others like this one. -/
def World.faltering (world : World σ V) (schedule : Nat → Option FetchCause) :
    World (σ × Nat) V where
  webUrl := world.webUrl
  run request session :=
    let (value, after) := world.run request session.uncounted
    (value, after.withCount session.state.2)
  view session := world.view session.uncounted
  field? session := world.field? session.uncounted
  search request state :=
    match schedule state.2 with
    | some cause => (.error (.fetch request.query cause), (state.1, state.2 + 1))
    | none =>
      let (answer, after) := world.search request state.1
      (answer, (after, state.2 + 1))

/-- An honest server falters under any schedule of failures. -/
theorem HonestServer.faltering {world : World σ V} {pageSize : Nat} {results : String → List V}
    {webUrl : String} {fixed : σ → Prop}
    (honest : HonestServer world pageSize results webUrl fixed) (schedule : Nat → Option FetchCause) :
    FalteringServer (world.faltering schedule) pageSize results fun state => fixed state.1 where
  pages query page state sound started := by
    obtain ⟨after, kept, answered⟩ := honest.pages query page state.1 sound started
    cases planned : schedule state.2 with
    | some cause =>
      refine ⟨.error (.fetch query cause), (state.1, state.2 + 1), sound, ?_, .inr ⟨_, rfl⟩⟩
      simp only [World.faltering, planned]
    | none =>
      refine ⟨_, (after, state.2 + 1), kept, ?_, .inl rfl⟩
      simp only [World.faltering, planned, answered]
  code request session sound := honest.code request session.uncounted sound

/-! ## Fetching from a faltering server -/

section Fetching

variable {query : String} {items : List V} {pageSize pages limit : Nat}

theorem pagedEntry_of_started (started : 1 ≤ pages) :
    pagedEntry query items pageSize pages = .ofPages query items pageSize pages := by
  have later : pages ≠ 0 := by omega
  rw [pagedEntry, if_neg later]

theorem query_pagedEntry (query : String) (items : List V) (pageSize pages : Nat) :
    (pagedEntry query items pageSize pages).query = query := by
  rw [pagedEntry]
  split <;> rfl

theorem pagesFetched_pagedEntry : (pagedEntry query items pageSize pages).pagesFetched = pages := by
  rw [pagedEntry]
  split
  · next first =>
    rw [first]
    rfl
  · rfl

theorem needsPage_pagedEntry (positive : 1 ≤ pageSize) :
    (pagedEntry query items pageSize pages).needsPage limit = true ↔
      pages < pagesNeeded pageSize items.length limit := by
  rcases Nat.eq_zero_or_pos pages with first | started
  · have least := one_le_pagesNeeded pageSize items.length limit
    rw [pagedEntry, if_pos first, first]
    exact ⟨fun _ => least, fun _ => rfl⟩
  · rw [pagedEntry_of_started started]
    exact QueryEntry.needsPage_ofPages positive started limit

theorem addPage_pagedEntry (positive : 1 ≤ pageSize)
    (needed : pages < pagesNeeded pageSize items.length limit) :
    (pagedEntry query items pageSize pages).addPage (honestPage items pageSize (pages + 1)) =
      pagedEntry query items pageSize (pages + 1) := by
  rw [pagedEntry_of_started (Nat.le_add_left 1 pages)]
  rcases Nat.eq_zero_or_pos pages with first | started
  · rw [pagedEntry, if_pos first, first]
    exact QueryEntry.addPage_fresh positive query items
  · rw [pagedEntry_of_started started]
    exact QueryEntry.addPage_ofPages positive started needed

variable {world : World σ V} {results : String → List V} {fixed : σ → Prop}

/-- Fetching from a faltering server never leaves the whole pages of a query: it stops at the last page
that is needed, or at a failure before that. -/
theorem FalteringServer.fetchPages (faltering : FalteringServer world pageSize results fixed)
    (positive : 1 ≤ pageSize) (query : String) (pages limit : Nat) {state : σ} (sound : fixed state) :
    ∃ stop reached after, fixed after ∧ pages ≤ reached ∧
      Query.fetchPages world.search query pageSize limit
          (pagedEntry query (results query) pageSize pages) state =
        (stop, pagedEntry query (results query) pageSize reached, after) ∧
      (stop = none → pagesNeeded pageSize (results query).length limit ≤ reached) := by
  obtain ⟨left, counted⟩ : ∃ left, pagesNeeded pageSize (results query).length limit - pages = left :=
    ⟨_, rfl⟩
  -- `left` is the number of pages that are still missing.
  induction left generalizing pages state with
  | zero =>
    have enough : pagesNeeded pageSize (results query).length limit ≤ pages := by omega
    have started := (one_le_pagesNeeded pageSize (results query).length limit).trans enough
    have done :
        ¬ (pagedEntry query (results query) pageSize pages).needsPage limit = true := by
      rw [needsPage_pagedEntry positive]
      omega
    refine ⟨none, pages, state, sound, Nat.le_refl pages, ?_, fun _ => enough⟩
    rw [Query.fetchPages, dif_neg done, pagedEntry_of_started started,
      QueryEntry.totalFault?_ofPages]
  | succ left ih =>
    have less : pages < pagesNeeded pageSize (results query).length limit := by omega
    have needed : (pagedEntry query (results query) pageSize pages).needsPage limit = true :=
      (needsPage_pagedEntry positive).mpr less
    obtain ⟨answer, next, kept, asked, answers⟩ :=
      faltering.pages query (pages + 1) state sound (Nat.le_add_left 1 pages)
    push_cast at asked
    rw [Query.fetchPages, dif_pos needed, pagesFetched_pagedEntry, asked]
    rcases answers with rfl | ⟨failure, rfl⟩
    · obtain ⟨stop, reached, after, last, further, fetched, enough⟩ := ih (pages + 1) kept (by omega)
      refine ⟨stop, reached, after, last, by omega, ?_, enough⟩
      simp only [addPage_pagedEntry positive less, fetched]
    · refine ⟨some failure, pages, next, kept, Nat.le_refl pages, rfl, ?_⟩
      intro finished
      cases finished

end Fetching

/-! ## One more query -/

/-- Whether an entry is made of whole pages of its query, at least of one. -/
def QueryEntry.IsWhole (pageSize : Nat) (results : String → List V) (entry : QueryEntry V) : Prop :=
  ∃ pages, 1 ≤ pages ∧ entry = .ofPages entry.query (results entry.query) pageSize pages

/-- What a session holds whatever requests have failed: under each of some queries an entry of whole
pages. -/
structure HoldsWholePages (pageSize : Nat) (results : String → List V) (fixed : σ → Prop)
    (session : Session σ V) : Prop where
  state : fixed session.state
  cache : ∃ entries, session.cache = .ofEntries entries ∧ (entries.map (·.query)).Nodup ∧
    ∀ entry ∈ entries, entry.IsWhole pageSize results

/-- What a failed query leaves of the cache: the same names, all entries of other queries, and in place
of its own entry one of as many pages or more. -/
structure LeavesWholePages (pageSize : Nat) (results : String → List V)
    (query : Except Failure String) (before after : QueryCache V) : Prop where
  names : after.names = before.names
  others : ∀ other, query ≠ .ok other → after.find? other = before.find? other
  own : ∀ asked entry, query = .ok asked → before.find? asked = some entry →
    ∃ pages, entry.pagesFetched ≤ pages ∧
      after.find? asked = some (.ofPages asked (results asked) pageSize pages)

section Run

variable {world : World σ V} {pageSize : Nat} {results : String → List V} {fixed : σ → Prop}

theorem QueryEntry.isWhole_ofPages {pages : Nat} (started : 1 ≤ pages) (query : String) :
    (QueryEntry.ofPages query (results query) pageSize pages).IsWhole pageSize results :=
  ⟨pages, started, rfl⟩

theorem sound_of_isWhole {entries : List (QueryEntry V)}
    (whole : ∀ entry ∈ entries, entry.IsWhole pageSize results) :
    ∀ entry ∈ entries, entry.fault = none := by
  intro entry member
  obtain ⟨pages, -, same⟩ := whole entry member
  rw [same]
  rfl

theorem HoldsWholePages.of_cache {session after : Session σ V}
    (holds : HoldsWholePages pageSize results fixed session) (state : fixed after.state)
    (cache : after.cache = session.cache) : HoldsWholePages pageSize results fixed after := by
  refine ⟨state, ?_⟩
  rw [cache]
  exact holds.cache

/-- A query that fails before anything is fetched. -/
theorem HoldsWholePages.leaves {session : Session σ V}
    (holds : HoldsWholePages pageSize results fixed session) (query : Except Failure String)
    {after : QueryCache V} (cache : after = session.cache) :
    LeavesWholePages pageSize results query session.cache after := by
  subst cache
  refine ⟨rfl, fun _ _ => rfl, ?_⟩
  intro asked entry _ known
  obtain ⟨entries, stored, -, whole⟩ := holds.cache
  have found := known
  rw [stored, QueryCache.find?_ofEntries] at found
  obtain ⟨pages, -, same⟩ := whole entry (mem_of_entryFor? found)
  rw [query_of_entryFor? found] at same
  have pagesFetched : entry.pagesFetched = pages := congrArg QueryEntry.pagesFetched same
  exact ⟨pages, pagesFetched.le, same ▸ known⟩

/-- Every query starts from an entry of whole pages, be it the fresh one. -/
theorem exists_pagedEntry {entries : List (QueryEntry V)}
    (whole : ∀ entry ∈ entries, entry.IsWhole pageSize results) (query : String) :
    ∃ pages, Query.startingEntry query entries = pagedEntry query (results query) pageSize pages ∧
      ((entryFor? query entries).isSome → 1 ≤ pages) := by
  cases known : entryFor? query entries with
  | none =>
    refine ⟨0, ?_, fun found => by cases found⟩
    rw [Query.startingEntry_of_unknown known]
    rfl
  | some entry =>
    obtain ⟨pages, started, same⟩ := whole entry (mem_of_entryFor? known)
    rw [query_of_entryFor? known] at same
    refine ⟨pages, ?_, fun _ => started⟩
    rw [Query.startingEntry_of_known known, pagedEntry_of_started started, same]

/-- A failure in the middle of the pages of a query. -/
theorem LeavesWholePages.of_stopped {entries : List (QueryEntry V)} {query : String}
    {pages reached : Nat}
    (starts : Query.startingEntry query entries = pagedEntry query (results query) pageSize pages)
    (known : (entryFor? query entries).isSome → 1 ≤ pages) (further : pages ≤ reached) :
    LeavesWholePages pageSize results (.ok query) (.ofEntries entries)
      (.ofEntries (replaceEntry (pagedEntry query (results query) pageSize reached) entries)) := by
  have name := query_pagedEntry query (results query) pageSize reached
  refine ⟨QueryCache.namesOf_congr (queries_replaceEntry _ entries) 0, ?_, ?_⟩
  · intro other different
    have apart : other ≠ query := fun same => different (congrArg Except.ok same.symm)
    rw [QueryCache.find?_ofEntries, QueryCache.find?_ofEntries, entryFor?_replaceEntry, name,
      if_neg apart]
  · intro asked entry same found
    cases same
    rw [QueryCache.find?_ofEntries] at found
    have started : 1 ≤ pages := known (Option.isSome_of_eq_some found)
    rw [Query.startingEntry_of_known found] at starts
    refine ⟨reached, ?_, ?_⟩
    · rw [starts, pagesFetched_pagedEntry]
      exact further
    · rw [QueryCache.find?_ofEntries, entryFor?_replaceEntry, name, if_pos rfl, found,
        Option.map_some, pagedEntry_of_started (started.trans further)]

theorem HoldsWholePages.of_finished {entries : List (QueryEntry V)} {state : σ} (sound : fixed state)
    (distinct : (entries.map (·.query)).Nodup)
    (whole : ∀ entry ∈ entries, entry.IsWhole pageSize results) {pages : Nat} (started : 1 ≤ pages)
    (query : String) :
    HoldsWholePages pageSize results fixed
      { cache := .ofEntries (keepEntry (.ofPages query (results query) pageSize pages) entries)
        state } := by
  refine ⟨sound, _, rfl, nodup_keepEntry distinct, ?_⟩
  intro entry member
  rcases mem_keepEntry distinct member with rfl | ⟨earlier, -⟩
  · exact QueryEntry.isWhole_ofPages started query
  · exact whole entry earlier

theorem HoldsWholePages.of_stopped {entries : List (QueryEntry V)} {state : σ} (sound : fixed state)
    (distinct : (entries.map (·.query)).Nodup)
    (whole : ∀ entry ∈ entries, entry.IsWhole pageSize results) {query : String} {pages : Nat}
    (known : (entryFor? query entries).isSome → 1 ≤ pages) :
    HoldsWholePages pageSize results fixed
      { cache := .ofEntries (replaceEntry (pagedEntry query (results query) pageSize pages) entries)
        state } := by
  refine ⟨sound, _, rfl, ?_, ?_⟩
  · rw [queries_replaceEntry]
    exact distinct
  · intro entry member
    rcases mem_replaceEntry distinct member with ⟨rfl, old⟩ | ⟨earlier, -⟩
    · rw [query_pagedEntry] at old
      rw [pagedEntry_of_started (known old)]
      exact QueryEntry.isWhole_ofPages (known old) query
    · exact whole entry earlier

/-- One more query, whatever becomes of it. -/
theorem HoldsWholePages.reply {session : Session σ V}
    (holds : HoldsWholePages pageSize results fixed session)
    (faltering : FalteringServer world pageSize results fixed) (positive : 1 ≤ pageSize)
    {ask : Ask V} (kept : ((ask.resolve world).runFrom session).2.cache = session.cache) :
    HoldsWholePages pageSize results fixed (ask.reply world pageSize session).2 ∧
      (∀ given, (ask.reply world pageSize session).1.outcome = .ok given →
        ∃ query webUrl, (ask.reply world pageSize session).1.query = .ok query ∧
          world.webUrl = .ok webUrl ∧ given = honestResults results webUrl ask.limit query) ∧
      ∀ failure, (ask.reply world pageSize session).1.outcome = .error failure →
        LeavesWholePages pageSize results (ask.reply world pageSize session).1.query session.cache
          (ask.reply world pageSize session).2.cache := by
  obtain ⟨entries, stored, distinct, whole⟩ := holds.cache
  have resolved : fixed ((ask.resolve world).runFrom session).2.state :=
    Evaluation.preserves_resolve faltering.code ask.focus.scope ask.template session holds.state
  rcases kind : ask.kind with _ | name
  · simp only [Ask.reply, Ask.runFrom_put kind]
    rcases run : (ask.resolve world).runFrom session with ⟨failure | query, middle⟩
    · rw [run] at resolved kept
      refine ⟨holds.of_cache resolved kept, ?_, fun _ _ => holds.leaves _ kept⟩
      intro given ok
      cases ok
    · rw [run] at resolved kept
      rcases world.webUrl with failure | webUrl
      · refine ⟨holds.of_cache resolved kept, ?_, fun _ _ => holds.leaves _ kept⟩
        intro given ok
        cases ok
      · obtain ⟨pages, starts, known⟩ := exists_pagedEntry whole query
        obtain ⟨stop, reached, after, sound, further, fetched, enough⟩ :=
          faltering.fetchPages positive query pages ask.limit resolved
        have cache : middle.cache = .ofEntries entries := kept.trans stored
        simp only [cache, Query.fetch_ofEntries _ (sound_of_isWhole whole), starts, fetched]
        rcases stop with _ | failure
        · have started := (one_le_pagesNeeded _ _ _).trans (enough rfl)
          rw [pagedEntry_of_started started]
          refine ⟨.of_finished sound distinct whole started query, ?_, ?_⟩
          · intro given ok
            cases ok
            exact ⟨query, webUrl, rfl, rfl, resultsOf_ofPages ask positive query (enough rfl)⟩
          · intro failure failed
            cases failed
        · have left := fun old => (known old).trans further
          refine ⟨.of_stopped sound distinct whole left, ?_, ?_⟩
          · intro given ok
            cases ok
          · intro _ _
            rw [stored]
            exact LeavesWholePages.of_stopped starts known further
  · obtain ⟨failure, put⟩ := Ask.runFrom_put_other kind world pageSize session
    simp only [Ask.reply, put]
    refine ⟨holds, ?_, fun _ _ => holds.leaves _ rfl⟩
    intro given ok
    cases ok

/-- A whole run, from an empty cache. -/
theorem holdsWholePages_inquire (faltering : FalteringServer world pageSize results fixed)
    (positive : 1 ≤ pageSize) {asks : List (Ask V)} {state : σ} (start : fixed state)
    (undisturbed : Undisturbed world pageSize asks { state }) :
    HoldsWholePages pageSize results fixed (inquire world pageSize asks { state }).2 := by
  -- The last query meets what all others have left, failed ones included.
  induction asks using List.reverseRecOn with
  | nil =>
    refine ⟨start, [], rfl, List.nodup_nil, ?_⟩
    intro entry member
    cases member
  | append_singleton asks last ih =>
    obtain ⟨before, kept⟩ := undisturbed_concat.mp undisturbed
    rw [inquire_concat]
    exact ((ih before).reply faltering positive kept).1

end Run

/-- Queries put to a faltering server, one of them after all others and whatever has become of these.
If it succeeds, it gives the length of its list of results and the first of them, as if no request had
ever failed. If it fails, the cache has the names it had, the entries of other queries are what they
were, and its own entry, if there was one, holds whole pages and no fewer than before. -/
theorem inquire_faltering {world : World σ V} {pageSize : Nat} {results : String → List V}
    {fixed : σ → Prop} (faltering : FalteringServer world pageSize results fixed)
    (positive : 1 ≤ pageSize) (asks : List (Ask V)) (last : Ask V) (state : σ) (start : fixed state)
    (undisturbed : Undisturbed world pageSize (asks ++ [last]) { state }) :
    let before := (inquire world pageSize asks { state }).2
    let step := last.reply world pageSize before
    (∀ given, step.1.outcome = .ok given → ∃ query, step.1.query = .ok query ∧
      given.total = .count (results query).length ∧
      given.items = (results query).take (min last.limit (results query).length)) ∧
    ∀ failure, step.1.outcome = .error failure →
      step.2.cache.names = before.cache.names ∧
      (∀ other, step.1.query ≠ .ok other →
        step.2.cache.find? other = before.cache.find? other) ∧
      ∀ query entry, step.1.query = .ok query → before.cache.find? query = some entry →
        ∃ pages, entry.pagesFetched ≤ pages ∧ step.2.cache.find? query =
          some { query, total := .count (results query).length
                 items := (results query).take (pages * pageSize), pagesFetched := pages
                 exhausted := (results query).isEmpty } := by
  intro before step
  obtain ⟨earlier, kept⟩ := undisturbed_concat.mp undisturbed
  have holds := holdsWholePages_inquire faltering positive start earlier
  obtain ⟨-, succeeds, fails⟩ := holds.reply faltering positive kept
  refine ⟨?_, ?_⟩
  · intro given ok
    obtain ⟨query, webUrl, resolved, -, same⟩ := succeeds given ok
    refine ⟨query, resolved, ?_, ?_⟩
    · rw [same, honestResults]
    · rw [same, honestResults, ← List.take_eq_take_min]
  · intro failure failed
    obtain ⟨names, others, own⟩ := fails failure failed
    exact ⟨names, others, own⟩

/-- The second and the fourth request time out. -/
def secondAndFourth (count : Nat) : Option FetchCause :=
  if count = 1 ∨ count = 3 then some (.timeout 30000) else none

/-- A template that only has prepared answers leaves the cache alone, also where requests fail. -/
theorem Catalogue.undisturbed_faltering (schedule : Nat → Option FetchCause) (pageSize : Int)
    (asks : List (Ask Data)) (session : Session (Catalogue Data × Nat) Data) :
    Undisturbed ((world [] "https://github.com").faltering schedule) pageSize asks session := by
  refine undisturbed_of_call ?_ pageSize asks session
  intro request cache before same
  exact same

/-- Three issues are wanted at two a page. The query fails in the middle and leaves nothing, is put for
one of them, fails again on the second page and keeps the first, and succeeds at last. -/
theorem inquire_faltering_openIssues :
    let world := (Catalogue.world [] "https://github.com").faltering secondAndFourth
    let all : Ask Data := { template := "is:open", limit := 3 }
    let one : Ask Data := { template := "is:open", limit := 1 }
    let before := (inquire world 2 [all, one] { state := (openIssues, 0) }).2
    let failed := all.reply world 2 before
    let done := all.reply world 2 failed.2
    (∃ pages, 1 ≤ pages ∧ failed.2.cache.find? "is:open" =
      some (.ofPages "is:open" (openIssues.itemsOf "is:open") 2 pages)) ∧
    ∃ given, done.1.outcome = .ok given ∧ given.total = .count 3 ∧
      given.items = [.integer 1, .integer 2, .integer 3] := by
  intro world all one before failed done
  have faltering := (openIssues.honest [] "https://github.com" 2).faltering secondAndFourth
  have run (asks : List (Ask Data)) := inquire_faltering faltering (by decide) asks all
    (openIssues, 0) ⟨rfl, rfl, rfl⟩ (Catalogue.undisturbed_faltering secondAndFourth 2 _ _)
  have names : Evaluation.checkNames (all.focus.scope.map (·.1)) = .ok () := rfl
  have resolved (session : Session (Catalogue Data × Nat) Data) :
      (all.reply world 2 session).1.query = .ok "is:open" :=
    congrArg (·.1) (Evaluation.runFrom_resolve_plain world names (by decide) session)
  refine ⟨?_, ?_⟩
  · have known : (before.cache.find? "is:open").any (·.pagesFetched == 1) = true := by decide +kernel
    have stops : failed.1.outcome.isOk = false := by decide +kernel
    obtain ⟨entry, found, first⟩ := (Option.any_eq_true _ _).mp known
    rcases outcome : failed.1.outcome with failure | given
    · obtain ⟨-, -, own⟩ := (run [all, one]).2 failure outcome
      obtain ⟨pages, further, left⟩ := own "is:open" entry (resolved before) found
      rw [beq_iff_eq.mp first] at further
      exact ⟨pages, further, left⟩
    · rw [outcome] at stops
      cases stops
  · have succeeds : done.1.outcome.isOk = true := by decide +kernel
    rcases outcome : done.1.outcome with failure | given
    · rw [outcome] at succeeds
      cases succeeds
    · obtain ⟨query, same, total, items⟩ := (run [all, one, all]).1 given outcome
      cases same.symm.trans (resolved failed.2)
      exact ⟨given, rfl, total, items⟩

/-- A query whose template puts an item into the entry of another one makes that one give more items
than there are; and with pages of no items a query gives none. -/
theorem inquire_touched_or_empty :
    let touched := (inquire catalogueHost.world 100 touchingQueries { state := oneIssue }).2
    let more : Ask Script.Value := { template := "is:open", limit := 2 }
    let empty := (Catalogue.world [] "https://github.com").faltering fun _ => none
    let first : Ask Data := { template := "is:open", limit := 1 }
    (∃ given, (more.reply catalogueHost.world 100 touched).1.outcome = .ok given ∧
      given.items.length = 2 ∧ (oneIssue.server.itemsOf "is:open").length = 1) ∧
    ∃ given, (first.reply empty 0 { state := (openIssues, 0) }).1.outcome = .ok given ∧
      given.items = [] ∧ (openIssues.itemsOf "is:open").length = 3 := by
  intro touched more empty first
  have two : (match (more.reply catalogueHost.world 100 touched).1.outcome with
      | .ok given => given.items.length == 2
      | .error _ => false) = true := by decide +kernel
  have none : (match (first.reply empty 0 { state := (openIssues, 0) }).1.outcome with
      | .ok given => given.items.isEmpty
      | .error _ => false) = true := by decide +kernel
  refine ⟨?_, ?_⟩
  · rcases outcome : (more.reply catalogueHost.world 100 touched).1.outcome with failure | given
    · rw [outcome] at two
      cases two
    · rw [outcome] at two
      exact ⟨given, rfl, beq_iff_eq.mp two, by decide⟩
  · rcases outcome : (first.reply empty 0 { state := (openIssues, 0) }).1.outcome with failure | given
    · rw [outcome] at none
      cases none
    · rw [outcome] at none
      exact ⟨given, rfl, List.isEmpty_iff.mp none, by decide⟩

end IssueBoard
