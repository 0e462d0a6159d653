import IssueBoard.Proofs.Query.HonestServer
import IssueBoard.Proofs.Query.Received
import IssueBoard.Script.Host
import Mathlib.Data.List.Induction

/-! # Where the items of the cache come from

Whatever a server does, as long as no template touches the query cache, an entry holds exactly the pages
that the server has given for its query since the entry was created. This is kept up by every query,
also by one that fails in the middle of its pages, and holds of every entry that a run can lead to. A
template that does touch the cache can put items there that no server has given.
-/

namespace IssueBoard

variable {σ V : Type}

/-! ## One more query -/

section Step

variable {world : World σ V} {ask : Ask V}
  {session : Session (σ × List (Exchange V)) V}

/-- What a query can come to whose template leaves the cache alone. It fails before anything is
fetched, or it fetches pages into the entry it starts from; that entry is kept after a success, and
after a failure only where it was known. -/
inductive Ask.Fetches (ask : Ask V) (world : World σ V) (pageSize : Int)
    (entries : List (QueryEntry V)) (log : List (Exchange V)) :
    Reply V × Session (σ × List (Exchange V)) V → Prop
  | nothing (query : Except Failure String) (failure : Failure) (state : σ) :
    Fetches ask world pageSize entries log
      (⟨query, ask.limit, .error failure⟩, { cache := .ofEntries entries, state := (state, log) })
  | stopped (query : String) (failure : Failure) (entry : QueryEntry V) (before : σ)
    (after : σ × List (Exchange V))
    (fetched : Query.fetchPages world.recorded.search query pageSize ask.limit
      (Query.startingEntry query entries) (before, log) = (some failure, entry, after)) :
    Fetches ask world pageSize entries log
      (⟨.ok query, ask.limit, .error failure⟩,
        { cache := .ofEntries (replaceEntry entry entries), state := after })
  | finished (query webUrl : String) (entry : QueryEntry V) (before : σ)
    (after : σ × List (Exchange V))
    (fetched : Query.fetchPages world.recorded.search query pageSize ask.limit
      (Query.startingEntry query entries) (before, log) = (none, entry, after)) :
    Fetches ask world pageSize entries log
      (⟨.ok query, ask.limit, .ok (ask.resultsOf query webUrl entry)⟩,
        { cache := .ofEntries (keepEntry entry entries), state := after })

theorem Ask.fetches_reply (pageSize : Int) {entries : List (QueryEntry V)}
    (stored : session.cache = .ofEntries entries) (sound : ∀ entry ∈ entries, entry.fault = none)
    (kept : ((ask.resolve world.recorded).runFrom session).2.cache = session.cache) :
    ask.Fetches world pageSize entries session.log (ask.reply world.recorded pageSize session) := by
  rcases kind : ask.kind with _ | name
  · simp only [Ask.reply, Ask.runFrom_put kind, Ask.runFrom_resolve_recorded kept]
    rcases ((ask.resolve world).runFrom session.unlogged).1 with failure | query
    · simp only [stored]
      exact .nothing (.error failure) failure _
    · rcases world.recorded.webUrl with failure | webUrl
      · simp only [stored]
        exact .nothing (.ok query) failure _
      · simp only [stored, Query.fetch_ofEntries _ sound]
        rcases fetched : Query.fetchPages world.recorded.search query pageSize ask.limit
          (Query.startingEntry query entries)
          (((ask.resolve world).runFrom session.unlogged).2.state, session.log) with
          ⟨_ | failure, entry, after⟩
        · exact .finished query webUrl entry _ after fetched
        · exact .stopped query failure entry _ after fetched
  · obtain ⟨failure, put⟩ := Ask.runFrom_put_other kind world.recorded pageSize session
    have same : session = { cache := .ofEntries entries, state := (session.state.1, session.log) } := by
      rw [← stored]
      rfl
    simp only [Ask.reply, put]
    rw [same]
    exact .nothing _ failure _

end Step

/-! ## A whole run -/

/-- The session that queries lead to from an empty cache, with what has been asked of the server. -/
def sessionAfter (world : World σ V) (pageSize : Int) (state : σ) (asks : List (Ask V)) :
    Session (σ × List (Exchange V)) V :=
  (inquire world.recorded pageSize asks { state := (state, []) }).2

/-- How an entry has come about in a run. The query right behind `before` has created it and stands
for the text of its query; the entry has been kept ever since; and it holds the pages that the server
has given for its query since then. -/
structure Provenance (world : World σ V) (pageSize : Int) (state : σ) (asks before : List (Ask V))
    (since : List (Exchange V)) (entry : QueryEntry V) : Prop where
  created : ∃ ask, before ++ [ask] <+: asks ∧
    ((ask.resolve world.recorded).runFrom (sessionAfter world pageSize state before)).1 =
      .ok entry.query
  unknown : (sessionAfter world pageSize state before).cache.find? entry.query = none
  kept : ∀ part, part <+: asks → before.length < part.length →
    ((sessionAfter world pageSize state part).cache.find? entry.query).isSome
  log : (sessionAfter world pageSize state asks).log =
    (sessionAfter world pageSize state before).log ++ since
  started : 1 ≤ entry.pagesFetched
  reflects : entry.Reflects (pagesReceived entry.query since)

/-- A run whose cache is made of entries that all have a provenance. -/
structure Accounted (world : World σ V) (pageSize : Int) (state : σ) (asks : List (Ask V))
    (entries : List (QueryEntry V)) : Prop where
  stored : (sessionAfter world pageSize state asks).cache = .ofEntries entries
  distinct : (entries.map (·.query)).Nodup
  sound : ∀ entry ∈ entries, entry.fault = none
  provenance : ∀ entry ∈ entries, ∃ before since,
    Provenance world pageSize state asks before since entry

section Run

variable {world : World σ V} {pageSize : Int} {state : σ} {asks before : List (Ask V)} {last : Ask V}
  {since new : List (Exchange V)} {entries : List (QueryEntry V)} {entry later : QueryEntry V}

theorem sessionAfter_concat (world : World σ V) (pageSize : Int) (state : σ) (asks : List (Ask V))
    (last : Ask V) :
    sessionAfter world pageSize state (asks ++ [last]) =
      (last.reply world.recorded pageSize (sessionAfter world pageSize state asks)).2 := by
  rw [sessionAfter, inquire_concat]
  rfl

/-- A known entry that has been brought further by one more query. -/
theorem Provenance.concat (old : Provenance world pageSize state asks before since entry)
    (same : later.query = entry.query)
    (log : (sessionAfter world pageSize state (asks ++ [last])).log =
      (sessionAfter world pageSize state asks).log ++ new)
    (known : ((sessionAfter world pageSize state (asks ++ [last])).cache.find? entry.query).isSome)
    (grown : entry.pagesFetched ≤ later.pagesFetched)
    (reflects : later.Reflects (pagesReceived entry.query since ++ pagesReceived entry.query new)) :
    Provenance world pageSize state (asks ++ [last]) before (since ++ new) later where
  created := by
    obtain ⟨ask, earlier, resolved⟩ := old.created
    refine ⟨ask, earlier.trans (List.prefix_append asks [last]), ?_⟩
    rw [same]
    exact resolved
  unknown := by
    rw [same]
    exact old.unknown
  kept part within longer := by
    rw [same]
    rcases List.prefix_concat_iff.mp within with rfl | within
    · exact known
    · exact old.kept part within longer
  log := by rw [log, old.log, List.append_assoc]
  started := old.started.trans grown
  reflects := by
    rw [same, pagesReceived_append]
    exact reflects

/-- An entry that the last query has created. -/
theorem Provenance.of_created
    (resolved : ((last.resolve world.recorded).runFrom (sessionAfter world pageSize state asks)).1 =
      .ok entry.query)
    (unknown : (sessionAfter world pageSize state asks).cache.find? entry.query = none)
    (known : ((sessionAfter world pageSize state (asks ++ [last])).cache.find? entry.query).isSome)
    (log : (sessionAfter world pageSize state (asks ++ [last])).log =
      (sessionAfter world pageSize state asks).log ++ new)
    (started : 1 ≤ entry.pagesFetched) (reflects : entry.Reflects (pagesReceived entry.query new)) :
    Provenance world pageSize state (asks ++ [last]) asks new entry where
  created := ⟨last, List.prefix_refl _, resolved⟩
  unknown := unknown
  kept part within longer := by
    rcases List.prefix_concat_iff.mp within with rfl | within
    · exact known
    · exact absurd within.length_le (Nat.not_le.mpr longer)
  log := log
  started := started
  reflects := reflects

/-- Entries of other queries keep their provenance. -/
theorem Accounted.of_other (accounted : Accounted world pageSize state asks entries)
    (member : entry ∈ entries) {query : String} (different : entry.query ≠ query)
    (asked : ∀ exchange ∈ new, exchange.request.query = query)
    (log : (sessionAfter world pageSize state (asks ++ [last])).log =
      (sessionAfter world pageSize state asks).log ++ new)
    (known : ((sessionAfter world pageSize state (asks ++ [last])).cache.find? entry.query).isSome) :
    ∃ before since, Provenance world pageSize state (asks ++ [last]) before since entry := by
  obtain ⟨before, since, old⟩ := accounted.provenance entry member
  refine ⟨before, since ++ new, old.concat rfl log known (Nat.le_refl _) ?_⟩
  rw [pagesReceived_of_other asked different, List.append_nil]
  exact old.reflects

/-- The entry that has been fetched into: a known one that is brought further, or a new one. -/
theorem Accounted.of_fetched (accounted : Accounted world pageSize state asks entries)
    {query : String} {stop : Option Failure} {middle : σ} {after : σ × List (Exchange V)}
    (resolved : ((last.resolve world.recorded).runFrom (sessionAfter world pageSize state asks)).1 =
      .ok query)
    (fetched : Query.fetchPages world.recorded.search query pageSize last.limit
      (Query.startingEntry query entries) (middle, (sessionAfter world pageSize state asks).log) =
        (stop, entry, after))
    (log : (sessionAfter world pageSize state (asks ++ [last])).log = after.2)
    (known : ((sessionAfter world pageSize state (asks ++ [last])).cache.find? entry.query).isSome)
    (lasting : (entryFor? query entries).isSome ∨ stop = none) :
    ∃ before since, Provenance world pageSize state (asks ++ [last]) before since entry := by
  obtain rfl := Query.query_of_fetched world.recorded.search fetched
  cases found : entryFor? entry.query entries with
  | some old =>
    have same := query_of_entryFor? found
    obtain ⟨before, since, provenance⟩ := accounted.provenance old (mem_of_entryFor? found)
    rw [Query.startingEntry_of_known found] at fetched
    obtain ⟨new, given, continues⟩ := fetchPages_continues provenance.reflects fetched
    have reflects := continues.reflects
    refine ⟨before, since ++ new,
      provenance.concat same.symm (log.trans given) ?_ continues.grown ?_⟩
    · rw [same]
      exact known
    · rw [same] at reflects ⊢
      exact reflects
  | none =>
    rw [Query.startingEntry_of_unknown found] at fetched
    obtain ⟨new, given, continues⟩ :=
      fetchPages_continues (QueryEntry.reflects_fresh entry.query) fetched
    have finished : stop = none := by
      rw [found] at lasting
      exact lasting.resolve_left Bool.false_ne_true
    refine ⟨asks, new, .of_created resolved ?_ known (log.trans given) (continues.started finished)
      continues.reflects⟩
    rw [accounted.stored, QueryCache.find?_ofEntries, found]

/-- What a query starts from holds pages that have been received. -/
theorem Accounted.reflects_startingEntry (accounted : Accounted world pageSize state asks entries)
    (query : String) : ∃ received, (Query.startingEntry query entries).Reflects received := by
  cases found : entryFor? query entries with
  | none =>
    rw [Query.startingEntry_of_unknown found]
    exact ⟨[], QueryEntry.reflects_fresh query⟩
  | some old =>
    obtain ⟨_, _, provenance⟩ := accounted.provenance old (mem_of_entryFor? found)
    rw [Query.startingEntry_of_known found]
    exact ⟨_, provenance.reflects⟩

/-- Fetching leaves a cache whose entries all have a provenance, whatever becomes of it. -/
theorem Accounted.concat_fetched (accounted : Accounted world pageSize state asks entries)
    {query : String} {stop : Option Failure} {middle : σ} {after : σ × List (Exchange V)}
    {entries' : List (QueryEntry V)}
    (resolved : ((last.resolve world.recorded).runFrom (sessionAfter world pageSize state asks)).1 =
      .ok query)
    (fetched : Query.fetchPages world.recorded.search query pageSize last.limit
      (Query.startingEntry query entries) (middle, (sessionAfter world pageSize state asks).log) =
        (stop, entry, after))
    (result : sessionAfter world pageSize state (asks ++ [last]) =
      { cache := .ofEntries entries', state := after })
    (distinct : (entries'.map (·.query)).Nodup)
    (members : ∀ found ∈ entries',
      found = entry ∧ ((entryFor? query entries).isSome ∨ stop = none) ∨
        found ∈ entries ∧ found.query ≠ query) :
    Accounted world pageSize state (asks ++ [last]) entries' := by
  have log : (sessionAfter world pageSize state (asks ++ [last])).log = after.2 := by
    rw [result]
    rfl
  have known : ∀ found ∈ entries',
      ((sessionAfter world pageSize state (asks ++ [last])).cache.find? found.query).isSome := by
    intro found member
    rw [result, QueryCache.find?_ofEntries, entryFor?_of_mem distinct member]
    rfl
  obtain ⟨received, own⟩ := accounted.reflects_startingEntry query
  obtain ⟨new, given, continues⟩ := fetchPages_continues own fetched
  refine ⟨by rw [result], distinct, ?_, ?_⟩
  · intro found member
    rcases members found member with ⟨rfl, _⟩ | ⟨earlier, _⟩
    · exact Query.fault_of_fetched world.recorded.search accounted.sound fetched
    · exact accounted.sound found earlier
  · intro found member
    rcases members found member with ⟨rfl, lasting⟩ | ⟨earlier, different⟩
    · exact accounted.of_fetched resolved fetched log (known found member) lasting
    · exact accounted.of_other earlier different continues.asked (log.trans given)
        (known found member)

/-- A query that comes to nothing leaves every entry as it is. -/
theorem Accounted.concat_nothing (accounted : Accounted world pageSize state asks entries)
    (cache : (sessionAfter world pageSize state (asks ++ [last])).cache = .ofEntries entries)
    (log : (sessionAfter world pageSize state (asks ++ [last])).log =
      (sessionAfter world pageSize state asks).log) :
    Accounted world pageSize state (asks ++ [last]) entries := by
  refine ⟨cache, accounted.distinct, accounted.sound, ?_⟩
  intro entry member
  obtain ⟨before, since, old⟩ := accounted.provenance entry member
  refine ⟨before, since ++ [], old.concat rfl ?_ ?_ (Nat.le_refl _) ?_⟩
  · rw [log, List.append_nil]
  · rw [cache, QueryCache.find?_ofEntries, entryFor?_of_mem accounted.distinct member]
    rfl
  · rw [pagesReceived, pagesReceived, List.filterMap_nil, List.append_nil]
    exact old.reflects

/-- One more query, whatever comes of it. -/
theorem Accounted.concat (accounted : Accounted world pageSize state asks entries)
    (kept : ((last.resolve world.recorded).runFrom (sessionAfter world pageSize state asks)).2.cache =
      (sessionAfter world pageSize state asks).cache) :
    ∃ entries', Accounted world pageSize state (asks ++ [last]) entries' := by
  have step := Ask.fetches_reply pageSize accounted.stored accounted.sound kept
  have resolved : ((last.resolve world.recorded).runFrom (sessionAfter world pageSize state asks)).1 =
    (last.reply world.recorded pageSize (sessionAfter world pageSize state asks)).1.query := rfl
  have result := sessionAfter_concat world pageSize state asks last
  generalize last.reply world.recorded pageSize (sessionAfter world pageSize state asks) = replied
    at step resolved result
  cases step with
  | nothing query failure middle =>
    refine ⟨entries, accounted.concat_nothing ?_ ?_⟩
    · rw [result]
    · rw [result]
      rfl
  | stopped query failure entry middle after fetched =>
    have name := Query.query_of_fetched world.recorded.search fetched
    refine ⟨replaceEntry entry entries, accounted.concat_fetched resolved fetched result ?_ ?_⟩
    · rw [queries_replaceEntry]
      exact accounted.distinct
    · intro found member
      rw [← name]
      rcases mem_replaceEntry accounted.distinct member with ⟨here, known⟩ | other
      · exact .inl ⟨here, .inl known⟩
      · exact .inr other
  | finished query webUrl entry middle after fetched =>
    have name := Query.query_of_fetched world.recorded.search fetched
    refine ⟨keepEntry entry entries, accounted.concat_fetched resolved fetched result ?_ ?_⟩
    · exact nodup_keepEntry accounted.distinct
    · intro found member
      rw [← name]
      rcases mem_keepEntry accounted.distinct member with here | other
      · exact .inl ⟨here, .inr rfl⟩
      · exact .inr other

theorem exists_accounted (world : World σ V) (pageSize : Int) (state : σ) (asks : List (Ask V))
    (undisturbed : Undisturbed world.recorded pageSize asks { state := (state, []) }) :
    ∃ entries, Accounted world pageSize state asks entries := by
  -- A query sees what all queries before it have left, so the list grows at its end.
  induction asks using List.reverseRecOn with
  | nil =>
    refine ⟨[], rfl, List.nodup_nil, ?_, ?_⟩
    · simp
    · simp
  | append_singleton asks last ih =>
    obtain ⟨earlier, kept⟩ := undisturbed_concat.mp undisturbed
    obtain ⟨entries, accounted⟩ := ih earlier
    exact accounted.concat kept

/-- Nothing is asked for an exhausted entry. -/
theorem Accounted.quiet (accounted : Accounted world pageSize state asks entries) {query : String}
    {stop : Option Failure} {old : QueryEntry V} {middle : σ} {after : σ × List (Exchange V)}
    (fetched : Query.fetchPages world.recorded.search query pageSize last.limit
      (Query.startingEntry query entries) (middle, (sessionAfter world pageSize state asks).log) =
        (stop, entry, after))
    (found : (sessionAfter world pageSize state asks).cache.find? query = some old)
    (exhausted : old.exhausted = true) :
    after.2 = (sessionAfter world pageSize state asks).log := by
  rw [accounted.stored, QueryCache.find?_ofEntries] at found
  obtain ⟨_, _, provenance⟩ := accounted.provenance old (mem_of_entryFor? found)
  rw [Query.startingEntry_of_known found] at fetched
  obtain ⟨new, given, continues⟩ := fetchPages_continues provenance.reflects fetched
  rwa [continues.quiet exhausted, List.append_nil] at given

/-- What the next query gives, and that it asks for nothing if its entry is exhausted. -/
theorem Accounted.reply (accounted : Accounted world pageSize state asks entries)
    (kept : ((last.resolve world.recorded).runFrom (sessionAfter world pageSize state asks)).2.cache =
      (sessionAfter world pageSize state asks).cache) :
    let step := last.reply world.recorded pageSize (sessionAfter world pageSize state asks)
    (∀ results, step.1.outcome = .ok results → ∃ query entry, step.1.query = .ok query ∧
      step.2.cache.find? query = some entry ∧ results.total = entry.total ∧
        results.items = entry.items.take last.limit) ∧
    ∀ query entry, step.1.query = .ok query →
      (sessionAfter world pageSize state asks).cache.find? query = some entry →
        entry.exhausted = true → step.2.log = (sessionAfter world pageSize state asks).log := by
  intro step
  have run := Ask.fetches_reply pageSize accounted.stored accounted.sound kept
  change last.Fetches world pageSize entries _ step at run
  generalize step = replied at run
  cases run with
  | nothing query failure middle =>
    refine ⟨?_, fun _ _ _ _ _ => rfl⟩
    intro results ok
    cases ok
  | stopped query failure entry middle after fetched =>
    refine ⟨?_, ?_⟩
    · intro results ok
      cases ok
    · intro asked old same found exhausted
      cases same
      exact accounted.quiet fetched found exhausted
  | finished query webUrl entry middle after fetched =>
    have name := Query.query_of_fetched world.recorded.search fetched
    refine ⟨?_, ?_⟩
    · intro results ok
      cases ok
      refine ⟨query, entry, rfl, ?_, rfl, rfl⟩
      rw [QueryCache.find?_ofEntries, entryFor?_keepEntry, if_pos name.symm]
    · intro asked old same found exhausted
      cases same
      exact accounted.quiet fetched found exhausted

end Run

/-- Queries put to any server, whose templates leave the query cache alone. The cache holds one entry
for each of some queries, under that query, and every entry has its provenance. A further query that
succeeds gives the total and the first items of its entry, and asks the server for nothing if that was
exhausted. -/
theorem inquire_provenance (world : World σ V) (pageSize : Int) (state : σ) (asks : List (Ask V))
    (undisturbed : Undisturbed world.recorded pageSize asks { state := (state, []) }) :
    (∃ entries, (sessionAfter world pageSize state asks).cache = .ofEntries entries ∧
      (entries.map (·.query)).Nodup ∧
      ∀ entry ∈ entries, ∃ before since, Provenance world pageSize state asks before since entry) ∧
    ∀ last : Ask V,
      ((last.resolve world.recorded).runFrom (sessionAfter world pageSize state asks)).2.cache =
        (sessionAfter world pageSize state asks).cache →
      let step := last.reply world.recorded pageSize (sessionAfter world pageSize state asks)
      (∀ results, step.1.outcome = .ok results → ∃ query entry, step.1.query = .ok query ∧
        step.2.cache.find? query = some entry ∧ results.total = entry.total ∧
          results.items = entry.items.take last.limit) ∧
      ∀ query entry, step.1.query = .ok query →
        (sessionAfter world pageSize state asks).cache.find? query = some entry →
          entry.exhausted = true → step.2.log = (sessionAfter world pageSize state asks).log := by
  obtain ⟨entries, accounted⟩ := exists_accounted world pageSize state asks undisturbed
  exact ⟨⟨entries, accounted.stored, accounted.distinct, accounted.provenance⟩,
    fun last kept => accounted.reply kept⟩

/-- A catalogue that reports more issues than it has, another number on every page. -/
def overstatedIssues : Catalogue Data :=
  { results := [("is:open", [.integer 1, .integer 2])], totals := [("is:open", [9, 8, 7])] }

theorem inquire_provenance_overstated :
    let world := Catalogue.world [] "https://github.com"
    let reached := sessionAfter world 1 overstatedIssues [{ template := "is:open", limit := 5 }]
    let next : Ask Data := { template := "is:open", limit := 50 }
    ∃ entry, reached.cache.find? "is:open" = some entry ∧ entry.exhausted = true ∧
      (∃ before since, Provenance world 1 overstatedIssues [{ template := "is:open", limit := 5 }]
        before since entry) ∧
      (next.reply world.recorded 1 reached).2.log = reached.log := by
  intro world reached next
  obtain ⟨⟨entries, stored, -, held⟩, further⟩ := inquire_provenance world 1 overstatedIssues
    [{ template := "is:open", limit := 5 }] (Catalogue.undisturbed _ _ 1 _ _)
  have known : (reached.cache.find? "is:open").any (·.exhausted) = true := by decide +kernel
  rw [Option.any_eq_true] at known
  obtain ⟨entry, found, exhausted⟩ := known
  have member : entry ∈ entries := by
    change (sessionAfter world 1 overstatedIssues _).cache.find? "is:open" = some entry at found
    rw [stored, QueryCache.find?_ofEntries] at found
    exact mem_of_entryFor? found
  refine ⟨entry, found, exhausted, held entry member, ?_⟩
  have kept := (Catalogue.undisturbed [] "https://github.com" 1 [next] reached).1
  have names : Evaluation.checkNames (next.focus.scope.map (·.1)) = .ok () := rfl
  have query : (next.reply world.recorded 1 reached).1.query = .ok "is:open" :=
    congrArg (·.1) (Evaluation.runFrom_resolve_plain world.recorded names (by decide) reached)
  exact (further next kept).2 "is:open" entry query found exhausted

/-- A host that runs author code, with a catalogue as its search server. -/
def catalogueHost : Script.Host (Catalogue Script.Value) Script.Value :=
  { now := .midnight ⟨1, 1, 1, by decide⟩
    server := Catalogue.server "https://github.com"
    takeIn := fun value store => (value, store) }

/-- The machine of author code at the beginning, with one open issue to be found. -/
def oneIssue : Script.Machine (Catalogue Script.Value) :=
  (Script.Desk.ofServer { results := [("is:open", [.integer 1])] }).state

/-- The template of the second query puts one more item into the entry of the first. -/
def touchingQueries : List (Ask Script.Value) :=
  [{ template := "is:open", limit := 1 },
    { template := "\x7b\x7bquerycache['is:open'].items.append(9)\x7d\x7d", limit := 0 }]

/-- An entry that holds more items than have ever been received has no provenance. -/
theorem Provenance.length_items_le {world : World σ V} {pageSize : Int} {state : σ}
    {asks before : List (Ask V)} {since : List (Exchange V)} {entry : QueryEntry V}
    (provenance : Provenance world pageSize state asks before since entry) :
    entry.items.length ≤ ((pagesReceived entry.query
      (sessionAfter world pageSize state asks).log).flatMap (·.2.items)).length := by
  rw [provenance.log, pagesReceived_append, List.flatMap_append, List.length_append,
    ← provenance.reflects.items]
  exact Nat.le_add_left _ _

/-- With a template that touches the cache, an entry may hold items that no server has ever given. -/
theorem no_provenance_touched :
    let reached := sessionAfter catalogueHost.world 100 oneIssue touchingQueries
    ∃ entry, reached.cache.find? "is:open" = some entry ∧
      ((pagesReceived entry.query reached.log).flatMap (·.2.items)).length < entry.items.length ∧
      ¬ ∃ before since, Provenance catalogueHost.world 100 oneIssue touchingQueries before since
        entry := by
  intro reached
  have longer : (reached.cache.find? "is:open").any (fun entry => decide
      (((pagesReceived entry.query reached.log).flatMap (·.2.items)).length < entry.items.length)) =
      true := by decide +kernel
  rw [Option.any_eq_true] at longer
  obtain ⟨entry, found, longer⟩ := longer
  refine ⟨entry, found, of_decide_eq_true longer, ?_⟩
  rintro ⟨before, since, provenance⟩
  exact absurd provenance.length_items_le (Nat.not_le.mpr (of_decide_eq_true longer))

end IssueBoard
