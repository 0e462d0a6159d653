import IssueBoard.Proofs.Query.Budget
import IssueBoard.Proofs.Query.Pagination

/-! # Going on from known items

An entry that is made of the items of some pages does not say how many pages these are, so they are
counted as whole pages of the default size. A query goes on behind the known items if the count is the
number of pages of its own size again. Otherwise it fetches items a second time or leaves some out, unless
the known items are all that it needs.
-/

namespace IssueBoard

variable {σ V ι : Type}

/-- The number of pages of the default size that some items count as. -/
def wholePages (count : Nat) : Nat :=
  (count + (defaultPageSize.toNat - 1)) / defaultPageSize.toNat

/-- The entry of a query that is made of the items of its first pages, without the number of pages. -/
def seededEntry (query : String) (items : List ι) (pageSize pages : Nat) : QueryEntry ι :=
  .seeded query (.count items.length) (items.take (pages * pageSize)) 0 false

section Entry

variable {query : String} {items : List ι} {pageSize pages : Nat}

theorem seededEntry_eq :
    seededEntry query items pageSize pages =
      { query, total := .count items.length, items := items.take (pages * pageSize)
        pagesFetched := wholePages (min (pages * pageSize) items.length), exhausted := false } := by
  rw [seededEntry, QueryEntry.seeded, if_pos rfl, List.length_take]
  rfl

theorem wholePages_eq_zero_iff {count : Nat} : wholePages count = 0 ↔ count = 0 := by
  have size : defaultPageSize.toNat = 100 := rfl
  rw [wholePages, size]
  omega

theorem totalFault?_seededEntry (limit : Int) :
    (seededEntry query items pageSize pages).totalFault? limit = none := by
  simp [QueryEntry.totalFault?, seededEntry_eq, Total.number?]

/-- An entry without known items needs its first page, and any other one a page if items are missing. -/
theorem needsPage_seededEntry (limit : Nat) :
    (seededEntry query items pageSize pages).needsPage limit = true ↔
      min (pages * pageSize) items.length = 0 ∨ pages * pageSize < min limit items.length := by
  rw [seededEntry_eq]
  simp only [QueryEntry.needsPage, QueryEntry.dependsOnTotal, Total.exceeds_count, List.length_take,
    Bool.or_eq_true, beq_iff_eq, bne_iff_ne, Bool.and_eq_true, Bool.not_false, and_true,
    decide_eq_true_eq, wholePages_eq_zero_iff, ne_eq]
  omega

/-- Without known items the first page makes an entry of whole pages. -/
theorem addPage_seededEntry (positive : 1 ≤ pageSize) (nothing : min (pages * pageSize) items.length = 0) :
    (seededEntry query items pageSize pages).addPage (honestPage items pageSize 1) =
      .ofPages query items pageSize 1 := by
  have none : items.take (pages * pageSize) = [] := by
    rw [← List.length_eq_zero_iff, List.length_take]
    exact nothing
  rw [← QueryEntry.addPage_fresh positive, seededEntry_eq, none, nothing,
    wholePages_eq_zero_iff.mpr rfl]
  rfl

/-- Known items whose pages are counted right make an entry of whole pages. -/
theorem seededEntry_eq_ofPages (counted : wholePages (pages * pageSize) = pages)
    (within : pages * pageSize < items.length) :
    seededEntry query items pageSize pages = .ofPages query items pageSize pages := by
  have more : items.isEmpty = false := by
    rw [List.isEmpty_eq_false_iff, ← List.length_pos_iff]
    omega
  rw [seededEntry_eq, QueryEntry.ofPages, Nat.min_eq_left (Nat.le_of_lt within), counted, more]

end Entry

/-! ## Fetching into the entry -/

/-- The number of pages that known items stand for: none if there are no items. -/
def pagesKnown (size pageSize pages : Nat) : Nat :=
  if min (pages * pageSize) size = 0 then 0 else pages

/-- Whether the pages of known items are counted right, or need not be counted. -/
def Resumable (pageSize pages size limit : Nat) : Prop :=
  pages = 0 ∨ wholePages (pages * pageSize) = pages ∨ min limit size ≤ pages * pageSize

/-- Pages of the default size are always counted right. -/
theorem resumable_defaultPageSize (pages size limit : Nat) :
    Resumable defaultPageSize.toNat pages size limit := by
  have whole : wholePages (pages * 100) = pages := by
    have size : defaultPageSize.toNat = 100 := rfl
    rw [wholePages, size]
    omega
  exact .inr (.inl whole)

theorem pagesKnown_of_started {size pageSize pages : Nat} (positive : 1 ≤ pageSize)
    (started : 1 ≤ pages) (within : pages * pageSize ≤ size) : pagesKnown size pageSize pages = pages := by
  have items : 1 * 1 ≤ pages * pageSize := Nat.mul_le_mul started positive
  rw [pagesKnown, if_neg (by omega)]

theorem pagesNeeded_le_of_enough {pageSize size limit pages : Nat} (positive : 1 ≤ pageSize)
    (started : 1 ≤ pages) (enough : min limit size ≤ pages * pageSize) :
    pagesNeeded pageSize size limit ≤ pages := by
  rw [← Nat.not_lt, lt_pagesNeeded_iff positive started]
  omega

section Fetching

variable {world : World σ V} {pageSize : Nat} {results : String → List V} {webUrl : String}
  {fixed : σ → Prop}

/-- Where a query can go on behind the known items, the missing pages are fetched, each once and in
order. -/
theorem fetchPages_seededEntry (honest : HonestServer world pageSize results webUrl fixed)
    (positive : 1 ≤ pageSize) {query : String} {pages limit : Nat}
    (resumable : Resumable pageSize pages (results query).length limit) {state : σ}
    (sound : fixed state) (log : List (Exchange V)) :
    ∃ entry after new,
      Query.fetchPages world.recorded.search query pageSize limit
          (seededEntry query (results query) pageSize pages) (state, log) =
        (none, entry, (after, log ++ new)) ∧
      entry.total = .count (results query).length ∧
      entry.items = (results query).take
        (max pages (pagesNeeded pageSize (results query).length limit) * pageSize) ∧
      new.map (·.request) = requestsFor query pageSize
        ((pageNumbers (pagesNeeded pageSize (results query).length limit)).drop
          (pagesKnown (results query).length pageSize pages)) := by
  by_cases nothing : min (pages * pageSize) (results query).length = 0
  · have first : (seededEntry query (results query) pageSize pages).pagesFetched = 0 := by
      rw [seededEntry_eq, nothing]
      rfl
    obtain ⟨after, new, -, fetched, asked⟩ := fetchPages_of_first honest positive first
      (addPage_seededEntry positive nothing) limit sound log
    refine ⟨_, after, new, fetched, rfl, ?_, ?_⟩
    · rw [QueryEntry.ofPages, List.take_eq_take_iff, ← Nat.mul_max_mul_right]
      omega
    · rw [pagesKnown, if_pos nothing]
      exact asked
  · have started : 1 ≤ pages := by
      rw [Nat.one_le_iff_ne_zero]
      rintro rfl
      rw [Nat.zero_mul, Nat.zero_min] at nothing
      exact nothing rfl
    rw [pagesKnown, if_neg nothing]
    by_cases missing : pages * pageSize < min limit (results query).length
    · have counted : wholePages (pages * pageSize) = pages := by
        rcases resumable with none | counted | enough
        · omega
        · exact counted
        · omega
      rw [seededEntry_eq_ofPages counted (by omega)]
      obtain ⟨after, new, -, fetched, asked⟩ :=
        fetchPages_ofPages honest positive query started limit sound log
      exact ⟨_, after, new, fetched, rfl, rfl, asked⟩
    · have enough : ¬ (seededEntry query (results query) pageSize pages).needsPage limit = true := by
        rw [needsPage_seededEntry]
        omega
      have least := pagesNeeded_le_of_enough positive started (Nat.not_lt.mp missing)
      refine ⟨seededEntry query (results query) pageSize pages, state, [], ?_, rfl, ?_, ?_⟩
      · rw [Query.fetchPages, dif_neg enough, totalFault?_seededEntry, List.append_nil]
      · rw [Nat.max_eq_left least]
        rfl
      · rw [pageNumbers_drop_of_le least]
        rfl

/-- Where it cannot, the first page that is fetched is not the first one that is missing. -/
theorem resumable_of_requests (positive : 1 ≤ pageSize) {query : String} {pages limit : Nat}
    {new : List (Exchange V)}
    (affords : (seededEntry query (results query) pageSize pages).Affords query pageSize limit new)
    (asked : new.map (·.request) = requestsFor query pageSize
      ((pageNumbers (pagesNeeded pageSize (results query).length limit)).drop
        (pagesKnown (results query).length pageSize pages))) :
    Resumable pageSize pages (results query).length limit := by
  by_contra never
  simp only [Resumable, not_or, Nat.not_le] at never
  obtain ⟨some, miscounted, missing⟩ := never
  have started : 1 ≤ pages := Nat.one_le_iff_ne_zero.mpr some
  have within : pages * pageSize ≤ (results query).length := by omega
  have known := pagesKnown_of_started positive started within
  have less := (lt_pagesNeeded_iff positive started).mpr missing
  rw [affords.pages, known, pageNumbers_drop_succ less] at asked
  cases new with
  | nil => cases asked
  | cons exchange rest =>
    rw [List.length_cons, requestsFor_consecutivePages_succ] at asked
    have page := congrArg SearchRequest.page (List.cons.inj asked).1
    rw [seededEntry_eq, Nat.min_eq_left within] at page
    dsimp only at page
    omega

end Fetching

/-! ## A known entry of any cache -/

namespace QueryCache

variable {cache : QueryCache ι} {query : String} {known : QueryEntry ι}

theorem slot?_of_find? (found : cache.find? query = some known) :
    ∃ slot, cache.holding? (.text query) = some (.entry slot) ∧ slot < cache.entries.length := by
  obtain ⟨slot, named, there⟩ := Option.bind_eq_some_iff.mp found
  refine ⟨slot, ?_, (List.getElem?_eq_some_iff.mp there).1⟩
  unfold slot? at named
  split at named
  · next held =>
    cases named
    exact held
  · cases named

theorem fault?_of_find? (found : cache.find? query = some known) : cache.fault? query = known.fault := by
  obtain ⟨slot, held, -⟩ := slot?_of_find? found
  rw [fault?, held, found]
  rfl

/-- What is kept for a query that is known takes the place of its entry. -/
theorem find?_insert_of_find? (found : cache.find? query = some known) (entry : QueryEntry ι) :
    (cache.insert query entry).find? query = some entry := by
  obtain ⟨slot, held, within⟩ := slot?_of_find? found
  have named : cache.slot? query = some slot := by rw [slot?, held]
  have still : (cache.replace slot entry).slot? query = some slot := named
  rw [insert, named]
  dsimp only
  rw [find?, still, Option.bind_some, replace, List.getElem?_set_self within]

end QueryCache

/-! ## The query -/

/-- A query that is known and fetches what it needs keeps the entry and gives its results. -/
theorem Ask.reply_of_known {world : World σ V} {pageSize : Int} {ask : Ask V} (issue : ask.kind = .issue)
    {session after : Session σ V} {query webUrl : String}
    (resolved : (ask.resolve world).runFrom session = (.ok query, after))
    (site : world.webUrl = .ok webUrl) {known entry : QueryEntry V}
    (found : after.cache.find? query = some known) (sound : known.fault = none) {state : σ}
    (fetched : Query.fetchPages world.search query pageSize ask.limit known after.state =
      (none, entry, state)) :
    ask.reply world pageSize session =
      (⟨.ok query, ask.limit, .ok (ask.resultsOf query webUrl entry)⟩,
        { cache := after.cache.insert query entry, state }) := by
  have usable : after.cache.fault? query = none := (QueryCache.fault?_of_find? found).trans sound
  simp only [reply, runFrom_put issue, resolved, site, Query.fetch, usable, found, Option.getD_some,
    fetched]
  rfl

/-- **A query goes on behind known items exactly if it counts their pages right.** The cache holds an
entry that is made of the items of the first pages of an honest server's list of results.

If these pages are counted right, or are all that is needed, the query gives the total and the first
items of the list; it asks for the pages behind the known ones as far as they are needed, each once and in
order; and its entry holds the first items of the list, none of them twice and none left out. Otherwise
it asks for other pages. -/
theorem reply_seeded {world : World σ V} {pageSize : Nat} {results : String → List V} {webUrl : String}
    {fixed : σ → Prop} (honest : HonestServer world pageSize results webUrl fixed)
    (positive : 1 ≤ pageSize) {ask : Ask V} (issue : ask.kind = .issue)
    {session after : Session (σ × List (Exchange V)) V} (start : fixed session.unlogged.state)
    {query : String} (resolved : (ask.resolve world.recorded).runFrom session = (.ok query, after))
    (pages : Nat)
    (seeded : after.cache.find? query = some (seededEntry query (results query) pageSize pages)) :
    let size := (results query).length
    let needed := pagesNeeded pageSize size ask.limit
    let step := ask.reply world.recorded pageSize session
    Resumable pageSize pages size ask.limit ↔
      ∃ new, step.2.log = session.log ++ new ∧
        step.1.outcome = .ok { total := .count size
                               items := (results query).take (min ask.limit size)
                               url := Query.link query webUrl } ∧
        (1 ≤ pages → pages * pageSize ≤ size → ∀ exchange ∈ new, pages < exchange.request.page) ∧
        new.map (·.request) = requestsFor query pageSize
          ((pageNumbers needed).drop (pagesKnown size pageSize pages)) ∧
        ∃ entry, step.2.cache.find? query = some entry ∧
          entry.items = (results query).take (max pages needed * pageSize) := by
  intro size needed step
  constructor
  · intro resumable
    have run : (ask.resolve world.recorded).runFrom session =
        (((ask.resolve world).runFrom session.unlogged).1,
          ((ask.resolve world).runFrom session.unlogged).2.withLog session.log) := by
      rw [Ask.resolve, Evaluation.resolve_recorded, Evaluation.runFrom_recorded]
      rfl
    obtain ⟨-, rfl⟩ := Prod.mk.inj (resolved.symm.trans run)
    have sound : fixed ((ask.resolve world).runFrom session.unlogged).2.state :=
      Evaluation.preserves_resolve honest.code ask.focus.scope ask.template session.unlogged start
    obtain ⟨entry, last, new, fetched, total, items, asked⟩ :=
      fetchPages_seededEntry honest positive resumable sound session.log
    have done : step = _ := Ask.reply_of_known issue resolved honest.site seeded rfl fetched
    rw [done]
    refine ⟨new, rfl, ?_, ?_, asked, entry, QueryCache.find?_insert_of_find? seeded entry, items⟩
    · rw [Ask.resultsOf, total, items, take_pages positive (Nat.le_max_right _ _),
        List.take_eq_take_min]
    · intro started within exchange member
      have request := List.mem_map_of_mem (f := Exchange.request) member
      rw [asked, pagesKnown_of_started positive started within] at request
      obtain ⟨page, behind, same⟩ := List.mem_map.mp request
      rw [← same]
      exact lt_of_mem_drop_pageNumbers behind
  · rintro ⟨new, log, -, -, asked, -⟩
    obtain ⟨other, same, -, further⟩ := ask.reply_affords world pageSize session
    obtain rfl : other = new := List.append_cancel_left (same.symm.trans log)
    have affords := further query after resolved
    rw [seeded] at affords
    exact resumable_of_requests positive affords asked

/-- A session in which the items of the first pages of open issues are known. -/
def knownIssues (pageSize pages : Nat) : Session (Catalogue Data × List (Exchange Data)) Data :=
  { cache := .ofEntries [seededEntry "is:open" (openIssues.itemsOf "is:open") pageSize pages]
    state := (openIssues, []) }

/-- Two of three issues are known as one page. The query goes on with the second page. -/
theorem reply_seeded_openIssues :
    let world := Catalogue.world [] "https://github.com"
    let all : Ask Data := { template := "is:open", limit := 3 }
    let step := all.reply world.recorded 2 (knownIssues 2 1)
    (∃ given, step.1.outcome = .ok given ∧ given.items = [.integer 1, .integer 2, .integer 3]) ∧
      pagesAsked "is:open" step.2.log = [2] := by
  intro world all step
  have names : Evaluation.checkNames (all.focus.scope.map (·.1)) = .ok () := rfl
  have resolved : (all.resolve world.recorded).runFrom (knownIssues 2 1) =
      (.ok "is:open", knownIssues 2 1) :=
    Evaluation.runFrom_resolve_plain world.recorded names (by decide) (knownIssues 2 1)
  have issue : all.kind = .issue := rfl
  obtain ⟨new, log, outcome, -, asked, -⟩ :=
    (reply_seeded (openIssues.honest [] "https://github.com" 2) (by decide) issue ⟨rfl, rfl, rfl⟩
      resolved 1 rfl).mp (.inr (.inl rfl))
  refine ⟨⟨_, outcome, rfl⟩, ?_⟩
  have only : step.2.log = new := log
  rw [only, pagesAsked_of_requestsFor asked]
  decide +kernel

/-- Two of three issues are known as two pages of one issue each. They count as one page of the default
size, so the second page is fetched again and the third issue is left out. -/
theorem reply_seeded_repeats :
    let world := Catalogue.world [] "https://github.com"
    let all : Ask Data := { template := "is:open", limit := 3 }
    let step := all.reply world.recorded 1 (knownIssues 1 2)
    step.1.outcome.toOption.map (fun given => given.items.map Data.number?) =
        some [some (.integer 1), some (.integer 2), some (.integer 2)] ∧
      pagesAsked "is:open" step.2.log = [2] := by
  intro world all step
  exact ⟨by decide +kernel, by decide +kernel⟩

end IssueBoard
