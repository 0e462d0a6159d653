import IssueBoard.Evaluation.Rehearsal
import IssueBoard.Proofs.Query.Inquiry
import IssueBoard.Query.Catalogue
import Mathlib.Tactic.Ring

/-! # Pages of an honest server

A server is honest if it holds a fixed list of results for each query, reports the length of that list
on every page and cuts its pages out of it. Fetching from an honest server brings an entry to the last
page that is needed, and asks for each missing page once and in order.
-/

namespace IssueBoard

variable {σ κ V ι : Type}

/-- The number of pages that hold the first `limit` of `size` items, which is at least one. -/
def pagesNeeded (pageSize size limit : Nat) : Nat :=
  max 1 ((min limit size + (pageSize - 1)) / pageSize)

/-- The pages asked for of one query, in order. -/
def pagesAsked (query : String) (log : List (Exchange ι)) : List Int :=
  ((log.map (·.request)).filter (·.query == query)).map (·.page)

/-- The requests for pages of a query. -/
def requestsFor (query : String) (pageSize : Int) (pages : List Int) : List SearchRequest :=
  pages.map fun page => ⟨.issue, query, pageSize, page⟩

/-- A page cut out of a list of results, with the length of the whole list. -/
def honestPage (items : List ι) (pageSize page : Nat) : SearchPage ι :=
  { total := .count items.length
    items := slice (some (((page : Int) - 1) * pageSize)) (some ((page : Int) * pageSize)) items }

/-- A server that holds a fixed list of results for each query, whatever it is asked and whatever
author code does. `fixed` describes the states in which it holds them. -/
structure HonestServer (world : World σ V) (pageSize : Nat) (results : String → List V)
    (webUrl : String) (fixed : σ → Prop) : Prop where
  site : world.webUrl = .ok webUrl
  pages : ∀ (query : String) (page : Nat) (state : σ), fixed state → 1 ≤ page →
    ∃ after, fixed after ∧ world.search ⟨.issue, query, pageSize, page⟩ state =
      (.ok (honestPage (results query) pageSize page), after)
  code : ∀ request, Evaluation.Preserves (fun session : Session σ V => fixed session.state)
    (Evaluation.call world request)

/-! ## Page arithmetic -/

/-- A further page is needed exactly as long as the pages so far do not hold what is wanted. -/
theorem lt_pagesNeeded_iff {pageSize size limit pages : Nat} (positive : 1 ≤ pageSize)
    (started : 1 ≤ pages) :
    pages < pagesNeeded pageSize size limit ↔ pages * pageSize < min limit size := by
  have quotient : pages < (min limit size + (pageSize - 1)) / pageSize ↔
      (pages + 1) * pageSize ≤ min limit size + (pageSize - 1) := by
    rw [← Nat.succ_le_iff, Nat.le_div_iff_mul_le positive]
  rw [Nat.add_mul, Nat.one_mul] at quotient
  rw [pagesNeeded]
  omega

theorem one_le_pagesNeeded (pageSize size limit : Nat) : 1 ≤ pagesNeeded pageSize size limit :=
  Nat.le_max_left _ _

theorem min_le_pagesNeeded_mul {pageSize : Nat} (positive : 1 ≤ pageSize) (size limit : Nat) :
    min limit size ≤ pagesNeeded pageSize size limit * pageSize := by
  have enough : ¬ pagesNeeded pageSize size limit * pageSize < min limit size := by
    rw [← lt_pagesNeeded_iff positive (one_le_pagesNeeded pageSize size limit)]
    exact Nat.lt_irrefl _
  omega

/-- The pages that are needed hold all that is wanted. -/
theorem take_pages {items : List ι} {pageSize limit pages : Nat} (positive : 1 ≤ pageSize)
    (enough : pagesNeeded pageSize items.length limit ≤ pages) :
    (items.take (pages * pageSize)).take limit = items.take limit := by
  have whole := min_le_pagesNeeded_mul positive items.length limit
  have larger := Nat.mul_le_mul_right pageSize enough
  rw [List.take_take]
  exact List.take_eq_take_iff.mpr (by omega)

theorem pagesNeeded_mono (pageSize size : Nat) {first second : Nat} (le : first ≤ second) :
    pagesNeeded pageSize size first ≤ pagesNeeded pageSize size second := by
  have less : min first size + (pageSize - 1) ≤ min second size + (pageSize - 1) := by omega
  have quotients := Nat.div_le_div_right (c := pageSize) less
  rw [pagesNeeded, pagesNeeded]
  omega

theorem pagesNeeded_max (pageSize size first second : Nat) :
    pagesNeeded pageSize size (max first second) =
      max (pagesNeeded pageSize size first) (pagesNeeded pageSize size second) := by
  rcases Nat.le_total first second with le | le
  · rw [Nat.max_eq_right le, Nat.max_eq_right (pagesNeeded_mono pageSize size le)]
  · rw [Nat.max_eq_left le, Nat.max_eq_left (pagesNeeded_mono pageSize size le)]

theorem positionIn_natCast (length position : Nat) :
    positionIn length (position : Int) = min position length := by
  have counted : ¬ (position : Int) < 0 := by omega
  rw [positionIn, if_neg counted, Int.toNat_natCast]

/-- A part between two positions counted from the start. -/
theorem slice_some_some {α : Type} (items : List α) (lower upper : Nat) :
    slice (some (lower : Int)) (some (upper : Int)) items = (items.take upper).drop lower := by
  have upTo : items.take (min upper items.length) = items.take upper :=
    List.take_eq_take_iff.mpr (by omega)
  simp only [slice, Option.map_some, Option.getD_some, positionIn_natCast, upTo]
  rcases Nat.le_total lower items.length with within | beyond
  · rw [Nat.min_eq_left within]
  · have short : (items.take upper).length ≤ items.length := List.length_take_le' _ _
    rw [Nat.min_eq_right beyond, List.drop_eq_nil_of_le short,
      List.drop_eq_nil_of_le (short.trans beyond)]

theorem honestPage_items (items : List ι) (pageSize pages : Nat) :
    (honestPage items pageSize (pages + 1)).items =
      (items.take ((pages + 1) * pageSize)).drop (pages * pageSize) := by
  have lower : (((pages + 1 : Nat) : Int) - 1) * pageSize = ((pages * pageSize : Nat) : Int) := by
    push_cast
    ring
  have upper : ((pages + 1 : Nat) : Int) * pageSize = (((pages + 1) * pageSize : Nat) : Int) := by
    push_cast
    rfl
  rw [honestPage, lower, upper, slice_some_some]

/-- A page comes right behind the items of the pages before it. -/
theorem take_append_honestPage (items : List ι) (pageSize pages : Nat) :
    items.take (pages * pageSize) ++ (honestPage items pageSize (pages + 1)).items =
      items.take ((pages + 1) * pageSize) := by
  have earlier : items.take (pages * pageSize) =
      (items.take ((pages + 1) * pageSize)).take (pages * pageSize) := by
    rw [List.take_take, Nat.min_eq_left (Nat.mul_le_mul_right pageSize (Nat.le_succ pages))]
  rw [honestPage_items, earlier, List.take_append_drop]

/-- A page is empty if the pages before it hold everything. -/
theorem honestPage_isEmpty {pageSize : Nat} (positive : 1 ≤ pageSize) (items : List ι)
    (pages : Nat) :
    (honestPage items pageSize (pages + 1)).items.isEmpty =
      decide (items.length ≤ pages * pageSize) := by
  rw [honestPage_items, Bool.eq_iff_iff, List.isEmpty_iff, List.drop_eq_nil_iff, decide_eq_true_eq,
    List.length_take, Nat.succ_mul]
  omega

/-! ## Entries of whole pages -/

theorem Total.exceeds_count (n : Int) (size : Nat) :
    (Total.count n).exceeds size = decide ((size : Int) < n) := by
  simp only [Total.exceeds, Total.number?, Option.any_some, Number.below, Number.compare?]
  by_cases less : (size : Int) < n
  · simp [less]
  · by_cases same : (size : Int) = n <;> simp [less, same]

namespace QueryEntry

/-- The entry of a query whose results have been fetched up to a page. -/
def ofPages (query : String) (items : List ι) (pageSize pages : Nat) : QueryEntry ι :=
  { query, total := .count items.length, items := items.take (pages * pageSize)
    pagesFetched := pages, exhausted := items.isEmpty }

variable {query : String} {items : List ι} {pageSize pages : Nat}

theorem totalFault?_ofPages (limit : Int) :
    (ofPages query items pageSize pages).totalFault? limit = none := by
  simp [totalFault?, ofPages, Total.number?]

theorem needsPage_ofPages (positive : 1 ≤ pageSize) (started : 1 ≤ pages) (limit : Nat) :
    (ofPages query items pageSize pages).needsPage limit = true ↔
      pages < pagesNeeded pageSize items.length limit := by
  rw [lt_pagesNeeded_iff positive started]
  have notFirst : pages ≠ 0 := by omega
  cases items with
  | nil => simp [needsPage, dependsOnTotal, ofPages, notFirst]
  | cons item rest =>
    simp only [needsPage, dependsOnTotal, ofPages, Total.exceeds_count, List.isEmpty_cons,
      List.length_take, beq_eq_false_iff_ne.mpr notFirst, bne_iff_ne.mpr notFirst, Bool.false_or,
      Bool.not_false, Bool.true_and, Bool.and_eq_true, decide_eq_true_eq]
    omega

/-- The first page makes a fresh entry one of whole pages. -/
theorem addPage_fresh (positive : 1 ≤ pageSize) (query : String) (items : List ι) :
    (fresh query).addPage (honestPage items pageSize 1) = ofPages query items pageSize 1 := by
  have page := take_append_honestPage items pageSize 0
  have last := honestPage_isEmpty positive items 0
  have none : decide (items.length ≤ 0 * pageSize) = items.isEmpty := by cases items <;> simp
  rw [Nat.zero_mul, List.take_zero, List.nil_append, Nat.zero_add] at page
  rw [none, Nat.zero_add, page] at last
  simp only [fresh, addPage, ofPages, page, last, Nat.zero_add, List.nil_append, Bool.false_or,
    List.filter_nil]
  rfl

/-- A further page that is needed brings an entry of whole pages to the next one. -/
theorem addPage_ofPages (positive : 1 ≤ pageSize) (started : 1 ≤ pages) {limit : Nat}
    (needed : pages < pagesNeeded pageSize items.length limit) :
    (ofPages query items pageSize pages).addPage (honestPage items pageSize (pages + 1)) =
      ofPages query items pageSize (pages + 1) := by
  have page := take_append_honestPage items pageSize pages
  have last := honestPage_isEmpty positive items pages
  rw [lt_pagesNeeded_iff positive started] at needed
  have more : ¬ items.length ≤ pages * pageSize := by omega
  rw [decide_eq_false more] at last
  simp only [addPage, ofPages, page, last, Bool.or_false, List.filter_nil]
  rfl

end QueryEntry

/-! ## Requests -/

theorem pagesAsked_append (query : String) (before after : List (Exchange ι)) :
    pagesAsked query (before ++ after) = pagesAsked query before ++ pagesAsked query after := by
  rw [pagesAsked, List.map_append, List.filter_append, List.map_append]
  rfl

theorem pagesAsked_of_requestsFor {log : List (Exchange ι)} {asked : String} {pageSize : Int}
    {pages : List Int} (requests : log.map (·.request) = requestsFor asked pageSize pages)
    (query : String) : pagesAsked query log = if query = asked then pages else [] := by
  rw [pagesAsked, requests, requestsFor, List.filter_map, List.map_map]
  by_cases same : query = asked
  · simp [same, Function.comp_def]
  · simp [same, Ne.symm same, Function.comp_def]

theorem pageNumbers_append_drop {first last : Nat} (le : first ≤ last) :
    pageNumbers first ++ (pageNumbers last).drop first = pageNumbers last := by
  have beginning : pageNumbers first = (pageNumbers last).take first := by
    rw [pageNumbers, pageNumbers, ← List.map_take, List.take_range, Nat.min_eq_left le]
  rw [beginning, List.take_append_drop]

theorem pageNumbers_drop_of_le {first last : Nat} (le : last ≤ first) :
    (pageNumbers last).drop first = [] := by
  rw [List.drop_eq_nil_iff, pageNumbers, List.length_map, List.length_range]
  exact le

theorem lt_of_mem_drop_pageNumbers {first last : Nat} {page : Int}
    (member : page ∈ (pageNumbers last).drop first) : (first : Int) < page := by
  obtain ⟨place, within, rfl⟩ := List.mem_iff_getElem.mp member
  simp only [List.getElem_drop, pageNumbers, List.getElem_map, List.getElem_range]
  omega

/-- Going on behind the first pages completes the longer of two lists of pages. -/
theorem pageNumbers_append_drop_max (first last : Nat) :
    pageNumbers first ++ (pageNumbers last).drop first = pageNumbers (max first last) := by
  rcases Nat.le_total first last with le | le
  · rw [pageNumbers_append_drop le, Nat.max_eq_right le]
  · rw [pageNumbers_drop_of_le le, List.append_nil, Nat.max_eq_left le]

theorem pageNumbers_drop_succ {first last : Nat} (less : first < last) :
    (pageNumbers last).drop first = ((first : Int) + 1) :: (pageNumbers last).drop (first + 1) := by
  have within : first < (pageNumbers last).length := by
    rwa [pageNumbers, List.length_map, List.length_range]
  rw [List.drop_eq_getElem_cons within]
  simp only [pageNumbers, List.getElem_map, List.getElem_range]

/-! ## Fetching from an honest server -/

section Fetching

variable {world : World σ V} {pageSize : Nat} {results : String → List V} {webUrl : String}
  {fixed : σ → Prop}

/-- What an honest server has to say when the page behind the first `pages` is asked for. -/
def honestExchange (query : String) (items : List V) (pageSize pages : Nat) : Exchange V :=
  ⟨⟨.issue, query, pageSize, (pages : Int) + 1⟩, .ok (honestPage items pageSize (pages + 1))⟩

theorem HonestServer.search_recorded (honest : HonestServer world pageSize results webUrl fixed)
    (query : String) (pages : Nat) {state : σ} (sound : fixed state) (log : List (Exchange V)) :
    ∃ after, fixed after ∧
      world.recorded.search ⟨.issue, query, pageSize, (pages : Int) + 1⟩ (state, log) =
        (.ok (honestPage (results query) pageSize (pages + 1)),
          (after, log ++ [honestExchange query (results query) pageSize pages])) := by
  obtain ⟨after, kept, answer⟩ := honest.pages query (pages + 1) state sound (Nat.le_add_left 1 pages)
  push_cast at answer
  refine ⟨after, kept, ?_⟩
  simp only [World.recorded, answer, honestExchange]

/-- Pages are fetched up to the last one that is needed, each once and in order. -/
theorem fetchPages_ofPages (honest : HonestServer world pageSize results webUrl fixed)
    (positive : 1 ≤ pageSize) (query : String) {pages : Nat} (started : 1 ≤ pages) (limit : Nat)
    {state : σ} (sound : fixed state) (log : List (Exchange V)) :
    ∃ after new, fixed after ∧
      Query.fetchPages world.recorded.search query pageSize limit
          (.ofPages query (results query) pageSize pages) (state, log) =
        (none, .ofPages query (results query) pageSize
          (max pages (pagesNeeded pageSize (results query).length limit)), (after, log ++ new)) ∧
      new.map (·.request) = requestsFor query pageSize
        ((pageNumbers (pagesNeeded pageSize (results query).length limit)).drop pages) := by
  obtain ⟨left, counted⟩ : ∃ left, pagesNeeded pageSize (results query).length limit - pages = left :=
    ⟨_, rfl⟩
  -- `left` is the number of pages that are still missing.
  induction left generalizing pages state log with
  | zero =>
    have enough : pagesNeeded pageSize (results query).length limit ≤ pages := by omega
    have done : ¬ (QueryEntry.ofPages query (results query) pageSize pages).needsPage limit = true := by
      rw [QueryEntry.needsPage_ofPages positive started]
      omega
    refine ⟨state, [], sound, ?_, ?_⟩
    · rw [Query.fetchPages, dif_neg done, QueryEntry.totalFault?_ofPages, Nat.max_eq_left enough,
        List.append_nil]
    · rw [pageNumbers_drop_of_le enough]
      rfl
  | succ left ih =>
    have less : pages < pagesNeeded pageSize (results query).length limit := by omega
    have needed :
        (QueryEntry.ofPages query (results query) pageSize pages).needsPage limit = true := by
      rw [QueryEntry.needsPage_ofPages positive started]
      exact less
    obtain ⟨next, kept, answer⟩ := honest.search_recorded query pages sound log
    obtain ⟨after, new, last, rest, requests⟩ :=
      ih (Nat.le_add_left 1 pages) kept
        (log ++ [honestExchange query (results query) pageSize pages]) (by omega)
    refine ⟨after, honestExchange query (results query) pageSize pages :: new, last, ?_, ?_⟩
    · rw [Query.fetchPages, dif_pos needed]
      have fetched : (QueryEntry.ofPages query (results query) pageSize pages).pagesFetched = pages := rfl
      rw [fetched, answer]
      simp only [QueryEntry.addPage_ofPages positive started less, rest, List.append_assoc,
        List.singleton_append]
      rw [Nat.max_eq_right (by omega), Nat.max_eq_right (by omega)]
    · rw [pageNumbers_drop_succ less, List.map_cons, requests]
      rfl

/-- Pages are fetched from the first one on if an entry counts none, and is one of whole pages once it
has the first. -/
theorem fetchPages_of_first (honest : HonestServer world pageSize results webUrl fixed)
    (positive : 1 ≤ pageSize) {query : String} {entry : QueryEntry V} (first : entry.pagesFetched = 0)
    (page : entry.addPage (honestPage (results query) pageSize 1) =
      .ofPages query (results query) pageSize 1) (limit : Nat) {state : σ} (sound : fixed state)
    (log : List (Exchange V)) :
    ∃ after new, fixed after ∧
      Query.fetchPages world.recorded.search query pageSize limit entry (state, log) =
        (none, .ofPages query (results query) pageSize
          (pagesNeeded pageSize (results query).length limit), (after, log ++ new)) ∧
      new.map (·.request) = requestsFor query pageSize
        (pageNumbers (pagesNeeded pageSize (results query).length limit)) := by
  have needed : entry.needsPage limit = true := by
    rw [QueryEntry.needsPage, first]
    rfl
  have least := one_le_pagesNeeded pageSize (results query).length limit
  obtain ⟨next, kept, answer⟩ := honest.search_recorded query 0 sound log
  obtain ⟨after, new, last, rest, requests⟩ := fetchPages_ofPages honest positive query
    (Nat.le_refl 1) limit kept (log ++ [honestExchange query (results query) pageSize 0])
  refine ⟨after, honestExchange query (results query) pageSize 0 :: new, last, ?_, ?_⟩
  · rw [Query.fetchPages, dif_pos needed, first, answer]
    simp only [Nat.zero_add, page, rest, List.append_assoc, List.singleton_append]
    rw [Nat.max_eq_right least]
  · have all := pageNumbers_drop_succ least
    rw [List.drop_zero] at all
    rw [all, List.map_cons, requests]
    rfl

/-- What a query starts from when its pages are fetched: a fresh entry, or one of whole pages. -/
def pagedEntry (query : String) (items : List V) (pageSize pages : Nat) : QueryEntry V :=
  if pages = 0 then .fresh query else .ofPages query items pageSize pages

/-- Fetching brings an entry to the last page that is needed, whether it is fresh or not. -/
theorem fetchPages_pagedEntry (honest : HonestServer world pageSize results webUrl fixed)
    (positive : 1 ≤ pageSize) (query : String) (pages limit : Nat) {state : σ}
    (sound : fixed state) (log : List (Exchange V)) :
    ∃ after new, fixed after ∧
      Query.fetchPages world.recorded.search query pageSize limit
          (pagedEntry query (results query) pageSize pages) (state, log) =
        (none, .ofPages query (results query) pageSize
          (max pages (pagesNeeded pageSize (results query).length limit)), (after, log ++ new)) ∧
      new.map (·.request) = requestsFor query pageSize
        ((pageNumbers (pagesNeeded pageSize (results query).length limit)).drop pages) := by
  rw [pagedEntry]
  split
  · next first =>
    rw [first, Nat.zero_max, List.drop_zero]
    exact fetchPages_of_first honest positive rfl (QueryEntry.addPage_fresh positive query _) limit
      sound log
  · next later =>
    exact fetchPages_ofPages honest positive query (Nat.one_le_iff_ne_zero.mpr later) limit sound log

end Fetching

/-! ## Catalogues -/

namespace Catalogue

/-- A world whose server is a catalogue and whose author code only has prepared answers. -/
def world (answers : List (String × Data)) (webUrl : String) : World (Catalogue Data) Data where
  webUrl := .ok webUrl
  run request session := (.ok (Rehearsal.answer answers request.source), session)
  view _ value := value
  field? _ value name := value.field? name
  search := search

/-- A catalogue that reports its own lengths and refuses no page is an honest server. -/
theorem honest (catalogue : Catalogue Data) (answers : List (String × Data)) (webUrl : String)
    (pageSize : Nat) :
    HonestServer (world answers webUrl) pageSize catalogue.itemsOf webUrl fun state =>
      state.results = catalogue.results ∧ state.totals = [] ∧ state.outages = [] where
  site := rfl
  pages query page state fixed started := by
    obtain ⟨results, totals, outages⟩ := fixed
    have same : state.itemsOf query = catalogue.itemsOf query := by rw [itemsOf, results, itemsOf]
    refine ⟨{ results := state.results
              requests := state.requests ++ [⟨.issue, query, pageSize, page⟩] },
      ⟨results, rfl, rfl⟩, ?_⟩
    simp only [world, search, totalOn, pageOf, totals, outages, List.lookup_nil, same, honestPage]
  code request session fixed := fixed

/-- Prepared answers leave the query cache alone. -/
theorem undisturbed (answers : List (String × Data)) (webUrl : String) (pageSize : Int)
    (asks : List (Ask Data)) (session : Session (Catalogue Data × List (Exchange Data)) Data) :
    Undisturbed (world answers webUrl).recorded pageSize asks session := by
  refine undisturbed_of_call ?_ pageSize asks session
  intro request cache before same
  exact same

end Catalogue

end IssueBoard
