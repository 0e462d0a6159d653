import IssueBoard.Data.Slice
import IssueBoard.Query.Server

/-!
# The query cache

What has been fetched so far is kept for each resolved query. Pages are always asked for in order,
so a later request for more items of a query goes on where an earlier one stopped. Two names of the
cache may stand for one entry; then both see what is fetched for either. Scripts may also put other
values than entries into the cache, and other values into an entry than it is meant to hold; a
query that meets one of them fails.
-/

namespace IssueBoard

/-- Everything fetched so far for one query. -/
structure QueryEntry (ι : Type) where
  query : String
  total : Total
  items : List ι := []
  /-- The number of pages asked for so far. -/
  pagesFetched : Nat := 0
  /-- Whether the last page was empty. -/
  exhausted : Bool := false
  /-- What scripts have set besides, by the names of attributes. -/
  settings : List (String × ι) := []
  /-- Why the entry is of no use any more, if a script has spoiled it. -/
  fault : Option Fault := none

namespace QueryEntry

variable {ι : Type}

/-- The entry of a query before the first page is fetched. -/
def fresh (query : String) : QueryEntry ι := { query, total := .count 0 }

/-- An entry made of known items. Without a number of pages they count as whole pages. -/
def seeded (query : String) (total : Total) (items : List ι) (pagesFetched : Nat)
    (exhausted : Bool) : QueryEntry ι :=
  let size := defaultPageSize.toNat
  let pagesFetched := if pagesFetched = 0 then (items.length + (size - 1)) / size else pagesFetched
  { query, total, items, pagesFetched, exhausted }

/-- Whether only the total tells if a further page has to be fetched for `limit` items. -/
def dependsOnTotal (entry : QueryEntry ι) (limit : Int) : Bool :=
  entry.pagesFetched != 0 && !entry.exhausted && decide ((entry.items.length : Int) < limit)

/-- Whether a further page has to be fetched for `limit` items. -/
def needsPage (entry : QueryEntry ι) (limit : Int) : Bool :=
  entry.pagesFetched == 0
    || (entry.dependsOnTotal limit && entry.total.exceeds entry.items.length)

/-- Why nobody can tell if a further page has to be fetched: the total is no number. -/
def totalFault? (entry : QueryEntry ι) (limit : Int) : Option Failure :=
  if entry.dependsOnTotal limit && entry.total.number?.isNone then some (.fault .entryType)
  else none

/-- The attributes that every page sets anew. -/
def pageAttributes : List String := ["total_count", "pages_fetched"]

/-- The entry after a further page. -/
def addPage (entry : QueryEntry ι) (page : SearchPage ι) : QueryEntry ι :=
  { entry with
    total := page.total
    items := entry.items ++ page.items
    pagesFetched := entry.pagesFetched + 1
    exhausted := entry.exhausted || page.items.isEmpty
    settings := entry.settings.filter fun (name, _) => !(pageAttributes.contains name
      || (name == "exhausted" && page.items.isEmpty)) }

/-- The entry without what has been set for an attribute. -/
def forget (entry : QueryEntry ι) (name : String) : QueryEntry ι :=
  { entry with settings := entry.settings.filter fun (known, _) => known != name }

/-- The entry with an attribute set to a value. -/
def remember (entry : QueryEntry ι) (name : String) (value : ι) : QueryEntry ι :=
  { entry with settings := (entry.forget name).settings ++ [(name, value)] }

/-- A bound on the number of pages that are still fetched for `limit` items. -/
def pagesLeft (entry : QueryEntry ι) (limit : Int) : Nat :=
  (if entry.pagesFetched = 0 then 1 else 0)
    + (if entry.exhausted then 0 else (limit - entry.items.length).toNat)

/-- A page is needed because it is the first one, or because items are missing. -/
theorem unfinished_of_needsPage {entry : QueryEntry ι} {limit : Int}
    (needed : entry.needsPage limit = true) :
    entry.pagesFetched = 0 ∨ entry.exhausted = false ∧ (entry.items.length : Int) < limit := by
  simp only [needsPage, dependsOnTotal, Bool.or_eq_true, beq_iff_eq, Bool.and_eq_true,
    Bool.not_eq_true', decide_eq_true_eq] at needed
  rcases needed with first | ⟨⟨⟨_, going⟩, more⟩, _⟩
  · exact .inl first
  · exact .inr ⟨going, more⟩

/-- Every page that is needed brings the end nearer. -/
theorem pagesLeft_addPage {entry : QueryEntry ι} {limit : Int} (page : SearchPage ι)
    (needed : entry.needsPage limit = true) :
    (entry.addPage page).pagesLeft limit < entry.pagesLeft limit := by
  have unfinished := unfinished_of_needsPage needed
  simp only [pagesLeft, addPage, List.length_append, Nat.succ_ne_zero, if_false]
  cases items : page.items with
  | nil =>
    simp only [List.isEmpty_nil, Bool.or_true, if_true]
    rcases unfinished with first | ⟨more, room⟩
    · simp only [first, if_true]; omega
    · simp only [more, Bool.false_eq_true, if_false]; omega
  | cons item rest =>
    simp only [List.isEmpty_cons, Bool.or_false, List.length_cons]
    rcases unfinished with first | ⟨more, room⟩
    · simp only [first, if_true]; split <;> omega
    · simp only [more, Bool.false_eq_true, if_false]; omega

end QueryEntry

/-- What a name of the cache stands for. -/
inductive Holding (ι : Type) where
  /-- The entry at a place. -/
  | entry (slot : Nat)
  /-- Some other value. It says why it cannot serve as an entry; if there is no reason, it counts
  as no entry at all. -/
  | other (value : ι) (fault : Option Fault)

/-- The entries of a cache, and the names that they go by in the order of their arrival. -/
structure QueryCache (ι : Type) where
  entries : List (QueryEntry ι) := []
  names : List (Atom × Holding ι) := []

namespace QueryCache

variable {ι : Type}

/-- What a name stands for. -/
def holding? (cache : QueryCache ι) (name : Atom) : Option (Holding ι) :=
  (cache.names.find? fun held => held.1.same name).map (·.2)

/-- The place of the entry that goes by a query. -/
def slot? (cache : QueryCache ι) (query : String) : Option Nat :=
  match cache.holding? (.text query) with
  | some (.entry slot) => some slot
  | _ => none

/-- The entry that goes by a query. -/
def find? (cache : QueryCache ι) (query : String) : Option (QueryEntry ι) :=
  (cache.slot? query).bind fun slot => cache.entries[slot]?

/-- Why what is kept for a query cannot be used. -/
def fault? (cache : QueryCache ι) (query : String) : Option Fault :=
  match cache.holding? (.text query) with
  | some (.other _ fault) => fault
  | _ => (cache.find? query).bind (·.fault)

/-- Replaces the entry at a place. -/
def replace (cache : QueryCache ι) (slot : Nat) (entry : QueryEntry ι) : QueryCache ι :=
  { cache with entries := cache.entries.set slot entry }

/-- Replaces the entry that goes by a query; nothing changes if there is none. -/
def update (cache : QueryCache ι) (query : String) (entry : QueryEntry ι) : QueryCache ι :=
  match cache.slot? query with
  | some slot => cache.replace slot entry
  | none => cache

/-- Lets a name stand for something. A known name keeps its position. -/
def bind (cache : QueryCache ι) (name : Atom) (held : Holding ι) : QueryCache ι :=
  if (cache.holding? name).isSome then
    { cache with names := cache.names.map fun (known, old) =>
        (known, if known.same name then held else old) }
  else { cache with names := cache.names ++ [(name, held)] }

/-- Keeps an entry for a query: it replaces the one that goes by the query, or is new. -/
def insert (cache : QueryCache ι) (query : String) (entry : QueryEntry ι) : QueryCache ι :=
  match cache.slot? query with
  | some slot => cache.replace slot entry
  | none =>
    { cache with entries := cache.entries ++ [entry] }.bind (.text query)
      (.entry cache.entries.length)

/-- The queries and their entries, in the order of arrival. -/
def toList (cache : QueryCache ι) : List (String × QueryEntry ι) :=
  cache.names.filterMap fun (name, held) =>
    match name, held with
    | .text query, .entry slot => (cache.entries[slot]?).map fun entry => (query, entry)
    | _, _ => none

end QueryCache

/-- What a query gives: the total, at most as many items as asked for, and the page of the web site
that shows the same search. -/
structure QueryResults (ι : Type) where
  total : Total
  items : List ι
  url : String

namespace Query

variable {ι κ : Type}

/-- Fetches pages into an entry until it holds enough, and stops at the first failure or when nobody
can tell whether it does. -/
def fetchPages (search : SearchRequest → κ → Except Failure (SearchPage ι) × κ) (query : String)
    (pageSize limit : Int) (entry : QueryEntry ι) (state : κ) :
    Option Failure × QueryEntry ι × κ :=
  if _needed : entry.needsPage limit then
    match search ⟨.issue, query, pageSize, entry.pagesFetched + 1⟩ state with
    | (.error failure, state) => (some failure, entry, state)
    | (.ok page, state) => fetchPages search query pageSize limit (entry.addPage page) state
  else (entry.totalFault? limit, entry, state)
termination_by entry.pagesLeft limit
decreasing_by exact QueryEntry.pagesLeft_addPage page _needed

/-- Runs a resolved query, fetching only what the cache does not hold yet. A failure keeps what has
been fetched for a known query and leaves no trace of a new one. If what is kept for the query is of
no use, nothing is fetched. -/
def fetch (search : SearchRequest → κ → Except Failure (SearchPage ι) × κ) (query : String)
    (pageSize limit : Int) (cache : QueryCache ι) (state : κ) :
    Except Failure (QueryEntry ι) × QueryCache ι × κ :=
  match cache.fault? query with
  | some fault => (.error (.fault fault), cache, state)
  | none =>
    let known := (cache.find? query).getD (.fresh query)
    match fetchPages search query pageSize limit known state with
    | (some failure, entry, state) => (.error failure, cache.update query entry, state)
    | (none, entry, state) => (.ok entry, cache.insert query entry, state)

end Query

end IssueBoard
