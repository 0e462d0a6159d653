import IssueBoard.Proofs.Query.HonestServer
import IssueBoard.Proofs.Query.Received

/-! # The budget of a query

A server may report any total and give any items, other ones every time. How many pages a query asks for
is bounded all the same: every page that is not empty brings at least one of the items that are missing,
and behind an empty one nothing is asked for any more. Only the first page of an entry is asked for
whatever is missing.
-/

namespace IssueBoard

variable {σ V ι : Type}

namespace QueryEntry

/-- The number of pages that may still be asked for. An entry without any page asks for its first one
also if no items are wanted. -/
def budget (entry : QueryEntry ι) (limit : Nat) : Nat :=
  if entry.pagesFetched = 0 then max 1 limit
  else if entry.exhausted then 0
  else limit - entry.items.length

/-- The entry after the first pages of a sequence. -/
def afterPages (entry : QueryEntry ι) (answers : Nat → SearchPage ι) : Nat → QueryEntry ι
  | 0 => entry
  | n + 1 => (entry.afterPages answers n).addPage (answers n)

/-- Every page that is needed is paid out of the budget. -/
theorem budget_addPage_lt {entry : QueryEntry ι} {limit : Nat} (page : SearchPage ι)
    (needed : entry.needsPage limit = true) : (entry.addPage page).budget limit < entry.budget limit := by
  have later : (entry.addPage page).pagesFetched ≠ 0 := Nat.succ_ne_zero _
  have rest : (entry.addPage page).budget limit ≤ limit - (entry.items.length + 1) := by
    rw [budget, if_neg later]
    split
    · exact Nat.zero_le _
    · next going =>
      simp only [addPage, Bool.or_eq_true, List.isEmpty_iff, not_or] at going
      have more : 0 < page.items.length := List.length_pos_iff.mpr going.2
      simp only [addPage, List.length_append]
      omega
  refine Nat.lt_of_le_of_lt rest ?_
  rcases unfinished_of_needsPage needed with first | ⟨going, missing⟩
  · rw [budget, if_pos first]
    omega
  · rw [budget, going, if_neg Bool.false_ne_true]
    split <;> omega

/-- As long as pages are needed, each one of them costs a part of the budget. -/
theorem budget_afterPages_add_le {entry : QueryEntry ι} {limit : Nat} (answers : Nat → SearchPage ι)
    {n : Nat} (needed : ∀ m < n, (entry.afterPages answers m).needsPage limit = true) :
    (entry.afterPages answers n).budget limit + n ≤ entry.budget limit := by
  induction n with
  | zero => exact Nat.le_refl _
  | succ n ih =>
    have before := ih fun m less => needed m (Nat.lt_succ_of_lt less)
    have paid := budget_addPage_lt (answers n) (needed n (Nat.lt_succ_self n))
    rw [afterPages]
    omega

/-- Whatever pages a server gives, sooner or later no further one is needed. -/
theorem exists_needsPage_eq_false (entry : QueryEntry ι) (limit : Nat) (answers : Nat → SearchPage ι) :
    ∃ n ≤ entry.budget limit, (entry.afterPages answers n).needsPage limit = false := by
  by_contra never
  simp only [not_exists, not_and, Bool.not_eq_false] at never
  have paid := budget_afterPages_add_le answers (n := entry.budget limit + 1)
    fun m less => never m (Nat.le_of_lt_succ less)
  omega

end QueryEntry

/-- The numbers of so many pages, from the first one on. -/
def consecutivePages (first count : Nat) : List Int :=
  (List.range' first count).map fun page : Nat => (page : Int)

theorem requestsFor_consecutivePages_succ (query : String) (pageSize : Int) (first count : Nat) :
    requestsFor query pageSize (consecutivePages first (count + 1)) =
      ⟨.issue, query, pageSize, first⟩ ::
        requestsFor query pageSize (consecutivePages (first + 1) count) := by
  rw [consecutivePages, List.range'_succ, List.map_cons, requestsFor, List.map_cons]
  rfl

/-- What may be asked for an entry: the pages behind those that it has, one after the other and within
its budget. -/
structure QueryEntry.Affords (entry : QueryEntry V) (query : String) (pageSize : Int) (limit : Nat)
    (new : List (Exchange V)) : Prop where
  within : new.length ≤ entry.budget limit
  pages : new.map (·.request) =
    requestsFor query pageSize (consecutivePages (entry.pagesFetched + 1) new.length)

theorem QueryEntry.affords_nil (entry : QueryEntry V) (query : String) (pageSize : Int) (limit : Nat) :
    entry.Affords query pageSize limit [] :=
  ⟨Nat.zero_le _, rfl⟩

/-- A page that is needed may be asked for before those that are needed behind it. -/
theorem QueryEntry.Affords.cons {entry : QueryEntry V} {query : String} {pageSize : Int} {limit : Nat}
    {page : SearchPage V} {new : List (Exchange V)} (needed : entry.needsPage limit = true)
    (rest : (entry.addPage page).Affords query pageSize limit new)
    (answer : Except Failure (SearchPage V)) :
    entry.Affords query pageSize limit
      (⟨⟨.issue, query, pageSize, entry.pagesFetched + 1⟩, answer⟩ :: new) where
  within := by
    have paid := budget_addPage_lt page needed
    have within := rest.within
    rw [List.length_cons]
    omega
  pages := by
    rw [List.length_cons, requestsFor_consecutivePages_succ, List.map_cons, rest.pages]
    rfl

namespace Query

theorem fetchPages_affords (world : World σ V) (query : String) (pageSize : Int) (limit : Nat)
    (entry : QueryEntry V) (state : σ × List (Exchange V)) :
    ∃ new, (fetchPages world.recorded.search query pageSize limit entry state).2.2.2 = state.2 ++ new ∧
      entry.Affords query pageSize limit new := by
  fun_induction fetchPages world.recorded.search query pageSize limit entry state with
  | case1 entry state needed failure after refused =>
    have log := world.log_search_recorded ⟨.issue, query, pageSize, entry.pagesFetched + 1⟩ state
    rw [refused] at log
    -- The page that is refused is paid for as well, as if it had been empty.
    have none := (entry.addPage ⟨.count 0, []⟩).affords_nil query pageSize limit
    exact ⟨_, log, none.cons needed _⟩
  | case2 entry state needed page after answered ih =>
    have log := world.log_search_recorded ⟨.issue, query, pageSize, entry.pagesFetched + 1⟩ state
    rw [answered] at log
    obtain ⟨new, more, rest⟩ := ih
    refine ⟨_, ?_, rest.cons needed (.ok page)⟩
    rw [more, log, List.append_assoc]
    rfl
  | case3 entry state enough => exact ⟨[], (List.append_nil _).symm, entry.affords_nil query pageSize limit⟩

theorem fetch_affords (world : World σ V) (query : String) (pageSize : Int) (limit : Nat)
    (cache : QueryCache V) (state : σ × List (Exchange V)) :
    ∃ new, (fetch world.recorded.search query pageSize limit cache state).2.2.2 = state.2 ++ new ∧
      ((cache.find? query).getD (.fresh query)).Affords query pageSize limit new := by
  unfold fetch
  split
  · exact ⟨[], (List.append_nil _).symm, QueryEntry.affords_nil _ query pageSize limit⟩
  · obtain ⟨new, log, affords⟩ := fetchPages_affords world query pageSize limit
      ((cache.find? query).getD (.fresh query)) state
    refine ⟨new, Eq.trans ?_ log, affords⟩
    dsimp only
    split <;> next fetched => rw [fetched]

end Query

namespace Ask

/-- Resolving a template asks the server for nothing. -/
theorem log_resolve_recorded (world : World σ V) (ask : Ask V)
    (session : Session (σ × List (Exchange V)) V) :
    ((ask.resolve world.recorded).runFrom session).2.log = session.log := by
  rw [resolve, Evaluation.resolve_recorded, Evaluation.runFrom_recorded]
  rfl

/-- A query asks the server for what the entry that it starts from may be asked for, and for nothing if it
cannot be resolved. -/
theorem reply_affords (world : World σ V) (pageSize : Int) (ask : Ask V)
    (session : Session (σ × List (Exchange V)) V) :
    ∃ new, (ask.reply world.recorded pageSize session).2.log = session.log ++ new ∧
      (∀ failure, ((ask.resolve world.recorded).runFrom session).1 = .error failure → new = []) ∧
      ∀ query after, (ask.resolve world.recorded).runFrom session = (.ok query, after) →
        ((after.cache.find? query).getD (.fresh query)).Affords query pageSize ask.limit new := by
  have quiet := log_resolve_recorded world ask session
  rcases kind : ask.kind with _ | name
  · simp only [reply, runFrom_put kind]
    rcases run : (ask.resolve world.recorded).runFrom session with ⟨failure | query, after⟩
    · rw [run] at quiet
      refine ⟨[], quiet.trans (List.append_nil _).symm, fun _ _ => rfl, ?_⟩
      rintro _ _ ⟨⟩
    · rw [run] at quiet
      rcases world.recorded.webUrl with failure | webUrl
      · refine ⟨[], quiet.trans (List.append_nil _).symm, fun _ _ => rfl, ?_⟩
        rintro _ _ ⟨⟩
        exact QueryEntry.affords_nil ..
      · obtain ⟨new, log, affords⟩ :=
          Query.fetch_affords world query pageSize ask.limit after.cache after.state
        refine ⟨new, ?_, ?_, ?_⟩
        · rw [← quiet]
          exact log
        · rintro _ ⟨⟩
        · rintro _ _ ⟨⟩
          exact affords
  · obtain ⟨failure, put⟩ := runFrom_put_other kind world.recorded pageSize session
    refine ⟨[], ?_, fun _ _ => rfl, fun query after _ => QueryEntry.affords_nil ..⟩
    rw [reply, put, List.append_nil]

/-- **Every query keeps to its budget, whatever the server does.** A query that has been resolved starts
from the entry that the cache holds for it then, or from a fresh one.

* It comes to an end: whatever pages a server gives, after at most so many pages as the budget allows no
  further one is needed.
* It asks for the pages behind those that the entry has, one after the other, and for no more of them
  than the budget allows.

A query that cannot be resolved asks for nothing. -/
theorem reply_withinBudget (world : World σ V) (pageSize : Int) (ask : Ask V)
    (session : Session (σ × List (Exchange V)) V) :
    let resolved := (ask.resolve world.recorded).runFrom session
    ∃ new, (ask.reply world.recorded pageSize session).2.log = session.log ++ new ∧
      (∀ failure, resolved.1 = .error failure → new = []) ∧
      ∀ query, resolved.1 = .ok query →
        let entry := (resolved.2.cache.find? query).getD (.fresh query)
        (∀ answers : Nat → SearchPage V, ∃ n ≤ entry.budget ask.limit,
          (entry.afterPages answers n).needsPage ask.limit = false) ∧
        entry.Affords query pageSize ask.limit new := by
  obtain ⟨new, log, silent, affords⟩ := reply_affords world pageSize ask session
  refine ⟨new, log, silent, fun query resolved => ⟨?_, ?_⟩⟩
  · exact QueryEntry.exists_needsPage_eq_false _ ask.limit
  · exact affords query _ (Prod.ext resolved rfl)

end Ask

end IssueBoard
