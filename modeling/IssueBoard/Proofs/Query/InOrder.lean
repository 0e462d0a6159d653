import IssueBoard.Evaluation.World
import Mathlib.Tactic.SplitIfs

/-! # Query caches that are in order

The query cache is in order as long as its entries hold what servers give: a number as the total, and
items that are objects. Fetching from a fair server keeps it in order, and fails in a cache that is in
order only if the server does. Author code may put it out of order.
-/

namespace IssueBoard

variable {σ V : Type}

namespace World

variable {world : World σ V}

/-- Whether a value is an object whenever it is looked at. -/
def IsObject (world : World σ V) (item : V) : Prop :=
  ∀ session, ∃ entries, world.view session item = .object entries

/-- Whether the server gives pages with a number as the total and objects as the items, or fails in a way
of the program's own, and its site has an address. -/
structure IsFair (world : World σ V) : Prop where
  site : ∀ failure, world.webUrl = .error failure → failure.isOwn = true
  fails : ∀ request state failure after, world.search request state = (.error failure, after) →
    failure.isOwn = true
  total : ∀ request state page after, world.search request state = (.ok page, after) →
    page.total.number?.isSome = true
  items : ∀ request state page after, world.search request state = (.ok page, after) →
    ∀ item ∈ page.items, world.IsObject item

/-- Whether an entry holds what servers give. -/
structure Keeps (world : World σ V) (entry : QueryEntry V) : Prop where
  sound : entry.fault = none
  total : entry.total.number?.isSome = true
  items : ∀ item ∈ entry.items, world.IsObject item

/-- Whether a cache has only such entries, and nothing else in the place of one. -/
structure InOrder (world : World σ V) (cache : QueryCache V) : Prop where
  entries : ∀ entry ∈ cache.entries, world.Keeps entry
  names : ∀ name value fault, (name, .other value fault) ∈ cache.names → fault = none

theorem keeps_fresh (query : String) : world.Keeps (.fresh query) where
  sound := rfl
  total := rfl
  items _ never := nomatch never

theorem Keeps.addPage {entry : QueryEntry V} (keeps : world.Keeps entry) {page : SearchPage V}
    (total : page.total.number?.isSome = true) (items : ∀ item ∈ page.items, world.IsObject item) :
    world.Keeps (entry.addPage page) where
  sound := keeps.sound
  total := total
  items item member := by
    rcases List.mem_append.mp member with old | new
    · exact keeps.items item old
    · exact items item new

end World

namespace QueryCache

variable {cache : QueryCache V} {query : String}

theorem mem_of_find? {entry : QueryEntry V} (found : cache.find? query = some entry) :
    entry ∈ cache.entries := by
  obtain ⟨slot, -, found⟩ := Option.bind_eq_some_iff.mp found
  exact List.mem_of_getElem? found

theorem mem_of_holding? {name : Atom} {held : Holding V} (found : cache.holding? name = some held) :
    ∃ known, (known, held) ∈ cache.names := by
  obtain ⟨⟨known, _⟩, there, rfl⟩ := Option.map_eq_some_iff.mp found
  exact ⟨known, List.mem_of_find?_eq_some there⟩

theorem mem_entries_update {entry found : QueryEntry V}
    (member : found ∈ (cache.update query entry).entries) :
    found = entry ∨ found ∈ cache.entries := by
  unfold update at member
  split at member
  · exact (List.mem_or_eq_of_mem_set member).symm
  · exact .inr member

theorem names_update (entry : QueryEntry V) : (cache.update query entry).names = cache.names := by
  unfold update
  split
  · rfl
  · rfl

theorem entries_bind (cache : QueryCache V) (name : Atom) (held : Holding V) :
    (cache.bind name held).entries = cache.entries := by
  unfold bind
  split
  · rfl
  · rfl

theorem mem_names_bind {name known : Atom} {held found : Holding V}
    (member : (known, found) ∈ (cache.bind name held).names) :
    found = held ∨ (known, found) ∈ cache.names := by
  unfold bind at member
  split at member
  · obtain ⟨⟨other, old⟩, there, same⟩ := List.mem_map.mp member
    dsimp only at same
    split_ifs at same with renamed
    · exact .inl (Prod.mk.inj same).2.symm
    · exact .inr (same ▸ there)
  · rcases List.mem_append.mp member with old | new
    · exact .inr old
    · obtain ⟨-, same⟩ := Prod.mk.inj (List.mem_singleton.mp new)
      exact .inl same

theorem mem_entries_insert {entry found : QueryEntry V}
    (member : found ∈ (cache.insert query entry).entries) :
    found = entry ∨ found ∈ cache.entries := by
  unfold insert at member
  split at member
  · exact (List.mem_or_eq_of_mem_set member).symm
  · rw [entries_bind] at member
    rcases List.mem_append.mp member with old | new
    · exact .inr old
    · exact .inl (List.mem_singleton.mp new)

theorem mem_names_insert {entry : QueryEntry V} {name : Atom} {value : V} {fault : Option Fault}
    (member : (name, .other value fault) ∈ (cache.insert query entry).names) :
    (name, .other value fault) ∈ cache.names := by
  unfold insert at member
  split at member
  · exact member
  · rcases mem_names_bind member with never | old
    · cases never
    · exact old

end QueryCache

namespace World

variable {world : World σ V} {cache : QueryCache V} {query : String}

theorem InOrder.update (order : world.InOrder cache) {entry : QueryEntry V} (keeps : world.Keeps entry) :
    world.InOrder (cache.update query entry) where
  entries found member := by
    rcases QueryCache.mem_entries_update member with rfl | old
    · exact keeps
    · exact order.entries found old
  names name value fault member := by
    rw [QueryCache.names_update] at member
    exact order.names name value fault member

theorem InOrder.insert (order : world.InOrder cache) {entry : QueryEntry V} (keeps : world.Keeps entry) :
    world.InOrder (cache.insert query entry) where
  entries found member := by
    rcases QueryCache.mem_entries_insert member with rfl | old
    · exact keeps
    · exact order.entries found old
  names name value fault member := order.names name value fault (QueryCache.mem_names_insert member)

/-- Nothing keeps a cache that is in order from being used. -/
theorem InOrder.fault? (order : world.InOrder cache) (query : String) : cache.fault? query = none := by
  unfold QueryCache.fault?
  split
  · next held =>
    obtain ⟨known, member⟩ := QueryCache.mem_of_holding? held
    exact order.names known _ _ member
  · cases found : cache.find? query with
    | none => rfl
    | some entry => exact (order.entries entry (QueryCache.mem_of_find? found)).sound

/-- What fetching starts from in a cache that is in order. -/
theorem InOrder.keeps (order : world.InOrder cache) (query : String) :
    world.Keeps ((cache.find? query).getD (.fresh query)) := by
  cases found : cache.find? query with
  | none => exact keeps_fresh query
  | some entry => exact order.entries entry (QueryCache.mem_of_find? found)

end World

end IssueBoard
