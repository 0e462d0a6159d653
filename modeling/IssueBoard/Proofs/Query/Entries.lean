import IssueBoard.Query.Cache
import Mathlib.Data.List.Nodup

/-! # Caches made by queries

A cache that no script has touched is a list of sound entries, each kept under its own query. On such
caches every operation is an operation on the list of entries: an entry replaces the one that goes by
its query, or comes after all others.
-/

namespace IssueBoard

variable {ι : Type}

/-- The first entry of a list that goes by a query. -/
def entryFor? (query : String) (entries : List (QueryEntry ι)) : Option (QueryEntry ι) :=
  entries.find? (·.query == query)

/-- The entries with one of them in place of the one that goes by its query. -/
def replaceEntry (entry : QueryEntry ι) : List (QueryEntry ι) → List (QueryEntry ι)
  | [] => []
  | known :: rest =>
    if known.query = entry.query then entry :: rest else known :: replaceEntry entry rest

/-- The entries with one of them kept: in place of the one that goes by its query, or at the end. -/
def keepEntry (entry : QueryEntry ι) (entries : List (QueryEntry ι)) : List (QueryEntry ι) :=
  if (entryFor? entry.query entries).isSome then replaceEntry entry entries else entries ++ [entry]

/-! ## Entries as a list -/

section Entries

variable {entries : List (QueryEntry ι)} {query : String}

@[simp] theorem entryFor?_nil (query : String) : entryFor? query ([] : List (QueryEntry ι)) = none := rfl

theorem entryFor?_cons (query : String) (known : QueryEntry ι) (rest : List (QueryEntry ι)) :
    entryFor? query (known :: rest) =
      if known.query = query then some known else entryFor? query rest := by
  rw [entryFor?, List.find?_cons]
  by_cases same : known.query = query
  · rw [if_pos same, beq_iff_eq.mpr same]
  · rw [if_neg same, beq_eq_false_iff_ne.mpr same]
    rfl

theorem query_of_entryFor? {entry : QueryEntry ι} (found : entryFor? query entries = some entry) :
    entry.query = query := by
  have same := List.find?_some found
  exact beq_iff_eq.mp same

theorem mem_of_entryFor? {entry : QueryEntry ι} (found : entryFor? query entries = some entry) :
    entry ∈ entries :=
  List.mem_of_find?_eq_some found

theorem entryFor?_isSome_iff : (entryFor? query entries).isSome ↔ query ∈ entries.map (·.query) := by
  rw [entryFor?, List.find?_isSome, List.mem_map]
  simp only [beq_iff_eq]

/-- Where no two entries go by one query, an entry is found by its query. -/
theorem entryFor?_of_mem (distinct : (entries.map (·.query)).Nodup) {entry : QueryEntry ι}
    (member : entry ∈ entries) : entryFor? entry.query entries = some entry := by
  induction entries with
  | nil => cases member
  | cons known rest ih =>
    rw [List.map_cons, List.nodup_cons] at distinct
    rw [entryFor?_cons]
    rcases List.mem_cons.mp member with rfl | later
    · rw [if_pos rfl]
    · have other : known.query ≠ entry.query := by
        intro same
        exact distinct.1 (same ▸ List.mem_map_of_mem later)
      rw [if_neg other]
      exact ih distinct.2 later

theorem queries_replaceEntry (entry : QueryEntry ι) (entries : List (QueryEntry ι)) :
    (replaceEntry entry entries).map (·.query) = entries.map (·.query) := by
  induction entries with
  | nil => rfl
  | cons known rest ih =>
    rw [replaceEntry]
    split
    · next same => simp only [List.map_cons, same]
    · simp only [List.map_cons, ih]

theorem entryFor?_replaceEntry (entry : QueryEntry ι) (query : String) :
    entryFor? query (replaceEntry entry entries) =
      if query = entry.query then (entryFor? query entries).map fun _ => entry
      else entryFor? query entries := by
  induction entries with
  | nil => simp [replaceEntry]
  | cons known rest ih =>
    rw [replaceEntry, entryFor?_cons]
    split
    · next here =>
      rw [entryFor?_cons, here]
      by_cases same : query = entry.query
      · simp [same]
      · simp [same, Ne.symm same]
    · next other =>
      rw [entryFor?_cons, ih]
      by_cases same : query = entry.query
      · simp [same, other]
      · simp [same]

theorem replaceEntry_of_absent {entry : QueryEntry ι}
    (absent : entryFor? entry.query entries = none) : replaceEntry entry entries = entries := by
  induction entries with
  | nil => rfl
  | cons known rest ih =>
    rw [entryFor?_cons] at absent
    split at absent
    · cases absent
    · next other => rw [replaceEntry, if_neg other, ih absent]

theorem findIdx?_eq_none_iff :
    entries.findIdx? (·.query == query) = none ↔ entryFor? query entries = none := by
  rw [List.findIdx?_eq_none_iff, entryFor?, List.find?_eq_none]
  simp only [Bool.not_eq_true]

theorem queries_keepEntry (entry : QueryEntry ι) (entries : List (QueryEntry ι)) :
    (keepEntry entry entries).map (·.query) =
      if entry.query ∈ entries.map (·.query) then entries.map (·.query)
      else entries.map (·.query) ++ [entry.query] := by
  simp only [keepEntry, entryFor?_isSome_iff]
  split
  · exact queries_replaceEntry entry entries
  · rw [List.map_append, List.map_singleton]

theorem mem_queries_keepEntry {entry : QueryEntry ι} :
    query ∈ (keepEntry entry entries).map (·.query) ↔
      query ∈ entries.map (·.query) ∨ query = entry.query := by
  rw [queries_keepEntry]
  split
  · next known =>
    refine ⟨.inl, ?_⟩
    rintro (member | rfl)
    · exact member
    · exact known
  · rw [List.mem_append, List.mem_singleton]

/-- What is found once an entry has been kept: the entry itself under its query, and under all other
queries what was found before. -/
theorem entryFor?_keepEntry (entry : QueryEntry ι) (entries : List (QueryEntry ι)) (query : String) :
    entryFor? query (keepEntry entry entries) =
      if query = entry.query then some entry else entryFor? query entries := by
  rw [keepEntry]
  split
  · next known =>
    obtain ⟨old, found⟩ := Option.isSome_iff_exists.mp known
    rw [entryFor?_replaceEntry]
    split
    · next same => rw [same, found, Option.map_some]
    · rfl
  · next unknown =>
    have missing : entryFor? entry.query entries = none := by simpa using unknown
    have last : entryFor? query [entry] = if entry.query = query then some entry else none :=
      entryFor?_cons query entry []
    rw [entryFor?, List.find?_append]
    change (entryFor? query entries).or (entryFor? query [entry]) = _
    rw [last]
    by_cases same : query = entry.query
    · simp [same, missing]
    · simp [same, Ne.symm same]

theorem nodup_keepEntry {entry : QueryEntry ι} (distinct : (entries.map (·.query)).Nodup) :
    ((keepEntry entry entries).map (·.query)).Nodup := by
  rw [queries_keepEntry]
  split
  · exact distinct
  · next unknown => exact List.nodup_append_comm.mp (List.nodup_cons.mpr ⟨unknown, distinct⟩)

/-- Replacing adds nothing: what is found afterwards has taken the place of a known entry, or goes by
another query. -/
theorem mem_replaceEntry {entry found : QueryEntry ι} (distinct : (entries.map (·.query)).Nodup)
    (member : found ∈ replaceEntry entry entries) :
    found = entry ∧ (entryFor? entry.query entries).isSome ∨
      found ∈ entries ∧ found.query ≠ entry.query := by
  have unique : ((replaceEntry entry entries).map (·.query)).Nodup := by
    rw [queries_replaceEntry]
    exact distinct
  have this := entryFor?_of_mem unique member
  rw [entryFor?_replaceEntry] at this
  split at this
  · next same =>
    obtain ⟨old, known, rfl⟩ := Option.map_eq_some_iff.mp this
    exact .inl ⟨rfl, by rw [known]; rfl⟩
  · next other => exact .inr ⟨mem_of_entryFor? this, other⟩

theorem mem_keepEntry {entry found : QueryEntry ι} (distinct : (entries.map (·.query)).Nodup)
    (member : found ∈ keepEntry entry entries) :
    found = entry ∨ found ∈ entries ∧ found.query ≠ entry.query := by
  have this := entryFor?_of_mem (nodup_keepEntry distinct) member
  rw [entryFor?_keepEntry] at this
  split at this
  · exact .inl (Option.some.inj this).symm
  · next other => exact .inr ⟨mem_of_entryFor? this, other⟩

/-- A list of entries that go by different queries is known from its queries and what is found under
them. -/
theorem eq_map_of_entryFor? {held : String → QueryEntry ι} (distinct : (entries.map (·.query)).Nodup)
    (found : ∀ query ∈ entries.map (·.query), entryFor? query entries = some (held query)) :
    entries = (entries.map (·.query)).map held := by
  rw [List.map_map]
  refine (List.map_id entries).symm.trans (List.map_congr_left ?_)
  intro entry member
  have this := found entry.query (List.mem_map_of_mem member)
  rw [entryFor?_of_mem distinct member, Option.some.injEq] at this
  exact this

end Entries

namespace QueryCache

/-- The names of entries whose places are counted from `first`. -/
def namesOf (first : Nat) : List (QueryEntry ι) → List (Atom × Holding ι)
  | [] => []
  | entry :: rest => (.text entry.query, .entry first) :: namesOf (first + 1) rest

/-- The cache that keeps entries under their own queries, in the order of the list. -/
def ofEntries (entries : List (QueryEntry ι)) : QueryCache ι :=
  { entries, names := namesOf 0 entries }

theorem same_text (a b : String) : (Atom.text a).same (.text b) = (a == b) := by
  simp [Atom.same, Atom.number?]

theorem find?_namesOf (query : String) (entries : List (QueryEntry ι)) (first : Nat) :
    ((namesOf first entries).find? fun held => held.1.same (.text query)).map (·.2) =
      (entries.findIdx? (·.query == query)).map fun place => .entry (first + place) := by
  induction entries generalizing first with
  | nil => rfl
  | cons entry rest ih =>
    simp only [namesOf, List.find?_cons, List.findIdx?_cons, same_text]
    cases entry.query == query with
    | true => rfl
    | false =>
      simp only [ih (first + 1), Option.map_map, Function.comp_def, Bool.false_eq_true, ↓reduceIte]
      congr 1
      funext place
      rw [Nat.add_right_comm, Nat.add_assoc]

theorem holding?_ofEntries (entries : List (QueryEntry ι)) (query : String) :
    (ofEntries entries).holding? (.text query) =
      (entries.findIdx? (·.query == query)).map .entry := by
  have names := find?_namesOf query entries 0
  simp only [Nat.zero_add] at names
  exact names

theorem slot?_ofEntries (entries : List (QueryEntry ι)) (query : String) :
    (ofEntries entries).slot? query = entries.findIdx? (·.query == query) := by
  rw [slot?, holding?_ofEntries]
  cases entries.findIdx? (·.query == query) <;> rfl

theorem find?_ofEntries (entries : List (QueryEntry ι)) (query : String) :
    (ofEntries entries).find? query = entryFor? query entries := by
  rw [find?, slot?_ofEntries, entryFor?, List.find?_eq_bind_findIdx?_getElem?]
  rfl

theorem fault?_ofEntries {entries : List (QueryEntry ι)}
    (sound : ∀ entry ∈ entries, entry.fault = none) (query : String) :
    (ofEntries entries).fault? query = none := by
  have found : ((ofEntries entries).find? query).bind (·.fault) = none := by
    rw [find?_ofEntries]
    cases known : entryFor? query entries with
    | none => rfl
    | some entry => exact sound entry (mem_of_entryFor? known)
  rw [fault?, holding?_ofEntries]
  cases entries.findIdx? (·.query == query) <;> exact found

theorem namesOf_congr {entries others : List (QueryEntry ι)}
    (same : entries.map (·.query) = others.map (·.query)) (first : Nat) :
    namesOf first entries = namesOf first others := by
  induction entries generalizing others first with
  | nil =>
    cases others with
    | nil => rfl
    | cons => cases same
  | cons entry rest ih =>
    cases others with
    | nil => cases same
    | cons other more =>
      rw [List.map_cons, List.map_cons, List.cons.injEq] at same
      rw [namesOf, namesOf, same.1, ih same.2]

theorem namesOf_append (entries : List (QueryEntry ι)) (last : QueryEntry ι) (first : Nat) :
    namesOf first (entries ++ [last]) =
      namesOf first entries ++ [(.text last.query, .entry (first + entries.length))] := by
  induction entries generalizing first with
  | nil => rfl
  | cons entry rest ih =>
    simp only [List.cons_append, namesOf, ih, List.length_cons]
    rw [Nat.add_right_comm, Nat.add_assoc]

theorem set_eq_replaceEntry {entries : List (QueryEntry ι)} {entry : QueryEntry ι} {slot : Nat}
    (found : entries.findIdx? (·.query == entry.query) = some slot) :
    entries.set slot entry = replaceEntry entry entries := by
  induction entries generalizing slot with
  | nil => cases found
  | cons known rest ih =>
    rw [List.findIdx?_cons] at found
    rw [replaceEntry]
    by_cases here : known.query = entry.query
    · simp only [here, BEq.rfl, if_true, Option.some.injEq] at found
      rw [if_pos here, ← found, List.set_cons_zero]
    · rw [if_neg here]
      simp only [beq_eq_false_iff_ne.mpr here, Bool.false_eq_true, if_false] at found
      obtain ⟨place, below, rfl⟩ := Option.map_eq_some_iff.mp found
      rw [List.set_cons_succ, ih below]

theorem replace_ofEntries {entries : List (QueryEntry ι)} {entry : QueryEntry ι} {slot : Nat}
    (found : entries.findIdx? (·.query == entry.query) = some slot) :
    (ofEntries entries).replace slot entry = ofEntries (replaceEntry entry entries) := by
  have names := namesOf_congr (queries_replaceEntry entry entries) 0
  rw [replace, ofEntries, ofEntries, names]
  simp only [set_eq_replaceEntry found]

theorem update_ofEntries (entries : List (QueryEntry ι)) (entry : QueryEntry ι) :
    (ofEntries entries).update entry.query entry = ofEntries (replaceEntry entry entries) := by
  rw [update, slot?_ofEntries]
  cases found : entries.findIdx? (·.query == entry.query) with
  | some slot => exact replace_ofEntries found
  | none => rw [replaceEntry_of_absent (findIdx?_eq_none_iff.mp found)]

/-- A name that is not known comes after all others. -/
theorem bind_of_unnamed {cache : QueryCache ι} {name : Atom} (unnamed : cache.holding? name = none)
    (held : Holding ι) :
    cache.bind name held = { cache with names := cache.names ++ [(name, held)] } := by
  rw [bind, unnamed, Option.isSome_none, if_neg (by decide)]

theorem insert_ofEntries (entries : List (QueryEntry ι)) (entry : QueryEntry ι) :
    (ofEntries entries).insert entry.query entry = ofEntries (keepEntry entry entries) := by
  rw [insert, slot?_ofEntries, keepEntry]
  cases found : entries.findIdx? (·.query == entry.query) with
  | some slot =>
    have known : (entryFor? entry.query entries).isSome := by
      rw [Option.isSome_iff_ne_none]
      intro absent
      rw [findIdx?_eq_none_iff.mpr absent] at found
      cases found
    rw [if_pos known]
    exact replace_ofEntries found
  | none =>
    have unnamed : (ofEntries entries).holding? (.text entry.query) = none := by
      rw [holding?_ofEntries, found, Option.map_none]
    have names := namesOf_append entries entry 0
    rw [Nat.zero_add] at names
    rw [findIdx?_eq_none_iff.mp found, Option.isSome_none, if_neg (by decide)]
    have longer : (QueryCache.mk (entries ++ [entry]) (namesOf 0 entries)).holding?
        (.text entry.query) = none := unnamed
    refine (bind_of_unnamed longer (.entry entries.length)).trans ?_
    rw [ofEntries, names]

theorem toList_ofEntries (entries : List (QueryEntry ι)) :
    (ofEntries entries).toList = entries.map fun entry => (entry.query, entry) := by
  -- Places are counted in the whole list, so the entries before are carried along.
  have behind (before after : List (QueryEntry ι)) :
      (QueryCache.mk (before ++ after) (namesOf before.length after)).toList =
        after.map fun entry => (entry.query, entry) := by
    induction after generalizing before with
    | nil => rfl
    | cons entry rest ih =>
      have later := ih (before ++ [entry])
      simp only [toList, List.length_append, List.length_singleton, List.append_assoc,
        List.singleton_append] at later
      have here : ((before ++ entry :: rest)[before.length]?).map
          (fun found => (entry.query, found)) = some (entry.query, entry) := by
        rw [List.getElem?_append_right (Nat.le_refl _), Nat.sub_self, List.getElem?_cons_zero,
          Option.map_some]
      rw [toList, namesOf, List.filterMap_cons]
      simp only [here, later, List.map_cons]
  exact behind [] entries

end QueryCache

end IssueBoard
