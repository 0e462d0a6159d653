import IssueBoard.Proofs.Text.Percent
import IssueBoard.Proofs.Text.Words
import IssueBoard.Query.Link

/-! # Links to searches depend on the words of a query

The characters of a query are searched for the mark of a repository, cut there and joined again. What
comes out depends on the words of the query alone: the first word that names a repository chooses the
page, and the other words, joined by single spaces, are what is searched for.
-/

namespace IssueBoard.Query

open Text

/-- Whether a word of a query names a repository. -/
def NamesRepository (word : List Char) : Prop := ∃ name, name ≠ [] ∧ word = repositoryMark ++ name

/-- Words joined by single spaces. -/
def joinWords (words : List (List Char)) : String := String.ofList ([' '].intercalate words)

/-! ## Names at the front -/

theorem mark_not_blank : ∀ c ∈ repositoryMark, (!isBlank c) = true :=
  List.all_eq_true.mp (by decide : repositoryMark.all (!isBlank ·) = true)

theorem repositoryAhead?_mark (marked : List Char) :
    repositoryAhead? (repositoryMark ++ marked) =
      if (marked.takeWhile (!isBlank ·)).isEmpty then none
      else some (marked.takeWhile (!isBlank ·), marked.dropWhile (!isBlank ·)) := by
  have starts : repositoryMark.isPrefixOf (repositoryMark ++ marked) = true :=
    List.isPrefixOf_iff_prefix.mpr (List.prefix_append _ _)
  rw [repositoryAhead?, List.drop_left, starts]
  cases marked.takeWhile (!isBlank ·) <;> rfl

theorem exists_of_repositoryAhead? {cs name after : List Char}
    (ahead : repositoryAhead? cs = some (name, after)) :
    name ≠ [] ∧ ∃ more, cs.splitOnP isBlank = (repositoryMark ++ name) :: more ∧
      after.splitOnP isBlank = [] :: more := by
  have starts : repositoryMark.isPrefixOf cs = true := by
    rw [repositoryAhead?] at ahead
    cases starts : repositoryMark.isPrefixOf cs with
    | true => rfl
    | false =>
      rw [starts] at ahead
      cases ahead
  obtain ⟨marked, rfl⟩ := List.isPrefixOf_iff_prefix.mp starts
  rw [repositoryAhead?_mark] at ahead
  split at ahead
  · cases ahead
  · rename_i named
    obtain ⟨rfl, rfl⟩ := Prod.mk.inj (Option.some.inj ahead)
    obtain ⟨more, first, behind⟩ := exists_splitOnP (repositoryMark ++ marked)
    rw [List.takeWhile_append_of_pos mark_not_blank] at first
    rw [List.dropWhile_append_of_pos mark_not_blank] at behind
    exact ⟨fun empty => named (List.isEmpty_iff.mpr empty), more, first, behind⟩

theorem not_namesRepository_of_repositoryAhead? {cs first : List Char} {more : List (List Char)}
    (ahead : repositoryAhead? cs = none) (split : cs.splitOnP isBlank = first :: more) :
    ¬ NamesRepository first := by
  rintro ⟨name, named, rfl⟩
  obtain ⟨others, whole, -⟩ := exists_splitOnP cs
  rw [split] at whole
  have front := (List.cons.inj whole).1
  have marked : ∃ marked, cs = repositoryMark ++ marked := by
    refine ⟨name ++ cs.dropWhile (!isBlank ·), ?_⟩
    rw [← List.append_assoc, front, List.takeWhile_append_dropWhile]
  obtain ⟨marked, rfl⟩ := marked
  rw [List.takeWhile_append_of_pos mark_not_blank, List.append_cancel_left_eq] at front
  rw [repositoryAhead?_mark, ← front, if_neg (by simpa using named)] at ahead
  cases ahead

/-! ## The first name -/

/-- Of the pieces before the first name behind a blank, only the first one may be a name. -/
theorem exists_of_namingBehindBlank? {cs : List Char} {found : Naming}
    (finds : namingBehindBlank? cs = some found) :
    found.name ≠ [] ∧ ∃ first more behind, found.before.splitOnP isBlank = first :: more ∧
      cs.splitOnP isBlank = first :: more ++ (repositoryMark ++ found.name) :: behind ∧
      found.after.splitOnP isBlank = [] :: behind ∧ ∀ piece ∈ more, ¬ NamesRepository piece := by
  fun_induction namingBehindBlank? cs generalizing found with
  | case1 => cases finds
  | case2 c rest name after ahead =>
    cases finds
    cases blank : isBlank c with
    | false =>
      rw [blank] at ahead
      cases ahead
    | true =>
      rw [blank, if_pos rfl] at ahead
      obtain ⟨named, behind, split, later⟩ := exists_of_repositoryAhead? ahead
      refine ⟨named, [], [], behind, rfl, ?_, later, List.forall_mem_nil _⟩
      rw [List.splitOnP_cons_eq_if_modifyHead, if_pos blank, split]
      rfl
  | case3 c rest ahead ih =>
    obtain ⟨inner, found', rfl⟩ := Option.map_eq_some_iff.mp finds
    obtain ⟨named, first, more, behind, before, split, after, others⟩ := ih found'
    cases blank : isBlank c with
    | false =>
      refine ⟨named, c :: first, more, behind, ?_, ?_, after, others⟩
      · rw [List.splitOnP_cons_eq_if_modifyHead, blank, if_neg Bool.false_ne_true, before,
          List.modifyHead_cons]
      · rw [List.splitOnP_cons_eq_if_modifyHead, blank, if_neg Bool.false_ne_true, split]
        rfl
    | true =>
      rw [blank, if_pos rfl] at ahead
      have here : ¬ NamesRepository first := not_namesRepository_of_repositoryAhead? ahead split
      refine ⟨named, [], first :: more, behind, ?_, ?_, after, List.forall_mem_cons.mpr ⟨here, others⟩⟩
      · rw [List.splitOnP_cons_eq_if_modifyHead, if_pos blank, before]
      · rw [List.splitOnP_cons_eq_if_modifyHead, if_pos blank, split]
        rfl

theorem not_namesRepository_of_namingBehindBlank? {cs first : List Char} {more : List (List Char)}
    (finds : namingBehindBlank? cs = none) (split : cs.splitOnP isBlank = first :: more) :
    ∀ piece ∈ more, ¬ NamesRepository piece := by
  fun_induction namingBehindBlank? cs generalizing first more with
  | case1 =>
    cases split
    exact List.forall_mem_nil _
  | case2 c rest name after ahead => cases finds
  | case3 c rest ahead ih =>
    obtain ⟨next, others, behind⟩ := List.exists_cons_of_ne_nil (List.splitOnP_ne_nil isBlank rest)
    have later := ih (Option.map_eq_none_iff.mp finds) behind
    rw [List.splitOnP_cons_eq_if_modifyHead, behind] at split
    cases blank : isBlank c with
    | false =>
      rw [blank, if_neg Bool.false_ne_true] at split
      cases split
      exact later
    | true =>
      rw [blank, if_pos rfl] at ahead split
      cases split
      exact List.forall_mem_cons.mpr ⟨not_namesRepository_of_repositoryAhead? ahead behind, later⟩

theorem forall_mem_words {cs first : List Char} {more : List (List Char)} {P : List Char → Prop}
    (split : cs.splitOnP isBlank = first :: more) (here : P first) (others : ∀ piece ∈ more, P piece) :
    ∀ word ∈ words cs, P word := by
  intro word member
  rw [words, split] at member
  exact List.forall_mem_cons.mpr ⟨here, others⟩ word (List.mem_filter.mp member).1

/-- Where a query names a repository, its words are those before, the name and those behind. -/
theorem words_of_naming? {cs : List Char} {found : Naming} (finds : naming? cs = some found) :
    found.name ≠ [] ∧
      words cs = words found.before ++ (repositoryMark ++ found.name) :: words found.after ∧
      ∀ word ∈ words found.before, ¬ NamesRepository word := by
  rw [naming?] at finds
  split at finds
  · rename_i name after ahead
    cases finds
    obtain ⟨named, behind, split, later⟩ := exists_of_repositoryAhead? ahead
    refine ⟨named, ?_, List.forall_mem_nil _⟩
    simp only [words, split, later, List.splitOnP_nil]
    rfl
  · rename_i ahead
    obtain ⟨named, first, more, behind, before, split, after, others⟩ := exists_of_namingBehindBlank? finds
    refine ⟨named, ?_, ?_⟩
    · rw [words, split, words, before, words, after, List.filter_append]
      rfl
    · exact forall_mem_words before (not_namesRepository_of_repositoryAhead? ahead split) others

theorem not_namesRepository_of_naming? {cs : List Char} (finds : naming? cs = none) :
    ∀ word ∈ words cs, ¬ NamesRepository word := by
  rw [naming?] at finds
  split at finds
  · cases finds
  · rename_i ahead
    obtain ⟨first, more, split⟩ := List.exists_cons_of_ne_nil (List.splitOnP_ne_nil isBlank cs)
    exact forall_mem_words split (not_namesRepository_of_repositoryAhead? ahead split)
      (not_namesRepository_of_namingBehindBlank? finds split)

/-! ## Links -/

theorem searchTerm_eq (cs : List Char) : searchTerm cs = Percent.encode (joinWords (words cs)) := by
  rw [searchTerm, trimBlank_singleSpaced, joinWords]

/-- The first item of a kind is at one place only. -/
theorem first_unique {α : Type} {P : α → Prop} {before before' after after' : List α} {x x' : α}
    (same : before ++ x :: after = before' ++ x' :: after') (here : P x) (here' : P x')
    (none : ∀ y ∈ before, ¬ P y) (none' : ∀ y ∈ before', ¬ P y) :
    before = before' ∧ x = x' ∧ after = after' := by
  induction before generalizing before' with
  | nil =>
    cases before' with
    | nil =>
      obtain ⟨rfl, rfl⟩ := List.cons.inj same
      exact ⟨rfl, rfl, rfl⟩
    | cons y before' =>
      obtain ⟨rfl, -⟩ := List.cons.inj same
      exact absurd here (none' x List.mem_cons_self)
  | cons y before ih =>
    cases before' with
    | nil =>
      obtain ⟨rfl, -⟩ := List.cons.inj same
      exact absurd here' (none y List.mem_cons_self)
    | cons y' before' =>
      obtain ⟨rfl, rest⟩ := List.cons.inj same
      obtain ⟨rfl, found⟩ := ih rest (List.forall_mem_cons.mp none).2 (List.forall_mem_cons.mp none').2
      exact ⟨rfl, found⟩

/-- A query that names a repository links to the page of the repository. -/
theorem link_of_words {query : String} {before after : List (List Char)} {name : List Char}
    (split : words query.toList = before ++ (repositoryMark ++ name) :: after) (named : name ≠ [])
    (first : ∀ word ∈ before, ¬ NamesRepository word) (webUrl : String) :
    link query webUrl = webUrl ++ "/" ++ String.ofList name ++ "/issues?q="
      ++ Percent.encode (joinWords (before ++ after)) := by
  cases finds : naming? query.toList with
  | none =>
    have names : NamesRepository (repositoryMark ++ name) := ⟨name, named, rfl⟩
    exact absurd names (not_namesRepository_of_naming? finds _ (split ▸ by simp))
  | some found =>
    obtain ⟨foundNamed, whole, others⟩ := words_of_naming? finds
    rw [split] at whole
    obtain ⟨rfl, sameName, rfl⟩ := first_unique whole ⟨name, named, rfl⟩ ⟨_, foundNamed, rfl⟩ first others
    have space : isBlank ' ' = true := by decide
    rw [link, finds]
    simp only
    rw [searchTerm_eq, words_append_cons _ _ space, List.append_cancel_left sameName]

theorem link_of_no_repository {query : String}
    (none : ∀ word ∈ words query.toList, ¬ NamesRepository word) (webUrl : String) :
    link query webUrl = webUrl ++ "/search?q=" ++ Percent.encode (joinWords (words query.toList)) := by
  cases finds : naming? query.toList with
  | none => rw [link, finds, searchTerm_eq]
  | some found =>
    obtain ⟨named, whole, -⟩ := words_of_naming? finds
    have names : NamesRepository (repositoryMark ++ found.name) := ⟨found.name, named, rfl⟩
    exact absurd names (none _ (whole ▸ by simp))

/-- What becomes of a query is the same for all texts of the same words. -/
theorem link_congr {query other : String} (same : words query.toList = words other.toList)
    (webUrl : String) : link query webUrl = link other webUrl := by
  cases finds : naming? query.toList with
  | none =>
    have none := not_namesRepository_of_naming? finds
    rw [link_of_no_repository none, link_of_no_repository (same ▸ none), same]
  | some found =>
    obtain ⟨named, split, first⟩ := words_of_naming? finds
    rw [link_of_words split named first, link_of_words (same ▸ split) named first]

/-- **Links to searches depend on the words of a query.** The first word that names a repository chooses
the page of the repository, and all other words are searched for there; without such a word the whole
site is searched. So queries of the same words have the same link: blanks at the ends and longer gaps make
no difference. Neither does the place of the first name among words that name none. What is searched for
is read back from the link. -/
theorem link_wordwise (webUrl : String) :
    (∀ query before name after,
      words query.toList = before ++ (repositoryMark ++ name) :: after → name ≠ [] →
      (∀ word ∈ before, ¬ NamesRepository word) →
        link query webUrl = webUrl ++ "/" ++ String.ofList name ++ "/issues?q="
          ++ Percent.encode (joinWords (before ++ after))) ∧
    (∀ query, (∀ word ∈ words query.toList, ¬ NamesRepository word) →
      link query webUrl = webUrl ++ "/search?q=" ++ Percent.encode (joinWords (words query.toList))) ∧
    (∀ query other, words query.toList = words other.toList → link query webUrl = link other webUrl) ∧
    (∀ front query back, (∀ c ∈ front ++ back, isBlank c = true) →
      link (String.ofList (front ++ query ++ back)) webUrl = link (String.ofList query) webUrl) ∧
    (∀ left gap gap' right, gap ≠ [] → gap' ≠ [] → (∀ c ∈ gap ++ gap', isBlank c = true) →
      link (String.ofList (left ++ gap ++ right)) webUrl =
        link (String.ofList (left ++ gap' ++ right)) webUrl) ∧
    (∀ query moved before word between after, words query.toList = before ++ word :: (between ++ after) →
      words moved.toList = before ++ between ++ word :: after → NamesRepository word →
      (∀ other ∈ before ++ between, ¬ NamesRepository other) → link query webUrl = link moved webUrl) ∧
    ∀ found, Percent.decode (Percent.encode (joinWords found)) = some (joinWords found) := by
  refine ⟨fun _ _ _ _ split named first => link_of_words split named first webUrl,
    fun _ none => link_of_no_repository none webUrl, fun _ _ same => link_congr same webUrl, ?_, ?_, ?_,
    fun found => Percent.decode_encode _⟩
  · intro front query back blank
    obtain ⟨front', back'⟩ := List.forall_mem_append.mp blank
    apply link_congr
    rw [String.toList_ofList, String.toList_ofList, words_append_blank _ back', words_append_of_blank front']
  · intro left gap gap' right wide wide' blank
    obtain ⟨here, there⟩ := List.forall_mem_append.mp blank
    apply link_congr
    rw [String.toList_ofList, String.toList_ofList, words_append_gap left right wide here,
      words_append_gap left right wide' there]
  · rintro query moved before _ between after split split' ⟨name, named, rfl⟩ others
    have first := (List.forall_mem_append.mp others).1
    rw [link_of_words split named first, link_of_words split' named others, List.append_assoc]

/-- The second word names a repository; the one before it only holds the mark, and a later one stays. -/
theorem link_wordwise_secondWord :
    words "  xrepo:a\trepo:b/c  repo:d ".toList =
        ["xrepo:a".toList] ++ (repositoryMark ++ "b/c".toList) :: ["repo:d".toList] ∧
      "b/c".toList ≠ [] ∧ (∀ word ∈ ["xrepo:a".toList], ¬ NamesRepository word) ∧
      link "  xrepo:a\trepo:b/c  repo:d " defaultWebUrl = defaultWebUrl ++ "/" ++ String.ofList "b/c".toList
        ++ "/issues?q=" ++ Percent.encode (joinWords (["xrepo:a".toList] ++ ["repo:d".toList])) := by
  have split : words "  xrepo:a\trepo:b/c  repo:d ".toList =
      ["xrepo:a".toList] ++ (repositoryMark ++ "b/c".toList) :: ["repo:d".toList] := by decide +kernel
  have named : "b/c".toList ≠ [] := by decide
  have first : ∀ word ∈ ["xrepo:a".toList], ¬ NamesRepository word := by
    rw [List.forall_mem_singleton]
    rintro ⟨name, -, same⟩
    have head : some 'x' = some 'r' := congrArg List.head? same
    exact absurd head (by decide)
  exact ⟨split, named, first, (link_wordwise defaultWebUrl).1 _ _ _ _ split named first⟩

end IssueBoard.Query
