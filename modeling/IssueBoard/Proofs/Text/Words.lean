import IssueBoard.Text.Blank
import Mathlib.Data.List.TakeWhile

/-! # Words

The words of a text are its maximal runs of characters that are not blank. Blanks at the ends and longer
runs of blanks make no difference to them, and a text with single spaces in place of its runs of blanks is
trimmed to its words, joined by spaces.
-/

namespace IssueBoard.Text

/-- The words of a text: the pieces between its blanks that are not empty. -/
def words (cs : List Char) : List (List Char) := (cs.splitOnP isBlank).filter (!·.isEmpty)

theorem words_nil : words [] = [] := rfl

/-- A blank ends a word. -/
theorem words_append_cons (left right : List Char) {c : Char} (blank : isBlank c = true) :
    words (left ++ c :: right) = words left ++ words right := by
  rw [words, List.splitOnP_append_cons left right blank, List.filter_append]
  rfl

theorem words_cons {c : Char} (blank : isBlank c = true) (cs : List Char) :
    words (c :: cs) = words cs := by
  have split := words_append_cons [] cs blank
  rwa [words_nil, List.nil_append, List.nil_append] at split

theorem words_append_of_blank {front : List Char} (blank : ∀ c ∈ front, isBlank c = true)
    (cs : List Char) : words (front ++ cs) = words cs := by
  induction front with
  | nil => rfl
  | cons c front ih =>
    obtain ⟨here, rest⟩ := List.forall_mem_cons.mp blank
    rw [List.cons_append, words_cons here, ih rest]

/-- A run of blanks counts as much as a single one. -/
theorem words_append_gap (left right : List Char) {gap : List Char} (wide : gap ≠ [])
    (blank : ∀ c ∈ gap, isBlank c = true) : words (left ++ gap ++ right) = words left ++ words right := by
  cases gap with
  | nil => exact absurd rfl wide
  | cons c gap =>
    obtain ⟨here, rest⟩ := List.forall_mem_cons.mp blank
    rw [List.append_assoc, List.cons_append, words_append_cons left _ here, words_append_of_blank rest]

theorem words_append_blank (cs : List Char) {back : List Char} (blank : ∀ c ∈ back, isBlank c = true) :
    words (cs ++ back) = words cs := by
  by_cases empty : back = []
  · rw [empty, List.append_nil]
  · have split := words_append_gap cs [] empty blank
    rwa [words_nil, List.append_nil, List.append_nil] at split

theorem words_dropBlank (cs : List Char) : words (dropBlank cs) = words cs := by
  have blank : ∀ c ∈ cs.takeWhile isBlank, isBlank c = true := fun c member => List.mem_takeWhile_imp member
  rw [dropBlank, ← words_append_of_blank blank, List.takeWhile_append_dropWhile]

/-- The first piece of a text reaches up to the first blank. -/
theorem exists_splitOnP (cs : List Char) : ∃ more,
    cs.splitOnP isBlank = cs.takeWhile (!isBlank ·) :: more ∧
      (cs.dropWhile (!isBlank ·)).splitOnP isBlank = [] :: more := by
  induction cs with
  | nil => exact ⟨[], rfl, rfl⟩
  | cons c cs ih =>
    rw [List.splitOnP_cons_eq_if_modifyHead]
    cases blank : isBlank c with
    | true =>
      refine ⟨cs.splitOnP isBlank, ?_, ?_⟩
      · rw [if_pos rfl, List.takeWhile_cons_of_neg (by simp [blank])]
      · rw [List.dropWhile_cons_of_neg (by simp [blank]), List.splitOnP_cons_eq_if_modifyHead, if_pos blank]
    | false =>
      obtain ⟨more, first, behind⟩ := ih
      refine ⟨more, ?_, ?_⟩
      · rw [if_neg Bool.false_ne_true, first, List.modifyHead_cons,
          List.takeWhile_cons_of_pos (by simp [blank])]
      · rw [List.dropWhile_cons_of_pos (by simp [blank])]
        exact behind

/-! ## Single spaces -/

theorem dropTrailing_cons (p : Char → Bool) (c : Char) (cs : List Char) :
    dropTrailing p (c :: cs) =
      if (dropTrailing p cs).isEmpty then (if p c then [] else [c]) else c :: dropTrailing p cs := by
  simp only [dropTrailing, List.reverse_cons, List.dropWhile_append, List.isEmpty_reverse]
  split
  · cases cs.reverse.dropWhile p <;> cases h : p c <;> simp_all
  · simp

theorem dropTrailing_cons_of_neg {p : Char → Bool} {c : Char} (kept : p c = false) (cs : List Char) :
    dropTrailing p (c :: cs) = c :: dropTrailing p cs := by
  rw [dropTrailing_cons, kept]
  cases dropTrailing p cs <;> rfl

theorem dropBlank_singleSpacedFrom (inGap : Bool) (cs : List Char) :
    dropBlank (singleSpacedFrom inGap cs) = singleSpacedFrom false (dropBlank cs) := by
  induction cs generalizing inGap with
  | nil => rfl
  | cons c cs ih =>
    cases blank : isBlank c with
    | true =>
      have space : isBlank ' ' = true := by decide
      have dropped : dropBlank (c :: cs) = dropBlank cs := List.dropWhile_cons_of_pos blank
      rw [singleSpacedFrom, if_pos blank, dropped]
      cases inGap with
      | true => exact ih true
      | false =>
        rw [if_neg Bool.false_ne_true, dropBlank, List.dropWhile_cons_of_pos space]
        exact ih true
    | false =>
      have stands : ¬ isBlank c = true := by rw [blank]; exact Bool.false_ne_true
      rw [singleSpacedFrom, if_neg stands, dropBlank, dropBlank, List.dropWhile_cons_of_neg stands,
        List.dropWhile_cons_of_neg stands, singleSpacedFrom, if_neg stands]

/-- What the pieces of a text come to, inside a word and behind the space of a gap. -/
theorem dropTrailing_singleSpacedFrom {cs first : List Char} {more : List (List Char)}
    (split : cs.splitOnP isBlank = first :: more) :
    dropTrailing isBlank (singleSpacedFrom false cs) =
        first ++ (more.filter (!·.isEmpty)).flatMap (' ' :: ·) ∧
      dropTrailing isBlank (' ' :: singleSpacedFrom true cs) =
        ((first :: more).filter (!·.isEmpty)).flatMap (' ' :: ·) := by
  induction cs generalizing first more with
  | nil =>
    rw [List.splitOnP_nil] at split
    cases split
    decide
  | cons c cs ih =>
    obtain ⟨next, others, rest⟩ := List.exists_cons_of_ne_nil (List.splitOnP_ne_nil isBlank cs)
    obtain ⟨inWord, inGap⟩ := ih rest
    rw [List.splitOnP_cons_eq_if_modifyHead, rest] at split
    cases blank : isBlank c with
    | true =>
      rw [if_pos blank] at split
      cases split
      constructor
      · rw [singleSpacedFrom, if_pos blank, if_neg Bool.false_ne_true, inGap]
        rfl
      · rw [singleSpacedFrom, if_pos blank, if_pos rfl, inGap]
        rfl
    | false =>
      have stands : ¬ isBlank c = true := by rw [blank]; exact Bool.false_ne_true
      rw [if_neg stands, List.modifyHead_cons] at split
      obtain ⟨rfl, rfl⟩ := List.cons.inj split
      have word : dropTrailing isBlank (c :: singleSpacedFrom false cs) =
          (c :: next) ++ (others.filter (!·.isEmpty)).flatMap (' ' :: ·) := by
        rw [dropTrailing_cons_of_neg blank, inWord, List.cons_append]
      constructor
      · rw [singleSpacedFrom, if_neg stands, word]
      · rw [singleSpacedFrom, if_neg stands, dropTrailing_cons, word]
        rfl

theorem intercalate_cons (separator : Char) (first : List Char) (more : List (List Char)) :
    [separator].intercalate (first :: more) = first ++ more.flatMap (separator :: ·) := by
  induction more generalizing first with
  | nil => simp
  | cons next more ih =>
    rw [List.intercalate_cons_cons, ih, List.flatMap_cons]
    simp

/-- **A text with single spaces is trimmed to its words, joined by spaces.** -/
theorem trimBlank_singleSpaced (cs : List Char) :
    trimBlank (singleSpaced cs) = [' '].intercalate (words cs) := by
  rw [trimBlank, singleSpaced, dropBlank_singleSpacedFrom, ← words_dropBlank]
  cases trimmed : dropBlank cs with
  | nil => rfl
  | cons c rest =>
    have stands : ¬ isBlank c = true := by
      have head := List.head?_dropWhile_not isBlank cs
      rw [dropBlank] at trimmed
      rw [trimmed, List.head?_cons] at head
      exact Bool.eq_false_iff.mp head
    obtain ⟨next, others, split⟩ := List.exists_cons_of_ne_nil (List.splitOnP_ne_nil isBlank rest)
    have whole : (c :: rest).splitOnP isBlank = (c :: next) :: others := by
      rw [List.splitOnP_cons_eq_if_modifyHead, if_neg stands, split, List.modifyHead_cons]
    rw [(dropTrailing_singleSpacedFrom whole).1, words, whole, List.filter_cons_of_pos rfl, intercalate_cons]

end IssueBoard.Text
