import IssueBoard.Text.Blank
import IssueBoard.Text.Digit
import Mathlib.Data.List.DropRight
import Mathlib.Data.List.TakeWhile

/-! # Blanks around a text

No blank is a digit. Taking characters off the start or the end of a text as long as they are of one class
stops in front of the first of another class, so a text is trimmed to the one part of it that has blanks
around it but neither begins nor ends with one.
-/

namespace IssueBoard.Text

variable {p : Char → Bool} {cs text rest core before after : List Char}

/-! ## Blanks and digits -/

/-- The first and the last code point of each range of blanks. -/
def blankRanges : List (Nat × Nat) :=
  [(0x9, 0xD), (0x1C, 0x20), (0x85, 0x85), (0xA0, 0xA0), (0x1680, 0x1680), (0x2000, 0x200A),
   (0x2028, 0x2028), (0x2029, 0x2029), (0x202F, 0x202F), (0x205F, 0x205F), (0x3000, 0x3000)]

theorem exists_blankRange {c : Char} (blank : isBlank c = true) :
    ∃ range ∈ blankRanges, range.1 ≤ c.toNat ∧ c.toNat ≤ range.2 := by
  simp only [isBlank, Bool.or_eq_true, Bool.and_eq_true, decide_eq_true_eq, beq_iff_eq] at blank
  simp only [blankRanges, List.mem_cons, List.not_mem_nil, or_false, exists_eq_or_imp, exists_eq_left]
  omega

/-- No range of blanks meets the ten digits of a script. -/
theorem digitZeros_apart : ∀ start ∈ digitZeros, ∀ range ∈ blankRanges,
    range.2 < start ∨ start + 10 ≤ range.1 := by
  decide +kernel

theorem isDigit_of_isBlank {c : Char} (blank : isBlank c = true) : isDigit c = false := by
  rw [Bool.eq_false_iff]
  intro digit
  rw [isDigit, digit?, Option.isSome_map, List.find?_isSome] at digit
  obtain ⟨start, known, within⟩ := digit
  obtain ⟨range, listed, lower, upper⟩ := exists_blankRange blank
  have apart := digitZeros_apart start known range listed
  simp only [Bool.and_eq_true, decide_eq_true_eq] at within
  omega

theorem isBlank_of_isDigit {c : Char} (digit : isDigit c = true) : isBlank c = false := by
  rw [Bool.eq_false_iff]
  intro blank
  rw [isDigit_of_isBlank blank] at digit
  cases digit

/-! ## Characters of one class -/

theorem takeWhile_append (all : ∀ c ∈ text, p c = true) (stop : ∀ c ∈ rest.head?, p c = false) :
    (text ++ rest).takeWhile p = text := by
  rw [List.takeWhile_append_of_pos all]
  cases rest with
  | nil => exact List.append_nil text
  | cons c rest =>
    have other := stop c rfl
    rw [List.takeWhile_cons, if_neg (by rw [other]; exact Bool.false_ne_true), List.append_nil]

theorem dropWhile_append (all : ∀ c ∈ text, p c = true) (stop : ∀ c ∈ rest.head?, p c = false) :
    (text ++ rest).dropWhile p = rest := by
  rw [List.dropWhile_append_of_pos all]
  cases rest with
  | nil => rfl
  | cons c rest => rw [List.dropWhile_cons, if_neg (by rw [stop c rfl]; exact Bool.false_ne_true)]

theorem head?_dropWhile (p : Char → Bool) (cs : List Char) : ∀ c ∈ (cs.dropWhile p).head?, p c = false := by
  intro c first
  have stop := List.head?_dropWhile_not p cs
  rw [Option.mem_def.mp first] at stop
  exact stop

theorem dropTrailing_append (all : ∀ c ∈ after, p c = true) (stop : ∀ c ∈ cs.getLast?, p c = false) :
    dropTrailing p (cs ++ after) = cs := by
  have all' : ∀ c ∈ after.reverse, p c = true := fun c member => all c (List.mem_reverse.mp member)
  rw [← List.head?_reverse] at stop
  rw [dropTrailing, List.reverse_append, dropWhile_append all' stop, List.reverse_reverse]

/-- What is taken off the end of a text. -/
theorem exists_dropTrailing (p : Char → Bool) (cs : List Char) :
    ∃ after, (∀ c ∈ after, p c = true) ∧ cs = dropTrailing p cs ++ after :=
  ⟨cs.rtakeWhile p, fun _ member => List.mem_rtakeWhile_imp member,
    List.rdropWhile_append_rtakeWhile.symm⟩

theorem getLast?_dropTrailing (p : Char → Bool) (cs : List Char) :
    ∀ c ∈ (dropTrailing p cs).getLast?, p c = false := by
  intro c last
  rw [dropTrailing, List.getLast?_reverse] at last
  exact head?_dropWhile p cs.reverse c last

/-! ## Trimming -/

/-- Whether a text neither begins nor ends with a blank. -/
structure IsTrimmed (cs : List Char) : Prop where
  first : ∀ c ∈ cs.head?, isBlank c = false
  last : ∀ c ∈ cs.getLast?, isBlank c = false

/-- Whether a text is another one with blanks before and behind it, and that one has none at its ends. -/
structure TrimsTo (text core : List Char) : Prop where
  trimmed : IsTrimmed core
  split : ∃ before after, (∀ c ∈ before, isBlank c = true) ∧ (∀ c ∈ after, isBlank c = true) ∧
    text = before ++ core ++ after

theorem head?_dropBlank_append (front : List Char) (stop : ∀ c ∈ rest.head?, isBlank c = false) :
    ∀ c ∈ (dropBlank front ++ rest).head?, isBlank c = false := by
  intro c first
  have visible := head?_dropWhile isBlank front
  rw [← dropBlank] at visible
  cases core : dropBlank front with
  | nil =>
    rw [core] at first
    exact stop c first
  | cons d core' =>
    rw [core] at first visible
    exact visible c first

theorem trimsTo_trimBlank (text : List Char) : TrimsTo text (trimBlank text) := by
  obtain ⟨after, blank, split⟩ := exists_dropTrailing isBlank (dropBlank text)
  refine ⟨⟨?_, getLast?_dropTrailing isBlank _⟩, text.takeWhile isBlank, after, ?_, blank, ?_⟩
  · intro c first
    refine head?_dropWhile isBlank text c ?_
    rw [← dropBlank, split, List.head?_append, ← trimBlank, Option.mem_def.mp first]
    rfl
  · exact fun c member => List.mem_takeWhile_imp member
  · rw [List.append_assoc, trimBlank, ← split, dropBlank, List.takeWhile_append_dropWhile]

/-- A text is trimmed to nothing else. -/
theorem TrimsTo.trimBlank_eq (trims : TrimsTo text core) : trimBlank text = core := by
  obtain ⟨⟨first, last⟩, before, after, blank, blank', rfl⟩ := trims
  cases core with
  | nil =>
    have all : ∀ c ∈ before ++ [] ++ after, isBlank c = true := by
      rw [List.append_nil]
      exact List.forall_mem_append.mpr ⟨blank, blank'⟩
    rw [trimBlank, dropBlank, List.dropWhile_eq_nil_iff.mpr all]
    rfl
  | cons c core =>
    have stop : ∀ d ∈ (c :: core ++ after).head?, isBlank d = false := fun d same => first d same
    rw [List.append_assoc, trimBlank, dropBlank, dropWhile_append blank stop]
    exact dropTrailing_append blank' last

end IssueBoard.Text
