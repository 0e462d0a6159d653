/-!
# Rests of lists

A reader takes something off the front of a list and gives back what is left. The types of the rests
record that a list never grows while it is read, or that it becomes shorter, so readers that call
each other come to an end.
-/

namespace IssueBoard

/-- What is left of a list when perhaps nothing has been taken off its front. -/
abbrev Rest {α : Type} (whole : List α) := { rest : List α // rest.length ≤ whole.length }

/-- What is left of a list when something has been taken off its front. -/
abbrev Shorter {α : Type} (whole : List α) := { rest : List α // rest.length < whole.length }

namespace Rest

variable {α : Type} {whole : List α}

/-- Nothing has been taken off. -/
def all (whole : List α) : Rest whole := ⟨whole, Nat.le_refl _⟩

/-- What is left of the rest is left of the whole. -/
def trans {part : List α} (rest : Rest part) (h : part.length ≤ whole.length) : Rest whole :=
  ⟨rest.1, Nat.le_trans rest.2 h⟩

/-- What is left behind the first item is left of the list. -/
def past (first : α) (rest : Rest whole) : Rest (first :: whole) :=
  ⟨rest.1, Nat.le_succ_of_le rest.2⟩

/-- What is left behind the first item of a list is shorter than the list. -/
def behind (first : α) (rest : Rest whole) : Shorter (first :: whole) :=
  ⟨rest.1, Nat.lt_succ_of_le rest.2⟩

/-- What is left behind the first items is left of the list. -/
def ofDrop {n : Nat} (rest : Rest (whole.drop n)) : Rest whole :=
  ⟨rest.1, Nat.le_trans rest.2 (List.length_drop ▸ Nat.sub_le ..)⟩

/-- What is left of a shorter list is shorter than the list. -/
def within {part : List α} (rest : Rest part) (h : part.length < whole.length) : Shorter whole :=
  ⟨rest.1, Nat.lt_of_le_of_lt rest.2 h⟩

end Rest

namespace Shorter

variable {α : Type} {whole : List α}

/-- A shorter list may be all that is left. -/
def toRest (rest : Shorter whole) : Rest whole := ⟨rest.1, Nat.le_of_lt rest.2⟩

/-- What is shorter than a shorter list is shorter than the list. -/
def within {part : List α} (rest : Shorter part) (h : part.length < whole.length) :
    Shorter whole :=
  ⟨rest.1, Nat.lt_trans rest.2 h⟩

end Shorter

/-- The first characters that satisfy a predicate, and the rest. -/
def takeRun (p : Char → Bool) (cs : List Char) : List Char × Rest cs :=
  (cs.takeWhile p, ⟨cs.dropWhile p, (List.dropWhile_suffix p).length_le⟩)

end IssueBoard
