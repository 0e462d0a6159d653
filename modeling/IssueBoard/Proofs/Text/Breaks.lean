import Mathlib.Data.List.Basic
import IssueBoard.Text.Lines

/-! # One kind of line break

A text in which every break is written as a line feed.
-/

namespace IssueBoard.Text

theorem unifyBreaks_cons {c : Char} (other : c ≠ '\r') (cs : List Char) :
    unifyBreaks (c :: cs) = c :: unifyBreaks cs := by
  rw [unifyBreaks]
  · rintro _ rfl
    exact absurd rfl other
  · exact other

theorem unifyBreaks_return {cs : List Char} (single : cs.head? ≠ some '\n') :
    unifyBreaks ('\r' :: cs) = '\n' :: unifyBreaks cs := by
  rw [unifyBreaks]
  rintro _ rfl
  exact single rfl

theorem getLast?_ne_of_cons {c d : Char} {cs : List Char} (ends : (c :: cs).getLast? ≠ some d) :
    cs.getLast? ≠ some d := by
  cases cs with
  | nil => exact nofun
  | cons => exact ends

/-- Nothing comes of putting two texts together, unless the end of the first and the start of the second
are one break. -/
theorem unifyBreaks_append {cs : List Char} (ends : cs.getLast? ≠ some '\r') (rest : List Char) :
    unifyBreaks (cs ++ rest) = unifyBreaks cs ++ unifyBreaks rest := by
  induction cs using unifyBreaks.induct with
  | case1 => rfl
  | case2 cs ih =>
    have ends := getLast?_ne_of_cons (getLast?_ne_of_cons ends)
    rw [List.cons_append, List.cons_append, unifyBreaks, unifyBreaks, ih ends, List.cons_append]
  | case3 cs single ih =>
    cases cs with
    | nil => exact absurd rfl ends
    | cons c cs =>
      have single : c ≠ '\n' := fun same => single cs (same ▸ rfl)
      rw [List.cons_append, unifyBreaks_return (by simpa using single),
        unifyBreaks_return (by simpa using single), ih ends, List.cons_append]
  | case4 c cs _ other ih =>
    have ends := getLast?_ne_of_cons ends
    rw [List.cons_append, unifyBreaks_cons other, unifyBreaks_cons other, ih ends, List.cons_append]

theorem mem_unifyBreaks {cs : List Char} : '\n' ∈ unifyBreaks cs ↔ '\n' ∈ cs ∨ '\r' ∈ cs := by
  induction cs using unifyBreaks.induct with
  | case1 => simp [unifyBreaks]
  | case2 => simp [unifyBreaks]
  | case3 => simp [unifyBreaks]
  | case4 c cs _ other ih =>
    rw [unifyBreaks_cons other, List.mem_cons, ih, List.mem_cons, List.mem_cons, or_assoc,
      or_iff_right (Ne.symm other)]

theorem unifyBreaks_eq_self {cs : List Char} (plain : '\r' ∉ cs) : unifyBreaks cs = cs := by
  induction cs with
  | nil => rfl
  | cons c cs ih =>
    rw [List.mem_cons, not_or] at plain
    rw [unifyBreaks_cons (Ne.symm plain.1), ih plain.2]

end IssueBoard.Text
