import IssueBoard.Proofs.Reader
import IssueBoard.Script.Source
import Mathlib.Logic.Basic

/-! # Columns of lines

The column at which a line of code starts depends on the blanks in front of it only. Spaces put in front of
all lines keep how columns compare, unless there are tabs that do not start at a multiple of eight.
-/

namespace IssueBoard.Script

/-! ## Blanks at the start of a line -/

/-- The column behind blanks at the start of a line. -/
def columnFrom (column : Column) (held : Nat) : List Char → Column
  | ' ' :: rest => columnFrom ⟨column.wide + 1, column.narrow + 1⟩ held rest
  | '\t' :: rest => columnFrom ⟨(column.wide / 8 + 1) * 8, column.narrow + 1⟩ held rest
  | '\x0c' :: rest => columnFrom ⟨0, 0⟩ held rest
  | '\\' :: '\n' :: rest => columnFrom column (if held = 0 then column.wide else held) rest
  | _ => if held = 0 then column else ⟨held, held⟩

/-- The column of a line that starts with the given blanks. -/
def columnOf (blanks : List Char) : Column := columnFrom ⟨0, 0⟩ 0 blanks

section

variable {column : Column} {held : Nat}

theorem indentation_nil : reads (indentation column held) [] = some (columnFrom column held [], []) := rfl

theorem indentation_space (rest : List Char) : reads (indentation column held) (' ' :: rest) =
    reads (indentation ⟨column.wide + 1, column.narrow + 1⟩ held) rest := by
  rw [reads, indentation]
  simp only [reads, bare, Option.map_map]
  rfl

theorem indentation_tab (rest : List Char) : reads (indentation column held) ('\t' :: rest) =
    reads (indentation ⟨(column.wide / 8 + 1) * 8, column.narrow + 1⟩ held) rest := by
  rw [reads, indentation]
  simp only [reads, bare, Option.map_map]
  rfl

theorem indentation_page (rest : List Char) :
    reads (indentation column held) ('\x0c' :: rest) = reads (indentation ⟨0, 0⟩ held) rest := by
  rw [reads, indentation]
  simp only [reads, bare, Option.map_map]
  rfl

theorem indentation_joined (rest : List Char) : reads (indentation column held) ('\\' :: '\n' :: rest) =
    if rest.isEmpty then none
    else reads (indentation column (if held = 0 then column.wide else held)) rest := by
  rw [reads, indentation]
  split
  · rfl
  · simp only [reads, bare, Option.map_map]
    rfl

theorem indentation_other {c : Char} {rest : List Char} (space : c ≠ ' ') (tab : c ≠ '\t') (page : c ≠ '\x0c')
    (joined : c ≠ '\\' ∨ rest.head? ≠ some '\n') :
    reads (indentation column held) (c :: rest) = some (columnFrom column held [], c :: rest) := by
  rw [reads, indentation]
  · rfl
  · exact fun _ same => space (List.cons.inj same).1
  · exact fun _ same => tab (List.cons.inj same).1
  · exact fun _ same => page (List.cons.inj same).1
  · rintro _ same
    cases same
    rcases joined with never | never
    · exact never rfl
    · exact never rfl

/-- A line starts with blanks, which say its column, and goes on with something else. -/
theorem indentation_eq_some (cs : List Char) (column : Column) (held : Nat) {found : Column}
    {rest : List Char} :
    reads (indentation column held) cs = some (found, rest) →
      ∃ blanks, cs = blanks ++ rest ∧ found = columnFrom column held blanks ∧ ∀ c more, rest = c :: more →
        c ≠ ' ' ∧ c ≠ '\t' ∧ c ≠ '\x0c' ∧ (c ≠ '\\' ∨ more.head? ≠ some '\n') := by
  rcases cs with _ | ⟨d, cs⟩
  · intro read
    cases read
    exact ⟨[], rfl, rfl, nofun⟩
  intro read
  by_cases space : d = ' '
  · subst space
    rw [indentation_space] at read
    obtain ⟨blanks, rfl, rfl, stop⟩ := indentation_eq_some cs _ _ read
    exact ⟨' ' :: blanks, rfl, rfl, stop⟩
  by_cases tab : d = '\t'
  · subst tab
    rw [indentation_tab] at read
    obtain ⟨blanks, rfl, rfl, stop⟩ := indentation_eq_some cs _ _ read
    exact ⟨'\t' :: blanks, rfl, rfl, stop⟩
  by_cases page : d = '\x0c'
  · subst page
    rw [indentation_page] at read
    obtain ⟨blanks, rfl, rfl, stop⟩ := indentation_eq_some cs _ _ read
    exact ⟨'\x0c' :: blanks, rfl, rfl, stop⟩
  by_cases joined : d = '\\' ∧ cs.head? = some '\n'
  · obtain ⟨rfl, feed⟩ := joined
    obtain ⟨cs, rfl⟩ := List.head?_eq_some_iff.mp feed
    rw [indentation_joined] at read
    split at read
    · cases read
    · obtain ⟨blanks, rfl, rfl, stop⟩ := indentation_eq_some cs _ _ read
      exact ⟨'\\' :: '\n' :: blanks, rfl, rfl, stop⟩
  have alone : d ≠ '\\' ∨ cs.head? ≠ some '\n' := by rwa [not_and_or] at joined
  rw [indentation_other space tab page alone] at read
  cases read
  refine ⟨[], rfl, rfl, fun c more same => ?_⟩
  cases same
  exact ⟨space, tab, page, alone⟩
termination_by cs.length

end

theorem columnFrom_spaces (k : Nat) (column : Column) (held : Nat) (blanks : List Char) :
    columnFrom column held (List.replicate k ' ' ++ blanks) =
      columnFrom ⟨column.wide + k, column.narrow + k⟩ held blanks := by
  induction k generalizing column with
  | zero => rfl
  | succ k ih =>
    rw [List.replicate_succ, List.cons_append, columnFrom, ih, Nat.add_comm k 1, ← Nat.add_assoc,
      ← Nat.add_assoc]

/-- Spaces in front of spaces move the column by their number, and so do spaces in front of tabs if no tab
ends elsewhere because of them. -/
theorem columnFrom_add {k : Nat} {blanks : List Char} (plain : ∀ c ∈ blanks, c = ' ' ∨ c = '\t' ∧ 8 ∣ k)
    (column : Column) : columnFrom ⟨column.wide + k, column.narrow + k⟩ 0 blanks =
      ⟨(columnFrom column 0 blanks).wide + k, (columnFrom column 0 blanks).narrow + k⟩ := by
  induction blanks generalizing column with
  | nil => rfl
  | cons c blanks ih =>
    obtain ⟨here, others⟩ := List.forall_mem_cons.mp plain
    rcases here with rfl | ⟨rfl, stops⟩
    · rw [columnFrom, columnFrom, ← ih others, Nat.add_right_comm, Nat.add_right_comm column.narrow]
    · have stop : ((column.wide + k) / 8 + 1) * 8 = (column.wide / 8 + 1) * 8 + k := by omega
      rw [columnFrom, columnFrom, ← ih others, stop, Nat.add_right_comm column.narrow]

/-! ## Columns that compare alike -/

/-- Whether columns compare like those that they are paired with, in both ways of counting. -/
def KeepsOrder (pairs : List (Column × Column)) : Prop :=
  ∀ p ∈ pairs, ∀ q ∈ pairs,
    (p.1.wide < q.1.wide ↔ p.2.wide < q.2.wide) ∧ (p.1.narrow < q.1.narrow ↔ p.2.narrow < q.2.narrow)

instance (pairs : List (Column × Column)) : Decidable (KeepsOrder pairs) :=
  inferInstanceAs (Decidable (∀ p ∈ pairs, ∀ q ∈ pairs, _ ∧ _))

theorem KeepsOrder.eq_iff {pairs : List (Column × Column)} (keeps : KeepsOrder pairs) {p q : Column × Column}
    (hp : p ∈ pairs) (hq : q ∈ pairs) : p.1 = q.1 ↔ p.2 = q.2 := by
  have less := keeps p hp q hq
  have more := keeps q hq p hp
  obtain ⟨⟨wide, narrow⟩, ⟨wide', narrow'⟩⟩ := p
  obtain ⟨⟨wide₁, narrow₁⟩, ⟨wide₁', narrow₁'⟩⟩ := q
  simp only [Column.mk.injEq] at less more ⊢
  omega

end IssueBoard.Script
