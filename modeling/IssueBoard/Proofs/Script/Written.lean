import IssueBoard.Proofs.Script.Indentation
import Mathlib.Data.List.TakeWhile

/-! # The statements that a script has

The lines of code of a source fall into groups, and each group is read as a statement. A script that is read as
a block loses the lines from the first one on that stands at the margin, and no script loses others.
-/

namespace IssueBoard.Script

open Text (unifyBreaks)

/-! ## Lines -/

/-- Whether an entry is the start of a line of code. -/
def Entry.isLine : Entry → Bool
  | .line _ => true
  | .token .. => false

/-- Whether some entries are none, or start with a line. -/
def StartsLine (entries : List Entry) : Prop := ∀ entry, entries.head? = some entry → entry.isLine = true

theorem startsLine_nil : StartsLine [] := by
  rintro _ ⟨⟩

/-- Whether lines start behind the ends of lines. -/
def WholeLines (entries : List Entry) : Prop :=
  ∀ spelling behind, (.token .newline spelling :: behind) <:+ entries → StartsLine behind

theorem WholeLines.of_suffix {entries rest : List Entry} (whole : WholeLines entries)
    (within : rest <:+ entries) : WholeLines rest :=
  fun spelling behind inner => whole spelling behind (inner.trans within)

theorem WholeLines.cons {entry : Entry} {entries : List Entry} (whole : WholeLines entries)
    (here : ∀ spelling, entry = .token .newline spelling → StartsLine entries) :
    WholeLines (entry :: entries) := by
  intro spelling behind within
  rcases List.suffix_cons_iff.mp within with same | inner
  · cases same
    exact here spelling rfl
  · exact whole spelling behind inner

theorem startsLine_entriesFrom {brackets : List Mark} {cs : List Char} {entries : List Entry}
    (found : entriesFrom true brackets cs = some entries) : StartsLine entries := by
  intro entry first
  have code : entries ≠ [] := by
    rintro rfl
    cases first
  obtain ⟨blanks, t, spelling, others, rfl⟩ := entriesFrom_lineStart found code
  cases first
  rfl

theorem wholeLines_entriesFrom {lineStart : Bool} {brackets : List Mark} {cs : List Char}
    {entries : List Entry} (found : entriesFrom lineStart brackets cs = some entries) :
    WholeLines entries := by
  have empty : WholeLines [] := fun spelling behind within => by
    cases List.suffix_nil.mp within
  fun_induction entriesFrom lineStart brackets cs generalizing entries
  case case1 | case7 | case11 => cases found
  case case2 | case6 => cases found; exact empty
  case case3 ih | case4 ih | case9 ih | case10 ih | case12 ih | case13 ih => exact ih found
  case case5 ih =>
    obtain ⟨others, own, rfl⟩ := Option.map_eq_some_iff.mp found
    refine (ih own).cons ?_
    rintro _ ⟨⟩
  case case8 ih =>
    obtain ⟨others, own, rfl⟩ := Option.map_eq_some_iff.mp found
    exact (ih own).cons fun _ _ => startsLine_entriesFrom own
  case case14 ih =>
    obtain ⟨⟨t, after, shorter⟩, first, found⟩ := Option.bind_eq_some_iff.mp found
    obtain ⟨brackets, -, found⟩ := Option.bind_eq_some_iff.mp found
    obtain ⟨others, own, same⟩ := Option.bind_eq_some_iff.mp found
    cases same
    have plain : t.isLayout = false := token_plain (by rw [reads, first]; rfl)
    refine (ih after shorter brackets own).cons ?_
    rintro _ ⟨⟩
    cases plain

/-- Lines but the first start behind the end of a line. -/
theorem entriesFrom_before {lineStart : Bool} {brackets : List Mark} {cs : List Char} {entries : List Entry}
    (found : entriesFrom lineStart brackets cs = some entries) (before : List Entry) {behind : List Entry}
    {blanks : List Char} (line : entries = before ++ .line blanks :: behind) :
    lineStart = true ∧ before = [] ∨ EndsInNewline before := by
  fun_induction entriesFrom lineStart brackets cs generalizing entries before
  case case1 | case7 | case11 => cases found
  case case2 | case6 => cases found; simp at line
  case case3 ih | case4 ih => exact ih found before line
  case case9 ih | case10 ih | case12 ih | case13 ih =>
    exact (ih found before line).imp_left fun never => absurd never.1 Bool.false_ne_true
  case case5 ih =>
    obtain ⟨others, own, rfl⟩ := Option.map_eq_some_iff.mp found
    rcases before with _ | ⟨entry, before⟩
    · exact .inl ⟨rfl, rfl⟩
    · cases line
      exact .inr (((ih own _ rfl).resolve_left fun never => absurd never.1 Bool.false_ne_true).cons _)
  case case8 ih =>
    obtain ⟨others, own, rfl⟩ := Option.map_eq_some_iff.mp found
    rcases before with _ | ⟨entry, before⟩
    · cases line
    · cases line
      obtain ⟨-, rfl⟩ | ends := ih own _ rfl
      · exact .inr ⟨_, rfl⟩
      · exact .inr (ends.cons _)
  case case14 ih =>
    obtain ⟨⟨t, after, shorter⟩, first, found⟩ := Option.bind_eq_some_iff.mp found
    obtain ⟨brackets, -, found⟩ := Option.bind_eq_some_iff.mp found
    obtain ⟨others, own, same⟩ := Option.bind_eq_some_iff.mp found
    cases same
    rcases before with _ | ⟨entry, before⟩
    · cases line
    · cases line
      have ends := (ih after shorter brackets own _ rfl).resolve_left fun never =>
        absurd never.1 Bool.false_ne_true
      exact .inr (ends.cons _)

/-! ## Groups of lines -/

theorem closes_unique {n m : Nat} {ts : List Token} (closed : Closes n ts) (closed' : Closes m ts) : n = m := by
  induction ts generalizing n m with
  | nil =>
    cases closed
    cases closed'
    rfl
  | cons t ts ih =>
    cases t with
    | indent =>
      simp only [Closes] at closed closed'
      exact Nat.succ.inj (ih closed closed')
    | dedent =>
      cases n with
      | zero => cases closed
      | succ n =>
        cases m with
        | zero => cases closed'
        | succ m => exact congrArg (· + 1) (ih closed closed')
    | _ => simp only [Closes] at closed closed'; exact ih closed closed'

/-- A line opens a block, or leaves some. -/
theorem changeIndentation_eq_some {column : Column} {columns left : List Column} {changes : List Token}
    (found : changeIndentation column columns = some (changes, left)) :
    (∃ top, columns.head? = some top ∧ top.wide < column.wide) ∧ changes = [.indent] ∧
        left = column :: columns ∨
      ∃ n, changes = List.replicate n .dedent ∧ leaveBlocks column columns = some (n, left) := by
  cases columns with
  | nil => cases found
  | cons top outer =>
    by_cases deeper : top.wide < column.wide
    · rw [changeIndentation_deeper outer deeper] at found
      split at found
      · cases found
      · cases found
        exact .inl ⟨⟨top, rfl, deeper⟩, rfl, rfl⟩
    · rw [changeIndentation_of_le outer deeper] at found
      obtain ⟨⟨n, inner⟩, own, same⟩ := Option.map_eq_some_iff.mp found
      cases same
      exact .inr ⟨n, rfl, own⟩

/-- The outermost block stays open. -/
theorem changeIndentation_getLast {column base : Column} {columns left : List Column} {changes : List Token}
    (change : changeIndentation column columns = some (changes, left)) (outermost : columns.getLast? = some base) :
    left.getLast? = some base := by
  rcases changeIndentation_eq_some change with ⟨-, -, rfl⟩ | ⟨n, -, leave⟩
  · rw [List.getLast?_cons, outermost]
    rfl
  · obtain ⟨inner, rfl⟩ := leaveBlocks_suffix leave
    rwa [List.getLast?_append_of_ne_nil inner (leaveBlocks_length leave).2] at outermost

theorem eq_singleton_of_closes {columns : List Column} {base : Column} {entries : List Entry}
    {ts : List Token} (outermost : columns.getLast? = some base) (plain : ∀ entry ∈ entries, entry.IsPlain)
    (laid : layOut columns entries = some ts) (closed : Closes 0 ts) : columns = [base] := by
  rcases columns with _ | ⟨column, _ | ⟨outer, columns⟩⟩
  · cases outermost
  · cases outermost
    rfl
  · have size := closes_unique (layOut_closes (List.cons_ne_nil _ _) plain laid) closed
    cases size

/-- Where the tokens that a line starts with close all blocks that are open, the line can start anew. -/
theorem layOut_cut_line {columns left : List Column} {base : Column} {blanks : List Char}
    (outermost : columns.getLast? = some base) {changes : List Token}
    (change : changeIndentation (columnOf blanks) columns = some (changes, left)) {entries : List Entry}
    (plain : ∀ entry ∈ entries, entry.IsPlain) {more : List Token} (laid : layOut left entries = some more)
    {t : Token} (last : changes.getLast? = some t) (isEnd : t.isEnd = true) (closed : Closes 0 more) :
    layOut columns [] = some changes ∧ layOut [base] (.line blanks :: entries) = some more := by
  have single : left = [base] :=
    eq_singleton_of_closes (changeIndentation_getLast change outermost) plain laid closed
  subst single
  rcases changeIndentation_eq_some change with ⟨-, rfl, -⟩ | ⟨n, rfl, leave⟩
  · cases last
    cases isEnd
  · have size := (leaveBlocks_length leave).1
    obtain ⟨-, first⟩ := leaveBlocks_eq_some leave
    have here : changeIndentation (columnOf blanks) [base] = some ([], [base]) := by
      rw [← Option.some.inj first, changeIndentation_of_le [] (Nat.lt_irrefl _), leaveBlocks,
        if_neg (Nat.lt_irrefl _), if_pos rfl]
      rfl
    constructor
    · rw [layOut, size, List.length_singleton, Nat.add_sub_cancel]
    · rw [layOut_line, here, Option.bind_some]
      simpa using laid

/-- Where no block is open, no end of a block is left over. -/
theorem eq_nil_of_replicate {count : Nat} {used rest behind : List Token}
    (all : List.replicate count .dedent = used ++ rest) (closed : Closes 0 (rest ++ behind)) : rest = [] := by
  rcases rest with _ | ⟨u, rest⟩
  · rfl
  · have mem : u ∈ used ++ u :: rest := List.mem_append_right used List.mem_cons_self
    rw [← all] at mem
    cases List.eq_of_mem_replicate mem
    cases closed

/-- Where lines are laid out, what is left behind the end of a line or of a block with no block open starts
with a line. -/
theorem layOut_cut {columns : List Column} {base : Column} (outermost : columns.getLast? = some base)
    {entries : List Entry} (whole : WholeLines entries) (plain : ∀ entry ∈ entries, entry.IsPlain)
    {used rest : List Token} (found : layOut columns entries = some (used ++ rest))
    {t : Token} (last : used.getLast? = some t) (isEnd : t.isEnd = true) (closed : Closes 0 rest) :
    ∃ first others, entries = first ++ others ∧ StartsLine others ∧ layOut columns first = some used ∧
      layOut [base] others = some rest := by
  induction entries generalizing columns used with
  | nil =>
    have all : List.replicate (columns.length - 1) .dedent = used ++ rest := Option.some.inj found
    obtain rfl := eq_nil_of_replicate all (by rwa [List.append_nil])
    rw [List.append_nil] at all
    exact ⟨[], [], rfl, startsLine_nil, by rw [layOut, all], rfl⟩
  | cons entry entries ih =>
    obtain ⟨here, plains⟩ := List.forall_mem_cons.mp plain
    have wholes := whole.of_suffix (List.suffix_cons entry entries)
    cases entry with
    | token u spelling =>
      obtain ⟨more, own, same⟩ := Option.map_eq_some_iff.mp found
      rcases used with _ | ⟨v, used⟩
      · cases last
      cases same
      by_cases only : used = []
      · subst only
        obtain rfl : u = t := Option.some.inj last
        have newline : u = .newline := by
          cases u with
          | newline => rfl
          | dedent => exact absurd rfl here.2
          | _ => cases isEnd
        subst newline
        have single := eq_singleton_of_closes outermost plains own closed
        subst single
        exact ⟨[.token .newline spelling], entries, rfl, whole spelling entries List.suffix_rfl, rfl, own⟩
      · rw [List.getLast?_cons_of_ne_nil only] at last
        obtain ⟨first, others, rfl, start, laid, left⟩ := ih outermost wholes plains own last
        exact ⟨.token u spelling :: first, others, rfl, start, by rw [layOut, laid]; rfl, left⟩
    | line blanks =>
      rw [layOut_line] at found
      obtain ⟨⟨changes, left⟩, change, found⟩ := Option.bind_eq_some_iff.mp found
      obtain ⟨more, own, same⟩ := Option.map_eq_some_iff.mp found
      have cut (all : used = changes) (rest' : rest = more) :
          ∃ first others, .line blanks :: entries = first ++ others ∧ StartsLine others ∧
            layOut columns first = some used ∧ layOut [base] others = some rest := by
        subst all rest'
        obtain ⟨laid, anew⟩ := layOut_cut_line outermost change plains own last isEnd closed
        refine ⟨[], .line blanks :: entries, rfl, ?_, laid, anew⟩
        rintro _ ⟨⟩
        rfl
      rcases List.append_eq_append_iff.mp same with ⟨behind, rfl, rfl⟩ | ⟨others, rfl, rfl⟩
      · by_cases none : behind = []
        · subst none
          exact cut (List.append_nil _) rfl
        · rw [List.getLast?_append_of_ne_nil changes none] at last
          obtain ⟨first, others, rfl, start, laid, anew⟩ :=
            ih (changeIndentation_getLast change outermost) wholes plains own last
          refine ⟨.line blanks :: first, others, rfl, start, ?_, anew⟩
          rw [layOut_line, change, Option.bind_some]
          dsimp only
          rw [laid]
          rfl
      · rcases others with _ | ⟨u, others⟩
        · exact cut (List.append_nil _).symm rfl
        -- No other token of the line is left over, because it would close a block that is not open.
        · exfalso
          rcases changeIndentation_eq_some change with ⟨-, single, -⟩ | ⟨n, all, -⟩
          · have only := congrArg List.length single
            rcases used with _ | ⟨v, used⟩
            · cases last
            · simp at only
          · cases eq_nil_of_replicate all.symm closed

/-! ## Statements -/

/-- No statement starts with a token that goes on with another one. -/
theorem statement_stray {t : Token} (stray : t = .word .elifWord ∨ t = .word .elseWord ∨ t = .indent)
    (rest : List Token) : reads statement (t :: rest) = none := by
  have skip (token : Token) (other : token ∉ [.word .elifWord, .word .elseWord, .indent]) :
      expect token (t :: rest) = none := by
    refine expect_of_head?_ne fun same => other ?_
    cases same
    simpa using stray
  have atom : reads atom (t :: rest) = none := by
    have leaf : leaf? (t :: rest) = none := by rcases stray with rfl | rfl | rfl <;> rfl
    rw [reads_atom, attempt_none leaf]
    dsimp only
    rw [taken_none (skip _ (by decide)), if_neg Bool.false_ne_true, taken_none (skip _ (by decide)),
      if_neg Bool.false_ne_true, must_none (skip _ (by decide))]
  have operand : reads operand (t :: rest) = none := by
    rw [reads_operand, taken_none (skip _ (by decide)), if_neg Bool.false_ne_true, reads_primary,
      bind_of_none atom]
  have factor : reads factor (t :: rest) = none := by
    have sign : operator? sign? (t :: rest) = none := by rcases stray with rfl | rfl | rfl <;> rfl
    rw [reads_factor, attempt_none sign]
    exact bind_of_none operand
  have sum : reads sum (t :: rest) = none := by
    rw [reads_sum, bind_of_none (by rw [reads_product, bind_of_none factor])]
  have inversion : reads inversion (t :: rest) = none := by
    rw [reads_inversion, taken_none (skip _ (by decide)), if_neg Bool.false_ne_true, bind_of_none sum]
  have disjunction : reads disjunction (t :: rest) = none := by
    rw [reads_disjunction, bind_of_none (by rw [reads_conjunction, bind_of_none inversion])]
  have expression : reads expression (t :: rest) = none := by
    rw [reads_expression, bind_of_none disjunction]
  have simple : reads simpleStatement (t :: rest) = none := by
    rw [reads_simpleStatement]
    iterate 5 rw [taken_none (skip _ (by decide)), if_neg Bool.false_ne_true]
    rw [reads_expressionStatement, bind_of_none expression]
  rw [reads_statement]
  iterate 3 rw [taken_none (skip _ (by decide)), if_neg Bool.false_ne_true]
  rw [reads_line, bind_of_none simple]

/-- What starts with a statement goes on with no other one. -/
theorem isFresh_of_statement {ts rest : List Token} {stmts : List Stmt}
    (found : reads statement ts = some (stmts, rest)) : IsFresh ts := by
  have other {t : Token} (stray : t = .word .elifWord ∨ t = .word .elseWord ∨ t = .indent) :
      ts.head? ≠ some t := by
    intro first
    obtain ⟨more, rfl⟩ := List.head?_eq_some_iff.mp first
    rw [statement_stray stray] at found
    cases found
  exact ⟨other (.inl rfl), other (.inr (.inl rfl)), other (.inr (.inr rfl))⟩

theorem isFresh_of_statements {ts : List Token} {body : List Stmt} (found : statements ts = some body) :
    IsFresh ts := by
  by_cases none : ts = []
  · subst none
    exact ⟨by simp, by simp, by simp⟩
  · rw [statements_of_ne_nil none] at found
    obtain ⟨⟨stmts, rest⟩, first, -⟩ := Option.bind_eq_some_iff.mp found
    exact isFresh_of_statement first

/-- Whether statements are what lines of code say, in order: the lines fall into groups, and each group is read,
on its own and to its end, as some of the statements. -/
inductive Written (base : Column) : List Entry → List Stmt → Prop
  | nil : Written base [] []
  | cons {lines others : List Entry} {ts : List Token} {stmts body : List Stmt}
    (start : lines.head?.any Entry.isLine = true) (laid : layOut [base] lines = some ts)
    (read : reads statement ts = some (stmts, [])) (behind : Written base others body) :
    Written base (lines ++ others) (stmts ++ body)

/-- A statement is read in the same way when nothing stands behind its lines. -/
theorem statement_alone {used rest : List Token} {stmts : List Stmt} {t : Token}
    (found : reads statement (used ++ rest) = some (stmts, rest)) (last : used.getLast? = some t)
    (isEnd : t.isEnd = true) (closed : Closes 0 used) (fresh : IsFresh rest) :
    reads statement used = some (stmts, []) := by
  have whole : EndsInLine used := by
    intro u same
    rw [last] at same
    cases same
    exact isEnd
  have filled : used ≠ [] := by
    rintro rfl
    cases last
  have leaves := leaves_statement whole fresh ⟨closed, List.suffix_rfl, filled⟩
  rw [leaves.append] at found
  obtain ⟨⟨stmts, after⟩, own, same⟩ := Option.map_eq_some_iff.mp found
  obtain ⟨rfl, same⟩ := Prod.mk.inj same
  obtain rfl : after = [] := by simpa using same
  exact own

/-- Statements that are read from the tokens of lines are what the lines say. -/
theorem written_of_statements {base : Column} {entries : List Entry} (start : StartsLine entries)
    (whole : WholeLines entries) (plain : ∀ entry ∈ entries, entry.IsPlain)
    (ends : entries = [] ∨ EndsInNewline entries) {ts : List Token} (laid : layOut [base] entries = some ts)
    {body : List Stmt} (found : statements ts = some body) : Written base entries body := by
  induction size : entries.length using Nat.strongRecOn generalizing entries ts body with
  | _ n ih =>
    subst size
    rcases ends with rfl | ends
    · cases laid
      rw [show (List.replicate ([base].length - 1) Token.dedent) = [] from rfl, statements_nil] at found
      cases found
      exact .nil
    obtain ⟨filled, inLine⟩ := layOut_ends ends laid
    rw [statements_of_ne_nil filled] at found
    obtain ⟨⟨stmts, rest⟩, first, found⟩ := Option.bind_eq_some_iff.mp found
    obtain ⟨others, behind, rfl⟩ := Option.map_eq_some_iff.mp found
    have closed : Closes 0 ts := layOut_closes (List.cons_ne_nil base []) plain laid
    have fresh : IsFresh [] := ⟨by simp, by simp, by simp⟩
    obtain ⟨leftClosed, t, isEnd, before, rfl⟩ :=
      (leaves_statement inLine fresh ⟨closed, List.suffix_rfl, filled⟩).left stmts rest first
    rw [List.append_cons] at first laid
    have last : (before ++ [t]).getLast? = some t := List.getLast?_concat ..
    obtain ⟨lines, below, rfl, anew, laidLines, laidBelow⟩ :=
      layOut_cut rfl whole plain laid last isEnd leftClosed
    obtain ⟨plainLines, plainBelow⟩ := List.forall_mem_append.mp plain
    have some : lines ≠ [] := by
      rintro rfl
      cases before <;> cases laidLines
    have read : reads statement (before ++ [t]) = .some (stmts, []) :=
      statement_alone first last isEnd (layOut_closes (List.cons_ne_nil base []) plainLines laidLines)
        (isFresh_of_statements behind)
    refine .cons ?_ laidLines read (ih below.length ?_ anew (whole.of_suffix (List.suffix_append lines below))
      plainBelow ?_ laidBelow behind rfl)
    · obtain ⟨entry, lines, rfl⟩ := List.exists_cons_of_ne_nil some
      exact start entry rfl
    · have := List.length_pos_iff.mpr some
      rw [List.length_append]
      omega
    · by_cases none : below = []
      · exact .inl none
      · obtain ⟨spelling, last⟩ := ends
        exact .inr ⟨spelling, by rwa [List.getLast?_append_of_ne_nil lines none] at last⟩

/-! ## A block and what follows it -/

/-- The column of the margin. -/
def margin : Column := ⟨0, 0⟩

theorem leaveBlocks_margin {column : Column} (other : column ≠ margin) (columns : List Column)
    {left : List Column} {n : Nat} (found : leaveBlocks column (columns ++ [margin]) = some (n, left)) :
    ∃ inner, left = inner ++ [margin] ∧ leaveBlocks column columns = some (n, inner) := by
  induction columns generalizing n with
  | nil =>
    rw [List.nil_append, leaveBlocks] at found
    split at found
    · cases found
    · cases found
  | cons top outer ih =>
    rw [List.cons_append, leaveBlocks] at found
    rw [leaveBlocks]
    split at found
    next less =>
      obtain ⟨⟨m, more⟩, own, same⟩ := Option.map_eq_some_iff.mp found
      cases same
      obtain ⟨inner, rfl, plain⟩ := ih own
      exact ⟨inner, rfl, by rw [if_pos less, plain]; rfl⟩
    next less =>
      split at found
      next same =>
        cases found
        exact ⟨top :: outer, rfl, by rw [if_neg less, if_pos same]⟩
      next => cases found

/-- All blocks are left for the margin. -/
theorem leaveBlocks_all {columns : List Column} (deep : ∀ column ∈ columns, 0 < column.wide) :
    leaveBlocks margin (columns ++ [margin]) = some (columns.length, [margin]) := by
  induction columns with
  | nil => rfl
  | cons top outer ih =>
    obtain ⟨here, others⟩ := List.forall_mem_cons.mp deep
    rw [List.cons_append, leaveBlocks, if_pos (show margin.wide < top.wide from here), ih others]
    rfl

/-- A line that is not at the margin does to the blocks above the margin what it does to all. -/
theorem changeIndentation_margin {column : Column} (other : column ≠ margin) {columns left : List Column}
    {changes : List Token} (opened : columns ≠ []) (deep : ∀ column ∈ columns, 0 < column.wide)
    (change : changeIndentation column (columns ++ [margin]) = some (changes, left)) :
    ∃ inner, left = inner ++ [margin] ∧ changeIndentation column columns = some (changes, inner) ∧
      inner ≠ [] ∧ ∀ column ∈ inner, 0 < column.wide := by
  obtain ⟨top, outer, rfl⟩ := List.exists_cons_of_ne_nil opened
  rw [List.cons_append] at change
  by_cases deeper : top.wide < column.wide
  · rw [changeIndentation_deeper _ deeper] at change ⊢
    split at change
    · cases change
    next room =>
      cases change
      rw [List.length_append] at room
      refine ⟨column :: top :: outer, rfl, if_neg (by omega), List.cons_ne_nil _ _, ?_⟩
      exact List.forall_mem_cons.mpr ⟨Nat.lt_of_le_of_lt (Nat.zero_le _) deeper, deep⟩
  · rw [changeIndentation_of_le _ deeper] at change ⊢
    obtain ⟨⟨n, left⟩, leave, same⟩ := Option.map_eq_some_iff.mp change
    cases same
    obtain ⟨inner, rfl, own⟩ := leaveBlocks_margin other (top :: outer) leave
    refine ⟨inner, rfl, by rw [own]; rfl, (leaveBlocks_length own).2, fun column mem => ?_⟩
    exact deep column ((leaveBlocks_suffix own).subset mem)

/-- Where a line stands at the margin, or where all ends, all blocks above the margin end. -/
theorem layOut_leaves {below : List Entry} (start : ∀ entry, below.head? = some entry → entry.isAtMargin = true)
    {columns : List Column} (deep : ∀ column ∈ columns, 0 < column.wide) {ts : List Token}
    (laid : layOut (columns ++ [margin]) below = some ts) :
    ∃ more, ts = List.replicate columns.length .dedent ++ more := by
  rcases below with _ | ⟨entry, below⟩
  · rw [layOut, List.length_append, List.length_singleton, Nat.add_sub_cancel] at laid
    exact ⟨[], by rw [List.append_nil, Option.some.inj laid]⟩
  · have atMargin := start entry rfl
    cases entry with
    | token => cases atMargin
    | line blanks =>
      have column : columnOf blanks = margin := of_decide_eq_true atMargin
      have change : changeIndentation margin (columns ++ [margin]) =
          some (List.replicate columns.length .dedent, [margin]) := by
        rcases columns with _ | ⟨top, outer⟩
        · rfl
        · rw [List.cons_append, changeIndentation_of_le _ (Nat.not_lt.mpr (Nat.zero_le _)),
            ← List.cons_append, leaveBlocks_all deep]
          rfl
      rw [layOut_line, column, change, Option.bind_some] at laid
      obtain ⟨more, -, rfl⟩ := Option.map_eq_some_iff.mp laid
      exact ⟨more, rfl⟩

/-- What is laid out above the margin is a block, which ends where a line stands at the margin, or where all
ends. -/
theorem layOut_above {kept below : List Entry} (above : ∀ entry ∈ kept, entry.isAtMargin = false)
    (start : ∀ entry, below.head? = some entry → entry.isAtMargin = true) (columns : List Column)
    (opened : columns ≠ []) (deep : ∀ column ∈ columns, 0 < column.wide) {ts : List Token}
    (laid : layOut (columns ++ [margin]) (kept ++ below) = some ts) :
    ∃ inner more, layOut columns kept = some inner ∧ ts = inner ++ .dedent :: more := by
  induction kept generalizing columns ts with
  | nil =>
    obtain ⟨more, rfl⟩ := layOut_leaves start deep laid
    refine ⟨List.replicate (columns.length - 1) .dedent, more, rfl, ?_⟩
    rw [List.append_cons, ← List.replicate_succ',
      Nat.sub_one_add_one (Nat.pos_iff_ne_zero.mp (List.length_pos_iff.mpr opened))]
  | cons entry kept ih =>
    obtain ⟨here, aboves⟩ := List.forall_mem_cons.mp above
    cases entry with
    | token t spelling =>
      obtain ⟨more, own, rfl⟩ := Option.map_eq_some_iff.mp laid
      obtain ⟨inner, more, block, rfl⟩ := ih aboves _ opened deep own
      exact ⟨t :: inner, more, by rw [layOut, block]; rfl, rfl⟩
    | line blanks =>
      rw [List.cons_append, layOut_line] at laid
      obtain ⟨⟨changes, left⟩, change, laid⟩ := Option.bind_eq_some_iff.mp laid
      obtain ⟨more, own, rfl⟩ := Option.map_eq_some_iff.mp laid
      obtain ⟨inner, rfl, change, some, deep⟩ :=
        changeIndentation_margin (of_decide_eq_false here) opened deep change
      obtain ⟨tokens, more, block, rfl⟩ := ih aboves _ some deep own
      refine ⟨changes ++ tokens, more, ?_, (List.append_assoc ..).symm⟩
      rw [layOut_line, change, Option.bind_some]
      dsimp only
      rw [block]
      rfl

theorem WholeLines.of_append {kept below : List Entry} (whole : WholeLines (kept ++ below)) :
    WholeLines kept := by
  rintro spelling behind ⟨before, rfl⟩ entry first
  refine whole spelling (behind ++ below) ⟨before, by simp⟩ entry ?_
  rw [List.head?_append, first]
  rfl

/-! ## Scripts -/

/-- The lines of code that a script keeps. A script whose first line of code is indented keeps those in front
of the first one that stands at the margin. -/
def keptLines (source : String) (entries : List Entry) : List Entry :=
  if isIndented source then entries.takeWhile fun entry => !entry.isAtMargin else entries

theorem layOut_one (base : Column) {blanks : List Char} (column : columnOf blanks = base)
    (entries : List Entry) : layOut [base] (.line blanks :: entries) = layOut [base] entries := by
  have stays : changeIndentation base [base] = some ([], [base]) := by
    rw [changeIndentation_of_le [] (Nat.lt_irrefl _), leaveBlocks, if_neg (Nat.lt_irrefl _), if_pos rfl]
    rfl
  rw [layOut_line, column, stays, Option.bind_some]
  simp

/-- The statements of a source at the margin are what all its lines say. -/
theorem written_readStatements {source : List Char} {body : List Stmt} {entries : List Entry}
    (stands : entries? source = some entries) (read : readStatements? source = some body) :
    Written margin entries body := by
  rw [readStatements_eq, stands, Option.bind_some] at read
  obtain ⟨ts, laid, found⟩ := Option.bind_eq_some_iff.mp read
  refine written_of_statements (startsLine_entriesFrom stands) (wholeLines_entriesFrom stands)
    (entriesFrom_plain stands) ?_ laid found
  by_cases none : entries = []
  · exact .inl none
  · exact .inr (entries_ends stands none)

theorem must_eq_some {β : Type} {token : Token} {next : Unit → Reader Token β} {ts : List Token}
    {found : β × List Token} (done : (must token >>= next) ts = some found) :
    ∃ rest, ts = token :: rest ∧ next () rest = some found := by
  by_cases here : ts.head? = some token
  · obtain ⟨rest, rfl⟩ := List.head?_eq_some_iff.mp here
    rw [must_cons] at done
    exact ⟨rest, rfl, done⟩
  · rw [must_none (expect_of_head?_ne here)] at done
    cases done

/-- The block of a condition at the head of a source is what stands indented below it. -/
theorem block_underTrue {ts : List Token} {condition : Expr} {inner otherwise : List Stmt}
    {others : List Stmt}
    (found : statements (underTrue (.newline :: ts)) = some (.branch condition inner otherwise :: others)) :
    ∃ tokens rest, ts = .indent :: tokens ∧ reads body tokens = some (inner, rest) := by
  rw [underTrue, statements_of_ne_nil (List.cons_ne_nil _ _)] at found
  obtain ⟨⟨first, rest⟩, start, behind⟩ := Option.bind_eq_some_iff.mp found
  obtain ⟨more, -, whole⟩ := Option.map_eq_some_iff.mp behind
  rw [reads_statement, taken_some (expect_cons ..), if_pos rfl] at start
  obtain ⟨stmt, rest', start, same⟩ := bind_eq_some start
  cases same
  cases whole
  rw [reads_branch, bind_of_some (reads_condition _)] at start
  obtain ⟨yes, after, block, start⟩ := bind_eq_some start
  have same : inner = yes := by
    rcases other : expect (.word .elifWord) after with _ | left
    · rw [taken_none other, if_neg Bool.false_ne_true] at start
      obtain ⟨no, left, -, same⟩ := bind_eq_some start
      cases same
      rfl
    · rw [taken_some other, if_pos rfl] at start
      obtain ⟨no, left, -, same⟩ := bind_eq_some start
      cases same
      rfl
  rw [reads_block, must_cons, taken_some (expect_cons ..), if_pos rfl] at block
  obtain ⟨tokens, indented, block⟩ := must_eq_some block
  exact ⟨tokens, after, indented, by rw [block, same]⟩

theorem EndsInNewline.of_cons {entry : Entry} {entries : List Entry} (ends : EndsInNewline (entry :: entries))
    (filled : entries ≠ []) : EndsInNewline entries := by
  obtain ⟨spelling, last⟩ := ends
  exact ⟨spelling, by rwa [List.getLast?_cons_of_ne_nil filled] at last⟩

/-- The lines of a block in front of those at the margin are laid out as a block of their own, and its
statements are what they say. -/
theorem written_kept {cs : List Char} {blanks : List Char} {kept below : List Entry} {tokens : List Token}
    (stands : entriesFrom true [] cs = some (.line blanks :: (kept ++ below)))
    (ends : EndsInNewline (.line blanks :: (kept ++ below))) (first : kept ≠ [])
    (above : ∀ entry ∈ kept, entry.isAtMargin = false)
    (start : ∀ entry, below.head? = some entry → entry.isAtMargin = true) (deep : 0 < (columnOf blanks).wide)
    (laid : layOut [columnOf blanks, margin] (kept ++ below) = some tokens) :
    ∃ inner more, tokens = inner ++ .dedent :: more ∧ EndsInLine inner ∧ Closes 0 inner ∧ inner ≠ [] ∧
      ∀ body, statements inner = some body → Written (columnOf blanks) (.line blanks :: kept) body := by
  have plain : ∀ entry ∈ Entry.line blanks :: kept, entry.IsPlain := fun entry mem =>
    entriesFrom_plain stands entry (List.mem_append_left below mem)
  have ends : EndsInNewline kept := by
    rcases below with _ | ⟨entry, below⟩
    · rw [List.append_nil] at ends
      exact ends.of_cons first
    · have atMargin := start entry rfl
      cases entry with
      | token => cases atMargin
      | line other =>
        obtain ⟨-, never⟩ | ends := entriesFrom_before stands (.line blanks :: kept) rfl
        · cases never
        · exact ends.of_cons first
  obtain ⟨inner, more, block, rfl⟩ := layOut_above above start [columnOf blanks]
    (List.cons_ne_nil _ _) (List.forall_mem_singleton.mpr deep) laid
  obtain ⟨filled, inLine⟩ := layOut_ends ends block
  have closed : Closes 0 inner :=
    layOut_closes (List.cons_ne_nil _ []) (List.forall_mem_cons.mp plain).2 block
  refine ⟨inner, more, rfl, inLine, closed, filled, fun body found => ?_⟩
  refine written_of_statements ?_ (wholeLines_entriesFrom stands).of_append plain (.inr (ends.cons _))
    ((layOut_one _ rfl kept).trans block) found
  rintro _ ⟨⟩
  rfl

/-- A line that opens a block where none is open is indented. -/
theorem layOut_opens {blanks spelling : List Char} {t : Token} {others : List Entry} (plain : t ≠ .indent)
    {tokens : List Token}
    (laid : layOut [margin] (.line blanks :: .token t spelling :: others) = some (.indent :: tokens)) :
    0 < (columnOf blanks).wide ∧
      layOut [columnOf blanks, margin] (.token t spelling :: others) = some tokens := by
  rw [layOut_line] at laid
  obtain ⟨⟨changes, left⟩, change, laid⟩ := Option.bind_eq_some_iff.mp laid
  obtain ⟨more, own, same⟩ := Option.map_eq_some_iff.mp laid
  rcases changeIndentation_eq_some change with ⟨⟨top, first, deeper⟩, rfl, rfl⟩ | ⟨n, rfl, -⟩
  · cases first
    obtain rfl : more = tokens := (List.cons.inj same).2
    exact ⟨deeper, own⟩
  · exfalso
    cases n with
    | zero =>
      obtain ⟨behind, -, rfl⟩ := Option.map_eq_some_iff.mp own
      exact plain (List.cons.inj (show t :: behind = .indent :: tokens from same)).1
    | succ n => cases same

theorem isAtMargin_of_takeWhile (entries : List Entry) :
    ∀ entry ∈ entries.takeWhile fun entry => !entry.isAtMargin, entry.isAtMargin = false := by
  intro entry mem
  simpa using List.all_eq_true.mp List.all_takeWhile entry mem

theorem isAtMargin_of_dropWhile (entries : List Entry) :
    ∀ entry, (entries.dropWhile fun entry => !entry.isAtMargin).head? = some entry →
      entry.isAtMargin = true := by
  intro entry first
  have stop := List.head?_dropWhile_not (fun entry => !Entry.isAtMargin entry) entries
  rw [first] at stop
  simpa using stop

/-- The statements of an indented source are what the lines in front of the first one at the margin say, of
which the first one is indented. -/
theorem written_readIndented {source : List Char} {body : List Stmt} (filled : unifyBreaks source ≠ [])
    (read : readIndented? source = some body) :
    ∃ entries blanks rest, entries? source = some entries ∧ entries = .line blanks :: rest ∧
      0 < (columnOf blanks).wide ∧
      Written (columnOf blanks) (entries.takeWhile fun entry => !entry.isAtMargin) body := by
  rw [readIndented?, readStatements_eq, entries_condition filled] at read
  obtain ⟨stmts, found, read⟩ := Option.bind_eq_some_iff.mp read
  obtain ⟨ts, laid, found⟩ := Option.bind_eq_some_iff.mp found
  obtain ⟨all, whole, laid⟩ := Option.bind_eq_some_iff.mp laid
  obtain ⟨entries, stands, rfl⟩ := Option.map_eq_some_iff.mp whole
  rw [layOut_underTrue] at laid
  obtain ⟨toks, block, rfl⟩ := Option.map_eq_some_iff.mp laid
  split at read
  · cases read
    obtain ⟨tokens, after, rfl, read⟩ := block_underTrue found
    have code : entries ≠ [] := by
      rintro rfl
      cases block
    have ends := entries_ends stands code
    obtain ⟨blanks, t, spelling, others, rfl⟩ := entriesFrom_lineStart stands code
    have plain : t ≠ .indent :=
      (entriesFrom_plain stands (.token t spelling) (List.mem_cons_of_mem _ List.mem_cons_self)).1
    obtain ⟨deep, inside⟩ := layOut_opens plain block
    have parts : (Entry.token t spelling :: others).takeWhile (fun entry => !entry.isAtMargin) ++
        (Entry.token t spelling :: others).dropWhile (fun entry => !entry.isAtMargin) = _ :=
      List.takeWhile_append_dropWhile
    refine ⟨_, blanks, _, stands, rfl, deep, ?_⟩
    have indented : (Entry.line blanks).isAtMargin = false := by
      rw [Entry.isAtMargin, decide_eq_false_iff_not]
      intro same
      rw [same] at deep
      cases deep
    rw [List.takeWhile_cons_of_pos (by rw [indented]; rfl)]
    rw [← parts] at stands ends inside
    obtain ⟨inner, more, rfl, inLine, closed, filled, written⟩ :=
      written_kept stands ends (by simp [Entry.isAtMargin]) (isAtMargin_of_takeWhile _)
        (isAtMargin_of_dropWhile _) deep inside
    rw [body_append_dedent more inLine closed filled] at read
    obtain ⟨body, own, same⟩ := Option.map_eq_some_iff.mp read
    cases same
    exact written body own
  · cases read

/-! ## Lines that no statement has -/

theorem layOut_deep {w : Nat} {columns : List Column} (deep : ∀ column ∈ columns, w ≤ column.wide)
    {entries : List Entry} {ts : List Token} (laid : layOut columns entries = some ts) {blanks : List Char}
    (line : .line blanks ∈ entries) : w ≤ (columnOf blanks).wide := by
  induction entries generalizing columns ts with
  | nil => cases line
  | cons entry entries ih =>
    cases entry with
    | token t spelling =>
      obtain ⟨more, own, -⟩ := Option.map_eq_some_iff.mp laid
      exact ih deep own ((List.mem_cons.mp line).resolve_left (by rintro ⟨⟩))
    | line other =>
      rw [layOut_line] at laid
      obtain ⟨⟨changes, left⟩, change, laid⟩ := Option.bind_eq_some_iff.mp laid
      obtain ⟨more, own, -⟩ := Option.map_eq_some_iff.mp laid
      have here : w ≤ (columnOf other).wide ∧ ∀ column ∈ left, w ≤ column.wide := by
        rcases changeIndentation_eq_some change with ⟨⟨top, first, deeper⟩, -, rfl⟩ | ⟨n, -, leave⟩
        · have under : w ≤ (columnOf other).wide :=
            Nat.le_trans (deep top (List.mem_of_head? first)) (Nat.le_of_lt deeper)
          exact ⟨under, List.forall_mem_cons.mpr ⟨under, deep⟩⟩
        · obtain ⟨-, first⟩ := leaveBlocks_eq_some leave
          have within := leaveBlocks_suffix leave
          exact ⟨deep _ (within.subset (List.mem_of_head? first)), fun column mem =>
            deep column (within.subset mem)⟩
      rcases List.mem_cons.mp line with same | below
      · cases same
        exact here.1
      · exact ih here.2 own below

/-- No line is less deep than the statements. -/
theorem Written.deep {base : Column} {entries : List Entry} {body : List Stmt}
    (written : Written base entries body) {blanks : List Char} (line : .line blanks ∈ entries) :
    base.wide ≤ (columnOf blanks).wide := by
  induction written with
  | nil => cases line
  | cons start laid read behind ih =>
    rcases List.mem_append.mp line with here | below
    · exact layOut_deep (List.forall_mem_singleton.mpr (Nat.le_refl _)) laid here
    · exact ih below

/-- The first line is as deep as the statements. -/
theorem Written.first {base : Column} {blanks : List Char} {entries : List Entry} {body : List Stmt}
    (written : Written base (.line blanks :: entries) body) : columnOf blanks = base := by
  generalize all : Entry.line blanks :: entries = lines at written
  cases written with
  | nil => cases all
  | @cons lines others ts stmts body start laid read behind =>
    obtain ⟨entry, lines, rfl⟩ : ∃ entry rest, lines = entry :: rest := by
      cases lines with
      | nil => cases start
      | cons entry lines => exact ⟨entry, lines, rfl⟩
    cases all
    rw [layOut_line] at laid
    obtain ⟨⟨changes, left⟩, change, laid⟩ := Option.bind_eq_some_iff.mp laid
    obtain ⟨more, own, rfl⟩ := Option.map_eq_some_iff.mp laid
    rcases changeIndentation_eq_some change with ⟨-, rfl, -⟩ | ⟨n, -, leave⟩
    · rw [List.singleton_append, statement_stray (.inr (.inr rfl))] at read
      cases read
    · obtain ⟨-, first⟩ := leaveBlocks_eq_some leave
      exact List.mem_singleton.mp ((leaveBlocks_suffix leave).subset (List.mem_of_head? first))

/-- Whether all lines of code of a source belong to statements of a body, in order. -/
def IsWritten (source : String) (body : List Stmt) : Prop :=
  ∃ entries base, entries? source.toList = some entries ∧ Written base entries body

theorem filled_of_isIndented {source : String} (indented : isIndented source = true) :
    unifyBreaks source.toList ≠ [] := by
  intro none
  rw [isIndented_eq, unifyBreaks_eq_nil none] at indented
  cases indented

/-- An indented script has all its lines only if none of them stands at the margin. -/
theorem isWritten_indented {source : String} {blanks : List Char} {rest : List Entry} {body : List Stmt}
    (stands : entries? source.toList = some (.line blanks :: rest)) (deep : 0 < (columnOf blanks).wide)
    (written : Written (columnOf blanks)
      ((Entry.line blanks :: rest).takeWhile fun entry => !entry.isAtMargin) body) :
    IsWritten source body ↔ ∀ entry ∈ Entry.line blanks :: rest, entry.isAtMargin = false := by
  constructor
  · rintro ⟨entries, base, stands', all⟩ entry mem
    obtain rfl : .line blanks :: rest = entries := Option.some.inj (stands.symm.trans stands')
    cases entry with
    | token => rfl
    | line other =>
      have under := all.deep mem
      rw [← all.first] at under
      rw [Entry.isAtMargin, decide_eq_false_iff_not]
      intro atMargin
      rw [atMargin] at under
      exact absurd (Nat.lt_of_lt_of_le deep under) (Nat.lt_irrefl 0)
  · intro none
    rw [List.takeWhile_eq_self_iff.mpr fun entry mem => by rw [none entry mem]; rfl] at written
    exact ⟨_, _, stands, written⟩

/-- A script is what the lines say that it keeps, and it keeps all lines unless it is indented and a line
stands at the margin. -/
theorem written_parseScript {source : String} {body : List Stmt} (parsed : parseScript source = .ok body) :
    ∃ entries, entries? source.toList = some entries ∧
      (∃ base, Written base (keptLines source entries) body) ∧
      (IsWritten source body ↔ isIndented source = false ∨ ∀ entry ∈ entries, entry.isAtMargin = false) := by
  rw [parseScript_eq] at parsed
  split at parsed
  · cases parsed
  obtain ⟨body, read, rfl⟩ : ∃ found, readScript? source = some found ∧ found = body := by
    cases found : readScript? source with
    | none => rw [found] at parsed; cases parsed
    | some => rw [found] at parsed; cases parsed; exact ⟨_, rfl, rfl⟩
  rw [readScript?] at read
  cases indented : isIndented source with
  | true =>
    rw [indented, if_pos rfl] at read
    obtain ⟨_, blanks, rest, stands, rfl, deep, written⟩ :=
      written_readIndented (filled_of_isIndented indented) read
    refine ⟨_, stands, ⟨_, by rw [keptLines, indented, if_pos rfl]; exact written⟩, ?_⟩
    rw [isWritten_indented stands deep written]
    simp
  | false =>
    rw [indented, if_neg Bool.false_ne_true] at read
    obtain ⟨entries, stands⟩ : ∃ entries, entries? source.toList = some entries := by
      rw [readStatements_eq] at read
      obtain ⟨ts, laid, -⟩ := Option.bind_eq_some_iff.mp read
      obtain ⟨entries, stands, -⟩ := Option.bind_eq_some_iff.mp laid
      exact ⟨entries, stands⟩
    have written := written_readStatements stands read
    refine ⟨entries, stands, ⟨_, by rw [keptLines, indented, if_neg Bool.false_ne_true]; exact written⟩, ?_⟩
    exact iff_of_true ⟨_, _, stands, written⟩ (.inl rfl)

/-- **A script is refused, or it is the function body that its lines of code say, in order, each statement from
its own lines.** All lines belong to statements exactly if the script does not start with an indented line, or
no line stands at the margin. Otherwise the lines from the first one at the margin on are left out. -/
theorem Host.call_written {κ ι : Type} (host : Host κ ι) (source : String) (scope : Scope Value)
    (desk : Desk κ) :
    (∃ failure, compile ⟨.script, source, scope⟩ = .error failure ∧
        host.call ⟨.script, source, scope⟩ desk = (.error failure, desk)) ∨
      ∃ entries body, entries? source.toList = some entries ∧
        host.call ⟨.script, source, scope⟩ desk =
          ((host.runBody body scope desk).1.mapError (·.toFailure .script), (host.runBody body scope desk).2) ∧
        (∃ base, Written base (keptLines source entries) body) ∧
        (IsWritten source body ↔
          isIndented source = false ∨ ∀ entry ∈ entries, entry.isAtMargin = false) := by
  cases compiled : compile ⟨.script, source, scope⟩ with
  | error failure => exact .inl ⟨failure, rfl, by rw [Host.call, compiled]⟩
  | ok body =>
    obtain ⟨entries, stands, written, all⟩ := written_parseScript (parseBody_of_compile compiled)
    exact .inr ⟨entries, body, stands, by rw [Host.call, compiled], written, all⟩

/-- A script whose second statement stands at the margin, below an indented one. -/
def dedentedScript : String := "    x = 1\nreturn 2\n"

/-- What the script comes to. -/
def dedentedRun : Except Failure Value × Desk (Catalogue (List (Atom × Data))) :=
  issueHost.call ⟨.script, dedentedScript, []⟩ (Desk.ofServer openIssue)

/-- The second statement belongs to no part of the function body, and the script comes to nothing. -/
theorem call_dedented : ∃ body, parseScript dedentedScript = .ok body ∧ ¬IsWritten dedentedScript body ∧
    dedentedRun.1.toOption.any (fun value => (Desk.view dedentedRun.2 value).isNull) = true := by
  have readable : (parseScript dedentedScript).isOk = true := by decide +kernel
  rcases parsed : parseScript dedentedScript with failure | body
  · rw [parsed] at readable
    cases readable
  refine ⟨body, rfl, ?_, by decide +kernel⟩
  obtain ⟨entries, stands, -, all⟩ := written_parseScript parsed
  rw [all]
  have indented : isIndented dedentedScript = true := by decide +kernel
  have atMargin : (entries? dedentedScript.toList).any (·.any Entry.isAtMargin) = true := by decide +kernel
  rw [stands, Option.any_some, List.any_eq_true] at atMargin
  obtain ⟨entry, mem, isAtMargin⟩ := atMargin
  rw [indented]
  rintro (never | none)
  · cases never
  · rw [none entry mem] at isAtMargin
    cases isAtMargin

end IssueBoard.Script
