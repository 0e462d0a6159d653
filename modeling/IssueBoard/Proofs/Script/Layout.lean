import IssueBoard.Proofs.Script.Columns
import IssueBoard.Proofs.Script.Statements
import Mathlib.Data.List.Forall2

/-! # Layout

A source is read in two steps: its characters are a list of tokens and of the blanks with which lines of code
start, and of the columns behind these blanks only the comparison counts.
-/

namespace IssueBoard.Script

/-! ## The entries of a source -/

/-- What stands in a source: the blanks at the start of a line of code, or a token and how it is spelled. -/
inductive Entry where
  | line (blanks : List Char)
  | token (token : Token) (spelling : List Char)
  deriving DecidableEq

/-- The open brackets behind a token. -/
def nestToken (token : Token) (brackets : List Mark) : Option (List Mark) :=
  match token with
  | .mark mark => nest mark brackets
  | _ => some brackets

/-- The entries of a text of which the open brackets are known. -/
def entriesFrom (lineStart : Bool) (brackets : List Mark) (cs : List Char) : Option (List Entry) :=
  if lineStart then
    match indentation ⟨0, 0⟩ 0 cs with
    | none => none
    | some (_, ⟨[], _⟩) => some []
    | some (_, ⟨'\n' :: rest, _⟩) => entriesFrom true brackets rest
    | some (_, ⟨'#' :: rest, _⟩) => entriesFrom true brackets (toLineEnd rest).1
    | some (_, ⟨c :: rest, _⟩) =>
      (entriesFrom false brackets (c :: rest)).map (.line (cs.take (cs.length - (c :: rest).length)) :: ·)
  else
    match cs with
    | [] => if brackets.isEmpty then some [] else none
    | '\n' :: rest =>
      if brackets.isEmpty then (entriesFrom true brackets rest).map (.token .newline ['\n'] :: ·)
      else entriesFrom false brackets rest
    | '#' :: rest => entriesFrom false brackets (toLineEnd rest).1
    | '\\' :: '\n' :: rest => if rest.isEmpty then none else entriesFrom false brackets rest
    | c :: rest =>
      if c == ' ' || c == '\t' || c == '\x0c' then entriesFrom false brackets rest
      else do
        let (token, ⟨after, _⟩) ← token? (c :: rest)
        let brackets ← nestToken token brackets
        let entries ← entriesFrom false brackets after
        return .token token ((c :: rest).take ((c :: rest).length - after.length)) :: entries
termination_by 2 * cs.length + lineStart.toNat
decreasing_by
  all_goals try have := (toLineEnd rest).2
  all_goals simp_all
  all_goals omega

/-- The tokens that entries stand for, of which the columns of the open blocks are known. -/
def layOut (columns : List Column) : List Entry → Option (List Token)
  | [] => some (List.replicate (columns.length - 1) .dedent)
  | .line blanks :: rest => do
    let (changes, columns) ← changeIndentation (columnOf blanks) columns
    let tokens ← layOut columns rest
    return changes ++ tokens
  | .token token _ :: rest => (layOut columns rest).map (token :: ·)

/-! ### One step after another -/

section

variable (brackets : List Mark) (cs : List Char)

/-- The entries of a text behind the blanks at the start of a line. -/
def entriesBehind (blanks : List Char) : List Char → Option (List Entry)
  | [] => some []
  | '\n' :: rest => entriesFrom true brackets rest
  | '#' :: rest => entriesFrom true brackets (toLineEnd rest).1
  | c :: rest => (entriesFrom false brackets (c :: rest)).map (.line blanks :: ·)

theorem entriesFrom_true :
    entriesFrom true brackets cs = (reads (indentation ⟨0, 0⟩ 0) cs).bind fun (_, rest) =>
    entriesBehind brackets (cs.take (cs.length - rest.length)) rest := by
  rw [entriesFrom.eq_def, if_pos rfl, reads]
  split
  next none => rw [none]; rfl
  next found => rw [found]; rfl
  next found => rw [found]; rfl
  next found => rw [found]; rfl
  next feed hash found =>
    rw [found]
    simp [bare, entriesBehind]

theorem entriesFrom_nil : entriesFrom false brackets [] = if brackets.isEmpty then some [] else none := by
  rw [entriesFrom.eq_def, if_neg Bool.false_ne_true]

theorem entriesFrom_newline : entriesFrom false brackets ('\n' :: cs) =
    if brackets.isEmpty then (entriesFrom true brackets cs).map (.token .newline ['\n'] :: ·)
    else entriesFrom false brackets cs := by
  rw [entriesFrom.eq_def, if_neg Bool.false_ne_true]
  simp

theorem entriesFrom_comment :
    entriesFrom false brackets ('#' :: cs) = entriesFrom false brackets (toLineEnd cs).1 := by
  rw [entriesFrom.eq_def, if_neg Bool.false_ne_true]
  simp

theorem entriesFrom_joined : entriesFrom false brackets ('\\' :: '\n' :: cs) =
    if cs.isEmpty then none else entriesFrom false brackets cs := by
  rw [entriesFrom.eq_def, if_neg Bool.false_ne_true]
  simp

theorem entriesFrom_blank {c : Char} (blank : c = ' ' ∨ c = '\t' ∨ c = '\x0c') :
    entriesFrom false brackets (c :: cs) = entriesFrom false brackets cs := by
  rw [entriesFrom.eq_def, if_neg Bool.false_ne_true]
  rcases blank with rfl | rfl | rfl <;> rfl

/-- The entries of a text that starts with a token. -/
theorem entriesFrom_token {c : Char} (feed : c ≠ '\n') (hash : c ≠ '#')
    (joined : c ≠ '\\' ∨ cs.head? ≠ some '\n') (space : c ≠ ' ') (tab : c ≠ '\t') (page : c ≠ '\x0c') :
    entriesFrom false brackets (c :: cs) =
      (reads token? (c :: cs)).bind fun (token, after) => (nestToken token brackets).bind fun brackets =>
        (entriesFrom false brackets after).map
          (.token token ((c :: cs).take ((c :: cs).length - after.length)) :: ·) := by
  rw [entriesFrom.eq_def, if_neg Bool.false_ne_true, reads]
  split
  next same => cases same
  next same => cases same; exact absurd rfl feed
  next same => cases same; exact absurd rfl hash
  next same =>
    cases same
    rcases joined with never | never
    · exact absurd rfl never
    · exact absurd rfl never
  next same =>
    cases same
    rw [if_neg (by simp [space, tab, page])]
    rcases token? (c :: cs) with _ | ⟨token, after, _⟩
    · rfl
    · simp only [bare, Option.pure_def, Option.bind_eq_bind, Option.bind_some, Option.map_eq_bind,
        Function.comp_def]

end

theorem take_blanks (blanks rest : List Char) :
    (blanks ++ rest).take ((blanks ++ rest).length - rest.length) = blanks := by
  rw [List.length_append, Nat.add_sub_cancel, List.take_left]

/-- Tokens are read by the entries. -/
theorem tokensFrom_eq (lineStart : Bool) (columns : List Column) (brackets : List Mark) (cs : List Char) :
    tokensFrom lineStart columns brackets cs = (entriesFrom lineStart brackets cs).bind (layOut columns) := by
  fun_induction tokensFrom lineStart columns brackets cs
  case case5 cs column c rest _ feed hash found ih =>
    have line : reads (indentation ⟨0, 0⟩ 0) cs = some (column, c :: rest) := by rw [reads, found]; rfl
    obtain ⟨blanks, rfl, rfl, -⟩ := indentation_eq_some cs _ _ line
    rw [entriesFrom_true, line]
    simp only [Option.bind_some, entriesBehind, ih, take_blanks]
    cases entriesFrom false _ (c :: rest) <;> simp [layOut, columnOf]
  case case8 lineStart columns brackets start rest outside ih =>
    rw [Bool.of_not_eq_true start, entriesFrom_newline, if_pos outside, ih]
    cases entriesFrom true brackets rest <;> simp [layOut]
  case case14 lineStart columns brackets start c rest feed hash joined blank ih =>
    simp only [Bool.or_eq_true, beq_iff_eq, not_or] at blank
    rw [Bool.of_not_eq_true start, entriesFrom_token brackets rest feed hash ?_ blank.1.1 blank.1.2 blank.2,
      reads]
    · rcases token? (c :: rest) with _ | ⟨token, after, shorter⟩
      · rfl
      have step (brackets : Option (List Mark)) : (do
          let brackets ← brackets
          let tokens ← tokensFrom false columns brackets after
          return token :: tokens) =
          (brackets.bind fun brackets => (entriesFrom false brackets after).map
            (Entry.token token ((c :: rest).take ((c :: rest).length - after.length)) :: ·)).bind
              (layOut columns) := by
        cases brackets with
        | none => rfl
        | some brackets =>
          simp only [bind, Option.bind_some, ih after shorter]
          cases entriesFrom false brackets after with
          | none => rfl
          | some entries =>
            simp only [Option.bind_some, Option.pure_def, Option.map_eq_bind, Function.comp_def, layOut]
      refine .trans ?_ (step (nestToken token brackets))
      cases token <;> rfl
    · by_cases slash : c = '\\'
      · refine .inr fun feed => ?_
        obtain ⟨more, rfl⟩ := List.head?_eq_some_iff.mp feed
        exact joined more slash rfl
      · exact .inl slash
  all_goals rw [entriesFrom.eq_def]; simp_all [layOut]

theorem layOut_line (columns : List Column) (blanks : List Char) (entries : List Entry) :
    layOut columns (.line blanks :: entries) =
      (changeIndentation (columnOf blanks) columns).bind fun (changes, columns) =>
        (layOut columns entries).map (changes ++ ·) := by
  rw [layOut]
  simp only [bind]
  rcases changeIndentation (columnOf blanks) columns with _ | ⟨changes, columns⟩
  · rfl
  · simp only [Option.bind_some]
    cases layOut columns entries <;> rfl

section

variable {column top : Column} (outer : List Column)

/-- A line that opens a block. -/
theorem changeIndentation_deeper (deeper : top.wide < column.wide) : changeIndentation column (top :: outer) =
    if column.narrow ≤ top.narrow ∨ deepestIndentation ≤ outer.length + 1 then none
    else some ([.indent], column :: top :: outer) := by
  rw [changeIndentation, if_pos deeper, List.length_cons]
  simp only [Bool.or_eq_true, decide_eq_true_eq]

/-- A line that opens no block. -/
theorem changeIndentation_of_le (flat : ¬top.wide < column.wide) : changeIndentation column (top :: outer) =
    (leaveBlocks column (top :: outer)).map fun (count, columns) =>
      (List.replicate count .dedent, columns) := by
  rw [changeIndentation, if_neg flat]

end

/-! ## Columns that compare alike -/

/-- Entries that are the same but for the columns of lines, which are paired. -/
inductive Entry.Follows (pairs : List (Column × Column)) : Entry → Entry → Prop
  | line {blanks blanks' : List Char} (paired : (columnOf blanks, columnOf blanks') ∈ pairs) :
    Follows pairs (.line blanks) (.line blanks')
  | token (token : Token) (spelling spelling' : List Char) :
    Follows pairs (.token token spelling) (.token token spelling')

/-- Lists of open blocks with paired columns. -/
abbrev Paired (pairs : List (Column × Column)) (columns columns' : List Column) : Prop :=
  List.Forall₂ (fun column column' => (column, column') ∈ pairs) columns columns'

section

variable {pairs : List (Column × Column)} {base : Column}

/-- The same blocks are left, and one block around all of them stays. -/
theorem leaveBlocks_follows (keeps : KeepsOrder pairs) (above : ∀ p ∈ pairs, base.wide < p.2.wide)
    {column column' : Column} (paired : (column, column') ∈ pairs) {columns columns' : List Column}
    (stacked : Paired pairs columns columns') :
    leaveBlocks column columns = none ∧ leaveBlocks column' (columns' ++ [base]) = none ∨
      ∃ n left left', leaveBlocks column columns = some (n, left) ∧
        leaveBlocks column' (columns' ++ [base]) = some (n, left' ++ [base]) ∧ Paired pairs left left' := by
  induction stacked with
  | nil =>
    have deeper : base.wide < column'.wide := above _ paired
    have other : column' ≠ base := by
      rintro rfl
      exact absurd deeper (Nat.lt_irrefl _)
    refine .inl ⟨rfl, ?_⟩
    rw [List.nil_append, leaveBlocks, if_neg (Nat.not_lt.mpr (Nat.le_of_lt deeper)), if_neg other]
  | @cons top top' outer outer' same stacked ih =>
    rw [List.cons_append, leaveBlocks, leaveBlocks]
    have less : column.wide < top.wide ↔ column'.wide < top'.wide := (keeps _ paired _ same).1
    have eq : column = top ↔ column' = top' := keeps.eq_iff paired same
    by_cases leaves : column.wide < top.wide
    · rw [if_pos leaves, if_pos (less.mp leaves)]
      obtain ⟨none, none'⟩ | ⟨n, left, left', found, found', paired⟩ := ih
      · rw [none, none']
        exact .inl ⟨rfl, rfl⟩
      · rw [found, found']
        exact .inr ⟨n + 1, left, left', rfl, rfl, paired⟩
    · rw [if_neg leaves, if_neg (less.not.mp leaves)]
      by_cases stays : column = top
      · rw [if_pos stays, if_pos (eq.mp stays)]
        exact .inr ⟨0, _, _, rfl, rfl, .cons same stacked⟩
      · rw [if_neg stays, if_neg (eq.not.mp stays)]
        exact .inl ⟨rfl, rfl⟩

end

/-! ## Blocks are closed -/

/-- The blocks that stay open when others are left are the outer ones, and the innermost of them has the
column that is reached. -/
theorem leaveBlocks_eq_some {column : Column} {columns left : List Column} {n : Nat}
    (found : leaveBlocks column columns = some (n, left)) :
    left = columns.drop n ∧ left.head? = some column := by
  induction columns generalizing n with
  | nil => cases found
  | cons top outer ih =>
    rw [leaveBlocks] at found
    split at found
    · obtain ⟨⟨m, more⟩, own, same⟩ := Option.map_eq_some_iff.mp found
      cases same
      exact ih own
    · split at found
      next same =>
        cases found
        cases same
        exact ⟨rfl, rfl⟩
      next => cases found

theorem leaveBlocks_suffix {column : Column} {columns left : List Column} {n : Nat}
    (found : leaveBlocks column columns = some (n, left)) : left <:+ columns :=
  (leaveBlocks_eq_some found).1 ▸ List.drop_suffix n columns

theorem leaveBlocks_length {column : Column} {columns left : List Column} {n : Nat}
    (found : leaveBlocks column columns = some (n, left)) : columns.length = n + left.length ∧ left ≠ [] := by
  obtain ⟨rest, first⟩ := leaveBlocks_eq_some found
  have some : left ≠ [] := by
    rintro rfl
    cases first
  have size := List.length_pos_of_ne_nil some
  rw [rest, List.length_drop] at size ⊢
  exact ⟨by omega, rest ▸ some⟩

theorem closes_replicate (n m : Nat) (ts : List Token) :
    Closes (n + m) (List.replicate n .dedent ++ ts) ↔ Closes m ts := by
  induction n with
  | zero => simp
  | succ n ih => rw [List.replicate_succ, List.cons_append, Nat.succ_add, Closes, ih]

/-- Whether a token that stands in a source is no change of the indentation. -/
def Entry.IsPlain : Entry → Prop
  | .line _ => True
  | .token t _ => t ≠ .indent ∧ t ≠ .dedent

/-- What is laid out closes all blocks that are open. -/
theorem layOut_closes {columns : List Column} (opened : columns ≠ []) {entries : List Entry}
    (plain : ∀ entry ∈ entries, entry.IsPlain) {ts : List Token} (found : layOut columns entries = some ts) :
    Closes (columns.length - 1) ts := by
  induction entries generalizing columns ts with
  | nil =>
    cases found
    have := (closes_replicate (columns.length - 1) 0 []).mpr rfl
    rwa [List.append_nil] at this
  | cons entry entries ih =>
    obtain ⟨here, plains⟩ := List.forall_mem_cons.mp plain
    cases entry with
    | token token spelling =>
      obtain ⟨more, own, rfl⟩ := Option.map_eq_some_iff.mp found
      exact (closes_cons_of_plain here.1 here.2 _ _).mpr (ih opened plains own)
    | line blanks =>
      obtain ⟨⟨changes, left⟩, change, found⟩ := Option.bind_eq_some_iff.mp found
      obtain ⟨more, own, same⟩ := Option.bind_eq_some_iff.mp found
      cases same
      cases columns with
      | nil => exact absurd rfl opened
      | cons top outer =>
        rw [changeIndentation] at change
        split at change
        · split at change
          · cases change
          · cases change
            have closed := ih (List.cons_ne_nil _ _) plains own
            rwa [List.singleton_append, Closes]
        · obtain ⟨⟨n, left⟩, some, same⟩ := Option.map_eq_some_iff.mp change
          cases same
          obtain ⟨size, open'⟩ := leaveBlocks_length some
          have := List.length_pos_iff.mpr open'
          rw [show (top :: outer).length - 1 = n + (left.length - 1) by omega, closes_replicate]
          exact ih open' plains own

/-- Whether entries end with the end of a line. -/
def EndsInNewline (entries : List Entry) : Prop :=
  ∃ spelling, entries.getLast? = some (.token .newline spelling)

theorem endsInLine_append (used : List Token) {ts : List Token} (filled : ts ≠ []) (ends : EndsInLine ts) :
    EndsInLine (used ++ ts) := by
  intro t last
  rw [List.getLast?_append_of_ne_nil used filled] at last
  exact ends t last

/-- Entries that end with a line are laid out as tokens that do. -/
theorem layOut_ends {columns : List Column} {entries : List Entry} (ends : EndsInNewline entries)
    {ts : List Token} (found : layOut columns entries = some ts) : ts ≠ [] ∧ EndsInLine ts := by
  induction entries generalizing columns ts with
  | nil =>
    obtain ⟨spelling, never⟩ := ends
    cases never
  | cons entry entries ih =>
    by_cases last : entries = []
    · obtain ⟨spelling, same⟩ := ends
      cases last
      cases same
      cases found
      refine ⟨List.cons_ne_nil _ _, fun t last => ?_⟩
      rcases List.mem_cons.mp (List.mem_of_getLast? last) with rfl | closes
      · rfl
      · cases List.eq_of_mem_replicate closes
        rfl
    · have behind : EndsInNewline entries := by
        obtain ⟨spelling, same⟩ := ends
        exact ⟨spelling, by rwa [List.getLast?_cons_of_ne_nil last] at same⟩
      cases entry with
      | token token spelling =>
        obtain ⟨more, own, rfl⟩ := Option.map_eq_some_iff.mp found
        obtain ⟨filled, ends⟩ := ih behind own
        exact ⟨List.cons_ne_nil _ _, endsInLine_append [token] filled ends⟩
      | line blanks =>
        rw [layOut_line] at found
        obtain ⟨⟨changes, left⟩, -, found⟩ := Option.bind_eq_some_iff.mp found
        obtain ⟨more, own, rfl⟩ := Option.map_eq_some_iff.mp found
        obtain ⟨filled, ends⟩ := ih behind own
        exact ⟨by simp [filled], endsInLine_append changes filled ends⟩

/-- The largest number of blocks that are open at once, of which some are open before. -/
def deepest : (opened : Nat) → List Token → Nat
  | n, [] => n
  | n, .indent :: rest => deepest (n + 1) rest
  | n, .dedent :: rest => max n (deepest (n - 1) rest)
  | n, _ :: rest => deepest n rest

theorem le_deepest (n : Nat) (ts : List Token) : n ≤ deepest n ts := by
  fun_induction deepest n ts <;> omega

theorem deepest_replicate (n m : Nat) (ts : List Token) :
    deepest m ts ≤ deepest (n + m) (List.replicate n .dedent ++ ts) := by
  induction n with
  | zero => simp
  | succ n ih =>
    rw [List.replicate_succ, List.cons_append, deepest, Nat.succ_add, Nat.succ_sub_one]
    exact Nat.le_trans ih (Nat.le_max_right _ _)

theorem deepest_cons (n : Nat) (t : Token) (indent : t ≠ .indent) (dedent : t ≠ .dedent) (ts : List Token) :
    deepest n (t :: ts) = deepest n ts := by
  cases t with
  | indent => exact absurd rfl indent
  | dedent => exact absurd rfl dedent
  | _ => rw [deepest]; all_goals simp

/-! ## Layout below a block -/

section

variable {pairs : List (Column × Column)} {base : Column}

/-- What a line does to the open blocks it also does below one block more, unless that is one too many. -/
theorem changeIndentation_follows (keeps : KeepsOrder pairs) (above : ∀ p ∈ pairs, base.wide < p.2.wide)
    {column column' : Column} (paired : (column, column') ∈ pairs) {columns columns' : List Column}
    (opened : columns ≠ []) (stacked : Paired pairs columns columns') :
    changeIndentation column columns = none ∧ changeIndentation column' (columns' ++ [base]) = none ∨
      ∃ changes left left', changeIndentation column columns = some (changes, left) ∧ left ≠ [] ∧
        Paired pairs left left' ∧
        (∀ ts, deepest (left.length - 1) ts ≤ deepest (columns.length - 1) (changes ++ ts)) ∧
        (changeIndentation column' (columns' ++ [base]) = some (changes, left' ++ [base]) ∨
          deepestIndentation ≤ left.length ∧ changeIndentation column' (columns' ++ [base]) = none) := by
  cases stacked with
  | nil => exact absurd rfl opened
  | @cons top top' outer outer' tops stacked =>
    have less : top.wide < column.wide ↔ top'.wide < column'.wide := (keeps _ tops _ paired).1
    have narrow : column.narrow ≤ top.narrow ↔ column'.narrow ≤ top'.narrow := by
      have := (keeps _ tops _ paired).2
      simp only at this
      omega
    have size : outer'.length = outer.length := stacked.length_eq.symm
    rw [List.cons_append]
    by_cases deeper : top.wide < column.wide
    · rw [changeIndentation_deeper _ deeper, changeIndentation_deeper _ (less.mp deeper), List.length_append,
        List.length_singleton, size]
      by_cases refused : column.narrow ≤ top.narrow ∨ deepestIndentation ≤ outer.length + 1
      · rw [if_pos refused, if_pos (by omega)]
        exact .inl ⟨rfl, rfl⟩
      rw [if_neg refused]
      refine .inr ⟨_, _, column' :: top' :: outer', rfl, List.cons_ne_nil _ _,
        .cons paired (.cons tops stacked), fun ts => Nat.le_refl _, ?_⟩
      by_cases full : deepestIndentation ≤ outer.length + 2
      · exact .inr ⟨full, if_pos (.inr full)⟩
      · exact .inl (if_neg (by omega))
    · rw [changeIndentation_of_le _ deeper, changeIndentation_of_le _ (less.not.mp deeper)]
      obtain ⟨none, none'⟩ | ⟨n, left, left', found, found', paired⟩ :=
        leaveBlocks_follows keeps above paired (.cons tops stacked)
      · rw [List.cons_append] at none'
        rw [none, none']
        exact .inl ⟨rfl, rfl⟩
      rw [List.cons_append] at found'
      obtain ⟨total, filled⟩ := leaveBlocks_length found
      have size : (top :: outer).length - 1 = n + (left.length - 1) := by
        have := List.length_pos_iff.mpr filled
        omega
      rw [found, found', size]
      exact .inr ⟨_, _, left', rfl, filled, paired, deepest_replicate n _, .inl rfl⟩

/-- Lines that compare alike are laid out alike, and one block around all of them is closed at the end. -/
theorem layOut_follows (keeps : KeepsOrder pairs) (above : ∀ p ∈ pairs, base.wide < p.2.wide)
    {entries entries' : List Entry} (follows : List.Forall₂ (Entry.Follows pairs) entries entries')
    (plain : ∀ entry ∈ entries, entry.IsPlain) {columns columns' : List Column} (opened : columns ≠ [])
    (stacked : Paired pairs columns columns')
    (shallow : ∀ ts, layOut columns entries = some ts →
      deepest (columns.length - 1) ts + 1 < deepestIndentation) :
    layOut (columns' ++ [base]) entries' = (layOut columns entries).map (· ++ [.dedent]) := by
  induction follows generalizing columns columns' with
  | nil =>
    have size : columns'.length = columns.length := stacked.length_eq.symm
    have some := List.length_pos_iff.mpr opened
    rw [layOut, layOut, Option.map_some, List.length_append, size, List.length_singleton, Nat.add_sub_cancel,
      ← List.replicate_succ', Nat.sub_one_add_one (Nat.pos_iff_ne_zero.mp some)]
  | @cons entry entry' entries entries' same follows ih =>
    obtain ⟨here, plains⟩ := List.forall_mem_cons.mp plain
    cases same with
    | token t spelling spelling' =>
      rw [layOut, layOut, ih plains opened stacked ?_]
      · cases layOut columns entries <;> simp
      · intro ts found
        rw [← deepest_cons _ t here.1 here.2]
        exact shallow _ (by rw [layOut, found]; rfl)
    | @line blanks blanks' paired =>
      rw [layOut_line, layOut_line]
      rw [layOut_line] at shallow
      obtain ⟨none, none'⟩ | ⟨changes, left, left', found, filled, inner, depth, change⟩ :=
        changeIndentation_follows keeps above paired opened stacked
      · rw [none, none']
        rfl
      rw [found, Option.bind_some] at shallow ⊢
      have shallow ts (own : layOut left entries = some ts) :
          deepest (left.length - 1) ts + 1 < deepestIndentation :=
        Nat.lt_of_le_of_lt (Nat.succ_le_succ (depth ts)) (shallow _ (by simp [own]))
      obtain found' | ⟨full, none'⟩ := change
      · rw [found', Option.bind_some]
        dsimp only
        rw [ih plains filled inner shallow]
        cases layOut left entries <;> simp
      -- The block that is one too many can only stand in a source that is not laid out anyway.
      · cases own : layOut left entries with
        | none => simp [none', own]
        | some ts =>
          have deep := le_deepest (left.length - 1) ts
          have := shallow ts own
          omega

end

end IssueBoard.Script
