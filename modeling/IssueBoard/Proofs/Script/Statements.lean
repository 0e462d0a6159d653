import IssueBoard.Proofs.Script.Expressions
import IssueBoard.Script.Block

/-! # Statements end with their lines

A statement takes whole lines, and a block that it opens is closed in them. What stands behind these lines plays
no role unless it goes on with the statement. So the statements of a source are the statements of a block with
the same tokens.
-/

namespace IssueBoard.Script

variable {α β : Type}

/-! ## Readers as steps -/

/-- Whether a statement ends before these tokens. -/
def noValue (ts : List Token) : Bool := ts.head? = some .newline ∨ ts.head? = some (.mark .semicolon)

theorem reads_expressionUnlessEnd : reads expressionUnlessEnd = fun ts =>
    if noValue ts then (pure none : Reader Token (Option Expr)) ts else (some <$> reads expression) ts := by
  funext ts
  rw [reads, expressionUnlessEnd, noValue]
  simp only [decide_eq_true_eq]
  split
  · rfl
  · rw [map_eq_pure_bind]
    exact bare_bind fun value rest _ => rfl

theorem reads_assignmentFrom (targets : List Target) (last : Expr) : reads (assignmentFrom targets last) = do
    if ← taken (.mark .assign) then
      let target ← given last.target?
      let next ← reads expression
      return (← reads (assignmentFrom (targets ++ [target]) next))
    else return if targets.isEmpty then .expression last else .assign targets last := by
  funext ts
  rw [reads, assignmentFrom]
  split
  next none => rw [taken_none none]; rfl
  next rest _ found =>
    rw [taken_some found]
    refine bare_given fun target => ?_
    refine bare_bind fun next rest _ => ?_
    exact bare_last fun stmt rest _ => rfl

theorem reads_expressionStatement : reads expressionStatement = do
    let first ← reads expression
    match ← attempt (operator? augmentOp?) with
    | some op =>
      let target ← given first.target?
      return .augment target op (← reads expression)
    | none => return (← reads (assignmentFrom [] first)) := by
  funext ts
  rw [reads, expressionStatement]
  refine bare_bind fun first rest _ => ?_
  dsimp only
  split
  next op rest _ found =>
    rw [attempt_some found]
    refine bare_given fun target => ?_
    exact bare_bind fun value rest _ => rfl
  next none =>
    rw [attempt_none none]
    exact bare_last fun stmt rest _ => rfl

theorem reads_simpleStatement : reads simpleStatement = do
    if ← taken (.word .passWord) then return .pass
    else if ← taken (.word .breakWord) then return .leave
    else if ← taken (.word .continueWord) then return .proceed
    else if ← taken (.word .returnWord) then return .finish (← reads expressionUnlessEnd)
    else if ← taken (.word .raiseWord) then return .raise (← reads expressionUnlessEnd)
    else return (← reads expressionStatement) := by
  funext ts
  rcases ts with _ | ⟨t, rest⟩
  · rfl
  cases t with
  | word w =>
    cases w with
    | returnWord =>
      change _ = (reads expressionUnlessEnd >>= fun value => pure (Stmt.finish value)) rest
      rw [reads, simpleStatement]
      exact bare_bind fun value rest _ => rfl
    | raiseWord =>
      change _ = (reads expressionUnlessEnd >>= fun value => pure (Stmt.raise value)) rest
      rw [reads, simpleStatement]
      exact bare_bind fun value rest _ => rfl
    | _ => rfl
  | _ => rfl

theorem reads_line : reads line = do
    let first ← reads simpleStatement
    if ← taken .newline then return [first]
    else
      must (.mark .semicolon)
      if ← taken .newline then return [first]
      else return first :: (← reads line) := by
  funext ts
  rw [reads, line]
  refine bare_bind fun first rest _ => ?_
  dsimp only
  split
  next last found => rw [taken_some found]; rfl
  next none =>
    rw [taken_none none]
    refine bare_must fun rest _ => ?_
    dsimp only
    split
    next last found => rw [taken_some found]; rfl
    next none =>
      rw [taken_none none]
      exact bare_bind fun others rest _ => rfl

theorem reads_statement : reads statement = do
    if ← taken (.word .ifWord) then return [← reads branch]
    else if ← taken (.word .whileWord) then
      let condition ← reads expression
      let body ← reads block
      return [.repeatWhile condition body (← reads elseBlock)]
    else if ← taken (.word .forWord) then
      let loopName ← reads name?
      must (.word .inWord)
      let source ← reads expression
      let body ← reads block
      return [.forEach loopName source body (← reads elseBlock)]
    else return (← reads line) := by
  funext ts
  rw [reads, statement]
  split
  next rest _ found =>
    rw [taken_some found]
    exact bare_bind fun stmt rest _ => rfl
  next none =>
    rw [taken_none none]
    split
    next rest _ found =>
      rw [if_neg Bool.false_ne_true, taken_some found]
      refine bare_bind fun condition rest _ => ?_
      refine bare_bind fun body rest _ => ?_
      exact bare_bind fun otherwise rest _ => rfl
    next none =>
      rw [if_neg Bool.false_ne_true, taken_none none]
      split
      next rest _ found =>
        rw [if_neg Bool.false_ne_true, taken_some found]
        refine bare_bind fun loopName rest _ => ?_
        refine bare_must fun rest _ => ?_
        refine bare_bind fun source rest _ => ?_
        refine bare_bind fun body rest _ => ?_
        exact bare_bind fun otherwise rest _ => rfl
      next none => rw [if_neg Bool.false_ne_true, taken_none none]; rfl

theorem reads_branch : reads branch = do
    let condition ← reads expression
    let yes ← reads block
    if ← taken (.word .elifWord) then return .branch condition yes [← reads branch]
    else return .branch condition yes (← reads elseBlock) := by
  funext ts
  rw [reads, branch]
  refine bare_bind fun condition rest _ => ?_
  refine bare_bind fun yes rest _ => ?_
  dsimp only
  split
  next rest _ found =>
    rw [taken_some found]
    exact bare_bind fun no rest _ => rfl
  next none =>
    rw [taken_none none]
    exact bare_bind fun no rest _ => rfl

theorem reads_elseBlock : reads elseBlock = do
    if ← taken (.word .elseWord) then return (← reads block)
    else return [] := by
  funext ts
  rw [reads, elseBlock]
  split
  next none => rw [taken_none none]; rfl
  next rest _ found =>
    rw [taken_some found]
    exact bare_last fun body rest _ => rfl

theorem reads_block : reads block = do
    must (.mark .colon)
    if ← taken .newline then
      must .indent
      return (← reads body)
    else return (← reads line) := by
  funext ts
  rw [reads, block]
  refine bare_must fun rest _ => ?_
  dsimp only
  split
  next none =>
    rw [taken_none none]
    exact bare_last fun body rest _ => rfl
  next rest _ found =>
    rw [taken_some found]
    refine bare_must fun rest _ => ?_
    exact bare_last fun body rest _ => rfl

theorem reads_body : reads body = do
    let first ← reads statement
    if ← taken .dedent then return first
    else return first ++ (← reads body) := by
  funext ts
  rw [reads, body]
  refine bare_bind fun first rest _ => ?_
  dsimp only
  split
  next last found => rw [taken_some found]; rfl
  next none =>
    rw [taken_none none]
    exact bare_bind fun others rest _ => rfl

/-! ## Blocks that are closed -/

/-- Whether all blocks that are opened in a list of tokens are closed in it, and some others too. -/
def Closes : (others : Nat) → List Token → Prop
  | others, [] => others = 0
  | others, .indent :: rest => Closes (others + 1) rest
  | others + 1, .dedent :: rest => Closes others rest
  | 0, .dedent :: _ => False
  | others, _ :: rest => Closes others rest

theorem closes_cons_of_plain {t : Token} (indent : t ≠ .indent) (dedent : t ≠ .dedent) (n : Nat)
    (rest : List Token) : Closes n (t :: rest) ↔ Closes n rest := by
  cases t with
  | indent => exact absurd rfl indent
  | dedent => exact absurd rfl dedent
  | _ => simp only [Closes]

theorem closes_of_takes {n : Nat} {ts rest : List Token} (takes : Takes Token.isLayout ts rest)
    (closed : Closes n ts) : Closes n rest := by
  obtain ⟨used, plain, rfl⟩ := takes
  induction used with
  | nil => exact closed
  | cons t used ih =>
    obtain ⟨here, plain⟩ := List.forall_mem_cons.mp plain
    refine ih plain ((closes_cons_of_plain ?_ ?_ n _).mp closed)
    · rintro rfl; cases here
    · rintro rfl; cases here

/-- What closes blocks that are open before is not empty. -/
theorem Closes.ne_nil {n : Nat} {ts : List Token} (closed : Closes (n + 1) ts) : ts ≠ [] := by
  rintro rfl
  cases closed

/-! ## Ends of lines -/

/-- Whether a token is the end of a line or of a block. -/
def Token.isEnd : Token → Bool
  | .newline | .dedent => true
  | _ => false

/-- Whether the last of some tokens is the end of a line or of a block. -/
def EndsInLine (ts : List Token) : Prop := ∀ t, ts.getLast? = some t → t.isEnd = true

/-- Whether a rest of some tokens stands right behind the end of a line or of a block. -/
def EndsLine (start rest : List Token) : Prop := ∃ t, t.isEnd = true ∧ (t :: rest) <:+ start

theorem EndsLine.suffix {start rest : List Token} (ends : EndsLine start rest) : rest <:+ start := by
  obtain ⟨t, -, within⟩ := ends
  exact (List.suffix_cons t rest).trans within

theorem EndsInLine.of_suffix {start rest : List Token} (whole : EndsInLine start) (within : rest <:+ start) :
    EndsInLine rest := by
  obtain ⟨used, rfl⟩ := within
  intro t last
  refine whole t ?_
  rw [List.getLast?_append, last]
  rfl

/-- Whether what follows some lines goes on with none of their statements. -/
structure IsFresh (tail : List Token) : Prop where
  elif : tail.head? ≠ some (.word .elifWord)
  otherwise : tail.head? ≠ some (.word .elseWord)
  indent : tail.head? ≠ some .indent

/-- Whether a rest of some lines, in which some blocks are open, starts in the middle of a line. -/
structure Inside (n : Nat) (start ts : List Token) : Prop where
  closed : Closes n ts
  within : ts <:+ start
  filled : ts ≠ []

/-- Whether a rest of some lines, in which some blocks are open, starts with a line. -/
structure Behind (n : Nat) (start ts : List Token) : Prop where
  closed : Closes n ts
  ends : EndsLine start ts

section

variable {n : Nat} {start tail ts : List Token}

theorem Behind.inside (behind : Behind (n + 1) start ts) : Inside (n + 1) start ts :=
  ⟨behind.closed, behind.ends.suffix, behind.closed.ne_nil⟩

/-- A line does not end in front of its end. -/
theorem Inside.next {t : Token} {rest : List Token} (whole : EndsInLine start)
    (inside : Inside n start (t :: rest)) (plain : t.isLayout = false) : Inside n start rest := by
  refine ⟨(closes_cons_of_plain ?_ ?_ n rest).mp inside.closed,
    (List.suffix_cons t rest).trans inside.within, ?_⟩
  · rintro rfl
    cases plain
  · rintro rfl
    cases plain
  · rintro rfl
    have ends := whole.of_suffix inside.within t rfl
    cases t with
    | newline | dedent => cases plain
    | _ => cases ends

/-- A line ends behind its end. -/
theorem Inside.behind {rest : List Token} (inside : Inside n start (.newline :: rest)) : Behind n start rest :=
  ⟨(closes_cons_of_plain (by decide) (by decide) n rest).mp inside.closed, .newline, rfl, inside.within⟩

theorem Behind.next {t : Token} {rest : List Token} (whole : EndsInLine start)
    (behind : Behind n start (t :: rest)) (plain : t.isLayout = false) : Inside n start rest :=
  Inside.next whole ⟨behind.closed, behind.ends.suffix, List.cons_ne_nil _ _⟩ plain

/-- A block is opened. -/
theorem Behind.opened {rest : List Token} (behind : Behind n start (.indent :: rest)) :
    Inside (n + 1) start rest := by
  have closed : Closes (n + 1) rest := by simpa only [Closes] using behind.closed
  exact ⟨closed, (List.suffix_cons _ rest).trans behind.ends.suffix, closed.ne_nil⟩

/-- A block is closed. -/
theorem Behind.left {rest : List Token} (behind : Behind (n + 1) start (.dedent :: rest)) :
    Behind n start rest :=
  ⟨by simpa only [Closes] using behind.closed, .dedent, rfl, behind.ends.suffix⟩

/-- What is read behind something else, when blocks are counted. -/
theorem leaves_bind_reads {p : List Token → List Token → Prop} {kind kind' : List Token → Prop}
    {read : (ts : List Token) → Option (α × Subtype (p ts))} {next : α → Reader Token β}
    (leaves : Leaves tail (reads read) ts kind)
    (each : ∀ x rest, p ts rest → kind rest → Leaves tail (next x) rest kind') :
    Leaves tail (reads read >>= next) ts kind' :=
  leaves.bind fun x rest found => each x rest (reads_eq_some found)

/-- A reader that stops at the end of a line does not see what stands behind the lines. -/
theorem leaves_of_stays {read : Reader Token α} (whole : EndsInLine start)
    (stays : ∀ tail, IsTail Token.isLayout tail → ∀ ts, Stays Token.isLayout tail read ts)
    (inside : Inside n start ts) : Leaves tail read ts (Inside n start) := by
  obtain ⟨line, t, rfl⟩ : ∃ line t, ts = line ++ [t] :=
    ⟨_, _, (List.dropLast_concat_getLast inside.filled).symm⟩
  have layout : t.isLayout = true := by
    have last := whole.of_suffix inside.within t (by simp)
    cases t with
    | newline | dedent => rfl
    | _ => cases last
  have ends (more : List Token) : IsTail Token.isLayout (t :: more) := by
    intro u same
    cases same
    exact layout
  have stays (more : List Token) := stays (t :: more) (ends more) line
  constructor
  · rw [List.append_assoc, List.singleton_append, (stays tail).append, (stays []).append]
    cases read line <;> simp [grow]
  · intro x rest found
    rw [(stays []).append] at found
    obtain ⟨⟨x, after⟩, own, same⟩ := Option.map_eq_some_iff.mp found
    cases same
    have takes : Takes Token.isLayout (line ++ [t]) (after ++ [t]) := by
      obtain ⟨used, plain, rfl⟩ := (stays []).left x after own
      exact ⟨used, plain, List.append_assoc ..⟩
    obtain ⟨used, -, same⟩ := id takes
    exact ⟨closes_of_takes takes inside.closed, (same ▸ List.suffix_append used _).trans inside.within,
      by simp⟩

/-- A choice that hangs on what stands in a line. -/
theorem leaves_bind_attempt {read : (ts : List Token) → Option (α × Shorter ts)}
    {next : Option α → Reader Token β} {kind : List Token → Prop} (whole : EndsInLine start)
    (stays : ∀ tail, IsTail Token.isLayout tail → ∀ ts, Stays Token.isLayout tail (reads read) ts)
    (inside : Inside n start ts)
    (one : ∀ x rest, rest.length < ts.length → Inside n start rest → Leaves tail (next (some x)) rest kind)
    (other : Leaves tail (next none) ts kind) : Leaves tail (attempt read >>= next) ts kind := by
  have attempted : Leaves tail (attempt read) ts (Inside n start) :=
    leaves_of_stays whole (fun _ ends ts => stays_attempt (stays _ ends ts)) inside
  refine attempted.bind fun found rest done inside => ?_
  rw [attempt] at done
  split at done
  · next x after _ =>
    cases done
    exact one x after.1 after.2 inside
  · cases done
    exact other

/-- A choice that hangs on a token in a line. -/
theorem leaves_ifWord {yes no : Reader Token β} {token : Token} {kind : List Token → Prop}
    (whole : EndsInLine start) (plain : token.isLayout = false) (inside : Inside n start ts)
    (one : ∀ rest, rest.length < ts.length → Inside n start rest → Leaves tail yes rest kind)
    (other : Leaves tail no ts kind) :
    Leaves tail (taken token >>= fun found => if found = true then yes else no) ts kind := by
  refine leaves_ifTaken (.inl inside.filled) (fun rest same => ?_) other
  subst same
  exact one rest (Nat.lt_succ_self _) (inside.next whole plain)

/-- A choice that hangs on the end of a line. -/
theorem leaves_ifNewline {yes no : Reader Token β} {kind : List Token → Prop} (inside : Inside n start ts)
    (one : ∀ rest, rest.length < ts.length → Behind n start rest → Leaves tail yes rest kind)
    (other : Leaves tail no ts kind) :
    Leaves tail (taken .newline >>= fun found => if found = true then yes else no) ts kind := by
  refine leaves_ifTaken (.inl inside.filled) (fun rest same => ?_) other
  subst same
  exact one rest (Nat.lt_succ_self _) inside.behind

/-- A token that has to stand in a line. -/
theorem leaves_mustWord {next : Unit → Reader Token β} {token : Token} {kind : List Token → Prop}
    (whole : EndsInLine start) (plain : token.isLayout = false) (inside : Inside n start ts)
    (each : ∀ rest, rest.length < ts.length → Inside n start rest → Leaves tail (next ()) rest kind) :
    Leaves tail (must token >>= next) ts kind := by
  refine leaves_must (.inl inside.filled) fun rest same => ?_
  subst same
  exact each rest (Nat.lt_succ_self _) (inside.next whole plain)

end

/-! ## Simple statements -/

theorem noValue_append {ts : List Token} (filled : ts ≠ []) (tail : List Token) :
    noValue (ts ++ tail) = noValue ts := by
  cases ts with
  | nil => exact absurd rfl filled
  | cons => rfl

theorem augmentOp_layout {t : Token} (layout : t.isLayout = true) : augmentOp? t = none := by
  cases t with
  | newline | indent | dedent => rfl
  | _ => cases layout

section

variable {n : Nat} {start tail ts : List Token} (whole : EndsInLine start)

include whole

theorem leaves_expression (inside : Inside n start ts) :
    Leaves tail (reads expression) ts (Inside n start) :=
  leaves_of_stays whole (fun _ => stays_expression) inside

theorem leaves_name (inside : Inside n start ts) : Leaves tail (reads name?) ts (Inside n start) :=
  leaves_of_stays whole (fun _ ends => stays_name ends) inside

theorem leaves_expressionUnlessEnd (inside : Inside n start ts) :
    Leaves tail (reads expressionUnlessEnd) ts (Inside n start) := by
  rw [reads_expressionUnlessEnd]
  refine Leaves.ite (noValue_append inside.filled tail) (.pure none inside) ?_
  rw [map_eq_pure_bind]
  exact leaves_bind_reads (leaves_expression whole inside) fun _ _ _ inside => .pure _ inside

theorem leaves_assignmentFrom (targets : List Target) (last : Expr) {ts : List Token}
    (inside : Inside n start ts) :
    Leaves tail (reads (assignmentFrom targets last)) ts (Inside n start) := by
  rw [reads_assignmentFrom]
  refine leaves_ifWord whole rfl inside (fun rest h inside => ?_) (.pure _ inside)
  refine Leaves.given fun target => ?_
  refine leaves_bind_reads (leaves_expression whole inside) fun next rest h inside => ?_
  exact leaves_assignmentFrom _ next inside
termination_by ts.length

theorem leaves_expressionStatement (inside : Inside n start ts) :
    Leaves tail (reads expressionStatement) ts (Inside n start) := by
  rw [reads_expressionStatement]
  refine leaves_bind_reads (leaves_expression whole inside) fun first rest h inside => ?_
  refine leaves_bind_attempt whole (fun _ ends ts => stays_operator ends ts fun _ => augmentOp_layout) inside
    (fun op rest h inside => ?_) (leaves_assignmentFrom whole [] first inside)
  refine Leaves.given fun target => ?_
  exact leaves_bind_reads (leaves_expression whole inside) fun _ _ _ inside => .pure _ inside

theorem leaves_simpleStatement (inside : Inside n start ts) :
    Leaves tail (reads simpleStatement) ts (Inside n start) := by
  rw [reads_simpleStatement]
  refine leaves_ifWord whole rfl inside (fun rest h inside => .pure _ inside) ?_
  refine leaves_ifWord whole rfl inside (fun rest h inside => .pure _ inside) ?_
  refine leaves_ifWord whole rfl inside (fun rest h inside => .pure _ inside) ?_
  refine leaves_ifWord whole rfl inside (fun rest h inside => ?_) ?_
  · exact leaves_bind_reads (leaves_expressionUnlessEnd whole inside) fun _ _ _ inside => .pure _ inside
  refine leaves_ifWord whole rfl inside (fun rest h inside => ?_) ?_
  · exact leaves_bind_reads (leaves_expressionUnlessEnd whole inside) fun _ _ _ inside => .pure _ inside
  · exact leaves_expressionStatement whole inside

/-! ## Statements -/

theorem leaves_line {ts : List Token} (inside : Inside n start ts) : Leaves tail (reads line) ts (Behind n start) := by
  rw [reads_line]
  refine leaves_bind_reads (leaves_simpleStatement whole inside) fun first rest h inside => ?_
  refine leaves_ifNewline inside (fun rest _ behind => .pure _ behind) ?_
  refine leaves_mustWord whole rfl inside fun rest h' inside => ?_
  refine leaves_ifNewline inside (fun rest _ behind => .pure _ behind) ?_
  exact leaves_bind_reads (leaves_line inside) fun others rest _ behind => .pure _ behind
termination_by ts.length
decreasing_by omega

end

section

variable {start tail : List Token}

mutual

theorem leaves_statement (whole : EndsInLine start) (fresh : IsFresh tail) {n : Nat} {ts : List Token}
    (inside : Inside n start ts) :
    Leaves tail (reads statement) ts (Behind n start) := by
  rw [reads_statement]
  refine leaves_ifWord whole rfl inside (fun rest h inside => ?_) ?_
  · exact leaves_bind_reads (leaves_branch whole fresh inside) fun _ _ _ behind => .pure _ behind
  refine leaves_ifWord whole rfl inside (fun rest h inside => ?_) ?_
  · refine leaves_bind_reads (leaves_expression whole inside) fun condition rest h inside => ?_
    refine leaves_bind_reads (leaves_block whole fresh inside) fun body rest h behind => ?_
    exact leaves_bind_reads (leaves_elseBlock whole fresh behind) fun _ _ _ behind => .pure _ behind
  refine leaves_ifWord whole rfl inside (fun rest h inside => ?_) ?_
  · refine leaves_bind_reads (leaves_name whole inside) fun loopName rest h inside => ?_
    refine leaves_mustWord whole rfl inside fun rest h inside => ?_
    refine leaves_bind_reads (leaves_expression whole inside) fun source rest h inside => ?_
    refine leaves_bind_reads (leaves_block whole fresh inside) fun body rest h behind => ?_
    exact leaves_bind_reads (leaves_elseBlock whole fresh behind) fun _ _ _ behind => .pure _ behind
  · exact leaves_line whole inside
termination_by 4 * ts.length + 1
decreasing_by all_goals omega

theorem leaves_branch (whole : EndsInLine start) (fresh : IsFresh tail) {n : Nat} {ts : List Token}
    (inside : Inside n start ts) :
    Leaves tail (reads branch) ts (Behind n start) := by
  rw [reads_branch]
  refine leaves_bind_reads (leaves_expression whole inside) fun condition rest h inside => ?_
  refine leaves_bind_reads (leaves_block whole fresh inside) fun yes rest h behind => ?_
  refine leaves_ifTaken (.inr fresh.elif) (fun rest same => ?_) ?_
  · subst same
    exact leaves_bind_reads (leaves_branch whole fresh (behind.next whole rfl)) fun _ _ _ behind => .pure _ behind
  · exact leaves_bind_reads (leaves_elseBlock whole fresh behind) fun _ _ _ behind => .pure _ behind
termination_by 4 * ts.length + 1
decreasing_by all_goals simp only [List.length_cons] at *; omega

theorem leaves_elseBlock (whole : EndsInLine start) (fresh : IsFresh tail) {n : Nat} {ts : List Token}
    (behind : Behind n start ts) :
    Leaves tail (reads elseBlock) ts (Behind n start) := by
  rw [reads_elseBlock]
  refine leaves_ifTaken (.inr fresh.otherwise) (fun rest same => ?_) (.pure _ behind)
  subst same
  exact leaves_block whole fresh (behind.next whole rfl)
termination_by 4 * ts.length
decreasing_by simp_all

theorem leaves_block (whole : EndsInLine start) (fresh : IsFresh tail) {n : Nat} {ts : List Token}
    (inside : Inside n start ts) :
    Leaves tail (reads block) ts (Behind n start) := by
  rw [reads_block]
  refine leaves_mustWord whole rfl inside fun rest h inside => ?_
  refine leaves_ifNewline inside (fun rest h behind => ?_) ?_
  · refine leaves_must (.inr fresh.indent) fun rest same => ?_
    subst same
    exact leaves_body whole fresh behind.opened
  · exact leaves_line whole inside
termination_by 4 * ts.length
decreasing_by all_goals simp only [List.length_cons] at *; omega

theorem leaves_body (whole : EndsInLine start) (fresh : IsFresh tail) {n : Nat} {ts : List Token}
    (inside : Inside (n + 1) start ts) :
    Leaves tail (reads body) ts (Behind n start) := by
  rw [reads_body]
  refine leaves_bind_reads (leaves_statement whole fresh inside) fun first rest h behind => ?_
  refine leaves_ifTaken (.inl behind.closed.ne_nil) (fun rest same => ?_) ?_
  · subst same
    exact .pure _ behind.left
  · exact leaves_bind_reads (leaves_body whole fresh behind.inside) fun _ _ _ behind => .pure _ behind
termination_by 4 * ts.length + 2
decreasing_by all_goals omega

end

end

/-! ## A source as a block -/

theorem statements_nil : statements [] = some [] := by
  rw [statements.eq_def]
  rfl

theorem statements_of_ne_nil {ts : List Token} (filled : ts ≠ []) : statements ts =
    (reads statement ts).bind fun (first, rest) => (statements rest).map (first ++ ·) := by
  rw [statements, if_neg (by simpa using filled), reads, bare]
  simp only [bind, Option.bind]
  cases statement ts with
  | none => rfl
  | some found => cases same : statements found.2.1 <;> simp [same]

/-- What ends with a block goes on with no statement. -/
theorem isFresh_dedent (more : List Token) : IsFresh (.dedent :: more) :=
  ⟨by simp, by simp, by simp⟩

/-- The statements of a source are those of a block with the same tokens, whatever stands behind it. -/
theorem body_append_dedent (more : List Token) {ts : List Token} (whole : EndsInLine ts)
    (closed : Closes 0 ts) (filled : ts ≠ []) :
    reads body (ts ++ .dedent :: more) = (statements ts).map (·, more) := by
  have leaves := leaves_statement whole (isFresh_dedent more) ⟨closed, List.suffix_rfl, filled⟩
  rw [reads_body, statements_of_ne_nil filled]
  rcases found : reads statement ts with _ | ⟨first, rest⟩
  · rw [bind_of_none (by rw [leaves.append, found]; rfl)]
    rfl
  have shorter : rest.length < ts.length := reads_eq_some found
  obtain ⟨closed, ends⟩ := leaves.left first rest found
  rw [bind_of_some (by rw [leaves.append, found]; rfl)]
  by_cases last : rest = []
  · subst last
    rw [List.nil_append, taken_some (expect_cons ..), if_pos rfl]
    simp [pure_apply, statements_nil]
  · have other : (rest ++ .dedent :: more).head? ≠ some Token.dedent := by
      cases rest with
      | nil => exact absurd rfl last
      | cons t rest =>
        rintro same
        cases same
        cases closed
    have ih := body_append_dedent more (whole.of_suffix ends.suffix) closed last
    rw [taken_none (expect_of_head?_ne other), if_neg Bool.false_ne_true]
    cases done : statements rest with
    | none =>
      rw [bind_of_none (by rw [ih, done]; rfl)]
      simp [done]
    | some others =>
      rw [bind_of_some (by rw [ih, done]; rfl)]
      simp [done, pure_apply]
termination_by ts.length

section

variable (rest : List Token)

/-- A source behind a condition that always holds. -/
def underTrue : List Token := .word .ifWord :: .word .trueWord :: .mark .colon :: rest

/-- Whether a reader takes the condition, and nothing behind it. -/
def TakesTrue (read : Reader Token Expr) : Prop :=
  read (.word .trueWord :: .mark .colon :: rest) = some (.literal (.flag true), .mark .colon :: rest)

theorem takesTrue_factor : TakesTrue rest (reads factor) := by
  have primary : TakesTrue rest (reads primary) := by
    rw [TakesTrue, reads_primary, reads_atom, bind_of_some rfl, reads_trailers]
    rfl
  have operand : TakesTrue rest (reads operand) := by
    rw [TakesTrue, reads_operand, taken_none rfl]
    exact primary
  rw [TakesTrue, reads_factor, attempt_none rfl]
  dsimp only
  rw [bind_of_some operand]
  rfl

theorem reads_condition :
    reads expression (.word .trueWord :: .mark .colon :: rest) =
      some (.literal (.flag true), .mark .colon :: rest) := by
  have product : TakesTrue rest (reads product) := by
    rw [TakesTrue, reads_product, bind_of_some (takesTrue_factor rest), reads_productFrom]
    rfl
  have sum : TakesTrue rest (reads sum) := by
    rw [TakesTrue, reads_sum, bind_of_some product, reads_sumFrom]
    rfl
  have inversion : TakesTrue rest (reads inversion) := by
    rw [TakesTrue, reads_inversion, taken_none rfl, if_neg Bool.false_ne_true, bind_of_some sum,
      reads_comparisons]
    rfl
  have disjunction : TakesTrue rest (reads disjunction) := by
    rw [TakesTrue, reads_disjunction,
      bind_of_some (by rw [reads_conjunction, bind_of_some inversion]; rfl)]
    rfl
  rw [reads_expression, bind_of_some disjunction]
  rfl

end

/-- A source below a condition that always holds is the block of that condition. -/
theorem statements_underTrue {ts : List Token} (whole : EndsInLine ts) (closed : Closes 0 ts)
    (filled : ts ≠ []) :
    statements (underTrue (.newline :: .indent :: (ts ++ [.dedent]))) =
      (statements ts).map fun inner => [.branch (.literal (.flag true)) inner []] := by
  have block : reads block (.mark .colon :: .newline :: .indent :: (ts ++ [.dedent])) =
      (statements ts).map (·, []) := by
    rw [reads_block, must_cons, taken_some (expect_cons ..), if_pos rfl, must_cons]
    exact body_append_dedent [] whole closed filled
  have branch : reads branch (.word .trueWord :: .mark .colon :: .newline :: .indent :: (ts ++ [.dedent])) =
      (statements ts).map fun inner => (.branch (.literal (.flag true)) inner [], []) := by
    rw [reads_branch, bind_of_some (reads_condition _)]
    cases done : statements ts with
    | none => rw [bind_of_none (by rw [block, done]; rfl)]; rfl
    | some inner =>
      rw [bind_of_some (by rw [block, done]; rfl), taken_none rfl, if_neg Bool.false_ne_true, reads_elseBlock]
      rfl
  rw [underTrue, statements_of_ne_nil (List.cons_ne_nil _ _), reads_statement, taken_some (expect_cons ..),
    if_pos rfl]
  cases done : statements ts with
  | none => rw [bind_of_none (by rw [branch, done]; rfl)]; rfl
  | some inner =>
    rw [bind_of_some (by rw [branch, done]; rfl)]
    simp [pure_apply, statements_nil]

end IssueBoard.Script
