import IssueBoard.Proofs.Reader
import IssueBoard.Script.Grammar

/-! # Expressions end at the end of a line

No reader of expressions takes an end of a line or a change of the indentation off, and none of them cares
whether such a token or nothing at all stands behind an expression.
-/

namespace IssueBoard.Script

variable {α β : Type}

/-! ## Readers as steps -/

/-- Takes a token off if it is there, and says whether it was. -/
def taken (token : Token) : Reader Token Bool := fun ts =>
  match expect token ts with
  | some rest => some (true, rest.1)
  | none => some (false, ts)

/-- Takes a token off. -/
def must (token : Token) : Reader Token Unit := fun ts => (expect token ts).map fun rest => ((), rest.1)

/-- Takes off what a reader finds, if it finds something. -/
def attempt (read : (ts : List Token) → Option (α × Shorter ts)) : Reader Token (Option α) := fun ts =>
  match read ts with
  | some (x, rest) => some (some x, rest.1)
  | none => some (none, ts)

section

variable {ts : List Token} {token : Token}

theorem bare_must {q : List Token → Prop} {next : Shorter ts → Option (β × Subtype q)}
    {k : Unit → Reader Token β} (each : ∀ rest shorter, bare (next ⟨rest, shorter⟩) = k () rest) :
    bare (expect token ts >>= next) = (must token >>= k) ts := by
  simp only [bind, StateT.bind, must]
  rcases expect token ts with _ | ⟨rest, shorter⟩
  · rfl
  · exact each rest shorter

theorem taken_none (none : expect token ts = none) {k : Bool → Reader Token β} :
    (taken token >>= k) ts = k false ts := by
  simp only [bind, StateT.bind, taken, none]
  rfl

theorem taken_some {rest : Shorter ts} (found : expect token ts = some rest) {k : Bool → Reader Token β} :
    (taken token >>= k) ts = k true rest.1 := by
  simp only [bind, StateT.bind, taken, found]
  rfl

variable {read : (ts : List Token) → Option (α × Shorter ts)}

theorem attempt_none (none : read ts = none) {k : Option α → Reader Token β} :
    (attempt read >>= k) ts = k .none ts := by
  simp only [bind, StateT.bind, attempt, none]
  rfl

theorem attempt_some {x : α} {rest : Shorter ts} (found : read ts = some (x, rest))
    {k : Option α → Reader Token β} : (attempt read >>= k) ts = k (some x) rest.1 := by
  simp only [bind, StateT.bind, attempt, found]
  rfl

end

section

variable {tail ts : List Token} {token : Token} {kind : List Token → Prop}

theorem expect_cons (token : Token) (rest : List Token) :
    expect token (token :: rest) = some ⟨rest, Nat.lt_succ_self _⟩ := by
  rw [expect, if_pos rfl]

theorem expect_of_head?_ne (other : ts.head? ≠ some token) : expect token ts = none := by
  cases ts with
  | nil => rfl
  | cons t ts =>
    rw [expect, if_neg]
    rintro rfl
    exact other rfl

theorem must_none (none : expect token ts = none) {k : Unit → Reader Token β} :
    (must token >>= k) ts = .none := by
  simp only [bind, StateT.bind, must, none]
  rfl

theorem must_cons {rest : List Token} {k : Unit → Reader Token β} :
    (must token >>= k) (token :: rest) = k () rest := by
  simp only [bind, StateT.bind, must, expect_cons]
  rfl

/-- The first token is that of the list, or of the tail behind an empty list. -/
theorem head?_append_ne (free : ts ≠ [] ∨ tail.head? ≠ some token) (other : ts.head? ≠ some token) :
    (ts ++ tail).head? ≠ some token := by
  cases ts with
  | nil => exact free.resolve_left fun never => never rfl
  | cons => exact other

/-- A token that has to stand here. -/
theorem leaves_must {next : Unit → Reader Token β} (free : ts ≠ [] ∨ tail.head? ≠ some token)
    (each : ∀ rest, ts = token :: rest → Leaves tail (next ()) rest kind) :
    Leaves tail (must token >>= next) ts kind := by
  by_cases same : ts.head? = some token
  · obtain ⟨rest, rfl⟩ := List.head?_eq_some_iff.mp same
    constructor
    · rw [List.cons_append, must_cons, must_cons]
      exact (each rest rfl).append
    · rw [must_cons]
      exact (each rest rfl).left
  · have none : (must token >>= next) ts = none := must_none (expect_of_head?_ne same)
    constructor
    · rw [none, must_none (expect_of_head?_ne (head?_append_ne free same))]
      rfl
    · rw [none]
      exact nofun

/-- A choice that hangs on whether a token stands here. -/
theorem leaves_ifTaken {yes no : Reader Token β} (free : ts ≠ [] ∨ tail.head? ≠ some token)
    (one : ∀ rest, ts = token :: rest → Leaves tail yes rest kind) (other : Leaves tail no ts kind) :
    Leaves tail (taken token >>= fun found => if found = true then yes else no) ts kind := by
  by_cases same : ts.head? = some token
  · obtain ⟨rest, rfl⟩ := List.head?_eq_some_iff.mp same
    constructor
    · rw [List.cons_append, taken_some (expect_cons ..), taken_some (expect_cons ..)]
      exact (one rest rfl).append
    · rw [taken_some (expect_cons ..)]
      exact (one rest rfl).left
  · constructor
    · rw [taken_none (expect_of_head?_ne same),
        taken_none (expect_of_head?_ne (head?_append_ne free same))]
      exact other.append
    · rw [taken_none (expect_of_head?_ne same)]
      exact other.left

end

/-! ## Expressions -/

theorem reads_expression : reads expression = do
    let value ← reads disjunction
    if ← taken (.word .ifWord) then
      let condition ← reads disjunction
      must (.word .elseWord)
      return .choice condition value (← reads expression)
    else return value := by
  funext ts
  rw [reads, expression]
  refine bare_bind fun value rest _ => ?_
  dsimp only
  split
  next none => rw [taken_none none]; rfl
  next rest _ found =>
    rw [taken_some found]
    refine bare_bind fun condition rest _ => ?_
    refine bare_must fun rest _ => ?_
    exact bare_bind fun other rest _ => rfl

theorem reads_disjunction : reads disjunction = do
    let left ← reads conjunction
    if ← taken (.word .orWord) then return .either left (← reads disjunction)
    else return left := by
  funext ts
  rw [reads, disjunction]
  refine bare_bind fun left rest _ => ?_
  dsimp only
  split
  next none => rw [taken_none none]; rfl
  next rest _ found =>
    rw [taken_some found]
    exact bare_bind fun right rest _ => rfl

theorem reads_conjunction : reads conjunction = do
    let left ← reads inversion
    if ← taken (.word .andWord) then return .both left (← reads conjunction)
    else return left := by
  funext ts
  rw [reads, conjunction]
  refine bare_bind fun left rest _ => ?_
  dsimp only
  split
  next none => rw [taken_none none]; rfl
  next rest _ found =>
    rw [taken_some found]
    exact bare_bind fun right rest _ => rfl

theorem reads_inversion : reads inversion = do
    if ← taken (.word .notWord) then return .unary .negation (← reads inversion)
    else
      let first ← reads sum
      let others ← reads comparisons
      return if others.isEmpty then first else .compare first others := by
  funext ts
  rw [reads, inversion]
  split
  next rest _ found =>
    rw [taken_some found]
    exact bare_bind fun operand rest _ => rfl
  next none =>
    rw [taken_none none]
    refine bare_bind fun first rest _ => ?_
    exact bare_bind fun others rest _ => rfl

theorem reads_comparisons : reads comparisons = do
    match ← attempt comparison? with
    | none => return []
    | some op =>
      let operand ← reads sum
      return (op, operand) :: (← reads comparisons) := by
  funext ts
  rw [reads, comparisons]
  split
  next none => rw [attempt_none none]; rfl
  next op rest _ found =>
    rw [attempt_some found]
    refine bare_bind fun operand rest _ => ?_
    exact bare_bind fun others rest _ => rfl

theorem reads_sum : reads sum = do
    let first ← reads product
    return (← reads (sumFrom first)) := by
  funext ts
  rw [reads, sum]
  refine bare_bind fun first rest _ => ?_
  exact bare_last fun value rest _ => rfl

theorem reads_sumFrom (left : Expr) : reads (sumFrom left) = do
    match ← attempt (operator? sumOp?) with
    | none => return left
    | some op =>
      let right ← reads product
      return (← reads (sumFrom (.binary op left right))) := by
  funext ts
  rw [reads, sumFrom]
  split
  next none => rw [attempt_none none]; rfl
  next op rest _ found =>
    rw [attempt_some found]
    refine bare_bind fun right rest _ => ?_
    exact bare_last fun value rest _ => rfl

theorem reads_product : reads product = do
    let first ← reads factor
    return (← reads (productFrom first)) := by
  funext ts
  rw [reads, product]
  refine bare_bind fun first rest _ => ?_
  exact bare_last fun value rest _ => rfl

theorem reads_productFrom (left : Expr) : reads (productFrom left) = do
    match ← attempt (operator? productOp?) with
    | none => return left
    | some op =>
      let right ← reads factor
      return (← reads (productFrom (.binary op left right))) := by
  funext ts
  rw [reads, productFrom]
  split
  next none => rw [attempt_none none]; rfl
  next op rest _ found =>
    rw [attempt_some found]
    refine bare_bind fun right rest _ => ?_
    exact bare_last fun value rest _ => rfl

theorem reads_factor : reads factor = do
    match ← attempt (operator? sign?) with
    | some op => return .unary op (← reads factor)
    | none =>
      let base ← reads operand
      if ← taken (.mark .doubleStar) then return .binary .pow base (← reads factor)
      else return base := by
  funext ts
  rw [reads, factor]
  split
  next op rest _ found =>
    rw [attempt_some found]
    exact bare_bind fun operand rest _ => rfl
  next none =>
    rw [attempt_none none]
    refine bare_bind fun base rest _ => ?_
    dsimp only
    split
    next none => rw [taken_none none]; rfl
    next rest _ found =>
      rw [taken_some found]
      exact bare_bind fun exponent rest _ => rfl

theorem reads_operand : reads operand = do
    if ← taken (.word .awaitWord) then return .await (← reads primary)
    else return (← reads primary) := by
  funext ts
  rw [reads, operand]
  split
  next none =>
    rw [taken_none none]
    rfl
  next rest _ found =>
    rw [taken_some found]
    exact bare_bind fun value rest _ => rfl

theorem reads_primary : reads primary = do
    let first ← reads atom
    return (← reads (trailers first)) := by
  funext ts
  rw [reads, primary]
  refine bare_bind fun first rest _ => ?_
  exact bare_last fun value rest _ => rfl

theorem reads_trailers (value : Expr) : reads (trailers value) = do
    if ← taken (.mark .dot) then
      let name ← reads name?
      return (← reads (trailers (.member value name)))
    else if ← taken (.mark .openParen) then
      let arguments ← reads (items .closeParen)
      return (← reads (trailers (.call value arguments)))
    else if ← taken (.mark .openBracket) then
      let part ← reads (subscript value)
      return (← reads (trailers part))
    else return value := by
  funext ts
  rw [reads, trailers]
  split
  next rest _ found =>
    rw [taken_some found]
    refine bare_bind fun name rest _ => ?_
    exact bare_last fun value rest _ => rfl
  next none =>
    rw [taken_none none]
    split
    next rest _ found =>
      rw [if_neg Bool.false_ne_true, taken_some found]
      refine bare_bind fun arguments rest _ => ?_
      exact bare_last fun value rest _ => rfl
    next none =>
      rw [if_neg Bool.false_ne_true, taken_none none]
      split
      next rest _ found =>
        rw [if_neg Bool.false_ne_true, taken_some found]
        refine bare_bind fun part rest _ => ?_
        exact bare_last fun value rest _ => rfl
      next none => rw [if_neg Bool.false_ne_true, taken_none none]; rfl

theorem reads_subscript (value : Expr) : reads (subscript value) = do
    let lower ← reads bound
    if ← taken (.mark .colon) then
      let upper ← reads bound
      if ← taken (.mark .colon) then
        let step ← reads bound
        must (.mark .closeBracket)
        return .part value lower upper step
      else
        must (.mark .closeBracket)
        return .part value lower upper none
    else
      must (.mark .closeBracket)
      return .subscript value (← fun ts => lower.map (·, ts)) := by
  funext ts
  rw [reads, subscript]
  refine bare_bind fun lower rest _ => ?_
  dsimp only
  split
  next none =>
    rw [taken_none none]
    refine bare_must fun rest _ => ?_
    cases lower <;> rfl
  next rest _ found =>
    rw [taken_some found]
    refine bare_bind fun upper rest _ => ?_
    dsimp only
    split
    next none =>
      rw [taken_none none]
      exact bare_must fun rest _ => rfl
    next rest _ found =>
      rw [taken_some found]
      refine bare_bind fun step rest _ => ?_
      exact bare_must fun rest _ => rfl

/-- Whether a bound is left out before these tokens. -/
def noBound (ts : List Token) : Bool :=
  ts.head? = some (.mark .colon) ∨ ts.head? = some (.mark .closeBracket)

theorem reads_bound : reads bound = fun ts =>
    if noBound ts then (pure none : Reader Token (Option Expr)) ts else (some <$> reads expression) ts := by
  funext ts
  rw [reads, bound, noBound]
  simp only [decide_eq_true_eq]
  split
  · rfl
  · rw [map_eq_pure_bind]
    exact bare_bind fun value rest _ => rfl

theorem reads_items (closer : Mark) : reads (items closer) = do
    if ← taken (.mark closer) then return []
    else
      let first ← reads expression
      if ← taken (.mark .comma) then return first :: (← reads (items closer))
      else
        must (.mark closer)
        return [first] := by
  funext ts
  rw [reads, items]
  split
  next after found => rw [taken_some found]; rfl
  next none =>
    rw [taken_none none]
    refine bare_bind fun first rest _ => ?_
    dsimp only
    split
    next rest _ found =>
      rw [taken_some found]
      exact bare_bind fun others rest _ => rfl
    next none =>
      rw [taken_none none]
      exact bare_must fun rest _ => rfl

theorem reads_entries : reads entries = do
    if ← taken (.mark .closeBrace) then return []
    else
      let key ← reads expression
      must (.mark .colon)
      let value ← reads expression
      if ← taken (.mark .comma) then return (key, value) :: (← reads entries)
      else
        must (.mark .closeBrace)
        return [(key, value)] := by
  funext ts
  rw [reads, entries]
  split
  next after found => rw [taken_some found]; rfl
  next none =>
    rw [taken_none none]
    refine bare_bind fun key rest _ => ?_
    refine bare_must fun rest _ => ?_
    refine bare_bind fun value rest _ => ?_
    dsimp only
    split
    next rest _ found =>
      rw [taken_some found]
      exact bare_bind fun others rest _ => rfl
    next none =>
      rw [taken_none none]
      exact bare_must fun rest _ => rfl

theorem reads_conditions : reads conditions = do
    if ← taken (.word .ifWord) then
      let condition ← reads disjunction
      return condition :: (← reads conditions)
    else
      must (.mark .closeBracket)
      return [] := by
  funext ts
  rw [reads, conditions]
  split
  next rest _ found =>
    rw [taken_some found]
    refine bare_bind fun condition rest _ => ?_
    exact bare_bind fun others rest _ => rfl
  next none =>
    rw [taken_none none]
    exact bare_must fun rest _ => rfl

theorem reads_listFrom : reads listFrom = do
    if ← taken (.mark .closeBracket) then return .list []
    else
      let first ← reads expression
      if ← taken (.word .forWord) then
        let loopName ← reads name?
        must (.word .inWord)
        let source ← reads disjunction
        return .comprehension first loopName source (← reads conditions)
      else if ← taken (.mark .comma) then return .list (first :: (← reads (items .closeBracket)))
      else
        must (.mark .closeBracket)
        return .list [first] := by
  funext ts
  rw [reads, listFrom]
  split
  next after found => rw [taken_some found]; rfl
  next none =>
    rw [taken_none none]
    refine bare_bind fun first rest _ => ?_
    dsimp only
    split
    next rest _ found =>
      rw [taken_some found]
      refine bare_bind fun loopName rest _ => ?_
      refine bare_must fun rest _ => ?_
      refine bare_bind fun source rest _ => ?_
      exact bare_bind fun conditions rest _ => rfl
    next none =>
      rw [taken_none none]
      split
      next rest _ found =>
        rw [if_neg Bool.false_ne_true, taken_some found]
        exact bare_bind fun others rest _ => rfl
      next none =>
        rw [if_neg Bool.false_ne_true, taken_none none]
        exact bare_must fun rest _ => rfl

theorem reads_atom : reads atom = do
    match ← attempt leaf? with
    | some value => return value
    | none =>
      if ← taken (.mark .openParen) then
        let value ← reads expression
        must (.mark .closeParen)
        return value
      else if ← taken (.mark .openBracket) then return (← reads listFrom)
      else
        must (.mark .openBrace)
        return .object (← reads entries) := by
  funext ts
  rw [reads, atom]
  split
  next found same => rw [attempt_some same]; rfl
  next none =>
    rw [attempt_none none]
    dsimp only
    split
    next rest _ found =>
      rw [taken_some found]
      refine bare_bind fun value rest _ => ?_
      exact bare_must fun rest _ => rfl
    next none =>
      rw [taken_none none]
      split
      next rest _ found =>
        rw [if_neg Bool.false_ne_true, taken_some found]
        exact bare_last fun value rest _ => rfl
      next none =>
        rw [if_neg Bool.false_ne_true, taken_none none]
        refine bare_must fun rest _ => ?_
        exact bare_bind fun entries rest _ => rfl

/-! ## Layout stops every reader -/

/-- Whether a token is the end of a line or a change of the indentation. -/
def Token.isLayout : Token → Bool
  | .newline | .indent | .dedent => true
  | _ => false

theorem stays_attempt {read : (ts : List Token) → Option (α × Shorter ts)} {tail ts : List Token}
    (stays : Stays Token.isLayout tail (reads read) ts) : Stays Token.isLayout tail (attempt read) ts := by
  have same (ts : List Token) : attempt read ts = match reads read ts with
      | some (x, rest) => some (some x, rest)
      | none => some (none, ts) := by
    rw [attempt, reads, bare]
    cases read ts <;> rfl
  constructor
  · rw [same, same, stays.append]
    cases reads read ts <;> rfl
  · intro found rest done
    rw [same] at done
    rcases own : reads read ts with _ | ⟨x, more⟩
    · rw [own] at done
      cases done
      exact .refl ts
    · rw [own] at done
      cases done
      exact stays.left x rest own

theorem sumOp_layout {t : Token} (layout : t.isLayout = true) : sumOp? t = none := by
  cases t with
  | newline | indent | dedent => rfl
  | _ => cases layout

theorem productOp_layout {t : Token} (layout : t.isLayout = true) : productOp? t = none := by
  cases t with
  | newline | indent | dedent => rfl
  | _ => cases layout

theorem sign_layout {t : Token} (layout : t.isLayout = true) : sign? t = none := by
  cases t with
  | newline | indent | dedent => rfl
  | _ => cases layout

section

variable {tail : List Token} (ends : IsTail Token.isLayout tail) (ts : List Token)

include ends

theorem stays_comparison : Stays Token.isLayout tail (reads comparison?) ts := by
  constructor
  · refine append_of_isTail ends fun t more layout => ?_
    rcases ts with _ | ⟨u, _ | ⟨v, ts⟩⟩
    · cases t with
      | newline | indent | dedent => rfl
      | _ => cases layout
    · cases t with
      | newline | indent | dedent =>
        cases u with
        | word w => cases w <;> rfl
        | mark m => cases m <;> rfl
        | _ => rfl
      | _ => cases layout
    · cases u with
      | mark m => cases m <;> rfl
      | word w =>
        cases w with
        | notWord | isWord =>
          cases v with
          | word w => cases w <;> rfl
          | _ => rfl
        | _ => rfl
      | _ => rfl
  · intro op rest found
    rw [reads] at found
    unfold comparison? at found
    split at found <;> cases found
    all_goals first | exact .one rfl _ | exact (Takes.one rfl _).trans (.one rfl _)

theorem stays_operator {kind : Token → Option α} (plain : ∀ t, t.isLayout = true → kind t = none) :
    Stays Token.isLayout tail (reads (operator? kind)) ts := by
  constructor
  · refine append_of_isTail ends fun t more layout => ?_
    cases ts with
    | nil => simp [reads, bare, operator?, plain t layout, grow]
    | cons t ts => cases found : kind t <;> simp [reads, bare, operator?, found, grow]
  · intro op rest found
    cases ts with
    | nil => cases found
    | cons t ts =>
      cases layout : t.isLayout with
      | false =>
        cases own : kind t with
        | none => simp [reads, bare, operator?, own] at found
        | some x =>
          simp [reads, bare, operator?, own] at found
          exact found.2 ▸ .one layout ts
      | true => simp [reads, bare, operator?, plain t layout] at found

theorem stays_name : Stays Token.isLayout tail (reads name?) ts := by
  constructor
  · refine append_of_isTail ends fun t more layout => ?_
    cases ts with
    | nil =>
      cases t with
      | newline | indent | dedent => rfl
      | _ => cases layout
    | cons t ts => cases t <;> rfl
  · intro x rest found
    rw [reads] at found
    unfold name? at found
    split at found <;> cases found
    exact .one rfl _

theorem joinTexts_append :
    (joinTexts (ts ++ tail)).1 = (joinTexts ts).1 ∧
      (joinTexts (ts ++ tail)).2.1 = (joinTexts ts).2.1 ++ tail := by
  induction ts with
  | nil =>
    cases tail with
    | nil => exact ⟨rfl, rfl⟩
    | cons t tail =>
      have layout := ends t rfl
      cases t with
      | newline | indent | dedent => exact ⟨rfl, rfl⟩
      | _ => cases layout
  | cons t ts ih =>
    cases t with
    | text s => exact ⟨congrArg (s ++ ·) ih.1, ih.2⟩
    | _ => exact ⟨rfl, rfl⟩

omit ends in
theorem takes_joinTexts : Takes Token.isLayout ts (joinTexts ts).2.1 := by
  induction ts with
  | nil => exact .refl _
  | cons t ts ih =>
    cases t with
    | text s => exact (Takes.one rfl ts).trans ih
    | _ => exact .refl _

theorem stays_leaf : Stays Token.isLayout tail (reads leaf?) ts := by
  constructor
  · rcases ts with _ | ⟨t, ts⟩
    · refine append_of_isTail ends fun t more layout => ?_
      cases t with
      | newline | indent | dedent => rfl
      | _ => cases layout
    · cases t with
      | text s =>
        obtain ⟨texts, rest⟩ := joinTexts_append ends ts
        simp only [reads, bare, leaf?, List.cons_append, grow, Option.map_some]
        rw [texts, rest]
      | word w => cases w <;> rfl
      | mark m =>
        cases m with
        | openParen =>
          cases ts with
          | nil =>
            refine append_of_isTail ends fun t more layout => ?_
            cases t with
            | newline | indent | dedent => rfl
            | _ => cases layout
          | cons u ts =>
            cases u with
            | mark m => cases m <;> rfl
            | _ => rfl
        | _ => rfl
      | _ => rfl
  · intro x rest found
    rw [reads] at found
    unfold leaf? at found
    split at found
    case h_2 w ts =>
      cases value : w.value? with
      | none => simp [bare, value] at found
      | some v =>
        simp [bare, value] at found
        exact found.2 ▸ .one rfl ts
    case h_6 s ts =>
      cases found
      exact (Takes.one rfl ts).trans (takes_joinTexts ts)
    all_goals cases found
    all_goals first | exact .one rfl _ | exact (Takes.one rfl _).trans (.one rfl _)

section

variable {ts} {token : Token}

theorem head?_ne_of_plain (plain : token.isLayout = false) : tail.head? ≠ some token := by
  intro same
  rw [ends token same] at plain
  cases plain

theorem stays_bind_must {next : Unit → Reader Token α} (plain : token.isLayout = false)
    (each : ∀ rest, rest.length < ts.length → Stays Token.isLayout tail (next ()) rest) :
    Stays Token.isLayout tail (must token >>= next) ts := by
  refine leaves_must (.inr (head?_ne_of_plain ends plain)) fun rest same => ?_
  exact (each rest (by simp [same])).mono fun _ => (same ▸ Takes.one plain rest).trans

theorem stays_ifTaken {yes no : Reader Token α} (plain : token.isLayout = false)
    (one : ∀ rest, rest.length < ts.length → Stays Token.isLayout tail yes rest)
    (other : Stays Token.isLayout tail no ts) :
    Stays Token.isLayout tail (taken token >>= fun found => if found = true then yes else no) ts := by
  refine leaves_ifTaken (.inr (head?_ne_of_plain ends plain)) (fun rest same => ?_) other
  exact (one rest (by simp [same])).mono fun _ => (same ▸ Takes.one plain rest).trans

omit ends in
/-- A choice that hangs on what stands here. -/
theorem stays_bind_attempt {read : (ts : List Token) → Option (α × Shorter ts)}
    {next : Option α → Reader Token β}
    (stays : Stays Token.isLayout tail (reads read) ts)
    (one : ∀ x rest, rest.length < ts.length → Stays Token.isLayout tail (next (some x)) rest)
    (other : Stays Token.isLayout tail (next none) ts) :
    Stays Token.isLayout tail (attempt read >>= next) ts := by
  refine Stays.bind (stays_attempt stays) fun found rest done => ?_
  rw [attempt] at done
  split at done
  · next x after _ =>
    cases done
    exact one x after.1 after.2
  · cases done
    exact other

omit ends in
/-- What is read behind something else. -/
theorem stays_bind_reads {p : List Token → List Token → Prop}
    {read : (ts : List Token) → Option (α × Subtype (p ts))} {next : α → Reader Token β}
    (stays : Stays Token.isLayout tail (reads read) ts)
    (each : ∀ x rest, p ts rest → Stays Token.isLayout tail (next x) rest) :
    Stays Token.isLayout tail (reads read >>= next) ts :=
  Stays.bind stays fun x rest found => each x rest (reads_eq_some found)

end

theorem noBound_append : noBound (ts ++ tail) = noBound ts := by
  cases ts with
  | nil =>
    cases tail with
    | nil => rfl
    | cons t more =>
      have layout := ends t rfl
      cases t with
      | newline | indent | dedent => rfl
      | _ => cases layout
  | cons => rfl

end

variable {tail : List Token}

mutual

theorem stays_expression (ends : IsTail Token.isLayout tail) (ts : List Token) :
    Stays Token.isLayout tail (reads expression) ts := by
  rw [reads_expression]
  refine stays_bind_reads (stays_disjunction ends ts) fun value rest h => ?_
  refine stays_ifTaken ends rfl (fun rest h => ?_) (.pure _)
  refine stays_bind_reads (stays_disjunction ends rest) fun condition rest h => ?_
  refine stays_bind_must ends rfl fun rest h => ?_
  exact stays_bind_reads (stays_expression ends rest) fun _ _ _ => .pure _
termination_by 16 * ts.length + 11
decreasing_by all_goals omega

theorem stays_disjunction (ends : IsTail Token.isLayout tail) (ts : List Token) :
    Stays Token.isLayout tail (reads disjunction) ts := by
  rw [reads_disjunction]
  refine stays_bind_reads (stays_conjunction ends ts) fun left rest h => ?_
  refine stays_ifTaken ends rfl (fun rest h => ?_) (.pure _)
  exact stays_bind_reads (stays_disjunction ends rest) fun _ _ _ => .pure _
termination_by 16 * ts.length + 10
decreasing_by all_goals omega

theorem stays_conjunction (ends : IsTail Token.isLayout tail) (ts : List Token) :
    Stays Token.isLayout tail (reads conjunction) ts := by
  rw [reads_conjunction]
  refine stays_bind_reads (stays_inversion ends ts) fun left rest h => ?_
  refine stays_ifTaken ends rfl (fun rest h => ?_) (.pure _)
  exact stays_bind_reads (stays_conjunction ends rest) fun _ _ _ => .pure _
termination_by 16 * ts.length + 9
decreasing_by all_goals omega

theorem stays_inversion (ends : IsTail Token.isLayout tail) (ts : List Token) :
    Stays Token.isLayout tail (reads inversion) ts := by
  rw [reads_inversion]
  refine stays_ifTaken ends rfl (fun rest h => ?_) ?_
  · exact stays_bind_reads (stays_inversion ends rest) fun _ _ _ => .pure _
  · refine stays_bind_reads (stays_sum ends ts) fun first rest h => ?_
    exact stays_bind_reads (stays_comparisons ends rest) fun _ _ _ => .pure _
termination_by 16 * ts.length + 8
decreasing_by all_goals omega

theorem stays_comparisons (ends : IsTail Token.isLayout tail) (ts : List Token) :
    Stays Token.isLayout tail (reads comparisons) ts := by
  rw [reads_comparisons]
  refine stays_bind_attempt (stays_comparison ends ts) (fun op rest h => ?_) (.pure _)
  refine stays_bind_reads (stays_sum ends rest) fun operand rest h => ?_
  exact stays_bind_reads (stays_comparisons ends rest) fun _ _ _ => .pure _
termination_by 16 * ts.length + 7
decreasing_by all_goals omega

theorem stays_sum (ends : IsTail Token.isLayout tail) (ts : List Token) :
    Stays Token.isLayout tail (reads sum) ts := by
  rw [reads_sum]
  exact stays_bind_reads (stays_product ends ts) fun first rest h => stays_sumFrom ends first rest
termination_by 16 * ts.length + 7
decreasing_by all_goals omega

theorem stays_sumFrom (ends : IsTail Token.isLayout tail) (left : Expr) (ts : List Token) :
    Stays Token.isLayout tail (reads (sumFrom left)) ts := by
  rw [reads_sumFrom]
  refine stays_bind_attempt (stays_operator ends ts fun _ => sumOp_layout) (fun op rest h => ?_) (.pure _)
  exact stays_bind_reads (stays_product ends rest) fun right rest h => stays_sumFrom ends _ rest
termination_by 16 * ts.length + 6
decreasing_by all_goals omega

theorem stays_product (ends : IsTail Token.isLayout tail) (ts : List Token) :
    Stays Token.isLayout tail (reads product) ts := by
  rw [reads_product]
  exact stays_bind_reads (stays_factor ends ts) fun first rest h => stays_productFrom ends first rest
termination_by 16 * ts.length + 5
decreasing_by all_goals omega

theorem stays_productFrom (ends : IsTail Token.isLayout tail) (left : Expr) (ts : List Token) :
    Stays Token.isLayout tail (reads (productFrom left)) ts := by
  rw [reads_productFrom]
  refine stays_bind_attempt (stays_operator ends ts fun _ => productOp_layout) (fun op rest h => ?_) (.pure _)
  exact stays_bind_reads (stays_factor ends rest) fun right rest h => stays_productFrom ends _ rest
termination_by 16 * ts.length + 4
decreasing_by all_goals omega

theorem stays_factor (ends : IsTail Token.isLayout tail) (ts : List Token) :
    Stays Token.isLayout tail (reads factor) ts := by
  rw [reads_factor]
  refine stays_bind_attempt (stays_operator ends ts fun _ => sign_layout) (fun op rest h => ?_) ?_
  · exact stays_bind_reads (stays_factor ends rest) fun _ _ _ => .pure _
  · refine stays_bind_reads (stays_operand ends ts) fun base rest h => ?_
    refine stays_ifTaken ends rfl (fun rest h => ?_) (.pure _)
    exact stays_bind_reads (stays_factor ends rest) fun _ _ _ => .pure _
termination_by 16 * ts.length + 3
decreasing_by all_goals omega

theorem stays_operand (ends : IsTail Token.isLayout tail) (ts : List Token) :
    Stays Token.isLayout tail (reads operand) ts := by
  rw [reads_operand]
  refine stays_ifTaken ends rfl (fun rest h => ?_) (stays_primary ends ts)
  exact stays_bind_reads (stays_primary ends rest) fun _ _ _ => .pure _
termination_by 16 * ts.length + 2
decreasing_by all_goals omega

theorem stays_primary (ends : IsTail Token.isLayout tail) (ts : List Token) :
    Stays Token.isLayout tail (reads primary) ts := by
  rw [reads_primary]
  exact stays_bind_reads (stays_atom ends ts) fun first rest h => stays_trailers ends first rest
termination_by 16 * ts.length + 1
decreasing_by all_goals omega

theorem stays_trailers (ends : IsTail Token.isLayout tail) (value : Expr) (ts : List Token) :
    Stays Token.isLayout tail (reads (trailers value)) ts := by
  rw [reads_trailers]
  refine stays_ifTaken ends rfl (fun rest h => ?_) ?_
  · exact stays_bind_reads (stays_name ends rest) fun name rest h => stays_trailers ends _ rest
  refine stays_ifTaken ends rfl (fun rest h => ?_) ?_
  · refine stays_bind_reads (stays_items ends .closeParen rest) fun arguments rest h => ?_
    exact stays_trailers ends _ rest
  refine stays_ifTaken ends rfl (fun rest h => ?_) (.pure _)
  exact stays_bind_reads (stays_subscript ends value rest) fun part rest h => stays_trailers ends _ rest
termination_by 16 * ts.length
decreasing_by all_goals omega

theorem stays_subscript (ends : IsTail Token.isLayout tail) (value : Expr) (ts : List Token) :
    Stays Token.isLayout tail (reads (subscript value)) ts := by
  rw [reads_subscript]
  refine stays_bind_reads (stays_bound ends ts) fun lower rest h => ?_
  refine stays_ifTaken ends rfl (fun rest h => ?_) ?_
  · refine stays_bind_reads (stays_bound ends rest) fun upper rest h => ?_
    refine stays_ifTaken ends rfl (fun rest h => ?_) ?_
    · refine stays_bind_reads (stays_bound ends rest) fun step rest h => ?_
      exact stays_bind_must ends rfl fun rest h => .pure _
    · exact stays_bind_must ends rfl fun rest h => .pure _
  · refine stays_bind_must ends rfl fun rest h => ?_
    cases lower with
    | none => exact Leaves.fail
    | some index => exact Stays.pure _
termination_by 16 * ts.length + 13
decreasing_by all_goals omega

theorem stays_bound (ends : IsTail Token.isLayout tail) (ts : List Token) :
    Stays Token.isLayout tail (reads bound) ts := by
  rw [reads_bound]
  refine Leaves.ite (noBound_append ends ts) (Stays.pure none) ?_
  rw [map_eq_pure_bind]
  exact stays_bind_reads (stays_expression ends ts) fun value rest h => .pure _
termination_by 16 * ts.length + 12
decreasing_by all_goals omega

theorem stays_items (ends : IsTail Token.isLayout tail) (closer : Mark) (ts : List Token) :
    Stays Token.isLayout tail (reads (items closer)) ts := by
  rw [reads_items]
  refine stays_ifTaken ends rfl (fun rest h => .pure _) ?_
  refine stays_bind_reads (stays_expression ends ts) fun first rest h => ?_
  refine stays_ifTaken ends rfl (fun rest h => ?_) ?_
  · exact stays_bind_reads (stays_items ends closer rest) fun _ _ _ => .pure _
  · exact stays_bind_must ends rfl fun rest h => .pure _
termination_by 16 * ts.length + 12
decreasing_by all_goals omega

theorem stays_entries (ends : IsTail Token.isLayout tail) (ts : List Token) :
    Stays Token.isLayout tail (reads entries) ts := by
  rw [reads_entries]
  refine stays_ifTaken ends rfl (fun rest h => .pure _) ?_
  refine stays_bind_reads (stays_expression ends ts) fun key rest h => ?_
  refine stays_bind_must ends rfl fun rest h => ?_
  refine stays_bind_reads (stays_expression ends rest) fun value rest h => ?_
  refine stays_ifTaken ends rfl (fun rest h => ?_) ?_
  · exact stays_bind_reads (stays_entries ends rest) fun _ _ _ => .pure _
  · exact stays_bind_must ends rfl fun rest h => .pure _
termination_by 16 * ts.length + 12
decreasing_by all_goals omega

theorem stays_conditions (ends : IsTail Token.isLayout tail) (ts : List Token) :
    Stays Token.isLayout tail (reads conditions) ts := by
  rw [reads_conditions]
  refine stays_ifTaken ends rfl (fun rest h => ?_) ?_
  · refine stays_bind_reads (stays_disjunction ends rest) fun condition rest h => ?_
    exact stays_bind_reads (stays_conditions ends rest) fun _ _ _ => .pure _
  · exact stays_bind_must ends rfl fun rest h => .pure _
termination_by 16 * ts.length
decreasing_by all_goals omega

theorem stays_listFrom (ends : IsTail Token.isLayout tail) (ts : List Token) :
    Stays Token.isLayout tail (reads listFrom) ts := by
  rw [reads_listFrom]
  refine stays_ifTaken ends rfl (fun rest h => .pure _) ?_
  refine stays_bind_reads (stays_expression ends ts) fun first rest h => ?_
  refine stays_ifTaken ends rfl (fun rest h => ?_) ?_
  · refine stays_bind_reads (stays_name ends rest) fun loopName rest h => ?_
    refine stays_bind_must ends rfl fun rest h => ?_
    refine stays_bind_reads (stays_disjunction ends rest) fun source rest h => ?_
    exact stays_bind_reads (stays_conditions ends rest) fun _ _ _ => .pure _
  refine stays_ifTaken ends rfl (fun rest h => ?_) ?_
  · exact stays_bind_reads (stays_items ends .closeBracket rest) fun _ _ _ => .pure _
  · exact stays_bind_must ends rfl fun rest h => .pure _
termination_by 16 * ts.length + 13
decreasing_by all_goals omega

theorem stays_atom (ends : IsTail Token.isLayout tail) (ts : List Token) :
    Stays Token.isLayout tail (reads atom) ts := by
  rw [reads_atom]
  refine stays_bind_attempt (stays_leaf ends ts) (fun value rest h => .pure _) ?_
  refine stays_ifTaken ends rfl (fun rest h => ?_) ?_
  · refine stays_bind_reads (stays_expression ends rest) fun value rest h => ?_
    exact stays_bind_must ends rfl fun rest h => .pure _
  refine stays_ifTaken ends rfl (fun rest h => stays_listFrom ends rest) ?_
  refine stays_bind_must ends rfl fun rest h => ?_
  exact stays_bind_reads (stays_entries ends rest) fun _ _ _ => .pure _
termination_by 16 * ts.length
decreasing_by all_goals omega

end

end IssueBoard.Script
