import IssueBoard.Script.Grammar

/-!
# Blocks of statements

Statements are read from a list of tokens: simple ones that share a line, and compound ones with a
block, which stands on the same line or indented below.
-/

namespace IssueBoard.Script

/-- Reads an expression unless the statement ends here. -/
def expressionUnlessEnd (ts : List Token) : Option (Option Expr × Rest ts) :=
  if ts.head? = some .newline ∨ ts.head? = some (.mark .semicolon) then some (none, .all ts)
  else do
    let (value, rest) ← expression ts
    return (some value, rest.toRest)

/-- Reads the rest of a chain of assignments whose last expression so far is `last`: every
expression but the final one has to be a target. -/
def assignmentFrom (targets : List Target) (last : Expr) (ts : List Token) :
    Option (Stmt × Rest ts) :=
  match expect (.mark .assign) ts with
  | none =>
    some (if targets.isEmpty then .expression last else .assign targets last, .all ts)
  | some ⟨rest, shorter⟩ => do
    let target ← last.target?
    let (next, ⟨rest, shorter'⟩) ← expression rest
    let (stmt, rest) ← assignmentFrom (targets ++ [target]) next rest
    return (stmt, ((rest.within shorter').within shorter).toRest)
termination_by ts.length

/-- Reads an expression or an assignment. -/
def expressionStatement (ts : List Token) : Option (Stmt × Shorter ts) := do
  let (first, ⟨rest, shorter⟩) ← expression ts
  match operator? augmentOp? rest with
  | some (op, ⟨rest, shorter'⟩) => do
    let target ← first.target?
    let (value, last) ← expression rest
    return (.augment target op value, (last.within shorter').within shorter)
  | none => do
    let (stmt, last) ← assignmentFrom [] first rest
    return (stmt, last.within shorter)

/-- Reads a statement without a block. -/
def simpleStatement : (ts : List Token) → Option (Stmt × Shorter ts)
  | .word .passWord :: rest => some (.pass, (Rest.all rest).behind _)
  | .word .breakWord :: rest => some (.leave, (Rest.all rest).behind _)
  | .word .continueWord :: rest => some (.proceed, (Rest.all rest).behind _)
  | .word .returnWord :: rest => do
    let (value, after) ← expressionUnlessEnd rest
    return (.finish value, after.behind _)
  | .word .raiseWord :: rest => do
    let (error, after) ← expressionUnlessEnd rest
    return (.raise error, after.behind _)
  | ts => expressionStatement ts

/-- Reads the simple statements of a line, and its end. -/
def line (ts : List Token) : Option (List Stmt × Shorter ts) := do
  let (first, ⟨rest, shorter⟩) ← simpleStatement ts
  match expect .newline rest with
  | some last => return ([first], last.within shorter)
  | none => do
    let ⟨rest, shorter'⟩ ← expect (.mark .semicolon) rest
    match expect .newline rest with
    | some last => return ([first], (last.within shorter').within shorter)
    | none => do
      let (others, last) ← line rest
      return (first :: others, (last.within shorter').within shorter)
termination_by ts.length

mutual

/-- Reads a compound statement, or a line of simple ones. -/
def statement (ts : List Token) : Option (List Stmt × Shorter ts) :=
  match expect (.word .ifWord) ts with
  | some ⟨rest, shorter⟩ => do
    let (stmt, last) ← branch rest
    return ([stmt], last.within shorter)
  | none =>
    match expect (.word .whileWord) ts with
    | some ⟨rest, shorter⟩ => do
      let (condition, ⟨rest, h⟩) ← expression rest
      let (body, ⟨rest, h'⟩) ← block rest
      let (otherwise, last) ← elseBlock rest
      return ([.repeatWhile condition body otherwise],
        ((last.within h').within h).within shorter)
    | none =>
      match expect (.word .forWord) ts with
      | some ⟨rest, shorter⟩ => do
        let (loopName, ⟨rest, h₁⟩) ← name? rest
        let ⟨rest, h₂⟩ ← expect (.word .inWord) rest
        let (source, ⟨rest, h₃⟩) ← expression rest
        let (body, ⟨rest, h₄⟩) ← block rest
        let (otherwise, last) ← elseBlock rest
        return ([.forEach loopName source body otherwise],
          ((((last.within h₄).within h₃).within h₂).within h₁).within shorter)
      | none => line ts
termination_by 4 * ts.length + 1
decreasing_by all_goals omega

/-- Reads a branch behind its first word, with the further branches that hang on it. -/
def branch (ts : List Token) : Option (Stmt × Shorter ts) := do
  let (condition, ⟨rest, shorter⟩) ← expression ts
  let (yes, ⟨rest, shorter'⟩) ← block rest
  match expect (.word .elifWord) rest with
  | some ⟨rest, h⟩ => do
    let (no, last) ← branch rest
    return (.branch condition yes [no], ((last.within h).within shorter').within shorter)
  | none => do
    let (no, last) ← elseBlock rest
    return (.branch condition yes no, (last.within shorter').within shorter)
termination_by 4 * ts.length + 1
decreasing_by all_goals omega

/-- Reads the block behind `else`, if there is one. -/
def elseBlock (ts : List Token) : Option (List Stmt × Rest ts) :=
  match expect (.word .elseWord) ts with
  | none => some ([], .all ts)
  | some ⟨rest, shorter⟩ => do
    let (body, last) ← block rest
    return (body, (last.within shorter).toRest)
termination_by 4 * ts.length
decreasing_by all_goals omega

/-- Reads a colon and the block behind it. -/
def block (ts : List Token) : Option (List Stmt × Shorter ts) := do
  let ⟨rest, shorter⟩ ← expect (.mark .colon) ts
  match expect .newline rest with
  | none => do
    let (body, last) ← line rest
    return (body, last.within shorter)
  | some ⟨rest, h⟩ => do
    let ⟨rest, h'⟩ ← expect .indent rest
    let (body, last) ← body rest
    return (body, ((last.within h').within h).within shorter)
termination_by 4 * ts.length
decreasing_by all_goals omega

/-- Reads the statements of an indented block, and its end. -/
def body (ts : List Token) : Option (List Stmt × Shorter ts) := do
  let (first, ⟨rest, shorter⟩) ← statement ts
  match expect .dedent rest with
  | some last => return (first, last.within shorter)
  | none => do
    let (others, last) ← body rest
    return (first ++ others, last.within shorter)
termination_by 4 * ts.length + 2
decreasing_by all_goals omega

end

/-- Reads the statements of a whole source. -/
def statements (ts : List Token) : Option (List Stmt) :=
  if ts.isEmpty then some []
  else do
    let (first, ⟨rest, _⟩) ← statement ts
    let others ← statements rest
    return first ++ others
termination_by ts.length

end IssueBoard.Script
