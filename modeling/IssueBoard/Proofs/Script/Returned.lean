import IssueBoard.Proofs.Script.Indentation

/-! # Expressions as scripts

An expression is read between brackets on lines of their own. Whatever its source holds, a script that returns
what stands between such brackets has the same tokens behind its first word, so it is the same function body.
-/

namespace IssueBoard.Script

open Text (unifyBreaks)

/-! ## Tokens -/

/-- The text that is read for an expression. -/
def bracketed (source : List Char) : List Char := "(\n".toList ++ source ++ "\n)".toList

/-- The script that returns an expression. -/
def returned (source : String) : String := "return (\n" ++ source ++ "\n)"

theorem toList_returned (source : String) :
    (returned source).toList = "return ".toList ++ bracketed source.toList := by
  rw [returned, String.toList_append, String.toList_append, bracketed]
  rfl

/-- The word that a script returns a value with. -/
def returnWord : List Char := ['r', 'e', 't', 'u', 'r', 'n']

theorem token_return (rest : List Char) :
    reads token? (returnWord ++ ' ' :: rest) = some (.word .returnWord, ' ' :: rest) := by
  rw [returnWord, List.cons_append, reads_token, if_neg (by decide), if_pos (by decide), reads_nameOrText]
  rfl

/-- What stands in a text behind the word. -/
theorem entriesFrom_return (cs : List Char) : entriesFrom true [] (returnWord ++ ' ' :: cs) =
    (entriesFrom false [] cs).map (.line [] :: .token (.word .returnWord) returnWord :: ·) := by
  have word : entriesFrom false [] (returnWord ++ ' ' :: cs) = _ :=
    entriesFrom_word (by decide) (token_return cs) rfl
  have line : entriesFrom true [] (returnWord ++ ' ' :: cs) = _ := entriesFrom_margin [] (by decide) (' ' :: cs)
  refine line.trans ((congrArg _ word).trans ?_)
  rw [entriesFrom_blank _ _ (.inl rfl), Option.map_map]
  rfl

/-- What stands in a text that starts with a bracket. -/
theorem entriesFrom_paren (cs : List Char) : entriesFrom false [] ('(' :: '\n' :: cs) =
    (entriesFrom false [.closeParen] ('\n' :: cs)).map (.token (.mark .openParen) ['('] :: ·) := by
  have opened : entriesFrom false [] (['('] ++ '\n' :: cs) = _ := entriesFrom_word (by decide) rfl rfl
  exact opened

/-- A line at the margin changes nothing where no block is open. -/
theorem layOut_margin (entries : List Entry) :
    layOut [⟨0, 0⟩] (.line [] :: entries) = layOut [⟨0, 0⟩] entries := by
  have margin : changeIndentation (columnOf []) [⟨0, 0⟩] = some ([], [⟨0, 0⟩]) := by decide
  rw [layOut_line, margin, Option.bind_some]
  simp

/-- The text that is read for an expression is a bracket and what stands behind it, and so it is behind a
word. -/
theorem exists_bracketed (source : List Char) : ∃ cs,
    completed (unifyBreaks (bracketed source)) = '(' :: '\n' :: cs ∧
      completed (unifyBreaks ("return ".toList ++ bracketed source)) =
        returnWord ++ ' ' :: '(' :: '\n' :: cs := by
  have filled : unifyBreaks (source ++ "\n)".toList) ≠ [] := fun none => by
    simpa using unifyBreaks_eq_nil none
  have opened : unifyBreaks (bracketed source) = ['(', '\n'] ++ unifyBreaks (source ++ "\n)".toList) := by
    rw [bracketed, List.append_assoc, Text.unifyBreaks_append (by decide), Text.unifyBreaks_eq_self (by decide)]
    rfl
  refine ⟨completed (unifyBreaks (source ++ "\n)".toList)), ?_, ?_⟩
  · rw [opened, completed_append _ filled]
    rfl
  · rw [Text.unifyBreaks_append (by decide), Text.unifyBreaks_eq_self (by decide), opened, ← List.append_assoc,
      completed_append _ filled]
    rfl

/-- Behind its first word, the script has the tokens of the expression, of which the first is a bracket. -/
theorem tokens_returned (source : List Char) :
    tokens? ("return ".toList ++ bracketed source) =
        (tokens? (bracketed source)).map (.word .returnWord :: ·) ∧
      ∀ ts, tokens? (bracketed source) = some ts → ts.head? = some (.mark .openParen) := by
  obtain ⟨cs, plain, behind⟩ := exists_bracketed source
  have line : entriesFrom true [] (['('] ++ '\n' :: cs) = _ := entriesFrom_margin [] (by decide) ('\n' :: cs)
  rw [List.singleton_append, entriesFrom_paren] at line
  rw [tokens_eq, tokens_eq, entries?, entries?, plain, behind, line, entriesFrom_return, entriesFrom_paren]
  cases entriesFrom false [.closeParen] ('\n' :: cs) with
  | none => exact ⟨rfl, by rintro _ ⟨⟩⟩
  | some entries =>
    simp only [Option.map_some, Option.bind_some]
    rw [layOut_margin, layOut_margin, layOut, layOut]
    cases layOut [⟨0, 0⟩] entries with
    | none => exact ⟨rfl, by rintro _ ⟨⟩⟩
    | some ts =>
      refine ⟨rfl, fun ts same => ?_⟩
      cases same
      rfl

/-! ## Statements -/

theorem statement_return {ts rest : List Token} {value : Expr} (start : noValue ts = false)
    (found : reads expression ts = some (value, .newline :: rest)) :
    reads statement (.word .returnWord :: ts) = some ([.finish (some value)], rest) := by
  have given : reads expressionUnlessEnd ts = some (some value, .newline :: rest) := by
    rw [reads_expressionUnlessEnd]
    simp only [start, Bool.false_eq_true, if_false, map_eq_pure_bind]
    rw [bind_of_some found]
    rfl
  have simple : reads simpleStatement (.word .returnWord :: ts) =
      some (.finish (some value), .newline :: rest) := by
    rw [reads_simpleStatement, taken_none rfl, if_neg Bool.false_ne_true, taken_none rfl,
      if_neg Bool.false_ne_true, taken_none rfl, if_neg Bool.false_ne_true, taken_some (expect_cons ..),
      if_pos rfl, bind_of_some given]
    rfl
  rw [reads_statement, taken_none rfl, if_neg Bool.false_ne_true, taken_none rfl, if_neg Bool.false_ne_true,
    taken_none rfl, if_neg Bool.false_ne_true, reads_line, bind_of_some simple,
    taken_some (expect_cons ..), if_pos rfl]
  rfl

/-- The script that returns an expression is the one statement that does. -/
theorem readStatements_returned {source : List Char} {value : Expr}
    (found : readExpression? source = some value) :
    readStatements? ("return ".toList ++ bracketed source) = some [.finish (some value)] := by
  obtain ⟨ts, tokens, found⟩ := Option.bind_eq_some_iff.mp found
  obtain ⟨⟨value', rest, shorter⟩, own, found⟩ := Option.bind_eq_some_iff.mp found
  dsimp only at found
  by_cases last : rest = [.newline]
  · rw [if_pos last] at found
    cases found
    cases last
    obtain ⟨behind, start⟩ := tokens_returned source
    have first : noValue ts = false := by simp [noValue, start ts tokens]
    have own : reads expression ts = some (value, [.newline]) := by rw [reads, own]; rfl
    rw [readStatements?, behind, show tokens? (bracketed source) = some ts from tokens, Option.map_some,
      Option.bind_some, statements_of_ne_nil (List.cons_ne_nil _ _), statement_return first own]
    simp [statements_nil]
  · rw [if_neg last] at found
    cases found

theorem isIndented_returned (source : String) : isIndented (returned source) = false := by
  obtain ⟨line, first⟩ := codeLine_blanks (m := 0) (c := 'r') (by decide) (by decide)
    ("eturn ".toList ++ bracketed source.toList)
  have first : codeLine? (returned source).toList = some ('r' :: line) := by
    rw [toList_returned]
    exact first
  rw [isIndented_eq, first]
  rfl

theorem contains_returned (source : String) :
    (returned source).toList.contains '\x00' = source.toList.contains '\x00' := by
  rw [toList_returned, bracketed]
  simp

/-! ## Function bodies -/

theorem parseExpression_eq_ok {source : String} {value : Expr} (parsed : parseExpression source = .ok value) :
    source.toList.contains '\x00' = false ∧ readExpression? source.toList = some value := by
  rw [parseExpression] at parsed
  split at parsed
  · cases parsed
  obtain ⟨⟨⟩, sound, parsed⟩ := bind_eq_ok_iff.mp parsed
  rw [withoutNull] at sound
  split at sound
  · cases sound
  next null =>
    refine ⟨Bool.eq_false_iff.mpr null, ?_⟩
    cases found : readExpression? source.toList with
    | none => rw [found] at parsed; cases parsed
    | some value => rw [found] at parsed; cases parsed; rfl

/-- What is an expression is the body of the script that returns it. -/
theorem parseScript_returned {source : String} {value : Expr} (parsed : parseExpression source = .ok value) :
    parseScript (returned source) = .ok [.finish (some value)] := by
  obtain ⟨sound, found⟩ := parseExpression_eq_ok parsed
  rw [parseScript_eq, contains_returned, sound, if_neg Bool.false_ne_true, readScript?, isIndented_returned,
    if_neg Bool.false_ne_true, toList_returned, readStatements_returned found]
  rfl

/-- An expression and the script that returns it are checked alike, but for the source and the kind of code
that are named when they are refused. -/
theorem checkBody_kinds (source source' : String) (parameters : List String) (body : List Stmt) :
    checkBody .script source' parameters body = checkBody .expression source parameters body ∨
      checkBody .expression source parameters body = .error (malformed .expression source) ∧
        checkBody .script source' parameters body = .error (malformed .script source') := by
  simp only [checkBody]
  split
  · exact .inl rfl
  split
  · exact .inl rfl
  split
  · exact .inl rfl
  · exact .inr ⟨rfl, rfl⟩

/-- Whether a failure of a script is that of an expression, but for the word for what has failed. -/
inductive Failure.Renamed : Failure → Failure → Prop
  | same (failure : Failure) : Renamed failure failure
  | failed (message : String) : Renamed (.script .expression message) (.script .script message)
  | endless : Renamed (.endless .expression) (.endless .script)

/-- Whether a script comes to the value that an expression has, or fails like it. -/
inductive SameOutcome : Except Failure Value → Except Failure Value → Prop
  | value (value : Value) : SameOutcome (.ok value) (.ok value)
  | failure {failure failure' : Failure} (renamed : Failure.Renamed failure failure') :
    SameOutcome (.error failure) (.error failure')

theorem SameOutcome.eq_of_isOk {result result' : Except Failure Value} (same : SameOutcome result result')
    (ran : result.isOk = true) : result' = result := by
  cases same with
  | value => rfl
  | failure => cases ran

theorem renamed_toFailure (trouble : Trouble) :
    Failure.Renamed (trouble.toFailure .expression) (trouble.toFailure .script) := by
  cases trouble with
  | passed failure => exact .same failure
  | unspoken error => exact .same _
  | endless => exact .endless
  | _ => exact .failed _

theorem sameOutcome_mapError (result : Except Trouble Value) :
    SameOutcome (result.mapError (·.toFailure .expression)) (result.mapError (·.toFailure .script)) := by
  cases result with
  | ok value => exact .value value
  | error trouble => exact .failure (renamed_toFailure trouble)

/-- An expression and the script that returns it are the same function body, or fail to be one alike. -/
theorem compile_returned {source : String} {value : Expr} (parsed : parseExpression source = .ok value)
    (scope : Scope Value) :
    (∃ body, compile ⟨.expression, source, scope⟩ = .ok body ∧
        compile ⟨.script, returned source, scope⟩ = .ok body) ∨
      (∃ failure failure', Failure.Renamed failure failure' ∧
        compile ⟨.expression, source, scope⟩ = .error failure ∧
        compile ⟨.script, returned source, scope⟩ = .error failure') ∨
      compile ⟨.expression, source, scope⟩ = .error (malformed .expression source) ∧
        compile ⟨.script, returned source, scope⟩ = .error (malformed .script (returned source)) := by
  have body : parseBody .expression source = .ok [.finish (some value)] := by rw [parseBody, parsed]; rfl
  have body' : parseBody .script (returned source) = .ok [.finish (some value)] := parseScript_returned parsed
  simp only [compile, body, body', bind, Except.bind]
  obtain same | ⟨refused, refused'⟩ := checkBody_kinds source (returned source) (parameterNames scope)
    [.finish (some value)]
  · rw [same]
    rcases checkBody .expression source (parameterNames scope) [.finish (some value)] with failure | _
    · exact .inr (.inl ⟨failure, failure, .same failure, rfl, rfl⟩)
    rcases unknownParameter? scope with _ | name
    · exact .inl ⟨_, rfl, rfl⟩
    · exact .inr (.inl ⟨_, _, renamed_toFailure (.unknownParameter name), rfl, rfl⟩)
  · rw [refused, refused']
    exact .inr (.inr ⟨rfl, rfl⟩)

/-- **An expression has the outcome of the script that returns it between brackets.** Whatever the source is,
and from every state, the desk is left alike and the value or the failure is the same, but for the word for
what has failed. A source that can be read, but not be the body of a function with such parameters, is no
code in both forms. -/
theorem Host.call_returned {κ ι : Type} (host : Host κ ι) {source : String} {value : Expr}
    (parsed : parseExpression source = .ok value) (scope : Scope Value) (desk : Desk κ) :
    (host.call ⟨.script, returned source, scope⟩ desk).2 =
        (host.call ⟨.expression, source, scope⟩ desk).2 ∧
      (SameOutcome (host.call ⟨.expression, source, scope⟩ desk).1
          (host.call ⟨.script, returned source, scope⟩ desk).1 ∨
        compile ⟨.expression, source, scope⟩ = .error (malformed .expression source) ∧
          compile ⟨.script, returned source, scope⟩ = .error (malformed .script (returned source))) := by
  simp only [Host.call]
  obtain ⟨body, own, own'⟩ | ⟨failure, failure', renamed, own, own'⟩ | ⟨own, own'⟩ :=
    compile_returned parsed scope
  · rw [own, own']
    exact ⟨rfl, .inl (sameOutcome_mapError _)⟩
  · rw [own, own']
    exact ⟨rfl, .inl (.failure renamed)⟩
  · rw [own, own']
    exact ⟨rfl, .inr ⟨rfl, rfl⟩⟩

/-- An expression over lines with any blanks in front, with comments, and with brackets that close early. -/
def looseExpression : Call Value where
  kind := .expression
  source := "  x +\n# the next number\n\t1) * (\n2  # twice"
  scope := [("x", .plain (.integer 6))]

theorem call_returned_loose :
    (parseExpression looseExpression.source).isOk = true ∧
      (issueHost.call looseExpression (Desk.ofServer openIssue)).1.isOk = true ∧
      issueHost.call ⟨.script, returned looseExpression.source, looseExpression.scope⟩
          (Desk.ofServer openIssue) =
        issueHost.call looseExpression (Desk.ofServer openIssue) := by
  have readable : (parseExpression looseExpression.source).isOk = true := by decide +kernel
  have ran : (issueHost.call looseExpression (Desk.ofServer openIssue)).1.isOk = true := by decide +kernel
  refine ⟨readable, ran, ?_⟩
  rcases parsed : parseExpression looseExpression.source with failure | value
  · rw [parsed] at readable
    cases readable
  obtain ⟨desks, outcomes⟩ :=
    issueHost.call_returned parsed looseExpression.scope (Desk.ofServer openIssue)
  rcases outcomes with same | ⟨refused, -⟩
  · exact Prod.ext (same.eq_of_isOk ran) desks
  · rw [Host.call, show compile looseExpression = _ from refused] at ran
    cases ran

end IssueBoard.Script
