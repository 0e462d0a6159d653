import IssueBoard.Evaluation.Rehearsal
import IssueBoard.Proofs.Evaluation.Trace
import IssueBoard.Proofs.Template.Joining

/-! # Templates resolve piece by piece

A text that is made of two templates resolves as the first and then the second does: the second is
resolved in the session that the first leaves, the texts are joined, and what is asked of the host is
what the two ask, one after the other. This holds in every world, so it holds as well of the world that
keeps a trace of what it is asked.
-/

namespace IssueBoard.Evaluation

variable {σ V α β : Type}

/-! ## Resolving segments -/

theorem resolveSegments_moved (world : World σ V) (scope : Scope V) (parts : List Segment)
    (distance : Nat) :
    resolveSegments world scope (parts.map (Template.moved distance)) =
      resolveSegments world scope parts := by
  induction parts with
  | nil => rfl
  | cons part rest ih =>
    rw [List.map_cons, resolveSegments, resolveSegments, ih]
    rfl

theorem resolveSegment_literal (world : World σ V) (scope : Scope V) {part : Segment}
    (literal : part.isExpression = false) : resolveSegment world scope part = pure part.text := by
  rw [resolveSegment, literal]
  rfl

/-- Joined segments resolve as the first ones and then the others do. -/
theorem resolveSegments_joined (world : World σ V) (scope : Scope V) (first second : List Segment) :
    resolveSegments world scope (Template.joined first second) = (do
      let text ← resolveSegments world scope first
      return text ++ (← resolveSegments world scope second)) := by
  fun_induction Template.joined first second with
  | case1 second => simp only [resolveSegments, pure_bind, String.empty_append, bind_pure]
  | case2 last => simp [resolveSegments]
  | case3 last next later apart => simp [resolveSegments]
  | case4 last next later merged =>
    rw [Bool.or_eq_true, not_or, Bool.not_eq_true, Bool.not_eq_true] at merged
    have both : resolveSegment world scope { last with text := last.text ++ next.text } =
        pure (last.text ++ next.text) := resolveSegment_literal world scope merged.1
    simp only [resolveSegments, both, resolveSegment_literal world scope merged.1,
      resolveSegment_literal world scope merged.2, pure_bind, bind_assoc, String.append_empty,
      String.append_assoc]
  | case5 part other rest later ih =>
    rw [resolveSegments, ih]
    simp only [resolveSegments, bind_assoc, pure_bind, String.append_assoc]

theorem resolveSegments_literalAt (world : World σ V) (scope : Scope V) (position : Nat)
    (literal : List Char) : resolveSegments world scope (Template.literalAt position literal) =
      pure (String.ofList literal) := by
  rw [Template.literalAt]
  split
  · next empty =>
    rw [List.isEmpty_iff.mp empty]
    rfl
  · simp only [resolveSegments, resolveSegment, Bool.false_eq_true, if_false, pure_bind,
      String.append_empty]

/-- A template resolves as its segments do, also where a quick look shows that there is nothing to
resolve. -/
theorem resolve_of_scan (world : World σ V) {bindings scope : Scope V}
    (valid : createScope bindings = .ok scope) {source : String} {parts : List Segment}
    (scanned : Template.scan source = .ok parts) :
    resolve world bindings source = resolveSegments world scope parts := by
  have inScope : resolve world bindings source =
      if Template.hasExpressions source then resolveSegments world scope parts else pure source := by
    rw [resolve, valid, scanned]
    rfl
  rw [inScope]
  split
  · rfl
  · next plain =>
    rw [Template.hasExpressions, Template.hasOpening_iff] at plain
    rw [Template.scan_eq_ok_iff, Template.segments_of_free plain] at scanned
    obtain rfl := Except.ok.inj scanned
    rw [resolveSegments_literalAt, String.ofList_toList]

section Joint

variable {bindings scope : Scope V} (valid : createScope bindings = .ok scope)
  {first second : String} {parts others : List Segment} (scanned : Template.scan first = .ok parts)
  (scanned' : Template.scan second = .ok others)
  (seam : ¬ (first.toList.getLast? = some '{' ∧ second.toList.head? = some '{'))
include valid scanned scanned' seam

/-- One template behind another resolves as the one and then the other does. -/
theorem resolve_joint (world : World σ V) :
    resolve world bindings (first ++ second) = (do
      let text ← resolve world bindings first
      return text ++ (← resolve world bindings second)) := by
  rw [resolve_of_scan world valid (Template.scan_append scanned scanned' seam), resolveSegments_joined,
    resolveSegments_moved, ← resolve_of_scan world valid scanned, ← resolve_of_scan world valid scanned']

end Joint

/-! ## What is asked -/

/-- What an evaluation in a traced world asks from a session on, in order. -/
def asked (traced : Evaluation (σ × List (Asked V)) V α) (session : Session σ V) : List (Asked V) :=
  (traced.runFrom (session.withTrace [])).2.trace

/-- Whether an evaluation in a traced world does what another one does without the trace, and adds what it
asks to whatever the trace holds already. -/
def Logs (traced : Evaluation (σ × List (Asked V)) V α) (plain : Evaluation σ V α) : Prop :=
  ∀ session trace, traced.runFrom (session.withTrace trace) =
    ((plain.runFrom session).1, (plain.runFrom session).2.withTrace (trace ++ asked traced session))

section Logging

variable {traced : Evaluation (σ × List (Asked V)) V α} {plain : Evaluation σ V α}
  {tracedNext : α → Evaluation (σ × List (Asked V)) V β} {next : α → Evaluation σ V β}
  {session after : Session σ V} {value : α} {failure : Failure}

theorem Silent.logs (silent : Silent traced plain) : Logs traced plain := by
  intro session trace
  obtain ⟨result, ran, same⟩ := silent session trace
  obtain ⟨result', ran', same'⟩ := silent session []
  rw [asked, ran, ran', same, Session.trace_withTrace, List.append_nil]

theorem logs_call (world : World σ V) (request : Call V) :
    Logs (call world.traced request) (call world request) := fun _ _ => rfl

theorem Logs.asked_bind_ok {behind : Evaluation σ V β} (first : Logs traced plain)
    (rest : Logs (tracedNext value) behind)
    (ran : plain.runFrom session = (.ok value, after)) :
    asked (traced >>= tracedNext) session = asked traced session ++ asked (tracedNext value) after := by
  rw [asked, runFrom_bind, first session [], ran]
  dsimp only
  rw [rest after, Session.trace_withTrace, List.nil_append]

theorem Logs.asked_bind_error (first : Logs traced plain)
    (ran : plain.runFrom session = (.error failure, after)) :
    asked (traced >>= tracedNext) session = asked traced session := by
  rw [asked, runFrom_bind, first session [], ran]
  rfl

theorem Logs.bind (first : Logs traced plain) (rest : ∀ value, Logs (tracedNext value) (next value)) :
    Logs (traced >>= tracedNext) (plain >>= next) := by
  intro session trace
  rw [runFrom_bind, runFrom_bind, first session trace]
  rcases ran : plain.runFrom session with ⟨failure | value, after⟩
  · rw [first.asked_bind_error ran]
  · rw [first.asked_bind_ok (rest value) ran, ← List.append_assoc]
    exact rest value after _

/-- What is made of a result asks nothing. -/
theorem Logs.asked_bind_pure (first : Logs traced plain) (f : α → β) (session : Session σ V) :
    asked (traced >>= fun value => pure (f value)) session = asked traced session := by
  rcases ran : plain.runFrom session with ⟨failure | value, after⟩
  · exact first.asked_bind_error ran
  · rw [first.asked_bind_ok (silent_pure (f value)).logs ran]
    exact List.append_nil _

end Logging

theorem logs_resolveSegments (world : World σ V) (scope : Scope V) (parts : List Segment) :
    Logs (resolveSegments world.traced scope parts) (resolveSegments world scope parts) := by
  induction parts with
  | nil => exact (silent_pure "").logs
  | cons part rest ih =>
    refine Logs.bind ?_ fun text => ih.bind fun others => (silent_pure _).logs
    unfold resolveSegment
    split
    · exact (logs_call world _).bind fun value => (silent_display world value).logs
    · exact (silent_pure _).logs

theorem logs_resolve (world : World σ V) (bindings : Scope V) (source : String) :
    Logs (resolve world.traced bindings source) (resolve world bindings source) := by
  refine (silent_ofExcept _).logs.bind fun scope => ?_
  split
  · exact (silent_ofExcept _).logs.bind fun parts => logs_resolveSegments world scope parts
  · exact (silent_pure source).logs

/-- What resolving a text asks of the host, in order. -/
def calls (world : World σ V) (bindings : Scope V) (source : String) (session : Session σ V) :
    List (Asked V) :=
  asked (resolve world.traced bindings source) session

theorem resolve_free (world : World σ V) {bindings scope : Scope V}
    (valid : createScope bindings = .ok scope) {literal : String} (free : ¬ ['{', '{'] <:+: literal.toList) :
    resolve world bindings literal = pure literal := by
  have scanned : Template.scan literal = .ok (Template.literalAt 0 literal.toList) :=
    Template.scan_eq_ok_iff.mpr (Template.segments_of_free free 0)
  rw [resolve_of_scan world valid scanned, resolveSegments_literalAt, String.ofList_toList]

/-- **Resolving is compositional.** Let two templates scan, and let no braces meet where the second is
written behind the first. From any session of any world, both together

* fail as the first does, with the same session and the same calls, if it fails;
* otherwise go on as the second does from the session that the first leaves: the outcome is its
  failure, or the two texts in a row, and the calls are those of the first and then those of the second.

A text without opening braces resolves to itself, changes nothing and asks nothing, and stands as it is
before and behind whatever a template resolves to. -/
theorem resolve_append (world : World σ V) {bindings scope : Scope V}
    (valid : createScope bindings = .ok scope) {first second : String} {parts others : List Segment}
    (scanned : Template.scan first = .ok parts) (scanned' : Template.scan second = .ok others)
    (seam : ¬ (first.toList.getLast? = some '{' ∧ second.toList.head? = some '{'))
    (session : Session σ V) :
    (∀ failure after, (resolve world bindings first).runFrom session = (.error failure, after) →
      (resolve world bindings (first ++ second)).runFrom session = (.error failure, after) ∧
      calls world bindings (first ++ second) session = calls world bindings first session) ∧
    (∀ text after, (resolve world bindings first).runFrom session = (.ok text, after) →
      (∀ failure final, (resolve world bindings second).runFrom after = (.error failure, final) →
        (resolve world bindings (first ++ second)).runFrom session = (.error failure, final)) ∧
      (∀ more final, (resolve world bindings second).runFrom after = (.ok more, final) →
        (resolve world bindings (first ++ second)).runFrom session = (.ok (text ++ more), final)) ∧
      calls world bindings (first ++ second) session =
        calls world bindings first session ++ calls world bindings second after) ∧
    ∀ literal : String, ¬ ['{', '{'] <:+: literal.toList →
      (resolve world bindings literal).runFrom session = (.ok literal, session) ∧
      calls world bindings literal session = [] ∧
      (¬ (literal.toList.getLast? = some '{' ∧ first.toList.head? = some '{') →
        resolve world bindings (literal ++ first) = (literal ++ ·) <$> resolve world bindings first) ∧
      (¬ (first.toList.getLast? = some '{' ∧ literal.toList.head? = some '{') →
        resolve world bindings (first ++ literal) = (· ++ literal) <$> resolve world bindings first) := by
  have logs := logs_resolve world bindings first
  have logs' := logs_resolve world bindings second
  have joint := resolve_joint valid scanned scanned' seam world
  have joint' := resolve_joint valid scanned scanned' seam world.traced
  refine ⟨?_, ?_, ?_⟩
  · intro failure after ran
    constructor
    · rw [joint, runFrom_bind, ran]
    · rw [calls, joint']
      exact logs.asked_bind_error ran
  · intro text after ran
    refine ⟨?_, ?_, ?_⟩
    · intro failure final ran'
      rw [joint, runFrom_bind, ran]
      dsimp only
      rw [runFrom_bind, ran']
    · intro more final ran'
      rw [joint, runFrom_bind, ran]
      dsimp only
      rw [runFrom_bind, ran']
      rfl
    · have behind : Logs (do return text ++ (← resolve world.traced bindings second))
          (do return text ++ (← resolve world bindings second)) :=
        logs'.bind fun more => (silent_pure _).logs
      rw [calls, joint', logs.asked_bind_ok behind ran, logs'.asked_bind_pure]
      rfl
  · intro literal free
    have whole := resolve_free world valid free
    have scannedLiteral : Template.scan literal = .ok (Template.literalAt 0 literal.toList) :=
      Template.scan_eq_ok_iff.mpr (Template.segments_of_free free 0)
    refine ⟨?_, ?_, ?_, ?_⟩
    · rw [whole, runFrom_pure]
    · rw [calls, resolve_free world.traced valid free]
      rfl
    · intro apart
      rw [resolve_joint valid scannedLiteral scanned apart world, whole, pure_bind, map_eq_pure_bind]
    · intro apart
      rw [resolve_joint valid scanned scannedLiteral apart world, whole, map_eq_pure_bind]
      simp only [pure_bind]

/-- Closing braces that close nothing, and a brace on either side of a span. -/
theorem resolve_append_braces :
    let world := Rehearsal.world [("x", .text "1"), ("y", .text "2")] ""
    let session : Session (List RehearsedCall) Data := { state := [] }
    let first := "a\x7d\x7d \x7b\x7bx\x7d\x7d"
    let second := "\x7d\x7b\x7by\x7d\x7d\x7b"
    ∃ between final, (resolve world [] first).runFrom session = (.ok "a\x7d\x7d 1", between) ∧
      (resolve world [] (first ++ second)).runFrom session = (.ok "a\x7d\x7d 1\x7d2\x7b", final) ∧
      (calls world [] (first ++ second) session).length = 2 := by
  intro world session first second
  have valid : createScope ([] : Scope Data) = .ok helperScope := rfl
  have scanned : Template.scan first =
      .ok [⟨"a\x7d\x7d ", false, 0⟩, ⟨"x", true, 4⟩] := by decide +kernel
  have scanned' : Template.scan second =
      .ok [⟨"\x7d", false, 0⟩, ⟨"y", true, 1⟩, ⟨"\x7b", false, 6⟩] := by decide +kernel
  have seam : ¬ (first.toList.getLast? = some '{' ∧ second.toList.head? = some '{') := by decide +kernel
  let made (source : String) : RehearsedCall := ⟨.expression, source, ["date", "time", "datetime"]⟩
  let between : Session (List RehearsedCall) Data := { state := [made "x"] }
  let final : Session (List RehearsedCall) Data := { state := [made "x", made "y"] }
  have ran : (resolve world [] first).runFrom session = (.ok "a\x7d\x7d 1", between) := by
    rw [resolve_of_scan world valid scanned]
    rfl
  have ran' : (resolve world [] second).runFrom between = (.ok "\x7d2\x7b", final) := by
    rw [resolve_of_scan world valid scanned']
    rfl
  have asked : (calls world [] first session).length = 1 := by
    rw [calls, resolve_of_scan world.traced valid scanned]
    rfl
  have asked' : (calls world [] second between).length = 1 := by
    rw [calls, resolve_of_scan world.traced valid scanned']
    rfl
  obtain ⟨-, further, -⟩ := resolve_append world valid scanned scanned' seam session
  obtain ⟨-, finishes, row⟩ := further _ _ ran
  refine ⟨between, final, ran, finishes _ _ ran', ?_⟩
  rw [row, List.length_append, asked, asked']

end IssueBoard.Evaluation
