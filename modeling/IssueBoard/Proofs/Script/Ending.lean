import IssueBoard.Proofs.Outcome
import IssueBoard.Script.Host

/-! # How author code ends

Author code that gives no value ends in a failure of the program's own kinds: the error of a script or of
an expression, or what something else that it called has failed with. There are few exceptions: code that
is refused as a whole, a loop without an end, and a raised error that cannot be told.
-/

namespace IssueBoard.Script

variable {κ ι : Type}

/-- How a run of author code ends without a value. -/
inductive Host.EndsCall (host : Host κ ι) (request : Call Value) (desk : Desk κ) : Failure → Prop
  /-- The code is not well formed, or a name of its scope is no parameter. -/
  | refused {failure : Failure} (refused : compile request = .error failure) (own : failure.isOwn = true) :
    EndsCall host request desk failure
  /-- The code is no code at all: it has a null character, nests too deep or takes constants for names. -/
  | unfit {fault : Fault} (refused : compile request = .error (.fault fault)) :
    EndsCall host request desk (.fault fault)
  /-- An error has ended the code. -/
  | error {body : List Stmt} {trouble : Trouble} (compiled : compile request = .ok body)
    (ended : (host.runBody body request.scope desk).1 = .error trouble) :
    EndsCall host request desk (.script request.kind trouble.message)
  /-- Something that the code has called has failed, and its failure is passed on. -/
  | passed {body : List Stmt} {failure : Failure} (own : failure.isOwn = true)
    (compiled : compile request = .ok body)
    (ended : (host.runBody body request.scope desk).1 = .error (.passed failure own)) :
    EndsCall host request desk failure
  /-- A raised error, or a missing key, that cannot be told has ended the code. -/
  | unspoken {body : List Stmt} {error : UnspokenError} (compiled : compile request = .ok body)
    (ended : (host.runBody body request.scope desk).1 = .error (.unspoken error)) :
    EndsCall host request desk (.fault error.fault)
  /-- A loop does not come to an end. -/
  | endless {body : List Stmt} (compiled : compile request = .ok body)
    (ended : (host.runBody body request.scope desk).1 = .error .endless) :
    EndsCall host request desk (.endless request.kind)

theorem withoutNull_error {source : String} {failure : Failure}
    (failed : withoutNull source = .error failure) :
    failure = .fault .nullCharacter := by
  unfold withoutNull at failed
  split at failed
  · cases failed
    rfl
  · cases failed

theorem parseExpression_error {source : String} {failure : Failure}
    (failed : parseExpression source = .error failure) :
    failure.isOwn = true ∨ failure = .fault .nullCharacter := by
  unfold parseExpression at failed
  dsimp only at failed
  split at failed
  · cases failed
    exact .inl rfl
  · rcases bind_eq_error_iff.mp failed with failed | ⟨_, -, failed⟩
    · exact .inr (withoutNull_error failed)
    · split at failed
      · cases failed
      · cases failed
        exact .inl rfl

theorem parseScript_error {source : String} {failure : Failure}
    (failed : parseScript source = .error failure) :
    failure.isOwn = true ∨ failure = .fault .nullCharacter := by
  rcases bind_eq_error_iff.mp failed with failed | ⟨_, -, failed⟩
  · exact .inr (withoutNull_error failed)
  · dsimp only at failed
    split at failed
    · cases failed
    · cases failed
      exact .inl rfl

theorem parseBody_error {kind : CodeKind} {source : String} {failure : Failure}
    (failed : parseBody kind source = .error failure) :
    failure.isOwn = true ∨ failure = .fault .nullCharacter := by
  cases kind with
  | script => exact parseScript_error failed
  | expression =>
    rw [parseBody] at failed
    cases parsed : parseExpression source with
    | ok value =>
      rw [parsed] at failed
      cases failed
    | error reason =>
      rw [parsed] at failed
      cases failed
      exact parseExpression_error parsed

theorem compile_error {request : Call Value} {failure : Failure} (failed : compile request = .error failure) :
    failure.isOwn = true ∨ ∃ fault, failure = .fault fault := by
  rcases bind_eq_error_iff.mp failed with failed | ⟨body, -, failed⟩
  · rcases parseBody_error failed with own | rfl
    · exact .inl own
    · exact .inr ⟨_, rfl⟩
  rcases bind_eq_error_iff.mp failed with failed | ⟨_, -, failed⟩
  · unfold checkBody at failed
    dsimp only at failed
    split at failed
    · cases failed
      exact .inr ⟨_, rfl⟩
    · split at failed
      · cases failed
        exact .inr ⟨_, rfl⟩
      · split at failed
        · cases failed
        · cases failed
          exact .inl rfl
  · split at failed
    · cases failed
      exact .inl rfl
    · cases failed

theorem parseBody_of_compile {request : Call Value} {body : List Stmt} (compiled : compile request = .ok body) :
    parseBody request.kind request.source = .ok body := by
  obtain ⟨parsed, own, compiled⟩ := bind_eq_ok_iff.mp compiled
  obtain ⟨-, -, compiled⟩ := bind_eq_ok_iff.mp compiled
  split at compiled <;> cases compiled
  exact own

/-- **Author code gives a value or ends in one of the known ways.** -/
theorem Host.endsCall {host : Host κ ι} {request : Call Value} {desk : Desk κ} {failure : Failure}
    (failed : (host.call request desk).1 = .error failure) : host.EndsCall request desk failure := by
  unfold Host.call at failed
  cases compiled : compile request with
  | error reason =>
    rw [compiled] at failed
    cases failed
    rcases compile_error compiled with own | ⟨fault, rfl⟩
    · exact .refused compiled own
    · exact .unfit compiled
  | ok body =>
    rw [compiled] at failed
    dsimp only at failed
    cases ended : (host.runBody body request.scope desk).1 with
    | ok value =>
      rw [ended] at failed
      cases failed
    | error trouble =>
      rw [ended] at failed
      cases trouble with
      | passed reason own =>
        cases failed
        exact .passed own compiled ended
      | unspoken error =>
        cases failed
        exact .unspoken compiled ended
      | endless =>
        cases failed
        exact .endless compiled ended
      | _ =>
        cases failed
        exact .error compiled ended

end IssueBoard.Script
