import IssueBoard.Evaluation.Resolve
import IssueBoard.Proofs.Outcome

/-! # What evaluations preserve

An evaluation runs from a session to a result and a session after it. What every run of author code
preserves is preserved when a template is resolved, whether it resolves or fails.
-/

namespace IssueBoard.Evaluation

variable {σ V α β : Type}

theorem runFrom_bind (evaluation : Evaluation σ V α) (next : α → Evaluation σ V β)
    (session : Session σ V) :
    (evaluation >>= next).runFrom session =
      match evaluation.runFrom session with
      | (.ok value, after) => (next value).runFrom after
      | (.error failure, after) => (.error failure, after) := by
  simp only [runFrom, bind, ExceptT.bind, ExceptT.mk, StateT.bind, ExceptT.bindCont]
  rcases evaluation session with ⟨_ | _, _⟩ <;> rfl

/-- An evaluation in two parts gives a result if both parts do. -/
theorem runFrom_bind_eq_ok_iff {evaluation : Evaluation σ V α} {next : α → Evaluation σ V β}
    {session after : Session σ V} {result : β} :
    (evaluation >>= next).runFrom session = (.ok result, after) ↔
      ∃ value during, evaluation.runFrom session = (.ok value, during) ∧
        (next value).runFrom during = (.ok result, after) := by
  rw [runFrom_bind]
  rcases evaluation.runFrom session with ⟨failure | value, during⟩
  · simp
  · constructor
    · intro ran
      exact ⟨value, during, rfl, ran⟩
    · rintro ⟨_, _, same, ran⟩
      cases same
      exact ran

@[simp] theorem runFrom_pure (value : α) (session : Session σ V) :
    (pure value : Evaluation σ V α).runFrom session = (.ok value, session) := rfl

theorem runFrom_bind_pure_eq_ok_iff {evaluation : Evaluation σ V α} {f : α → β}
    {session after : Session σ V} {result : β} :
    (evaluation >>= fun value => pure (f value)).runFrom session = (.ok result, after) ↔
      ∃ value, evaluation.runFrom session = (.ok value, after) ∧ f value = result := by
  rw [runFrom_bind_eq_ok_iff]
  constructor
  · rintro ⟨value, during, ran, done⟩
    cases done
    exact ⟨value, ran, rfl⟩
  · rintro ⟨value, ran, rfl⟩
    exact ⟨value, after, ran, rfl⟩

@[simp] theorem runFrom_ofExcept (result : Except Failure α) (session : Session σ V) :
    (ofExcept result : Evaluation σ V α).runFrom session = (result, session) := rfl

@[simp] theorem runFrom_ofFunction (step : Session σ V → Except Failure α × Session σ V)
    (session : Session σ V) : (ofFunction step).runFrom session = step session := rfl

/-- Bindings make no scope only for the name of one of them. -/
theorem eq_scope_of_createScope {bindings : Scope V} {failure : Failure}
    (failed : createScope bindings = .error failure) : ∃ name cause, failure = .scope name cause := by
  rcases bind_eq_error_iff.mp failed with failed | ⟨_, -, never⟩
  · induction bindings with
    | nil => cases failed
    | cons binding rest ih =>
      rw [List.map_cons, checkNames, bind_eq_error_iff] at failed
      rcases failed with failed | ⟨_, -, failed⟩
      · unfold checkName at failed
        split at failed
        · cases failed
          exact ⟨_, _, rfl⟩
        · split at failed
          · cases failed
            exact ⟨_, _, rfl⟩
          · cases failed
      · exact ih (bind_eq_error_iff.mpr (.inl failed)) failed
  · cases never

/-- A template without expressions stands for itself. -/
theorem runFrom_resolve_plain (world : World σ V) {bindings : Scope V} {source : String}
    (names : checkNames (bindings.map (·.1)) = .ok ()) (plain : Template.hasExpressions source = false)
    (session : Session σ V) :
    (resolve world bindings source).runFrom session = (.ok source, session) := by
  have scope : createScope bindings = .ok (helperScope ++ bindings) := by
    rw [createScope, names]
    rfl
  rw [resolve, runFrom_bind, scope, runFrom_ofExcept]
  simp only [plain, Bool.false_eq_true, if_false, runFrom_pure]

/-- A property of sessions that still holds after an evaluation if it held before. -/
def Preserves (P : Session σ V → Prop) (evaluation : Evaluation σ V α) : Prop :=
  ∀ session, P session → P (evaluation.runFrom session).2

section Preservation

variable {P : Session σ V → Prop}

theorem preserves_pure (value : α) : Preserves P (pure value) := fun _ holds => holds

theorem preserves_ofExcept (result : Except Failure α) : Preserves P (ofExcept result) :=
  fun _ holds => holds

theorem Preserves.bind {evaluation : Evaluation σ V α} {next : α → Evaluation σ V β}
    (first : Preserves P evaluation) (second : ∀ value, Preserves P (next value)) :
    Preserves P (evaluation >>= next) := by
  intro session holds
  have middle := first session holds
  rw [runFrom_bind]
  rcases run : evaluation.runFrom session with ⟨failure | value, after⟩
  · rw [run] at middle
    exact middle
  · rw [run] at middle
    exact second value after middle

variable {world : World σ V} (code : ∀ request, Preserves P (call world request))
include code

theorem preserves_resolveSegment (scope : Scope V) (segment : Segment) :
    Preserves P (resolveSegment world scope segment) := by
  rw [resolveSegment]
  split
  · refine (code _).bind fun value => ?_
    intro session holds
    exact holds
  · exact preserves_pure _

theorem preserves_resolveSegments (scope : Scope V) (segments : List Segment) :
    Preserves P (resolveSegments world scope segments) := by
  induction segments with
  | nil => exact preserves_pure _
  | cons segment rest ih =>
    refine (preserves_resolveSegment code scope segment).bind fun text => ?_
    exact ih.bind fun others => preserves_pure _

/-- What author code preserves is preserved when a template is resolved. -/
theorem preserves_resolve (bindings : Scope V) (source : String) :
    Preserves P (resolve world bindings source) := by
  refine (preserves_ofExcept _).bind fun scope => ?_
  split
  · exact (preserves_ofExcept _).bind fun segments => preserves_resolveSegments code scope segments
  · exact preserves_pure _

end Preservation

end IssueBoard.Evaluation
