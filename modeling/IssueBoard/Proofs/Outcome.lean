import Mathlib.Data.List.Forall2

/-! # When a computation that may fail succeeds

A computation in parts succeeds if all its parts do.
-/

namespace IssueBoard

variable {ε ε' α β : Type}

theorem ok_bind (value : α) (next : α → Except ε β) : (Except.ok value >>= next) = next value := rfl

/-- A computation in two parts succeeds if both parts do. -/
theorem bind_eq_ok_iff {first : Except ε α} {next : α → Except ε β} {result : β} :
    (first >>= next) = .ok result ↔ ∃ value, first = .ok value ∧ next value = .ok result := by
  cases first with
  | error failure =>
    constructor
    · intro never
      cases never
    · rintro ⟨value, never, -⟩
      cases never
  | ok value =>
    constructor
    · intro more
      exact ⟨value, rfl, more⟩
    · rintro ⟨value, same, more⟩
      cases same
      exact more

/-- A computation in two parts fails if one of them does. -/
theorem bind_eq_error_iff {first : Except ε α} {next : α → Except ε β} {failure : ε} :
    (first >>= next) = .error failure ↔
      first = .error failure ∨ ∃ value, first = .ok value ∧ next value = .error failure := by
  cases first with
  | error other =>
    constructor
    · rintro ⟨⟩
      exact .inl rfl
    · rintro (⟨⟨⟩⟩ | ⟨_, never, -⟩)
      · rfl
      · cases never
  | ok value =>
    constructor
    · intro more
      exact .inr ⟨value, rfl, more⟩
    · rintro (never | ⟨_, same, more⟩)
      · cases never
      · cases same
        exact more

/-- A failure is no result. -/
theorem not_exists_error {failure : ε} : ¬∃ value : α, (.error failure : Except ε α) = .ok value := by
  rintro ⟨_, never⟩
  cases never

theorem pure_eq_ok_iff {value result : α} : (pure value : Except ε α) = .ok result ↔ value = result := by
  constructor
  · rintro ⟨⟩
    rfl
  · rintro rfl
    rfl

theorem map_eq_ok_iff {f : α → β} {result : Except ε α} {y : β} :
    f <$> result = .ok y ↔ ∃ x, result = .ok x ∧ f x = y := by
  rw [map_eq_pure_bind, bind_eq_ok_iff]
  simp only [pure_eq_ok_iff]

theorem map_eq_error_iff {f : α → β} {result : Except ε α} {failure : ε} :
    f <$> result = .error failure ↔ result = .error failure := by
  rw [map_eq_pure_bind, bind_eq_error_iff]
  refine or_iff_left ?_
  rintro ⟨_, -, never⟩
  cases never

/-- A last step that always gives a result leaves it to the first whether there is one. -/
theorem exists_bind_pure_iff {first : Except ε α} {f : α → β} :
    (∃ y, (first >>= fun x => pure (f x)) = .ok y) ↔ ∃ x, first = .ok x := by
  simp only [bind_eq_ok_iff, pure_eq_ok_iff]
  constructor
  · rintro ⟨_, x, done, rfl⟩
    exact ⟨x, done⟩
  · rintro ⟨x, done⟩
    exact ⟨f x, x, done, rfl⟩

theorem mapError_eq_ok_iff {result : Except ε α} {f : ε → ε'} {value : α} :
    result.mapError f = .ok value ↔ result = .ok value := by
  cases result <;> simp [Except.mapError]

theorem mapError_eq_error_iff {result : Except ε α} {f : ε → ε'} {failure : ε'} :
    result.mapError f = .error failure ↔ ∃ reason, result = .error reason ∧ f reason = failure := by
  cases result <;> simp [Except.mapError]

/-- A list of computations succeeds if each of them does. -/
theorem mapM_eq_ok_iff {f : α → Except ε β} {xs : List α} {ys : List β} :
    xs.mapM f = .ok ys ↔ List.Forall₂ (fun x y => f x = .ok y) xs ys := by
  induction xs generalizing ys with
  | nil =>
    rw [List.mapM_nil, pure_eq_ok_iff, List.forall₂_nil_left_iff]
    exact eq_comm
  | cons x xs ih =>
    simp only [List.mapM_cons, bind_eq_ok_iff, ih, pure_eq_ok_iff, List.forall₂_cons_left_iff]
    constructor
    · rintro ⟨y, first, ys', rest, rfl⟩
      exact ⟨y, ys', first, rest, rfl⟩
    · rintro ⟨y, ys', first, rest, rfl⟩
      exact ⟨y, first, ys', rest, rfl⟩

/-- A list of computations of which each succeeds with a known result. -/
theorem mapM_eq_ok_map {f : α → Except ε β} {g : α → β} {xs : List α} (each : ∀ x ∈ xs, f x = .ok (g x)) :
    xs.mapM f = .ok (xs.map g) := by
  rw [mapM_eq_ok_iff, List.forall₂_map_right_iff, List.forall₂_same]
  exact each

theorem mapM_congr {f g : α → Except ε β} {xs : List α} (each : ∀ x ∈ xs, f x = g x) :
    xs.mapM f = xs.mapM g := by
  induction xs with
  | nil => rfl
  | cons x xs ih =>
    obtain ⟨first, rest⟩ := List.forall_mem_cons.mp each
    rw [List.mapM_cons, List.mapM_cons, first, ih rest]

theorem exists_mapM_eq_ok_iff {f : α → Except ε β} {xs : List α} :
    (∃ ys, xs.mapM f = .ok ys) ↔ ∀ x ∈ xs, ∃ y, f x = .ok y := by
  simp only [mapM_eq_ok_iff]
  induction xs with
  | nil => exact iff_of_true ⟨[], .nil⟩ (List.forall_mem_nil _)
  | cons x xs ih =>
    rw [List.forall_mem_cons, ← ih]
    constructor
    · rintro ⟨_, _ | ⟨first, rest⟩⟩
      exact ⟨⟨_, first⟩, _, rest⟩
    · rintro ⟨⟨y, first⟩, ys, rest⟩
      exact ⟨y :: ys, .cons first rest⟩

/-- A list of computations that each give a known result, if any. -/
theorem eq_map_of_mapM {f : α → Except ε β} {g : α → β} {xs : List α} {ys : List β}
    (each : ∀ x y, f x = .ok y → y = g x) (done : xs.mapM f = .ok ys) : ys = xs.map g := by
  rw [mapM_eq_ok_iff] at done
  induction done with
  | nil => rfl
  | cons found _ ih => rw [List.map_cons, ih, each _ _ found]

/-- What all partners of the items of a list have in common. -/
theorem forall_of_forall₂ {R : α → β → Prop} {P : β → Prop} {xs : List α} {ys : List β}
    (each : ∀ x y, R x y → P y) (related : List.Forall₂ R xs ys) : ∀ y ∈ ys, P y := by
  induction related with
  | nil => exact List.forall_mem_nil _
  | cons first _ ih => exact List.forall_mem_cons.mpr ⟨each _ _ first, ih⟩

/-- What holds of the result of each computation of a list holds of all results. -/
theorem forall_of_mapM {f : α → Except ε β} {P : β → Prop} {xs : List α} {ys : List β}
    (each : ∀ x ∈ xs, ∀ y, f x = .ok y → P y) (done : xs.mapM f = .ok ys) : ∀ y ∈ ys, P y := by
  have related := mapM_eq_ok_iff.mp done
  clear done
  induction related with
  | nil => exact List.forall_mem_nil _
  | cons first _ ih =>
    obtain ⟨here, later⟩ := List.forall_mem_cons.mp each
    exact List.forall_mem_cons.mpr ⟨here _ first, ih later⟩

end IssueBoard
