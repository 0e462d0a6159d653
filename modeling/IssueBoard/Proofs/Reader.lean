import IssueBoard.Rest

/-! # Readers that stop

A reader takes a value off the front of a list, or fails. What a reader does not look at plays no role: when
a list is cut where its readers stop, they do the same on the first part, and leave the second alone.
-/

namespace IssueBoard

variable {τ α β : Type}

/-- Something that takes a value off the front of a list. -/
abbrev Reader (τ : Type) := StateT (List τ) Option

/-- What has been found, without what its type says of the rest. -/
def bare {p : List τ → Prop} (found : Option (α × Subtype p)) : Option (α × List τ) :=
  found.map fun (x, rest) => (x, rest.1)

/-- A reader, without what its type says of the rest. -/
def reads {p : List τ → List τ → Prop} (read : (ts : List τ) → Option (α × Subtype (p ts))) : Reader τ α :=
  fun ts => bare (read ts)

/-- Goes on with a value that may be missing. -/
def given (value : Option α) : Reader τ α := fun ts => value.map (·, ts)

/-- Goes on if a list is as it should be. -/
def checked (p : List τ → Bool) : Reader τ Unit := fun ts => if p ts then some ((), ts) else none

/-- What has been found, with more behind the rest. -/
def grow (tail : List τ) (found : Option (α × List τ)) : Option (α × List τ) :=
  found.map fun (x, rest) => (x, rest ++ tail)

theorem pure_apply (x : α) (ts : List τ) : (pure x : Reader τ α) ts = some (x, ts) := rfl

theorem reads_eq_some {p : List τ → List τ → Prop} {read : (ts : List τ) → Option (α × Subtype (p ts))}
    {ts : List τ} {x : α} {rest : List τ} (found : reads read ts = some (x, rest)) : p ts rest := by
  obtain ⟨⟨y, within⟩, -, same⟩ := Option.map_eq_some_iff.mp found
  cases same
  exact within.2

/-- A reader that goes on with what another one has left. -/
theorem bare_bind {p : List τ → List τ → Prop} {q : List τ → Prop}
    {read : (ts : List τ) → Option (α × Subtype (p ts))} {ts : List τ}
    {next : α × Subtype (p ts) → Option (β × Subtype q)} {k : α → Reader τ β}
    (each : ∀ x rest within, bare (next (x, ⟨rest, within⟩)) = k x rest) :
    bare (read ts >>= next) = (reads read >>= k) ts := by
  simp only [bind, StateT.bind, reads]
  rcases read ts with _ | ⟨x, rest, within⟩
  · rfl
  · exact each x rest within

theorem bare_map {p : List τ → List τ → Prop} {q : List τ → Prop}
    (read : (ts : List τ) → Option (α × Subtype (p ts))) {ts : List τ}
    {next : α × Subtype (p ts) → β × Subtype q} {f : α → β}
    (each : ∀ x rest, bare (some (next (x, rest))) = some (f x, rest.1)) :
    bare ((read ts).map next) = (f <$> reads read) ts := by
  simp only [Functor.map, StateT.map, reads]
  rcases read ts with _ | ⟨x, rest⟩
  · rfl
  · exact each x rest

theorem bare_given {value : Option α} {q : List τ → Prop} {next : α → Option (β × Subtype q)}
    {k : α → Reader τ β} {ts : List τ} (each : ∀ x, bare (next x) = k x ts) :
    bare (value >>= next) = (given value >>= k) ts := by
  cases value with
  | none => rfl
  | some x => exact each x

/-- A reader that gives back what another one has found. -/
theorem bare_last {p : List τ → List τ → Prop} {q : List τ → Prop}
    {read : (ts : List τ) → Option (α × Subtype (p ts))} {ts : List τ}
    {next : α × Subtype (p ts) → Option (α × Subtype q)}
    (each : ∀ x rest within, bare (next (x, ⟨rest, within⟩)) = some (x, rest)) :
    bare (read ts >>= next) = reads read ts := by
  rw [← bind_pure (reads read)]
  exact bare_bind each

theorem bind_of_some {first : Reader τ α} {next : α → Reader τ β} {ts rest : List τ} {x : α}
    (found : first ts = some (x, rest)) : (first >>= next) ts = next x rest := by
  simp only [bind, StateT.bind, found, Option.bind]

theorem bind_of_none {first : Reader τ α} {next : α → Reader τ β} {ts : List τ} (none : first ts = none) :
    (first >>= next) ts = .none := by
  simp only [bind, StateT.bind, none, Option.bind]

theorem bind_eq_some {first : Reader τ α} {next : α → Reader τ β} {ts : List τ} {found : β × List τ}
    (done : (first >>= next) ts = some found) :
    ∃ x rest, first ts = some (x, rest) ∧ next x rest = some found := by
  obtain ⟨⟨x, rest⟩, own, done⟩ := Option.bind_eq_some_iff.mp done
  exact ⟨x, rest, own, done⟩

theorem map_eq_some {first : Reader τ α} {f : α → β} {ts rest : List τ} {y : β}
    (done : (f <$> first) ts = some (y, rest)) : ∃ x, first ts = some (x, rest) ∧ y = f x := by
  obtain ⟨⟨x, rest⟩, own, done⟩ := Option.bind_eq_some_iff.mp done
  cases done
  exact ⟨x, own, rfl⟩

theorem given_eq_some {value : Option α} {ts rest : List τ} {x : α}
    (done : given value ts = some (x, rest)) : value = some x := by
  obtain ⟨y, own, same⟩ := Option.map_eq_some_iff.mp done
  cases same
  exact own

theorem checked_bind {p : List τ → Bool} {next : Unit → Reader τ β} {ts : List τ} :
    (checked p >>= next) ts = if p ts then next () ts else none := by
  simp only [bind, StateT.bind, checked]
  split <;> rfl

/-! ## Tails that are left alone -/

/-- Whether a reader does on a list what it does with more behind it, and leaves a rest of some kind. -/
structure Leaves (tail : List τ) (read : Reader τ α) (ts : List τ) (kind : List τ → Prop) : Prop where
  append : read (ts ++ tail) = grow tail (read ts)
  left : ∀ x rest, read ts = some (x, rest) → kind rest

namespace Leaves

variable {tail ts : List τ} {kind kind' : List τ → Prop}

theorem pure (x : α) (fits : kind ts) : Leaves tail (Pure.pure x) ts kind :=
  ⟨rfl, fun _ _ same => by cases same; exact fits⟩

theorem fail : Leaves tail (fun _ => none : Reader τ α) ts kind := ⟨rfl, nofun⟩

theorem mono {read : Reader τ α} (leaves : Leaves tail read ts kind) (more : ∀ rest, kind rest → kind' rest) :
    Leaves tail read ts kind' :=
  ⟨leaves.append, fun x rest found => more rest (leaves.left x rest found)⟩

/-- A reader that does what another one does on another list. -/
theorem of_eq {read read' : Reader τ α} {ts' : List τ} (whole : read (ts ++ tail) = read' (ts' ++ tail))
    (part : read ts = read' ts') (leaves : Leaves tail read' ts' kind) : Leaves tail read ts kind :=
  ⟨by rw [whole, part, leaves.append], fun x rest found => leaves.left x rest (part.symm.trans found)⟩

/-- A reader that finds nothing. -/
theorem of_none {read : Reader τ α} (whole : read (ts ++ tail) = none) (part : read ts = none) :
    Leaves tail read ts kind :=
  ⟨by rw [whole, part]; rfl, fun x rest found => by rw [part] at found; cases found⟩

theorem map {first : Reader τ α} (f : α → β) (leaves : Leaves tail first ts kind) :
    Leaves tail (f <$> first) ts kind := by
  constructor
  · simp only [Functor.map, StateT.map, leaves.append]
    cases first ts <;> rfl
  · intro x rest found
    obtain ⟨⟨y, more⟩, own, same⟩ := Option.bind_eq_some_iff.mp found
    cases same
    exact leaves.left y rest own

theorem bind {first : Reader τ α} {next : α → Reader τ β} (leaves : Leaves tail first ts kind)
    (each : ∀ x rest, first ts = some (x, rest) → kind rest → Leaves tail (next x) rest kind') :
    Leaves tail (first >>= next) ts kind' := by
  constructor
  · simp only [Bind.bind, StateT.bind, leaves.append]
    rcases found : first ts with _ | ⟨x, rest⟩
    · rfl
    · exact (each x rest found (leaves.left x rest found)).append
  · intro y more done
    obtain ⟨⟨x, rest⟩, found, done⟩ := Option.bind_eq_some_iff.mp done
    exact (each x rest found (leaves.left x rest found)).left y more done

theorem given {value : Option α} {next : α → Reader τ β} (each : ∀ x, Leaves tail (next x) ts kind) :
    Leaves tail (IssueBoard.given value >>= next) ts kind := by
  cases value with
  | none => exact Leaves.fail
  | some x => exact each x

theorem ite {c : List τ → Bool} {first second : Reader τ α} (same : c (ts ++ tail) = c ts)
    (yes : Leaves tail first ts kind) (no : Leaves tail second ts kind) :
    Leaves tail (fun ts => if c ts then first ts else second ts) ts kind := by
  constructor
  · rw [same]
    cases c ts with
    | false => exact no.append
    | true => exact yes.append
  · intro x rest
    cases c ts with
    | false => exact no.left x rest
    | true => exact yes.left x rest

end Leaves

/-! ## Items to stop at -/

section

variable (isEnd : τ → Bool)

/-- Whether a list is empty or starts with an item to stop at. -/
def IsTail (tail : List τ) : Prop := ∀ t, tail.head? = some t → isEnd t = true

/-- Whether a rest is what is left of a list after items have been taken off that are none to stop at. -/
def Takes (ts rest : List τ) : Prop := ∃ used, (∀ t ∈ used, isEnd t = false) ∧ ts = used ++ rest

/-- Whether a reader leaves a tail alone and takes no item off at which it is to stop. -/
abbrev Stays (tail : List τ) (read : Reader τ α) (ts : List τ) : Prop := Leaves tail read ts (Takes isEnd ts)

end

variable {isEnd : τ → Bool} {tail ts rest : List τ}

theorem Takes.refl (ts : List τ) : Takes isEnd ts ts := ⟨[], List.forall_mem_nil _, rfl⟩

theorem Takes.trans {more : List τ} (first : Takes isEnd ts rest) (second : Takes isEnd rest more) :
    Takes isEnd ts more := by
  obtain ⟨used, some, rfl⟩ := first
  obtain ⟨others, more, rfl⟩ := second
  exact ⟨used ++ others, List.forall_mem_append.mpr ⟨some, more⟩, (List.append_assoc ..).symm⟩

theorem Takes.one {t : τ} (other : isEnd t = false) (rest : List τ) : Takes isEnd (t :: rest) rest :=
  ⟨[t], List.forall_mem_singleton.mpr other, rfl⟩

theorem Takes.cons {t : τ} (other : isEnd t = false) (takes : Takes isEnd ts rest) :
    Takes isEnd (t :: ts) rest :=
  (Takes.one other ts).trans takes

/-- A tail plays no role if no item at its front does. -/
theorem append_of_isTail (ends : IsTail isEnd tail) {read : Reader τ α}
    (each : ∀ t more, isEnd t = true → read (ts ++ t :: more) = grow (t :: more) (read ts)) :
    read (ts ++ tail) = grow tail (read ts) := by
  cases tail with
  | nil =>
    rw [List.append_nil, grow]
    cases read ts <;> simp
  | cons t more => exact each t more (ends t rfl)

namespace Stays

theorem pure (x : α) : Stays isEnd tail (Pure.pure x) ts := Leaves.pure x (.refl ts)

theorem last (value : Option α) : Stays isEnd tail (IssueBoard.given value) ts := by
  cases value with
  | none => exact Leaves.fail
  | some x => exact Stays.pure x

theorem checked {p : List τ → Bool} {next : Unit → Reader τ β} (same : p (ts ++ tail) = p ts)
    (fine : p ts = true → Stays isEnd tail (next ()) ts) : Stays isEnd tail (checked p >>= next) ts := by
  cases holds : p ts with
  | false =>
    refine Leaves.of_none ?_ ?_
    · rw [checked_bind, same, holds, if_neg Bool.false_ne_true]
    · rw [checked_bind, holds, if_neg Bool.false_ne_true]
  | true =>
    refine Leaves.of_eq ?_ ?_ (fine holds)
    · rw [checked_bind, same, holds, if_pos rfl]
    · rw [checked_bind, holds, if_pos rfl]

theorem bind {first : Reader τ α} {next : α → Reader τ β} (stays : Stays isEnd tail first ts)
    (each : ∀ x rest, first ts = some (x, rest) → Stays isEnd tail (next x) rest) :
    Stays isEnd tail (first >>= next) ts :=
  Leaves.bind stays fun x rest found takes => (each x rest found).mono fun _ => takes.trans

end Stays

end IssueBoard
