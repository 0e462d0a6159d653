import IssueBoard.Config.Options
import IssueBoard.Proofs.Outcome

/-! # What reading options takes

For each way to read a part of a configuration, when it gives a result and which one. An option counts
as given if it is there and not null.
-/

namespace IssueBoard.Config

variable {α : Type}

@[simp] theorem within_eq_ok_iff {part : String} {reading : Reading α} {x : α} :
    within part reading = .ok x ↔ reading = .ok x :=
  mapError_eq_ok_iff

theorem complain_ne_ok {cause : Cause} {x : α} : (complain cause : Reading α) ≠ .ok x := by
  rintro ⟨⟩

/-! ## Lists -/

theorem readItems_eq_ok_iff {read : Data → Reading α} {position : Nat} {items : List Data}
    {xs : List α} :
    readItems read position items = .ok xs ↔ List.Forall₂ (fun item x => read item = .ok x) items xs := by
  induction items generalizing position xs with
  | nil =>
    rw [readItems, List.forall₂_nil_left_iff, Except.ok.injEq]
    exact eq_comm
  | cons item rest ih =>
    simp only [readItems, bind_eq_ok_iff, within_eq_ok_iff, ih, pure_eq_ok_iff,
      List.forall₂_cons_left_iff]
    constructor
    · rintro ⟨x, first, xs', others, rfl⟩
      exact ⟨x, xs', first, others, rfl⟩
    · rintro ⟨x, xs', first, others, rfl⟩
      exact ⟨x, first, xs', others, rfl⟩

/-! ## Options -/

namespace Options

variable {options : Options} {name : String}

/-- Whether an option is there and not null. -/
def Given (options : Options) (name : String) : Prop :=
  ∃ value, options.find? name = some value ∧ value.isNull = false

theorem given_of_find {value : Data} (found : options.find? name = some value) :
    options.Given name ↔ value.isNull = false := by
  simp only [Given, found, Option.some.injEq, exists_eq_left']

theorem not_given_of_find (absent : options.find? name = none) : ¬ options.Given name := by
  simp only [Given, absent, reduceCtorEq, false_and, exists_false, not_false_eq_true]

theorem optional_eq_ok_iff {read : Data → Reading α} {found : Option α} :
    options.optional read name = .ok found ↔
      found = none ∧ ¬ options.Given name ∨
        ∃ value x, options.find? name = some value ∧ value.isNull = false ∧ read value = .ok x ∧
          found = some x := by
  unfold optional
  cases there : options.find? name with
  | none =>
    simp only [Except.ok.injEq, not_given_of_find there, not_false_eq_true, and_true, reduceCtorEq,
      false_and, exists_false, or_false]
    exact eq_comm
  | some value =>
    rw [given_of_find there]
    by_cases null : value.isNull = true
    · simp only [null, if_true, Except.ok.injEq, Bool.true_eq_false, not_false_eq_true, and_true,
        Option.some.injEq]
      constructor
      · rintro rfl
        exact .inl rfl
      · rintro (rfl | ⟨_, _, rfl, present, _⟩)
        · rfl
        · rw [null] at present
          cases present
    · rw [Bool.not_eq_true] at null
      simp only [null, Bool.false_eq_true, if_false, within_eq_ok_iff, map_eq_ok_iff,
        not_true_eq_false, and_false, Option.some.injEq, false_or, exists_and_left, exists_eq_left',
        true_and]
      exact exists_congr fun x => and_congr_right fun _ => eq_comm

/-- A reading of an optional part finds something exactly if the option is given. -/
theorem isSome_of_optional {read : Data → Reading α} {found : Option α}
    (done : options.optional read name = .ok found) : found.isSome = true ↔ options.Given name := by
  rcases optional_eq_ok_iff.mp done with ⟨rfl, absent⟩ | ⟨value, x, there, present, -, rfl⟩
  · simp only [Option.isSome_none, Bool.false_eq_true, absent]
  · simp only [Option.isSome_some, given_of_find there, present]

theorem required_eq_ok_iff {read : Data → Reading α} {x : α} :
    options.required read name = .ok x ↔
      ∃ value, options.find? name = some value ∧ read value = .ok x := by
  unfold required
  cases options.find? name with
  | none => simp only [within_eq_ok_iff, complain_ne_ok, reduceCtorEq, false_and, exists_false]
  | some value => simp only [within_eq_ok_iff, Option.some.injEq, exists_eq_left']

theorem items_eq_ok_iff {read : Data → Reading α} {xs : List α} :
    options.items read name = .ok xs ↔
      options.find? name = none ∧ xs = [] ∨
        ∃ value, options.find? name = some value ∧ readList read value = .ok xs := by
  unfold items
  cases options.find? name with
  | none =>
    simp only [Except.ok.injEq, true_and, reduceCtorEq, false_and, exists_false, or_false]
    exact eq_comm
  | some value =>
    simp only [within_eq_ok_iff, reduceCtorEq, false_and, Option.some.injEq, exists_eq_left',
      false_or]

theorem checkNames_eq_ok_iff {isKnown : String → Bool} :
    options.checkNames isKnown = .ok () ↔
      ∀ entry ∈ options, ∃ known, entry.1 = .text known ∧ isKnown known = true := by
  induction options with
  | nil =>
    simp only [checkNames, List.not_mem_nil, false_implies, implies_true]
  | cons entry rest ih =>
    rw [List.forall_mem_cons, ← ih]
    obtain ⟨name, value⟩ := entry
    cases name with
    | text known =>
      rw [checkNames]
      by_cases fine : isKnown known = true
      · simp only [fine, if_true, Atom.text.injEq, exists_eq_left', true_and]
      · rw [if_neg fine]
        simp only [fine, within_eq_ok_iff, complain_ne_ok, Atom.text.injEq, exists_eq_left',
          Bool.false_eq_true, false_and]
    | _ => simp only [checkNames, within_eq_ok_iff, complain_ne_ok, reduceCtorEq, false_and,
        exists_false]

/-- Whether the names of all options are among some. -/
def KnownAmong (options : Options) (names : List String) : Prop :=
  ∀ entry ∈ options, ∃ known ∈ names, entry.1 = .text known

theorem only_eq_ok_iff {names : List String} :
    options.only names = .ok () ↔ options.KnownAmong names := by
  rw [only, checkNames_eq_ok_iff]
  simp only [KnownAmong, List.contains_iff_mem, and_comm]

/-- Whether exactly one of several options is given. -/
def GivesOne (options : Options) (names : List String) : Prop :=
  ∃ name ∈ names, options.Given name ∧ ∀ other ∈ names, options.Given other → other = name

theorem givesOne_cons_of_not {other : String} {names : List String} (absent : ¬ options.Given other) :
    options.GivesOne (other :: names) ↔ options.GivesOne names := by
  constructor
  · rintro ⟨name, member, given, only⟩
    rcases List.mem_cons.mp member with rfl | member
    · exact absurd given absent
    · exact ⟨name, member, given, fun third later => only third (List.mem_cons_of_mem _ later)⟩
  · rintro ⟨name, member, given, only⟩
    refine ⟨name, List.mem_cons_of_mem _ member, given, fun third later there => ?_⟩
    rcases List.mem_cons.mp later with rfl | later
    · exact absurd there absent
    · exact only third later there

theorem givesOne_cons_of_given {first : String} {names : List String} (given : options.Given first)
    (new : first ∉ names) :
    options.GivesOne (first :: names) ↔ ∀ name ∈ names, ¬ options.Given name := by
  constructor
  · rintro ⟨name, -, -, only⟩ other member there
    obtain rfl := only first List.mem_cons_self given
    obtain rfl := only other (List.mem_cons_of_mem _ member) there
    exact new member
  · intro none
    refine ⟨first, List.mem_cons_self, given, fun other member there => ?_⟩
    rcases List.mem_cons.mp member with rfl | member
    · rfl
    · exact absurd there (none other member)

end Options

/-! ## Choices -/

/-- What is given among several choices. -/
def chosen (choices : List (String × Option α)) : List (String × α) :=
  choices.filterMap fun (name, value) => value.map fun found => (name, found)

theorem single_eq_ok_iff {choices : List (String × Option α)} {x : α} :
    single choices = .ok x ↔ ∃ name, chosen choices = [(name, x)] := by
  unfold single
  rw [← chosen]
  split
  next name found same =>
    rw [same]
    simp only [Except.ok.injEq, List.cons.injEq, Prod.mk.injEq, and_true, exists_eq_left']
  next same => simp only [complain_ne_ok, same, reduceCtorEq, exists_false]
  next several _ =>
    simp only [complain_ne_ok, false_iff, not_exists]
    intro name same
    exact several name x same

theorem mem_of_single {choices : List (String × Option α)} {x : α} (done : single choices = .ok x) :
    ∃ name, (name, some x) ∈ choices := by
  obtain ⟨name, same⟩ := single_eq_ok_iff.mp done
  have member : (name, x) ∈ chosen choices := by rw [same]; exact List.mem_singleton_self _
  obtain ⟨⟨name', value⟩, member, found⟩ := List.mem_filterMap.mp member
  obtain ⟨_, rfl, same⟩ := Option.map_eq_some_iff.mp found
  cases same
  exact ⟨name, member⟩

theorem chosen_eq_nil_iff {options : Options} {choices : List (String × Option α)}
    (given : ∀ choice ∈ choices, choice.2.isSome = true ↔ options.Given choice.1) :
    chosen choices = [] ↔ ∀ name ∈ choices.map (·.1), ¬ options.Given name := by
  rw [chosen, List.filterMap_eq_nil_iff, List.forall_mem_map]
  refine forall₂_congr fun choice member => ?_
  rw [← given choice member]
  obtain ⟨name, value⟩ := choice
  cases value <;> simp

/-- Of several different options, one can be chosen exactly if only one is given. -/
theorem exists_single_iff {options : Options} {choices : List (String × Option α)}
    (given : ∀ choice ∈ choices, choice.2.isSome = true ↔ options.Given choice.1)
    (distinct : (choices.map (·.1)).Nodup) :
    (∃ x, single choices = .ok x) ↔ options.GivesOne (choices.map (·.1)) := by
  simp only [single_eq_ok_iff]
  induction choices with
  | nil => simp [chosen, Options.GivesOne]
  | cons choice rest ih =>
    obtain ⟨first, later⟩ := List.forall_mem_cons.mp given
    obtain ⟨name, value⟩ := choice
    rw [List.map_cons, List.nodup_cons] at distinct
    rw [List.map_cons]
    cases value with
    | none =>
      have absent : ¬ options.Given name := by rw [← first]; exact Bool.false_ne_true
      rw [Options.givesOne_cons_of_not absent, ← ih later distinct.2]
      rfl
    | some x =>
      have there : options.Given name := first.mp rfl
      have step : chosen ((name, some x) :: rest) = (name, x) :: chosen rest := rfl
      rw [Options.givesOne_cons_of_given there distinct.1, ← chosen_eq_nil_iff later, step]
      simp only [List.cons.injEq, Prod.mk.injEq]
      constructor
      · rintro ⟨_, _, _, empty⟩
        exact empty
      · intro empty
        exact ⟨x, name, ⟨rfl, rfl⟩, empty⟩

end IssueBoard.Config
