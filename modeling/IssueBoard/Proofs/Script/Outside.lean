import IssueBoard.Proofs.Script.Calls

/-! # What scripts change outside

A script reaches what lies outside of it only through the places that the values of its bindings stand for.
Its names are its own, so a binding keeps its value whatever the script assigns to the name. And if the script
assigns to nothing but names and mentions none of the methods that change their owner, then every place of
the session still holds what it held.
-/

namespace IssueBoard.Script

open Script.Action

variable {κ ι : Type} {conduct : Conduct}

/-! ## Mild code -/

/-- Whether a name may get any value, because it is none of some functions. -/
def canBind (functions : Option (List String)) (name : String) : Bool :=
  functions.all fun names => !names.contains name

/-- Whether an expression gives no method that changes its owner: it is one of some functions, or an attribute
named otherwise, or there are no such methods at all. -/
def Expr.isTrusted (functions : Option (List String)) : Expr → Bool
  | .name n => trusts functions n
  | .member _ field => functions.isNone || !changers.contains field
  | _ => functions.isNone

mutual

/-- Whether an expression calls no method that changes its owner. It calls only some functions and methods of
other names; or, if no functions are given, it mentions no such method. -/
def Expr.isMild (functions : Option (List String)) : Expr → Bool
  | .literal _ | .name _ => true
  | .list items => areMild functions items
  | .object entries => areMildEntries functions entries
  | .unary _ operand => operand.isMild functions
  | .binary _ left right => left.isMild functions && right.isMild functions
  | .compare first rest => first.isMild functions && isMildChain functions rest
  | .both left right => left.isMild functions && right.isMild functions
  | .either left right => left.isMild functions && right.isMild functions
  | .choice condition yes no =>
    condition.isMild functions && yes.isMild functions && no.isMild functions
  | .subscript container index => container.isMild functions && index.isMild functions
  | .part container lower upper step =>
    container.isMild functions && isMildBound functions lower && isMildBound functions upper &&
      isMildBound functions step
  | .member owner name => owner.isMild functions && (functions.isSome || !changers.contains name)
  | .call function arguments =>
    function.isTrusted functions && function.isMild functions && areMild functions arguments
  | .comprehension body name source conditions =>
    canBind functions name && body.isMild functions && source.isMild functions && areMild functions conditions
  | .await operand => operand.isMild functions

/-- Whether all of some expressions are mild. -/
def areMild (functions : Option (List String)) : List Expr → Bool
  | [] => true
  | first :: rest => first.isMild functions && areMild functions rest

/-- Whether all keys and values of an object are mild. -/
def areMildEntries (functions : Option (List String)) : List (Expr × Expr) → Bool
  | [] => true
  | (key, value) :: rest => key.isMild functions && value.isMild functions && areMildEntries functions rest

/-- Whether a bound of a part is mild, or left open. -/
def isMildBound (functions : Option (List String)) : Option Expr → Bool
  | none => true
  | some bound => bound.isMild functions

/-- Whether all operands of a chain of comparisons are mild. -/
def isMildChain (functions : Option (List String)) : List (Comparison × Expr) → Bool
  | [] => true
  | (_, operand) :: rest => operand.isMild functions && isMildChain functions rest

end

/-- Whether a target is a name that may get any value. -/
def Target.isName (functions : Option (List String)) : Target → Bool
  | .name n => canBind functions n
  | .item .. | .part .. | .member .. => false

mutual

/-- Whether a statement assigns to nothing but names, makes no augmented assignment, and calls no method that
changes its owner. -/
def Stmt.isMild (functions : Option (List String)) : Stmt → Bool
  | .pass | .leave | .proceed => true
  | .expression value => value.isMild functions
  | .assign targets value => targets.all (Target.isName functions) && value.isMild functions
  | .augment .. => false
  | .finish value => isMildBound functions value
  | .raise error => isMildBound functions error
  | .branch condition yes no =>
    condition.isMild functions && isMildBlock functions yes && isMildBlock functions no
  | .forEach name source body otherwise =>
    canBind functions name && source.isMild functions && isMildBlock functions body &&
      isMildBlock functions otherwise
  | .repeatWhile condition body otherwise =>
    condition.isMild functions && isMildBlock functions body && isMildBlock functions otherwise

/-- Whether all statements of a block are mild. -/
def isMildBlock (functions : Option (List String)) : List Stmt → Bool
  | [] => true
  | stmt :: rest => stmt.isMild functions && isMildBlock functions rest

end

theorem Conduct.free_of_bound {conduct : Conduct} {name : String}
    (bound : canBind conduct.functions name = true) (trusted : trusts conduct.functions name = true) :
    conduct.free := by
  unfold Conduct.free
  unfold canBind at bound
  unfold trusts at trusted
  cases known : conduct.functions with
  | none => rfl
  | some names =>
    rw [known, Option.all_some] at bound trusted
    rw [trusted] at bound
    cases bound

theorem isTrusted_of_free {conduct : Conduct} (free : conduct.free) (e : Expr) :
    e.isTrusted conduct.functions = true := by
  cases e with
  | name n => exact conduct.trusts_of_free free n
  | member owner field => exact Bool.or_eq_true_iff.mpr (.inl free)
  | _ => exact free

theorem not_trusts_changer {functions : Option (List String)} {field : String}
    (mild : (functions.isSome || !changers.contains field) = true)
    (trusted : (functions.isNone || !changers.contains field) = true) (member : field ∈ changers) : False := by
  rw [List.contains_iff_mem.mpr member] at mild trusted
  cases functions with
  | none => cases mild
  | some => cases trusted

/-! ## Names and visits -/

/-- Whether nothing that code can see besides the frame disturbs a calm run. -/
structure Surroundings.IsSafe (conduct : Conduct) (around : Surroundings κ ι) : Prop where
  host : conduct.calm → around.host.AddsItems
  inner : conduct.calm → ∀ name ∈ around.inner, name.2.IsTame (trusts conduct.functions name.1 = true)

theorem spares_lookupName {around : Surroundings κ ι} (safe : around.IsSafe conduct) (name : String) :
    (lookupName around name).Spares conduct (Value.IsTame (trusts conduct.functions name = true)) := by
  intro frame tame
  refine ⟨⟨rfl, fun calm => ⟨.refl _, tame calm⟩⟩, fun value found calm => ?_⟩
  simp only [lookupName, ofFunction, Action.runFrom] at found
  split at found
  · next known =>
    cases found
    exact safe.inner calm _ (mem_of_lookup known)
  · split at found
    · next known =>
      cases found
      exact (tame calm).names _ (mem_of_lookup known)
    · split at found
      · cases found
      · split at found
        · cases found
          trivial
        · split at found
          · cases found
            trivial
          · cases found

theorem mem_assignName {name : String} {value : Value} {names : List (String × Value)}
    {pair : String × Value} (member : pair ∈ assignName name value names) :
    pair = (name, value) ∨ pair ∈ names := by
  induction names with
  | nil => exact .inl (List.mem_singleton.mp member)
  | cons first rest ih =>
    rw [assignName] at member
    split at member
    · exact (List.mem_cons.mp member).imp_right (List.mem_cons_of_mem _)
    · rcases List.mem_cons.mp member with rfl | later
      · exact .inr List.mem_cons_self
      · exact (ih later).imp_right (List.mem_cons_of_mem _)

/-- A name is given a value in the frame, and nowhere else. -/
theorem spares_setName {name : String} (bound : conduct.calm → canBind conduct.functions name = true)
    {value : Value} (tame : conduct.calm → value.IsTame conduct.free) :
    (setName name value : Action κ Unit).Spares conduct fun _ => True := by
  refine fun frame before => ⟨⟨rfl, fun calm => ⟨.refl _, (before calm).desk, fun pair member => ?_⟩⟩,
    fun _ _ _ => trivial⟩
  rcases mem_assignName member with rfl | known
  · exact (tame calm).mono (Conduct.free_of_bound (bound calm))
  · exact (before calm).names pair known

theorem isTame_nextElement {free : Prop} {desk : Desk κ} (tame : desk.IsTame free) {remaining rest : Remaining}
    {element : Value} (found : nextElement desk remaining = .ok (some (element, rest))) :
    element.IsTame free := by
  unfold nextElement at found
  split at found
  · cases found
  · cases found
    trivial
  · obtain ⟨next, read, same⟩ := map_eq_ok_iff.mp found
    obtain ⟨other, rfl, same⟩ := Option.map_eq_some_iff.mp same
    cases same
    split at read
    · exact tame.items (List.mem_of_getElem? (Except.ok.inj read))
    · cases read
    · split at read
      · cases read
        trivial
      · cases read
    · split at read
      · next entries known =>
        split at read
        · cases read
        · obtain ⟨entry, given, rfl⟩ := Option.map_eq_some_iff.mp (Except.ok.inj read)
          exact (tame.entries? known entry (List.mem_of_getElem? given)).1
      · cases read

theorem spares_nextElement (remaining : Remaining) :
    (examine fun desk : Desk κ => nextElement desk remaining).Spares conduct
      (∀ next ∈ ·, next.1.IsTame conduct.free) := by
  refine spares_examine fun _ desk tame result found next given => ?_
  obtain ⟨element, rest⟩ := next
  cases given
  exact isTame_nextElement tame found

theorem spares_gather {step : Value → Action κ (Option Value)}
    (each : ∀ element, (conduct.calm → element.IsTame conduct.free) →
      (step element).Spares conduct (∀ value ∈ ·, value.IsTame conduct.free))
    (budget : Nat) (remaining : Remaining) :
    (gather step budget remaining).Spares conduct (∀ item ∈ ·, item.IsTame conduct.free) := by
  induction budget generalizing remaining with
  | zero => exact spares_throw _
  | succ budget ih =>
    refine (spares_nextElement remaining).bind fun next tame => ?_
    split
    · exact spares_pure fun _ => List.forall_mem_nil _
    · next element rest =>
      refine (each element fun calm => tame calm _ rfl).bind fun result given => ?_
      refine (ih rest).bind fun others more => spares_pure fun calm item member => ?_
      rcases List.mem_append.mp member with here | later
      · exact given calm item (Option.mem_toList.mp here)
      · exact more calm item later

/-- Whether a statement ends with a tame value, if it ends with one. -/
def Flow.IsTame (free : Prop) : Flow → Prop
  | .finish value => value.IsTame free
  | .next | .leave | .proceed => True

theorem spares_visit {step : Value → Action κ Flow}
    (each : ∀ element, (conduct.calm → element.IsTame conduct.free) →
      (step element).Spares conduct (Flow.IsTame conduct.free))
    (budget : Nat) (remaining : Remaining) :
    (visit step budget remaining).Spares conduct (Flow.IsTame conduct.free) := by
  induction budget generalizing remaining with
  | zero => exact spares_throw _
  | succ budget ih =>
    refine (spares_nextElement remaining).bind fun next tame => ?_
    split
    · exact spares_pure fun _ => trivial
    · next element rest =>
      refine (each element fun calm => tame calm _ rfl).bind fun flow given => ?_
      split
      · exact ih rest
      · exact ih rest
      · exact spares_pure given

theorem spares_repeatWhile {condition : Action κ Bool} {step : Action κ Flow}
    (asks : condition.Spares conduct fun _ => True) (each : step.Spares conduct (Flow.IsTame conduct.free))
    (budget : Nat) : (repeatWhile condition step budget).Spares conduct (Flow.IsTame conduct.free) := by
  induction budget with
  | zero => exact spares_throw _
  | succ budget ih =>
    refine asks.bind fun holds _ => ?_
    split
    · refine each.bind fun flow given => ?_
      split
      · exact ih
      · exact ih
      · exact spares_pure given
    · exact spares_pure fun _ => trivial

section Objects

variable {free : Prop} {key value : Value} {entries known made : List (Value × Value)}

theorem isTame_assignKey (keyTame : key.IsTame free) (valueTame : value.IsTame free)
    (tame : ∀ entry ∈ entries, entry.1.IsTame free ∧ entry.2.IsTame free) :
    ∀ entry ∈ assignKey key value entries, entry.1.IsTame free ∧ entry.2.IsTame free := by
  induction entries with
  | nil => exact List.forall_mem_cons.mpr ⟨⟨keyTame, valueTame⟩, List.forall_mem_nil _⟩
  | cons first rest ih =>
    obtain ⟨here, later⟩ := List.forall_mem_cons.mp tame
    rw [assignKey]
    split
    · exact List.forall_mem_cons.mpr ⟨⟨here.1, valueTame⟩, later⟩
    · exact List.forall_mem_cons.mpr ⟨here, ih later⟩

theorem eq_of_key? (found : Desk.key? value = .ok key) : key = value := by
  unfold Desk.key? at found
  split at found <;> cases found
  rfl

theorem isTame_foldlM (tame : ∀ entry ∈ entries, entry.1.IsTame free ∧ entry.2.IsTame free)
    (before : ∀ entry ∈ known, entry.1.IsTame free ∧ entry.2.IsTame free)
    (done : (entries.foldlM (fun known (key, value) => do
      return assignKey (← Desk.key? key) value known) known : Except Trouble _) = .ok made) :
    ∀ entry ∈ made, entry.1.IsTame free ∧ entry.2.IsTame free := by
  induction entries generalizing known with
  | nil =>
    cases done
    exact before
  | cons first rest ih =>
    obtain ⟨here, later⟩ := List.forall_mem_cons.mp tame
    rw [List.foldlM_cons] at done
    obtain ⟨next, assigned, done⟩ := bind_eq_ok_iff.mp done
    obtain ⟨key, found, same⟩ := bind_eq_ok_iff.mp assigned
    cases same
    rw [eq_of_key? found] at done
    exact ih later (isTame_assignKey here.1 here.2 before) done

theorem spares_makeObject
    (tame : conduct.calm → ∀ entry ∈ entries, entry.1.IsTame conduct.free ∧ entry.2.IsTame conduct.free) :
    (makeObject entries : Action κ Value).Spares conduct (Value.IsTame conduct.free) :=
  (spares_ofExcept fun calm _ => isTame_foldlM (tame calm) (List.forall_mem_nil _)).bind
    fun _ made => spares_newObject made

end Objects

theorem spares_holds (value : Value) : (holds value : Action κ Bool).Spares conduct fun _ => True :=
  spares_inspect_any _

/-! ## Expressions -/

theorem mild_and {calm : Prop} {first second : Bool} (mild : calm → (first && second) = true) :
    (calm → first = true) ∧ (calm → second = true) :=
  ⟨fun calm => (Bool.and_eq_true_iff.mp (mild calm)).1, fun calm => (Bool.and_eq_true_iff.mp (mild calm)).2⟩

theorem Surroundings.IsSafe.within {around : Surroundings κ ι} (safe : around.IsSafe conduct) {name : String}
    (bound : conduct.calm → canBind conduct.functions name = true) {element : Value}
    (tame : conduct.calm → element.IsTame conduct.free) :
    Surroundings.IsSafe conduct { around with inner := (name, element) :: around.inner } := by
  refine ⟨safe.host, fun calm => List.forall_mem_cons.mpr ⟨?_, safe.inner calm⟩⟩
  exact (tame calm).mono (Conduct.free_of_bound (bound calm))

/-- What an expression gives is tame in any case. -/
theorem Action.Spares.untrusted {step : Action κ Value} {e : Expr}
    (spares : step.Spares conduct (Value.IsTame (e.isTrusted conduct.functions = true))) :
    step.Spares conduct (Value.IsTame conduct.free) :=
  spares.mono fun _ tame => tame.mono fun free => isTrusted_of_free free e

mutual

/-- An expression spares the session, and is calm if it is mild. If it is trusted, it gives no method that
changes its owner. -/
theorem spares_evaluate (around : Surroundings κ ι) (safe : around.IsSafe conduct) : (e : Expr) →
    (conduct.calm → e.isMild conduct.functions = true) →
      (evaluate around e).Spares conduct (Value.IsTame (e.isTrusted conduct.functions = true))
  | .literal a, _ => by
    rw [evaluate]
    exact spares_pure fun _ => trivial
  | .name n, _ => by
    rw [evaluate]
    exact spares_lookupName safe n
  | .list items, mild => by
    rw [evaluate]
    exact (spares_evaluateAll around safe items mild).bind fun values tame => spares_newList tame
  | .object entries, mild => by
    rw [evaluate]
    exact (spares_evaluateEntries around safe entries mild).bind fun values tame => spares_makeObject tame
  | .unary op operand, mild => by
    rw [evaluate]
    refine (spares_evaluate around safe operand mild).bind fun value _ => ?_
    split
    · exact (spares_holds value).bind fun _ _ => spares_pure fun _ => trivial
    · exact spares_applySign _ _
  | .binary op left right, mild => by
    rw [evaluate]
    obtain ⟨first, second⟩ := mild_and mild
    exact (spares_evaluate around safe left first).bind fun _ _ =>
      (spares_evaluate around safe right second).bind fun _ _ => spares_operate _ _ _ _
  | .compare first rest, mild => by
    rw [evaluate]
    obtain ⟨one, others⟩ := mild_and mild
    exact (spares_evaluate around safe first one).bind fun left _ =>
      (spares_evaluateChain around safe left rest others).bind fun _ _ => spares_pure fun _ => trivial
  | .both left right, mild => by
    rw [evaluate]
    obtain ⟨first, second⟩ := mild_and mild
    refine (spares_evaluate around safe left first).untrusted.bind fun value tame => ?_
    refine (spares_holds value).bind fun _ _ => ?_
    split
    · exact (spares_evaluate around safe right second).untrusted
    · exact spares_pure tame
  | .either left right, mild => by
    rw [evaluate]
    obtain ⟨first, second⟩ := mild_and mild
    refine (spares_evaluate around safe left first).untrusted.bind fun value tame => ?_
    refine (spares_holds value).bind fun _ _ => ?_
    split
    · exact spares_pure tame
    · exact (spares_evaluate around safe right second).untrusted
  | .choice condition yes no, mild => by
    rw [evaluate]
    obtain ⟨others, third⟩ := mild_and mild
    obtain ⟨first, second⟩ := mild_and others
    refine (spares_evaluate around safe condition first).bind fun value _ => ?_
    refine (spares_holds value).bind fun _ _ => ?_
    split
    · exact (spares_evaluate around safe yes second).untrusted
    · exact (spares_evaluate around safe no third).untrusted
  | .subscript container index, mild => by
    rw [evaluate]
    obtain ⟨first, second⟩ := mild_and mild
    exact (spares_evaluate around safe container first).bind fun _ _ =>
      (spares_evaluate around safe index second).bind fun _ _ =>
        spares_examine fun _ desk tame _ => isTame_item tame
  | .part container lower upper step, mild => by
    rw [evaluate]
    obtain ⟨others, fourth⟩ := mild_and mild
    obtain ⟨others, third⟩ := mild_and others
    obtain ⟨first, second⟩ := mild_and others
    exact (spares_evaluate around safe container first).bind fun _ _ =>
      (spares_evaluateBound around safe lower second).bind fun _ _ =>
        (spares_evaluateBound around safe upper third).bind fun _ _ =>
          (spares_evaluateBound around safe step fourth).bind fun _ _ => spares_part _ _ _ _
  | .member owner field, mild => by
    rw [evaluate]
    obtain ⟨inside, other⟩ := mild_and mild
    refine (spares_evaluate around safe owner inside).bind fun value _ => ?_
    refine spares_examine fun calm desk tame _ => isTame_memberOf tame fun trusted member => ?_
    exact not_trusts_changer (other calm) trusted member
  | .call function arguments, mild => by
    rw [evaluate]
    obtain ⟨others, third⟩ := mild_and mild
    obtain ⟨first, second⟩ := mild_and others
    exact (spares_evaluate around safe function second).bind fun function gentle =>
      (spares_evaluateAll around safe arguments third).bind fun values tame =>
        spares_callValue around.host (fun calm => (gentle calm).mono fun _ => first calm) tame
  | .comprehension body loopName source conditions, mild => by
    rw [evaluate]
    obtain ⟨others, fourth⟩ := mild_and mild
    obtain ⟨others, third⟩ := mild_and others
    obtain ⟨first, second⟩ := mild_and others
    refine (spares_evaluate around safe source third).bind fun source _ => ?_
    refine (spares_inspect_any _).bind fun remaining _ => ?_
    refine (spares_gather (fun element tame => ?_) _ _).bind fun items tame => spares_newList tame
    have within := safe.within first tame
    refine (spares_allHold _ within conditions fourth).bind fun _ _ => ?_
    split
    · refine (spares_evaluate _ within body second).untrusted.bind fun value tame => ?_
      refine spares_pure fun calm other same => ?_
      cases same
      exact tame calm
    · exact spares_pure fun _ _ never => by cases never
  | .await operand, mild => by
    rw [evaluate]
    exact (spares_evaluate around safe operand mild).bind fun value _ => spares_wait safe.host value

theorem spares_evaluateAll (around : Surroundings κ ι) (safe : around.IsSafe conduct) : (items : List Expr) →
    (conduct.calm → areMild conduct.functions items = true) →
      (evaluateAll around items).Spares conduct (∀ value ∈ ·, value.IsTame conduct.free)
  | [], _ => by
    rw [evaluateAll]
    exact spares_pure fun _ => List.forall_mem_nil _
  | first :: rest, mild => by
    rw [evaluateAll]
    obtain ⟨one, others⟩ := mild_and mild
    exact (spares_evaluate around safe first one).untrusted.bind fun value tame =>
      (spares_evaluateAll around safe rest others).bind fun values more =>
        spares_pure fun calm => List.forall_mem_cons.mpr ⟨tame calm, more calm⟩

theorem spares_evaluateEntries (around : Surroundings κ ι) (safe : around.IsSafe conduct) :
    (entries : List (Expr × Expr)) → (conduct.calm → areMildEntries conduct.functions entries = true) →
      (evaluateEntries around entries).Spares conduct
        (∀ entry ∈ ·, entry.1.IsTame conduct.free ∧ entry.2.IsTame conduct.free)
  | [], _ => by
    rw [evaluateEntries]
    exact spares_pure fun _ => List.forall_mem_nil _
  | (key, value) :: rest, mild => by
    rw [evaluateEntries]
    obtain ⟨both, others⟩ := mild_and mild
    obtain ⟨first, second⟩ := mild_and both
    exact (spares_evaluate around safe key first).untrusted.bind fun key keyTame =>
      (spares_evaluate around safe value second).untrusted.bind fun value tame =>
        (spares_evaluateEntries around safe rest others).bind fun entries more =>
          spares_pure fun calm => List.forall_mem_cons.mpr ⟨⟨keyTame calm, tame calm⟩, more calm⟩

theorem spares_evaluateBound (around : Surroundings κ ι) (safe : around.IsSafe conduct) :
    (bound : Option Expr) → (conduct.calm → isMildBound conduct.functions bound = true) →
      (evaluateBound around bound).Spares conduct fun _ => True
  | none, _ => by
    rw [evaluateBound]
    exact spares_pure fun _ => trivial
  | some bound, mild => by
    rw [evaluateBound]
    exact (spares_evaluate around safe bound mild).mono fun _ _ => trivial

theorem spares_evaluateChain (around : Surroundings κ ι) (safe : around.IsSafe conduct) (left : Value) :
    (rest : List (Comparison × Expr)) → (conduct.calm → isMildChain conduct.functions rest = true) →
      (evaluateChain around left rest).Spares conduct fun _ => True
  | [], _ => by
    rw [evaluateChain]
    exact spares_pure fun _ => trivial
  | (op, operand) :: rest, mild => by
    rw [evaluateChain]
    obtain ⟨first, others⟩ := mild_and mild
    refine (spares_evaluate around safe operand first).bind fun right _ => ?_
    refine (spares_examine_any _).bind fun _ _ => ?_
    split
    · exact spares_evaluateChain around safe right rest others
    · exact spares_pure fun _ => trivial

theorem spares_allHold (around : Surroundings κ ι) (safe : around.IsSafe conduct) :
    (conditions : List Expr) → (conduct.calm → areMild conduct.functions conditions = true) →
      (allHold around conditions).Spares conduct fun _ => True
  | [], _ => by
    rw [allHold]
    exact spares_pure fun _ => trivial
  | condition :: rest, mild => by
    rw [allHold]
    obtain ⟨first, others⟩ := mild_and mild
    refine (spares_evaluate around safe condition first).bind fun value _ => ?_
    refine (spares_holds value).bind fun _ _ => ?_
    split
    · exact spares_allHold around safe rest others
    · exact spares_pure fun _ => trivial

end

/-! ## Statements -/

section Statements

variable {around : Surroundings κ ι}

theorem spares_assign (safe : around.IsSafe conduct) {value : Value}
    (tame : conduct.calm → value.IsTame conduct.free) (target : Target)
    (named : conduct.calm → target.isName conduct.functions = true) :
    (assign around value target).Spares conduct fun _ => True := by
  cases target with
  | name n =>
    rw [assign]
    exact spares_setName named tame
  | item container index =>
    have wild : ¬conduct.calm := fun calm => by cases named calm
    rw [assign]
    exact (spares_evaluate around safe container (absurd · wild)).bind fun _ _ =>
      (spares_evaluate around safe index (absurd · wild)).bind fun _ _ => spares_assignItem wild _ _ _
  | part container lower upper step =>
    have wild : ¬conduct.calm := fun calm => by cases named calm
    rw [assign]
    exact (spares_evaluate around safe container (absurd · wild)).bind fun _ _ =>
      (spares_evaluateBound around safe lower (absurd · wild)).bind fun _ _ =>
        (spares_evaluateBound around safe upper (absurd · wild)).bind fun _ _ =>
          (spares_evaluateBound around safe step (absurd · wild)).bind fun _ _ =>
            spares_assignPart wild _ _ _ _ _
  | member owner field =>
    have wild : ¬conduct.calm := fun calm => by cases named calm
    rw [assign]
    exact (spares_evaluate around safe owner (absurd · wild)).bind fun _ _ => spares_setMember wild _ _ _

theorem spares_assignAll (safe : around.IsSafe conduct) {value : Value}
    (tame : conduct.calm → value.IsTame conduct.free) (targets : List Target)
    (named : conduct.calm → targets.all (Target.isName conduct.functions) = true) :
    (assignAll around value targets).Spares conduct fun _ => True := by
  induction targets with
  | nil =>
    rw [assignAll]
    exact spares_pure fun _ => trivial
  | cons target rest ih =>
    rw [assignAll]
    obtain ⟨first, others⟩ := mild_and named
    exact (spares_assign safe tame target first).bind fun _ _ => ih others

/-- An augmented assignment leaves the shared data where they are. -/
theorem spares_augmentTarget (safe : around.IsSafe conduct) (wild : ¬conduct.calm) (target : Target)
    (op : BinaryOp) (value : Expr) :
    (run around (.augment target op value)).Spares conduct (Flow.IsTame conduct.free) := by
  have evaluates (e : Expr) := spares_evaluate around safe e (absurd · wild)
  have bounds (bound : Option Expr) := spares_evaluateBound around safe bound (absurd · wild)
  have ends : (pure Flow.next : Action κ Flow).Spares conduct (Flow.IsTame conduct.free) :=
    spares_pure fun _ => trivial
  cases target with
  | name n =>
    rw [run]
    exact (spares_lookupName safe n).bind fun _ _ => (evaluates value).bind fun _ _ =>
      (spares_augment wild _ _ _).bind fun _ tame => (spares_setName (absurd · wild) tame).bind fun _ _ => ends
  | item container index =>
    rw [run]
    exact (evaluates container).bind fun _ _ => (evaluates index).bind fun _ _ =>
      (spares_examine_any _).bind fun _ _ => (evaluates value).bind fun _ _ =>
        (spares_augment wild _ _ _).bind fun _ _ => (spares_assignItem wild _ _ _).bind fun _ _ => ends
  | part container lower upper step =>
    rw [run]
    exact (evaluates container).bind fun _ _ => (bounds lower).bind fun _ _ => (bounds upper).bind fun _ _ =>
      (bounds step).bind fun _ _ => (spares_part _ _ _ _).bind fun _ _ => (evaluates value).bind fun _ _ =>
        (spares_augment wild _ _ _).bind fun _ _ => (spares_assignPart wild _ _ _ _ _).bind fun _ _ => ends
  | member owner field =>
    rw [run]
    exact (evaluates owner).bind fun _ _ => (spares_examine_any _).bind fun _ _ =>
      (evaluates value).bind fun _ _ => (spares_augment wild _ _ _).bind fun _ _ =>
        (spares_setMember wild _ _ _).bind fun _ _ => ends

theorem spares_raiseValue (value : Value) :
    (raiseValue value : Action κ Flow).Spares conduct (Flow.IsTame conduct.free) := by
  refine spares_examine fun _ _ _ _ never => ?_
  split at never <;> cases never

mutual

/-- A statement spares the session, and is calm if it is mild. -/
theorem spares_run (safe : around.IsSafe conduct) : (stmt : Stmt) →
    (conduct.calm → stmt.isMild conduct.functions = true) →
      (run around stmt).Spares conduct (Flow.IsTame conduct.free)
  | .pass, _ => by
    rw [run]
    exact spares_pure fun _ => trivial
  | .expression value, mild => by
    rw [run]
    exact (spares_evaluate around safe value mild).bind fun _ _ => spares_pure fun _ => trivial
  | .assign targets value, mild => by
    rw [run]
    obtain ⟨first, second⟩ := mild_and mild
    exact (spares_evaluate around safe value second).untrusted.bind fun value tame =>
      (spares_assignAll safe tame targets first).bind fun _ _ => spares_pure fun _ => trivial
  | .augment target op value, mild =>
    spares_augmentTarget safe (fun calm => by cases mild calm) target op value
  | .finish none, _ => by
    rw [run]
    exact spares_pure fun _ => trivial
  | .finish (some value), mild => by
    rw [run]
    exact (spares_evaluate around safe value mild).untrusted.bind fun _ tame => spares_pure tame
  | .raise none, _ => by
    rw [run]
    exact spares_throw _
  | .raise (some error), mild => by
    rw [run]
    exact (spares_evaluate around safe error mild).bind fun error _ => spares_raiseValue error
  | .branch condition yes no, mild => by
    rw [run]
    obtain ⟨others, third⟩ := mild_and mild
    obtain ⟨first, second⟩ := mild_and others
    refine (spares_evaluate around safe condition first).bind fun value _ => ?_
    refine (spares_holds value).bind fun _ _ => ?_
    split
    · exact spares_runAll safe yes second
    · exact spares_runAll safe no third
  | .forEach loopName source body otherwise, mild => by
    rw [run]
    obtain ⟨others, fourth⟩ := mild_and mild
    obtain ⟨others, third⟩ := mild_and others
    obtain ⟨first, second⟩ := mild_and others
    refine (spares_evaluate around safe source second).bind fun source _ => ?_
    refine (spares_inspect_any _).bind fun remaining _ => ?_
    refine (spares_visit (fun element tame => ?_) _ _).bind fun flow given => ?_
    · exact (spares_setName first tame).bind fun _ _ => spares_runAll safe body third
    · split
      · exact spares_runAll safe otherwise fourth
      · exact spares_pure fun _ => trivial
      · exact spares_pure given
  | .repeatWhile condition body otherwise, mild => by
    rw [run]
    obtain ⟨others, third⟩ := mild_and mild
    obtain ⟨first, second⟩ := mild_and others
    refine (spares_repeatWhile ?_ (spares_runAll safe body second) _).bind fun flow given => ?_
    · exact (spares_evaluate around safe condition first).bind fun value _ => spares_holds value
    · split
      · exact spares_runAll safe otherwise third
      · exact spares_pure fun _ => trivial
      · exact spares_pure given
  | .leave, _ => by
    rw [run]
    exact spares_pure fun _ => trivial
  | .proceed, _ => by
    rw [run]
    exact spares_pure fun _ => trivial

theorem spares_runAll (safe : around.IsSafe conduct) : (body : List Stmt) →
    (conduct.calm → isMildBlock conduct.functions body = true) →
      (runAll around body).Spares conduct (Flow.IsTame conduct.free)
  | [], _ => by
    rw [runAll]
    exact spares_pure fun _ => trivial
  | first :: rest, mild => by
    rw [runAll]
    obtain ⟨one, others⟩ := mild_and mild
    refine (spares_run safe first one).bind fun flow given => ?_
    split
    · exact spares_runAll safe rest others
    · exact spares_pure given

end

end Statements

end IssueBoard.Script
