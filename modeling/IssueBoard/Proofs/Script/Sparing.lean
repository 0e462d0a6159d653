import IssueBoard.Proofs.Outcome
import IssueBoard.Script.Host

/-! # What a step of a script leaves as it was

A step may put new things into the store, but what it finds there belongs to others. Only a few steps change
it: assignments to what is no name, and the two methods that change their owner. A calm step does none of
these; it keeps every place of the session. So that it calls neither of the two methods, either there are none
of them in the run at all, or it calls only methods of other names and functions that are known not to be such
methods. Calm or not, no step exchanges the data that scripts share for other data.
-/

namespace IssueBoard.Script

variable {κ ι α β : Type}

/-! ## Tame values -/

/-- Whether a name stands for no method that changes its owner: it is among some functions, or there are no
such methods at all. -/
def trusts (functions : Option (List String)) (name : String) : Bool := functions.all (·.contains name)

/-- What is asked of a run. -/
structure Conduct where
  /-- Whether it changes no place that it finds. -/
  calm : Prop
  /-- The names of the functions that it calls. If they are not given, it may call anything, but has no methods
  that change their owner at all. -/
  functions : Option (List String)

/-- Whether there are no methods that change their owner, neither in the session nor in the run. -/
def Conduct.free (conduct : Conduct) : Prop := conduct.functions.isNone = true

theorem Conduct.trusts_of_free {conduct : Conduct} (free : conduct.free) (name : String) :
    trusts conduct.functions name = true := by
  rw [trusts, Option.isNone_iff_eq_none.mp free]
  rfl

/-- Whether a value is no method that changes its owner, if it must not be one. -/
def Value.IsTame (free : Prop) : Value → Prop
  | .method _ .append | .method _ .setDefault => ¬free
  | _ => True

theorem Value.IsTame.mono {free stricter : Prop} (weaker : free → stricter) {value : Value}
    (tame : value.IsTame stricter) : value.IsTame free := by
  unfold Value.IsTame at tame ⊢
  split
  · exact fun free => tame (weaker free)
  · exact fun free => tame (weaker free)
  · trivial

/-- What is never a method that changes its owner. -/
theorem Value.IsTame.always {free : Prop} {value : Value} (tame : value.IsTame True) : value.IsTame free :=
  tame.mono fun _ => trivial

/-- Whether all values in a place are tame. The attributes of a page are never methods that change their
owner. -/
def Cell.IsTame (free : Prop) : Cell → Prop
  | .list items => ∀ item ∈ items, item.IsTame free
  | .object entries => ∀ entry ∈ entries, entry.1.IsTame free ∧ entry.2.IsTame free
  | .page attributes => ∀ field ∈ attributes, field.2.IsTame True
  | .pending .. | .mark => True

theorem Cell.IsTame.always {free : Prop} {content : Cell} (tame : content.IsTame True) :
    content.IsTame free := by
  cases content with
  | list items => exact fun item member => (tame item member).always
  | object entries => exact fun entry member => ⟨(tame entry member).1.always, (tame entry member).2.always⟩
  | page attributes => exact tame
  | pending => trivial
  | mark => trivial

/-- Whether all values in an entry of the query cache are tame. -/
def IsTameEntry (free : Prop) (entry : QueryEntry Value) : Prop :=
  (∀ item ∈ entry.items, item.IsTame free) ∧ ∀ setting ∈ entry.settings, setting.2.IsTame True

/-- Whether all values in a store are tame. -/
def IsTameStore (free : Prop) (store : Array Cell) : Prop :=
  ∀ (cell : Nat) (content : Cell), store[cell]? = some content → content.IsTame free

/-- Whether no method that changes its owner is found in a session, if there must be none; no attribute of a
page or of an entry of the query cache is one in any case. -/
structure Desk.IsTame (free : Prop) (desk : Desk κ) : Prop where
  store : IsTameStore free desk.state.store
  entries : ∀ entry ∈ desk.cache.entries, IsTameEntry free entry
  names : ∀ held ∈ desk.cache.names, (Desk.heldValue held.2).IsTame free

/-- Whether the session and the values of names are tame. -/
structure Frame.IsTame (conduct : Conduct) (frame : Frame κ) : Prop where
  desk : frame.desk.IsTame conduct.free
  names : ∀ name ∈ frame.names, name.2.IsTame (trusts conduct.functions name.1 = true)

namespace Desk.IsTame

variable {free : Prop} {desk : Desk κ} {value : Value}

theorem items (tame : desk.IsTame free) {place : ListPlace} (member : value ∈ desk.items place) :
    value.IsTame free := by
  unfold Desk.items at member
  split at member
  · split at member
    · next items found => exact tame.store _ _ found value member
    · cases member
  · next slot =>
    cases found : desk.cache.entries[slot]? with
    | none =>
      rw [found] at member
      cases member
    | some entry =>
      rw [found] at member
      exact (tame.entries entry (List.mem_of_getElem? found)).1 value member

theorem entriesOf (tame : desk.IsTame free) {cell : Nat} {entry : Value × Value}
    (member : entry ∈ desk.entries cell) : entry.1.IsTame free ∧ entry.2.IsTame free := by
  unfold Desk.entries at member
  split at member
  · next entries found => exact tame.store _ _ found entry member
  · cases member

theorem pageAttributes (tame : desk.IsTame free) {cell : Nat} {field : String × Value}
    (member : field ∈ desk.pageAttributes cell) : field.2.IsTame True := by
  unfold Desk.pageAttributes at member
  split at member
  · next attributes found => exact tame.store _ _ found field member
  · cases member

theorem entries? (tame : desk.IsTame free) {owner : Value} {entries : List (Value × Value)}
    (found : desk.entries? owner = some entries) :
    ∀ entry ∈ entries, entry.1.IsTame free ∧ entry.2.IsTame free := by
  intro entry member
  unfold Desk.entries? at found
  split at found
  · cases found
    exact tame.entriesOf member
  · cases found
    obtain ⟨held, among, rfl⟩ := List.mem_map.mp member
    exact ⟨trivial, tame.names held among⟩
  · cases found

end Desk.IsTame

theorem mem_of_lookup {name : String} {value : Value} {pairs : List (String × Value)}
    (found : pairs.lookup name = some value) : (name, value) ∈ pairs := by
  induction pairs with
  | nil => cases found
  | cons pair rest ih =>
    rw [List.lookup_cons] at found
    split at found
    · next same =>
      cases found
      rw [beq_iff_eq.mp same]
      exact List.mem_cons_self
    · exact List.mem_cons_of_mem _ (ih found)

theorem isTame_totalValue (total : Total) : (Desk.totalValue total).IsTame True := by
  unfold Desk.totalValue
  split <;> trivial

theorem Desk.IsTame.entryAttribute? {free : Prop} {desk : Desk κ} (tame : desk.IsTame free) {slot : Nat}
    {name : String} {value : Value} (found : desk.entryAttribute? slot name = some value) :
    value.IsTame True := by
  obtain ⟨entry, kept, found⟩ := Option.bind_eq_some_iff.mp found
  split at found
  · next other set =>
    cases found
    exact (tame.entries entry (List.mem_of_getElem? kept)).2 _ (mem_of_lookup set)
  · split at found
    · cases found
      trivial
    · split at found
      · cases found
        exact isTame_totalValue entry.total
      · split at found
        · cases found
          trivial
        · split at found
          · cases found
            trivial
          · split at found
            · cases found
              trivial
            · cases found

/-! ## Growing stores -/

theorem getElem?_push_of_some {store : Array Cell} {cell : Nat} {old : Cell} (content : Cell)
    (found : store[cell]? = some old) : (store.push content)[cell]? = some old := by
  rw [Array.getElem?_push, if_neg, found]
  exact Nat.ne_of_lt (Array.getElem?_eq_some_iff.mp found).1

theorem some_or_eq_of_push {store : Array Cell} {cell : Nat} {content other : Cell}
    (found : (store.push content)[cell]? = some other) : store[cell]? = some other ∨ other = content := by
  rw [Array.getElem?_push] at found
  split at found
  · cases found
    exact .inr rfl
  · exact .inl found

/-- Whether a store still holds what it held before, and nothing that is new is a method that changes its
owner. -/
structure Grows (store after : Array Cell) : Prop where
  kept : ∀ (cell : Nat) (content : Cell), store[cell]? = some content → after[cell]? = some content
  new : ∀ (cell : Nat) (content : Cell), after[cell]? = some content →
    store[cell]? = some content ∨ content.IsTame True

namespace Grows

variable {store during after : Array Cell}

theorem refl (store : Array Cell) : Grows store store := ⟨fun _ _ found => found, fun _ _ found => .inl found⟩

theorem trans (first : Grows store during) (second : Grows during after) : Grows store after := by
  refine ⟨fun cell content found => second.kept cell content (first.kept cell content found),
    fun cell content found => ?_⟩
  rcases second.new cell content found with known | tame
  · exact first.new cell content known
  · exact .inr tame

theorem isTame {free : Prop} (grows : Grows store after) (tame : IsTameStore free store) :
    IsTameStore free after := by
  intro cell content found
  rcases grows.new cell content found with known | new
  · exact tame cell content known
  · exact new.always

theorem push {content : Cell} (tame : content.IsTame True) : Grows store (store.push content) := by
  refine ⟨fun _ _ => getElem?_push_of_some content, fun cell other found => ?_⟩
  rcases some_or_eq_of_push found with known | rfl
  · exact .inl known
  · exact .inr tame

end Grows

/-! ## Loaded data -/

theorem loadAtom_spec (store : Array Cell) (a : Atom) :
    (loadAtom store a).1.IsTame True ∧ Grows store (loadAtom store a).2 := by
  rw [loadAtom]
  split
  · exact ⟨trivial, .push trivial⟩
  · exact ⟨trivial, .refl store⟩

theorem loadAtoms_spec (store : Array Cell) (atoms : List Atom) :
    (∀ value ∈ (loadAtoms store atoms).1, value.IsTame True) ∧ Grows store (loadAtoms store atoms).2 := by
  induction atoms generalizing store with
  | nil => exact ⟨List.forall_mem_nil _, .refl store⟩
  | cons a rest ih =>
    obtain ⟨tame, grows⟩ := loadAtom_spec store a
    obtain ⟨others, more⟩ := ih (loadAtom store a).2
    exact ⟨List.forall_mem_cons.mpr ⟨tame, others⟩, grows.trans more⟩

mutual

/-- Data is loaded into places of its own, and holds no methods. -/
theorem load_spec (store : Array Cell) : (data : Data) →
    (load store data).1.IsTame True ∧ Grows store (load store data).2
  | .atom a => loadAtom_spec store a
  | .list items => by
    obtain ⟨tame, grows⟩ := loadItems_spec store items
    exact ⟨trivial, grows.trans (.push tame)⟩
  | .object entries => by
    obtain ⟨tame, grows⟩ := loadEntries_spec store entries
    exact ⟨trivial, grows.trans (.push tame)⟩
  | .set members => by
    obtain ⟨tame, grows⟩ := loadAtoms_spec store members
    exact ⟨trivial, grows.trans (.push tame)⟩
  | .record kind _ => ⟨trivial, .refl store⟩

theorem loadItems_spec (store : Array Cell) : (items : List Data) →
    (∀ value ∈ (loadItems store items).1, value.IsTame True) ∧ Grows store (loadItems store items).2
  | [] => ⟨List.forall_mem_nil _, .refl store⟩
  | item :: rest => by
    obtain ⟨tame, grows⟩ := load_spec store item
    obtain ⟨others, more⟩ := loadItems_spec (load store item).2 rest
    exact ⟨List.forall_mem_cons.mpr ⟨tame, others⟩, grows.trans more⟩

theorem loadEntries_spec (store : Array Cell) : (entries : List (Atom × Data)) →
    (∀ entry ∈ (loadEntries store entries).1, entry.1.IsTame True ∧ entry.2.IsTame True) ∧
      Grows store (loadEntries store entries).2
  | [] => ⟨List.forall_mem_nil _, .refl store⟩
  | (key, item) :: rest => by
    obtain ⟨keyTame, keyGrows⟩ := loadAtom_spec store key
    obtain ⟨tame, grows⟩ := load_spec (loadAtom store key).2 item
    obtain ⟨others, more⟩ := loadEntries_spec (load (loadAtom store key).2 item).2 rest
    exact ⟨List.forall_mem_cons.mpr ⟨⟨keyTame, tame⟩, others⟩, (keyGrows.trans grows).trans more⟩

end

/-! ## Kept sessions -/

/-- Whether a place holds what it held before; a search that has been waited for is marked. -/
def Cell.Lasts (before after : Cell) : Prop :=
  after = before ∨ ∃ request, before = .pending request false ∧ after = .pending request true

/-- Whether a session still has all that it had: what is in the store, and the query cache. -/
structure Desk.Keeps (desk after : Desk κ) : Prop where
  cells : ∀ (cell : Nat) (content : Cell), desk.cell? cell = some content →
    ∃ later, after.cell? cell = some later ∧ content.Lasts later
  cache : after.cache = desk.cache

namespace Desk.Keeps

variable {desk during after : Desk κ}

theorem refl (desk : Desk κ) : desk.Keeps desk := ⟨fun _ content found => ⟨content, found, .inl rfl⟩, rfl⟩

theorem trans (first : desk.Keeps during) (second : during.Keeps after) : desk.Keeps after := by
  refine ⟨fun cell content found => ?_, second.cache.trans first.cache⟩
  obtain ⟨middle, foundThen, lasts⟩ := first.cells cell content found
  obtain ⟨later, foundLater, lasts'⟩ := second.cells cell middle foundThen
  refine ⟨later, foundLater, ?_⟩
  rcases lasts with rfl | ⟨request, rfl, rfl⟩
  · exact lasts'
  · rcases lasts' with rfl | ⟨_, never, -⟩
    · exact .inr ⟨request, rfl, rfl⟩
    · cases never

/-- A session with more in its store keeps what it had. -/
theorem ofGrows {store : Array Cell} (grows : Grows desk.state.store store) {server : κ} :
    desk.Keeps { desk with state := { desk.state with server, store } } :=
  ⟨fun cell content found => ⟨content, grows.kept cell content found, .inl rfl⟩, rfl⟩

theorem add (desk : Desk κ) (content : Cell) : desk.Keeps (desk.add content).2 :=
  ⟨fun _ old found => ⟨old, getElem?_push_of_some content found, .inl rfl⟩, rfl⟩

end Desk.Keeps

theorem Desk.IsTame.ofGrows {free : Prop} {desk : Desk κ} (tame : desk.IsTame free) {store : Array Cell}
    (grows : Grows desk.state.store store) {server : κ} :
    Desk.IsTame free { desk with state := { desk.state with server, store } } :=
  ⟨grows.isTame tame.store, tame.entries, tame.names⟩

theorem Desk.IsTame.add {free : Prop} {desk : Desk κ} (tame : desk.IsTame free) {content : Cell}
    (tameContent : content.IsTame free) : (desk.add content).2.IsTame free := by
  refine ⟨fun cell other found => ?_, tame.entries, tame.names⟩
  rcases some_or_eq_of_push found with known | rfl
  · exact tame.store cell other known
  · exact tameContent

/-! ## Steps -/

/-- What is known of a step from one frame to another: the shared data stay the same data, and a calm step
keeps the session and leaves nothing but tame values. -/
structure Frame.Spared (conduct : Conduct) (frame after : Frame κ) : Prop where
  userdata : after.desk.state.userdata = frame.desk.state.userdata
  kept : conduct.calm → frame.desk.Keeps after.desk ∧ after.IsTame conduct

namespace Action

variable {conduct : Conduct} {good : α → Prop} {good' : β → Prop}

/-- The result of a step from a frame, and the frame after it. -/
def runFrom (step : Action κ α) (frame : Frame κ) : Except Trouble α × Frame κ := step frame

theorem runFrom_bind (step : Action κ α) (next : α → Action κ β) (frame : Frame κ) :
    (step >>= next).runFrom frame =
      match step.runFrom frame with
      | (.ok value, after) => (next value).runFrom after
      | (.error trouble, after) => (.error trouble, after) := by
  simp only [runFrom, bind, ExceptT.bind, ExceptT.mk, StateT.bind, ExceptT.bindCont]
  rcases step frame with ⟨_ | _, _⟩ <;> rfl

/-- Whether a step from a frame spares the session, and gives something good if it is calm. -/
def SparesAt (conduct : Conduct) (good : α → Prop) (step : Action κ α) (frame : Frame κ) : Prop :=
  frame.Spared conduct (step.runFrom frame).2 ∧
    ∀ value, (step.runFrom frame).1 = .ok value → conduct.calm → good value

/-- Whether a step spares the session from every frame. -/
def Spares (conduct : Conduct) (good : α → Prop) (step : Action κ α) : Prop :=
  ∀ frame, (conduct.calm → frame.IsTame conduct) → step.SparesAt conduct good frame

theorem SparesAt.bind {step : Action κ α} {next : α → Action κ β} {frame : Frame κ}
    (first : step.SparesAt conduct good frame)
    (second : ∀ value, (conduct.calm → good value) → (next value).Spares conduct good') :
    (step >>= next).SparesAt conduct good' frame := by
  obtain ⟨spared, result⟩ := first
  rw [SparesAt, runFrom_bind]
  rcases ran : step.runFrom frame with ⟨trouble | value, during⟩ <;> rw [ran] at spared result
  · exact ⟨spared, fun _ never => by cases never⟩
  · obtain ⟨⟨data, kept⟩, given⟩ :=
      second value (result value rfl) during fun calm => (spared.kept calm).2
    exact ⟨⟨data.trans spared.userdata, fun calm =>
      ⟨(spared.kept calm).1.trans (kept calm).1, (kept calm).2⟩⟩, given⟩

theorem Spares.bind {step : Action κ α} {next : α → Action κ β} (first : step.Spares conduct good)
    (second : ∀ value, (conduct.calm → good value) → (next value).Spares conduct good') :
    (step >>= next).Spares conduct good' :=
  fun frame tame => (first frame tame).bind second

theorem Spares.mono {step : Action κ α} {better : α → Prop} (spares : step.Spares conduct better)
    (weaker : ∀ value, better value → good value) : step.Spares conduct good :=
  fun frame tame => ⟨(spares frame tame).1, fun value ran calm =>
    weaker value ((spares frame tame).2 value ran calm)⟩

/-- A step that only looks at the session. -/
theorem spares_examine {look : Desk κ → Except Trouble α}
    (given : conduct.calm → ∀ desk, desk.IsTame conduct.free → ∀ value, look desk = .ok value → good value) :
    (examine look).Spares conduct good :=
  fun frame tame => ⟨⟨rfl, fun calm => ⟨.refl _, tame calm⟩⟩,
    fun value ran calm => given calm frame.desk (tame calm).desk value ran⟩

theorem spares_inspect {look : Desk κ → α}
    (given : conduct.calm → ∀ desk, desk.IsTame conduct.free → good (look desk)) :
    (inspect look).Spares conduct good := by
  refine fun frame tame => ⟨⟨rfl, fun calm => ⟨.refl _, tame calm⟩⟩, fun value same calm => ?_⟩
  cases same
  exact given calm frame.desk (tame calm).desk

theorem spares_ofExcept {result : Except Trouble α}
    (given : conduct.calm → ∀ value, result = .ok value → good value) :
    (ofExcept result : Action κ α).Spares conduct good :=
  spares_examine fun calm _ _ => given calm

/-- A step whose result is of no use for changing anything. -/
theorem spares_examine_any (look : Desk κ → Except Trouble α) : (examine look).Spares conduct fun _ => True :=
  spares_examine fun _ _ _ _ _ => trivial

theorem spares_inspect_any (look : Desk κ → α) : (inspect look).Spares conduct fun _ => True :=
  spares_inspect fun _ _ _ => trivial

theorem spares_ofExcept_any (result : Except Trouble α) :
    (ofExcept result : Action κ α).Spares conduct fun _ => True :=
  spares_ofExcept fun _ _ _ => trivial

theorem spares_pure {value : α} (given : conduct.calm → good value) :
    (pure value : Action κ α).Spares conduct good := by
  refine spares_ofExcept fun calm _ same => ?_
  cases same
  exact given calm

theorem spares_throw (trouble : Trouble) : (throw trouble : Action κ α).Spares conduct good :=
  spares_ofExcept fun _ _ never => by cases never

theorem sparesAt_change {step : Desk κ → α × Desk κ} {frame : Frame κ}
    (tame : conduct.calm → frame.IsTame conduct)
    (userdata : (step frame.desk).2.state.userdata = frame.desk.state.userdata)
    (kept : conduct.calm → frame.desk.Keeps (step frame.desk).2 ∧ (step frame.desk).2.IsTame conduct.free ∧
      good (step frame.desk).1) : (change step).SparesAt conduct good frame := by
  refine ⟨⟨userdata, fun calm => ?_⟩, fun value same calm => ?_⟩
  · obtain ⟨keeps, still, -⟩ := kept calm
    exact ⟨keeps, still, (tame calm).names⟩
  · cases same
    exact (kept calm).2.2

/-- A step that looks at the session first goes on from what it sees. -/
theorem sparesAt_inspect {look : Desk κ → α} {next : α → Action κ β} {frame : Frame κ}
    (spares : (next (look frame.desk)).SparesAt conduct good' frame) :
    (inspect look >>= next).SparesAt conduct good' frame := spares

/-- A step that changes the session. -/
theorem spares_change {step : Desk κ → α × Desk κ}
    (userdata : ∀ desk, (step desk).2.state.userdata = desk.state.userdata)
    (kept : conduct.calm → ∀ desk, desk.IsTame conduct.free →
      desk.Keeps (step desk).2 ∧ (step desk).2.IsTame conduct.free ∧ good (step desk).1) :
    (change step).Spares conduct good :=
  fun frame tame => sparesAt_change tame (userdata frame.desk)
    fun calm => kept calm frame.desk (tame calm).desk

/-- A step that puts something new into the store. -/
theorem spares_add (content : Desk κ → Cell) (result : Nat → α)
    (tame : conduct.calm → ∀ desk, desk.IsTame conduct.free → (content desk).IsTame conduct.free)
    (given : conduct.calm → ∀ cell, good (result cell)) :
    (change fun desk => (result (desk.add (content desk)).1, (desk.add (content desk)).2)).Spares conduct good :=
  spares_change (fun _ => rfl) fun calm desk before =>
    ⟨.add desk _, before.add (tame calm desk before), given calm _⟩

theorem spares_newList {free : Prop} {items : List Value}
    (tame : conduct.calm → ∀ item ∈ items, item.IsTame conduct.free) :
    (newList items : Action κ Value).Spares conduct (Value.IsTame free) :=
  spares_add (fun _ => .list items) (fun cell => Value.list (.cell cell)) (fun calm _ _ => tame calm)
    fun _ _ => trivial

theorem spares_newObject {entries : List (Value × Value)}
    (tame : conduct.calm → ∀ entry ∈ entries, entry.1.IsTame conduct.free ∧ entry.2.IsTame conduct.free) :
    (newObject entries : Action κ Value).Spares conduct (Value.IsTame conduct.free) :=
  spares_add (fun _ => .object entries) Value.object (fun calm _ _ => tame calm) fun _ _ => trivial

theorem spares_newNumber (n : Number) :
    (newNumber n : Action κ Value).Spares conduct (Value.IsTame conduct.free) := by
  cases n with
  | integer n => exact spares_pure fun _ => trivial
  | real x =>
    rw [newNumber]
    split
    · exact spares_add (fun _ => .mark) Value.nan (fun _ _ _ => trivial) fun _ _ => trivial
    · exact spares_pure fun _ => trivial

/-- A step that is not calm only has to leave the shared data where they are. -/
theorem spares_wild (wild : ¬conduct.calm) {step : Desk κ → α × Desk κ}
    (userdata : ∀ desk, (step desk).2.state.userdata = desk.state.userdata) :
    (change step).Spares conduct good :=
  spares_change userdata fun calm => absurd calm wild

theorem userdata_setItems (desk : Desk κ) (place : ListPlace) (items : List Value) :
    (desk.setItems place items).state.userdata = desk.state.userdata := by
  unfold Desk.setItems
  split
  · rfl
  · split <;> rfl

theorem spares_setItems (wild : ¬conduct.calm) (place : ListPlace) (items : List Value) :
    (setItems place items : Action κ Unit).Spares conduct fun _ => True :=
  spares_wild wild fun desk => userdata_setItems desk place items

end Action

end IssueBoard.Script
