import IssueBoard.Proofs.Script.Operations

/-! # Calls that spare the session

Only two methods change their owner, so every other call spares the session: a method of a text gives texts,
a function gives something of its own or something it was given, and a search only adds to the store what it
finds. An attribute that is not named like one of the two methods is none of them.
-/

namespace IssueBoard.Script

open Script.Action

variable {κ ι : Type} {conduct : Conduct} {free : Prop}

/-! ## Methods -/

theorem isTame_affixTest {atEnd : Bool} {s : String} {arguments : List Value} {value : Value}
    (found : affixTest atEnd s arguments = .ok value) : value.IsTame free := by
  unfold affixTest at found
  dsimp only at found
  split at found
  · cases found
  · obtain ⟨lower, -, found⟩ := bind_eq_ok_iff.mp found
    obtain ⟨upper, -, found⟩ := bind_eq_ok_iff.mp found
    split at found
    · cases found
    · cases found
      trivial
    · cases found

theorem isTame_textMethod {desk : Desk κ} {s : String} {method : Method} {arguments : List Value}
    {value : Value} (found : textMethod desk s method arguments = .ok value) : value.IsTame free := by
  unfold textMethod at found
  split at found
  · cases found
    trivial
  · cases found
    trivial
  · cases found
    trivial
  · cases found
    trivial
  · cases found
    trivial
  · cases found
  · cases found
  · split at found
    · obtain ⟨texts, -, same⟩ := bind_eq_ok_iff.mp found
      cases same
      trivial
    · cases found
  · cases found
  · split at found
    · cases found
      trivial
    · obtain ⟨limit, -, same⟩ := bind_eq_ok_iff.mp found
      cases same
      trivial
    · cases found
  · cases found
  · cases found
  · cases found
  · exact isTame_affixTest found
  · exact isTame_affixTest found
  · cases found

theorem isTame_splitText {s : String} {arguments texts : List Value}
    (found : splitText s arguments = .ok texts) : ∀ value ∈ texts, value.IsTame free := by
  have written (pieces : List (List Char)) :
      ∀ value ∈ pieces.map fun piece => Value.text (String.ofList piece), value.IsTame free := by
    rw [List.forall_mem_map]
    exact fun _ _ => trivial
  unfold splitText at found
  dsimp only at found
  split at found
  · obtain ⟨count, -, found⟩ := bind_eq_ok_iff.mp found
    obtain ⟨limit, -, found⟩ := bind_eq_ok_iff.mp found
    split at found <;> cases found <;> exact written _
  · obtain ⟨limit, -, found⟩ := bind_eq_ok_iff.mp found
    split at found <;> cases found <;> exact written _

/-- What an object or the cache holds under a key, as a step reads it. -/
theorem spares_stored (owner key : Value) :
    (examine fun desk : Desk κ => stored? desk owner key).Spares conduct
      (∀ value ∈ ·, value.IsTame conduct.free) := by
  refine spares_examine fun _ desk tame result found value held => ?_
  obtain ⟨key, -, same⟩ := bind_eq_ok_iff.mp found
  cases same
  cases known : desk.entries? owner with
  | none =>
    rw [known] at held
    cases held
  | some entries =>
    rw [known] at held
    exact isTame_lookupKey? (tame.entries? known) held

theorem isTame_headD {values : List Value} (tame : ∀ value ∈ values, value.IsTame free) :
    (values.headD .null).IsTame free := by
  cases values with
  | nil => trivial
  | cons value rest => exact tame value List.mem_cons_self

/-- No method of texts changes its owner. -/
theorem spares_callMethod_text (s : String) (method : Method) (arguments : List Value) :
    (callMethod (.text s) method arguments : Action κ Value).Spares conduct (Value.IsTame conduct.free) := by
  cases method with
  | split =>
    exact (spares_examine fun _ _ _ _ => isTame_splitText).bind fun texts tame => spares_newList tame
  | _ => exact spares_examine fun _ _ _ _ => isTame_textMethod

theorem spares_callMethod {owner : Value} {method : Method} {arguments : List Value}
    (gentle : conduct.calm → (Value.method owner method).IsTame True)
    (tame : conduct.calm → ∀ value ∈ arguments, value.IsTame conduct.free) :
    (callMethod owner method arguments : Action κ Value).Spares conduct (Value.IsTame conduct.free) := by
  unfold callMethod
  split
  · exact spares_callMethod_text _ .split arguments
  · exact spares_examine fun _ _ _ _ => isTame_textMethod
  · have wild : ¬conduct.calm := fun calm => gentle calm trivial
    exact (spares_items _).bind fun items _ => (spares_setItems wild _ _).bind fun _ _ =>
      spares_pure fun _ => trivial
  · exact spares_throw _
  · split
    · exact spares_throw _
    · refine (spares_stored _ _).bind fun found kept => spares_pure fun calm => ?_
      cases found with
      | none => exact isTame_headD fun value member => tame calm value (List.mem_cons_of_mem _ member)
      | some value => exact kept calm value rfl
  · have wild : ¬conduct.calm := fun calm => gentle calm trivial
    split
    · exact spares_throw _
    · refine (spares_stored _ _).bind fun found kept => ?_
      split
      · exact spares_pure fun calm => absurd calm wild
      · exact (spares_assignItem wild _ _ _).bind fun _ _ => spares_pure fun calm => absurd calm wild
  · exact spares_throw _

/-! ## Functions -/

section Sorting

variable {less : Value → Value → Except Trouble Bool} {values sorted : List Value}

theorem mem_of_runFrom {falling : Bool} {last : Value} {run rest : List Value}
    (found : runFrom less falling last values = .ok (run, rest)) :
    ∀ value, value ∈ run ∨ value ∈ rest → value ∈ values := by
  induction values generalizing last run rest with
  | nil =>
    cases found
    exact fun value never => never.elim id id
  | cons x more ih =>
    obtain ⟨below, -, found⟩ := bind_eq_ok_iff.mp found
    split at found
    · obtain ⟨⟨run', rest'⟩, found, same⟩ := bind_eq_ok_iff.mp found
      cases same
      rintro value (member | member)
      · rcases List.mem_cons.mp member with rfl | later
        · exact List.mem_cons_self
        · exact List.mem_cons_of_mem _ (ih found value (.inl later))
      · exact List.mem_cons_of_mem _ (ih found value (.inr member))
    · cases found
      exact fun value member => member.resolve_left List.not_mem_nil

theorem mem_of_insertAll {start : List Value} (found : insertAll less start values = .ok sorted) :
    ∀ value ∈ sorted, value ∈ start ∨ value ∈ values := by
  induction values generalizing start with
  | nil =>
    cases found
    exact fun value member => .inl member
  | cons x more ih =>
    obtain ⟨place, -, found⟩ := bind_eq_ok_iff.mp found
    intro value member
    rcases ih found value member with placed | later
    · rcases List.mem_append.mp placed with before | behind
      · exact .inl (List.mem_of_mem_take before)
      · rcases List.mem_cons.mp behind with rfl | after
        · exact .inr List.mem_cons_self
        · exact .inl (List.mem_of_mem_drop after)
    · exact .inr (List.mem_cons_of_mem _ later)

theorem mem_of_sort (found : sort less values = .ok sorted) : ∀ value ∈ sorted, value ∈ values := by
  match values with
  | [] =>
    cases found
    exact fun _ member => member
  | [x] =>
    cases found
    exact fun _ member => member
  | x :: y :: rest =>
    obtain ⟨falling, -, found⟩ := bind_eq_ok_iff.mp found
    obtain ⟨⟨run, behind⟩, ran, found⟩ := bind_eq_ok_iff.mp found
    intro value member
    have among : value ∈ x :: y :: run ∨ value ∈ behind := by
      refine (mem_of_insertAll found value member).imp_left fun started => ?_
      split at started
      · exact List.mem_reverse.mp started
      · exact started
    rcases among with first | later
    · rcases List.mem_cons.mp first with rfl | first
      · exact List.mem_cons_self
      · rcases List.mem_cons.mp first with rfl | first
        · exact List.mem_cons_of_mem _ List.mem_cons_self
        · exact List.mem_cons_of_mem _ (List.mem_cons_of_mem _ (mem_of_runFrom ran value (.inl first)))
    · exact List.mem_cons_of_mem _ (List.mem_cons_of_mem _ (mem_of_runFrom ran value (.inr later)))

end Sorting

section Extremes

variable {desk : Desk κ} {op : Comparison} {values : List Value} {value : Value}

theorem mem_of_extreme {best : Value} (found : extreme desk op best values = .ok value) :
    value ∈ best :: values := by
  induction values generalizing best with
  | nil =>
    cases found
    exact List.mem_singleton_self _
  | cons x rest ih =>
    obtain ⟨better, -, found⟩ := bind_eq_ok_iff.mp found
    split at found
    · exact List.mem_cons_of_mem _ (ih found)
    · rcases List.mem_cons.mp (ih found) with rfl | later
      · exact List.mem_cons_self
      · exact List.mem_cons_of_mem _ (List.mem_cons_of_mem _ later)

theorem isTame_extremeOf {name : String} (tame : desk.IsTame free) (given : ∀ value ∈ values, value.IsTame free)
    (found : extremeOf desk name op values = .ok value) : value.IsTame free := by
  unfold extremeOf at found
  split at found
  · cases found
  · obtain ⟨among, read, found⟩ := bind_eq_ok_iff.mp found
    split at found
    · cases found
    · exact isTame_elements tame read value (mem_of_extreme found)
  · exact given value (mem_of_extreme found)

theorem isTame_rangeOf (found : rangeOf values = .ok value) : value.IsTame free := by
  unfold rangeOf at found
  split at found
  · obtain ⟨stop, -, same⟩ := bind_eq_ok_iff.mp found
    cases same
    trivial
  · obtain ⟨start, -, found⟩ := bind_eq_ok_iff.mp found
    obtain ⟨stop, -, same⟩ := bind_eq_ok_iff.mp found
    cases same
    trivial
  · obtain ⟨start, -, found⟩ := bind_eq_ok_iff.mp found
    obtain ⟨stop, -, found⟩ := bind_eq_ok_iff.mp found
    obtain ⟨step, -, found⟩ := bind_eq_ok_iff.mp found
    split at found
    · cases found
    · cases found
      trivial
  · cases found

end Extremes

theorem spares_addAll {sum : Value} (tame : conduct.calm → sum.IsTame conduct.free) (values : List Value) :
    (addAll sum values : Action κ Value).Spares conduct (Value.IsTame conduct.free) := by
  induction values generalizing sum with
  | nil => exact spares_pure tame
  | cons value rest ih => exact (spares_operate _ _ _ _).bind fun sum tame => ih tame

theorem spares_newError (kind : Builtin) (arguments : List Value) :
    (change fun desk : Desk κ => (Value.error (desk.add .mark).1 kind arguments, (desk.add .mark).2)).Spares
      conduct (Value.IsTame conduct.free) :=
  spares_add (fun _ => .mark) (fun place => Value.error place kind arguments) (fun _ _ _ => trivial)
    fun _ _ => trivial

theorem spares_callBuiltin (function : Builtin) {arguments : List Value}
    (tame : conduct.calm → ∀ value ∈ arguments, value.IsTame conduct.free) :
    (callBuiltin function arguments : Action κ Value).Spares conduct (Value.IsTame conduct.free) := by
  unfold callBuiltin
  split
  · refine spares_examine fun _ desk _ value found => ?_
    split at found
    · split at found
      · cases found
      · cases found
        trivial
    · cases found
  · exact spares_throw _
  · exact spares_pure fun _ => trivial
  · refine spares_examine fun _ desk _ value found => ?_
    obtain ⟨text, -, rfl⟩ := map_eq_ok_iff.mp found
    trivial
  · split
    · exact spares_throw _
    · refine spares_ofExcept fun _ value found => ?_
      obtain ⟨text, -, rfl⟩ := map_eq_ok_iff.mp found
      trivial
  · exact spares_pure fun _ => trivial
  · refine spares_ofExcept fun _ value found => ?_
    obtain ⟨n, -, rfl⟩ := map_eq_ok_iff.mp found
    trivial
  · refine spares_ofExcept fun _ value found => ?_
    obtain ⟨n, -, rfl⟩ := map_eq_ok_iff.mp found
    trivial
  · exact spares_throw _
  · refine (spares_elements _).bind fun values _ => spares_addAll (fun _ => ?_) values
    trivial
  · refine (spares_elements _).bind fun values _ => ?_
    split
    · exact spares_throw _
    · refine spares_addAll (fun calm => ?_) values
      exact tame calm _ (List.mem_cons_of_mem _ List.mem_cons_self)
  · exact spares_throw _
  · exact spares_throw _
  · exact spares_examine fun calm desk still value => isTame_extremeOf still (tame calm)
  · exact spares_examine fun calm desk still value => isTame_extremeOf still (tame calm)
  · refine (spares_elements _).bind fun values given => ?_
    have ordered : (examine fun desk : Desk κ => sort (below desk) values).Spares conduct
        (∀ item ∈ ·, item.IsTame conduct.free) :=
      spares_examine fun calm desk _ sorted found item member =>
        given calm item (mem_of_sort found item member)
    exact ordered.bind fun sorted tame => spares_newList tame
  · exact spares_throw _
  · exact spares_ofExcept fun _ value => isTame_rangeOf
  · exact spares_newError _ _

theorem spares_callHelper (host : Host κ ι) (helper : Calendar.Helper) (arguments : List Value) :
    (callHelper host helper arguments).Spares conduct (Value.IsTame conduct.free) := by
  refine spares_examine fun _ desk _ value found => ?_
  dsimp only at found
  split at found
  · obtain ⟨source, -, found⟩ := bind_eq_ok_iff.mp found
    split at found <;> cases found
    trivial
  · obtain ⟨source, -, found⟩ := bind_eq_ok_iff.mp found
    split at found <;> cases found
    trivial
  · obtain ⟨source, -, found⟩ := bind_eq_ok_iff.mp found
    split at found <;> cases found
    trivial
  · cases found

theorem spares_callSearch (host : Host κ ι) (arguments : List Value) :
    (callSearch host arguments).Spares conduct (Value.IsTame conduct.free) := by
  unfold callSearch
  split
  · exact (spares_ofExcept_any _).bind fun perPage _ => (spares_ofExcept_any _).bind fun page _ =>
      (spares_inspect_any _).bind fun kind _ =>
        spares_add (fun _ => .pending ⟨.other kind, _, perPage, page⟩ false) Value.pending
          (fun _ _ _ => trivial) fun _ _ => trivial
  · exact spares_throw _
  · exact spares_throw _

/-! ## Waiting for a search -/

/-- Whether found items are put into places of their own, and hold no methods that change their owner. -/
def Host.AddsItems (host : Host κ ι) : Prop :=
  ∀ (item : ι) (store : Array Cell),
    (host.takeIn item store).1.IsTame True ∧ Grows store (host.takeIn item store).2

section Waiting

variable {host : Host κ ι}

theorem Host.AddsItems.takeInAll (adds : host.AddsItems) (store : Array Cell) (items : List ι) :
    (∀ value ∈ (host.takeInAll store items).1, value.IsTame True) ∧
      Grows store (host.takeInAll store items).2 := by
  induction items generalizing store with
  | nil => exact ⟨List.forall_mem_nil _, .refl store⟩
  | cons item rest ih =>
    obtain ⟨tame, grows⟩ := adds item store
    obtain ⟨others, more⟩ := ih (host.takeIn item store).2
    exact ⟨List.forall_mem_cons.mpr ⟨tame, others⟩, grows.trans more⟩

theorem userdata_search (host : Host κ ι) (request : SearchRequest) (machine : Machine κ) :
    (host.search request machine).2.userdata = machine.userdata := by
  unfold Host.search
  split <;> rfl

/-- A search changes the server and puts what it finds into the store. -/
theorem Host.AddsItems.search (adds : host.AddsItems) (request : SearchRequest) (machine : Machine κ) :
    (∃ server store, (host.search request machine).2 = { machine with server, store } ∧
        Grows machine.store store) ∧
      ∀ page, (host.search request machine).1 = .ok page → ∀ item ∈ page.items, item.IsTame True := by
  unfold Host.search
  split
  · exact ⟨⟨_, machine.store, rfl, .refl _⟩, fun _ never => by cases never⟩
  · next page server found =>
    obtain ⟨tame, grows⟩ := adds.takeInAll machine.store page.items
    exact ⟨⟨_, _, rfl, grows⟩, fun _ same => by cases same; exact tame⟩

variable {desk : Desk κ} {cell : Nat} {request : SearchRequest}

/-- A search that is waited for is marked, and nothing else is changed. -/
theorem Desk.Keeps.setCell (found : desk.cell? cell = some (.pending request false)) :
    desk.Keeps (desk.setCell cell (.pending request true)) := by
  refine ⟨fun other content held => ?_, rfl⟩
  have after : (desk.setCell cell (.pending request true)).cell? other =
      (desk.state.store.setIfInBounds cell (.pending request true))[other]? := rfl
  rw [after, Array.getElem?_setIfInBounds]
  split
  · next same =>
    subst same
    rw [if_pos (Array.getElem?_eq_some_iff.mp found).1]
    rw [found] at held
    cases held
    exact ⟨_, rfl, .inr ⟨request, rfl, rfl⟩⟩
  · exact ⟨content, held, .inl rfl⟩

theorem Desk.IsTame.setCell (tame : desk.IsTame free) {content : Cell} (tameContent : content.IsTame free) :
    (desk.setCell cell content).IsTame free := by
  refine ⟨fun other held found => ?_, tame.entries, tame.names⟩
  have after : (desk.state.store.setIfInBounds cell content)[other]? = some held := found
  rw [Array.getElem?_setIfInBounds] at after
  split at after
  · split at after
    · cases after
      exact tameContent
    · cases after
  · exact tame.store other held after

/-- The session after a search that has been prepared. -/
def Desk.searched (host : Host κ ι) (desk : Desk κ) (cell : Nat) (request : SearchRequest) :
    Except Failure (SearchPage Value) × Desk κ :=
  let desk := desk.setCell cell (.pending request true)
  let (answer, state) := host.search request desk.state
  (answer, { desk with state })

theorem Desk.IsTame.searched (tame : desk.IsTame free) (adds : host.AddsItems)
    (found : desk.cell? cell = some (.pending request false)) :
    desk.Keeps (desk.searched host cell request).2 ∧ (desk.searched host cell request).2.IsTame free ∧
      ∀ page, (desk.searched host cell request).1 = .ok page → ∀ item ∈ page.items, item.IsTame True := by
  have marked : (desk.setCell cell (.pending request true)).IsTame free := tame.setCell trivial
  obtain ⟨⟨server, store, state, grows⟩, given⟩ :=
    adds.search request (desk.setCell cell (.pending request true)).state
  unfold Desk.searched
  simp only [state]
  exact ⟨(Desk.Keeps.setCell found).trans (.ofGrows grows), marked.ofGrows grows, given⟩

theorem spares_wait (adds : conduct.calm → host.AddsItems) (value : Value) :
    (wait host value).Spares conduct (Value.IsTame conduct.free) := by
  unfold wait
  split
  · next cell =>
    refine fun frame tame => sparesAt_inspect ?_
    dsimp only
    split
    · next request found =>
      have searched : (change (Desk.searched host · cell request)).SparesAt conduct
          (fun answer => ∀ page, answer = .ok page → ∀ item ∈ page.items, item.IsTame True) frame := by
        refine sparesAt_change tame ?_ fun calm => (tame calm).desk.searched (adds calm) found
        exact userdata_search host request _
      refine searched.bind fun answer given => ?_
      split
      · exact spares_throw _
      · next page =>
        have listed : (newList page.items : Action κ Value).Spares conduct (Value.IsTame True) :=
          spares_newList fun calm item member => (given calm page rfl item member).always
        refine listed.bind fun items tame => ?_
        refine spares_add (fun _ => .page [("total_count", Desk.totalValue page.total), ("items", items)])
          Value.page (fun calm _ _ => ?_) fun _ _ => trivial
        exact List.forall_mem_cons.mpr ⟨isTame_totalValue page.total,
          List.forall_mem_cons.mpr ⟨tame calm, List.forall_mem_nil _⟩⟩
    · exact spares_throw _ frame tame
  · exact spares_throw _

/-! ## Calls and attributes -/

theorem spares_callUnbound (method : Method) (arguments : List Value) :
    (callUnbound method arguments : Action κ Value).Spares conduct (Value.IsTame conduct.free) := by
  unfold callUnbound
  split
  · exact spares_throw _
  · exact spares_callMethod_text _ _ _
  · exact spares_throw _

theorem spares_callValue (host : Host κ ι) {function : Value} {arguments : List Value}
    (gentle : conduct.calm → function.IsTame True)
    (tame : conduct.calm → ∀ value ∈ arguments, value.IsTame conduct.free) :
    (callValue host function arguments).Spares conduct (Value.IsTame conduct.free) := by
  unfold callValue
  split
  · exact spares_callBuiltin _ tame
  · exact spares_callHelper host _ _
  · exact spares_callMethod gentle tame
  · exact spares_callUnbound _ _
  · exact spares_callSearch host _
  · exact spares_throw _

/-- The names of the methods that change their owner. -/
def changers : List String := [Method.append.name, Method.setDefault.name]

theorem isTame_methodOf {owner value : Value} {name : String} (gentle : free → name ∉ changers)
    (found : (methodOf? owner name).map (.method owner) = some value) : value.IsTame free := by
  obtain ⟨method, known, rfl⟩ := Option.map_eq_some_iff.mp found
  have named : method.name = name := by
    have test := List.find?_some known
    rw [Bool.and_eq_true, beq_iff_eq] at test
    exact test.1
  cases method with
  | append => exact fun free => gentle free (named ▸ List.mem_cons_self)
  | setDefault => exact fun free => gentle free (named ▸ List.mem_cons_of_mem _ List.mem_cons_self)
  | _ => trivial

/-- No attribute is a method that changes its owner, unless it is named like one. -/
theorem isTame_memberOf {found : Prop} {owner value : Value} {name : String} (tame : desk.IsTame found)
    (gentle : free → name ∉ changers) (read : memberOf host desk owner name = .ok value) :
    value.IsTame free := by
  unfold memberOf at read
  dsimp only at read
  split at read
  · next known =>
    cases read
    split at known
    · split at known
      · cases known
        trivial
      · cases known
    · exact (tame.pageAttributes (mem_of_lookup known)).always
    · exact (tame.entryAttribute? known).always
    · obtain ⟨method, -, rfl⟩ := Option.map_eq_some_iff.mp known
      trivial
    · exact isTame_methodOf gentle known
  · split at read
    · obtain ⟨text, -, rfl⟩ := map_eq_ok_iff.mp (mapError_eq_ok_iff.mp read)
      trivial
    · cases read
  · cases read

end Waiting

end IssueBoard.Script
