import IssueBoard.Proofs.Script.Sparing

/-! # Operators that spare the session

Operators and parts of containers build new lists of what they find in old ones. What they give is made by
themselves or stands in the session already, so it is a method that changes its owner only if the session has
one. Assignments to what is no name do change what stands there, but exchange none of the shared data.
-/

namespace IssueBoard.Script

open Script.Action

variable {κ α : Type} {conduct : Conduct}

/-! ## Items and parts -/

theorem mem_of_mem_everyNth {step : Nat} {items : List α} {x : α} (member : x ∈ everyNth step items) :
    x ∈ items := by
  obtain ⟨⟨item, place⟩, among, chosen⟩ := List.mem_filterMap.mp member
  dsimp only at chosen
  split at chosen
  · cases chosen
    exact List.fst_mem_of_mem_zipIdx among
  · cases chosen

theorem mem_of_mem_steppedSlice {lower upper : Option Int} {step : Int} {items : List α} {x : α}
    (member : x ∈ steppedSlice lower upper step items) : x ∈ items := by
  unfold steppedSlice at member
  split at member
  · exact List.mem_of_mem_take (List.mem_of_mem_drop (mem_of_mem_everyNth member))
  · have reversed := mem_of_mem_everyNth member
    rw [List.mem_reverse] at reversed
    exact List.mem_of_mem_take (List.mem_of_mem_drop reversed)

section Items

variable {free : Prop} {desk : Desk κ} {container index value : Value} {values : List Value}

theorem isTame_elements (tame : desk.IsTame free) (found : elements desk value = .ok values) :
    ∀ element ∈ values, element.IsTame free := by
  unfold elements at found
  split at found
  · cases found
    rw [List.forall_mem_map]
    exact fun _ _ => trivial
  · cases found
    exact fun element member => tame.items member
  · cases found
    rw [List.forall_mem_map]
    exact fun _ _ => trivial
  · cases found
    exact List.forall_mem_nil _
  · split at found
    · next entries known =>
      cases found
      rw [List.forall_mem_map]
      exact fun entry member => (tame.entries? known entry member).1
    · cases found

theorem isTame_lookupKey? {key : Value} {entries : List (Value × Value)}
    (tame : ∀ entry ∈ entries, entry.1.IsTame free ∧ entry.2.IsTame free)
    (found : lookupKey? key entries = some value) : value.IsTame free := by
  obtain ⟨entry, among, rfl⟩ := Option.map_eq_some_iff.mp found
  exact (tame entry (List.mem_of_find?_eq_some among)).2

theorem isTame_getD (tame : ∀ value ∈ values, value.IsTame free) (place : Nat) :
    (values.getD place .null).IsTame free := by
  rw [List.getD_eq_getElem?_getD]
  cases found : values[place]? with
  | none => trivial
  | some value => exact tame value (List.mem_of_getElem? found)

theorem isTame_item (tame : desk.IsTame free) (found : item desk container index = .ok value) :
    value.IsTame free := by
  unfold item at found
  split at found
  · split at found
    · obtain ⟨place, -, same⟩ := bind_eq_ok_iff.mp found
      cases same
      exact isTame_getD (fun item => tame.items) place
    · cases found
  · split at found
    · obtain ⟨place, -, same⟩ := bind_eq_ok_iff.mp found
      cases same
      trivial
    · cases found
  · split at found
    · split at found
      · cases found
        trivial
      · cases found
    · cases found
  · split at found
    · obtain ⟨place, -, same⟩ := bind_eq_ok_iff.mp found
      cases same
      trivial
    · cases found
  · split at found
    · next entries known =>
      obtain ⟨key, -, found⟩ := bind_eq_ok_iff.mp found
      split at found
      · next stored =>
        cases found
        exact isTame_lookupKey? (tame.entries? known) stored
      · cases found
    · cases found

end Items

/-- The items of a list, as a step reads them. -/
theorem spares_items (place : ListPlace) :
    (inspect fun desk : Desk κ => desk.items place).Spares conduct (∀ item ∈ ·, item.IsTame conduct.free) :=
  spares_inspect fun _ _ tame _ => tame.items

theorem spares_part (container lower upper step : Value) :
    (part container lower upper step : Action κ Value).Spares conduct (Value.IsTame conduct.free) := by
  unfold part
  split
  · exact (spares_ofExcept_any _).bind fun _ _ => spares_pure fun _ => trivial
  · next place =>
    refine (spares_ofExcept_any _).bind fun bounds _ => ?_
    refine (spares_items place).bind fun items tame => spares_newList fun calm item member => ?_
    exact tame calm item (mem_of_mem_steppedSlice member)
  · exact (spares_ofExcept_any _).bind fun _ _ => spares_pure fun _ => trivial
  · exact (spares_ofExcept_any _).bind fun _ _ => spares_pure fun _ => trivial
  · exact spares_throw _
  · exact spares_throw _
  · exact spares_throw _

/-- What stands in a container, as a step reads it. -/
theorem spares_elements (source : Value) :
    (examine fun desk : Desk κ => elements desk source).Spares conduct
      (∀ item ∈ ·, item.IsTame conduct.free) :=
  spares_examine fun _ _ tame _ found => isTame_elements tame found

/-! ## Operators -/

theorem isTame_complexOperation {free : Prop} {op : BinaryOp} {left right value : Value}
    (found : complexOperation? op left right = some (.ok value)) : value.IsTame free := by
  obtain ⟨z, -, found⟩ := Option.bind_eq_some_iff.mp found
  obtain ⟨w, -, found⟩ := Option.bind_eq_some_iff.mp found
  split at found
  · cases found
  · cases found
  · obtain ⟨result, -, same⟩ := Option.bind_eq_some_iff.mp found
    cases result with
    | error => cases same
    | ok _ =>
      cases same
      trivial

theorem spares_complexOperation {op : BinaryOp} {left right : Value} {result : Except Trouble Value}
    (found : complexOperation? op left right = some result) :
    (Action.ofExcept result : Action κ Value).Spares conduct (Value.IsTame conduct.free) := by
  refine spares_ofExcept fun _ value same => ?_
  rw [same] at found
  exact isTame_complexOperation found

theorem spares_repeatText (s : String) (count : Value) :
    (repeatText s count : Action κ Value).Spares conduct (Value.IsTame conduct.free) := by
  unfold repeatText
  split
  · exact (spares_ofExcept_any _).bind fun _ _ => spares_pure fun _ => trivial
  · exact spares_throw _

theorem mem_of_mem_repeatItems {count : Nat} {items : List α} {x : α} (member : x ∈ repeatItems count items) :
    x ∈ items := by
  obtain ⟨copy, among, inside⟩ := List.mem_flatten.mp member
  rwa [List.eq_of_mem_replicate among] at inside

theorem spares_repeatList (place : ListPlace) (count : Value) :
    (repeatList place count : Action κ Value).Spares conduct (Value.IsTame conduct.free) := by
  unfold repeatList
  split
  · refine (spares_items place).bind fun items tame => (spares_ofExcept_any _).bind fun count _ => ?_
    exact spares_newList fun calm item member => tame calm item (mem_of_mem_repeatItems member)
  · exact spares_throw _

theorem spares_repeatNothing (count : Value) :
    (repeatNothing count : Action κ Value).Spares conduct (Value.IsTame conduct.free) := by
  unfold repeatNothing
  split
  · exact (spares_ofExcept_any _).bind fun _ _ => spares_pure fun _ => trivial
  · exact spares_throw _

theorem spares_operate (op : BinaryOp) (spelling : String) (left right : Value) :
    (operate op spelling left right : Action κ Value).Spares conduct (Value.IsTame conduct.free) := by
  unfold operate
  split
  · split
    · split
      · next found => exact spares_complexOperation found
      · exact spares_throw _
    · exact (spares_ofExcept_any _).bind fun n _ => spares_newNumber n
  · split
    · exact spares_pure fun _ => trivial
    · next p q _ =>
      have read : (inspect fun desk : Desk κ => desk.items p ++ desk.items q).Spares conduct
          (∀ item ∈ ·, item.IsTame conduct.free) := by
        refine spares_inspect fun _ desk tame item member => ?_
        rcases List.mem_append.mp member with first | second
        · exact tame.items first
        · exact tame.items second
      exact read.bind fun items tame => spares_newList tame
    · exact spares_pure fun _ => trivial
    · exact spares_throw _
    · exact spares_throw _
    · exact spares_throw _
    · exact spares_repeatText _ _
    · exact spares_repeatList _ _
    · exact spares_repeatNothing _
    · exact spares_repeatText _ _
    · exact spares_repeatList _ _
    · exact spares_repeatNothing _
    · refine spares_examine fun _ desk _ value found => ?_
      obtain ⟨text, -, rfl⟩ := map_eq_ok_iff.mp found
      trivial
    · split
      · next found => exact spares_complexOperation found
      · exact spares_throw _

/-- An augmented assignment may change a list, so it is not calm. -/
theorem spares_augment (wild : ¬conduct.calm) (op : BinaryOp) (left right : Value) :
    (augment op left right : Action κ Value).Spares conduct (Value.IsTame conduct.free) := by
  unfold augment
  split
  · refine (spares_elements right).bind fun more _ => (spares_items _).bind fun items _ => ?_
    exact (spares_setItems wild _ _).bind fun _ _ => spares_pure fun calm => absurd calm wild
  · refine (spares_items _).bind fun items _ => (spares_examine_any _).bind fun count _ => ?_
    exact (spares_setItems wild _ _).bind fun _ _ => spares_pure fun calm => absurd calm wild
  · exact spares_operate _ _ _ _

theorem spares_applySign (op : UnaryOp) (value : Value) :
    (applySign op value : Action κ Value).Spares conduct (Value.IsTame conduct.free) := by
  unfold applySign
  split
  · exact spares_pure fun _ => trivial
  · exact spares_pure fun _ => trivial
  · exact spares_pure fun _ => trivial
  · split
    · exact spares_newNumber _
    · exact spares_pure fun _ => trivial
    · exact spares_newNumber _
    · exact spares_throw _
    · exact spares_throw _

/-! ## Assignments to what is no name -/

theorem userdata_setEntryAttribute (desk : Desk κ) (slot : Nat) (name : String) (value : Value) :
    (setEntryAttribute desk slot name value).state.userdata = desk.state.userdata := by
  unfold setEntryAttribute
  split <;> rfl

theorem spares_assignItem (wild : ¬conduct.calm) (container index value : Value) :
    (assignItem container index value : Action κ Unit).Spares conduct fun _ => True := by
  unfold assignItem
  split
  · split
    · exact (spares_items _).bind fun items _ => (spares_ofExcept_any _).bind fun spot _ =>
        spares_setItems wild _ _
    · exact spares_throw _
  · exact (spares_ofExcept_any _).bind fun key _ => (spares_inspect_any _).bind fun entries _ =>
      spares_wild wild fun _ => rfl
  · exact (spares_ofExcept_any _).bind fun key _ => spares_wild wild fun _ => rfl
  · exact spares_throw _

theorem spares_assignPart (wild : ¬conduct.calm) (container lower upper step value : Value) :
    (assignPart container lower upper step value : Action κ Unit).Spares conduct fun _ => True := by
  unfold assignPart
  split
  · exact (spares_ofExcept_any _).bind fun bounds _ => (spares_examine_any _).bind fun values _ =>
      (spares_items _).bind fun items _ => (spares_ofExcept_any _).bind fun _ _ =>
        spares_setItems wild _ _
  · exact spares_throw _
  · exact spares_throw _
  · exact spares_throw _

theorem spares_setMember (wild : ¬conduct.calm) (owner : Value) (name : String) (value : Value) :
    (setMember owner name value : Action κ Unit).Spares conduct fun _ => True := by
  unfold setMember
  split
  · exact spares_wild wild fun desk => userdata_setEntryAttribute desk _ _ _
  · exact spares_wild wild fun _ => rfl
  · exact spares_pure fun _ => trivial
  · exact spares_pure fun _ => trivial
  · exact spares_pure fun _ => trivial
  · exact spares_throw _

end IssueBoard.Script
