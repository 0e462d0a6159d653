import IssueBoard.Proofs.Board.HostFailures
import IssueBoard.Proofs.Script.Outside

/-! # The bindings of a script after it has run

What the bindings of a script stand for becomes the values of names that belong to the script alone. So
afterwards the bindings stand for what they stood for, and only what is in the places of lists, objects and
entries of the query cache can be other than before. A mild script leaves these as well.
-/

namespace IssueBoard.Script

open Script.Action Evaluation

variable {κ ι : Type} {host : Host κ ι} {desk later : Desk κ}

/-! ## What bindings stand for -/

theorem isTame_bindingValue {free : Prop} (same : later.state.userdata = desk.state.userdata)
    {binding : Binding Value} (tame : (bindingValue host desk binding).1.IsTame free) :
    (bindingValue host later binding).1.IsTame free := by
  cases binding with
  | plain data => exact (load_spec _ data).1.always
  | userdata => exact (congrArg (Value.IsTame free) same).mpr tame
  | _ => exact tame

/-- Whether a session is another one with more in its store. -/
def Desk.GrowsTo (desk later : Desk κ) : Prop :=
  ∃ store, later = { desk with state := { desk.state with store } } ∧ Grows desk.state.store store

namespace Desk.GrowsTo

theorem refl (desk : Desk κ) : desk.GrowsTo desk := ⟨_, rfl, .refl _⟩

theorem trans {during : Desk κ} (first : desk.GrowsTo during) (second : during.GrowsTo later) :
    desk.GrowsTo later := by
  obtain ⟨_, rfl, grows⟩ := first
  obtain ⟨store, rfl, more⟩ := second
  exact ⟨store, rfl, grows.trans more⟩

theorem userdata (grows : desk.GrowsTo later) : later.state.userdata = desk.state.userdata := by
  obtain ⟨_, rfl, -⟩ := grows
  rfl

theorem keeps (grows : desk.GrowsTo later) : desk.Keeps later := by
  obtain ⟨_, rfl, grows⟩ := grows
  exact .ofGrows grows

theorem isTame {free : Prop} (grows : desk.GrowsTo later) (tame : desk.IsTame free) : later.IsTame free := by
  obtain ⟨_, rfl, grows⟩ := grows
  exact tame.ofGrows grows

end Desk.GrowsTo

theorem growsTo_load (desk : Desk κ) (data : Data) : desk.GrowsTo (desk.load data).2 :=
  ⟨_, rfl, (load_spec _ data).2⟩

theorem growsTo_bindingValue (host : Host κ ι) (desk : Desk κ) (binding : Binding Value) :
    desk.GrowsTo (bindingValue host desk binding).2 := by
  cases binding with
  | plain data => exact growsTo_load desk data
  | _ => exact .refl desk

/-- Whether no name of a scope stands for a method that changes its owner, unless it may stand for one. -/
def Host.IsTameScope (host : Host κ ι) (desk : Desk κ) (functions : Option (List String)) (scope : Scope Value) :
    Prop :=
  ∀ entry ∈ scope, (bindingValue host desk entry.2).1.IsTame (trusts functions entry.1 = true)

theorem Host.IsTameScope.parameters {functions : Option (List String)} {scope : Scope Value}
    (tame : host.IsTameScope desk functions scope) :
    ∀ name ∈ (parameters host desk scope).1, name.2.IsTame (trusts functions name.1 = true) := by
  induction scope generalizing desk with
  | nil => exact List.forall_mem_nil _
  | cons entry rest ih =>
    obtain ⟨here, others⟩ := List.forall_mem_cons.mp tame
    refine List.forall_mem_cons.mpr ⟨here, ih fun other member => ?_⟩
    exact isTame_bindingValue (growsTo_bindingValue host desk entry.2).userdata (others other member)

end IssueBoard.Script
