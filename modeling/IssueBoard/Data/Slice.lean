/-!
# Parts of a list

A part of a list lies between two positions. A negative position counts from the end, and positions
beyond the ends stand for the ends.
-/

namespace IssueBoard

/-- The distance from the start that a position in a list of the given length stands for. -/
def positionIn (length : Nat) (position : Int) : Nat :=
  if position < 0 then (position + length).toNat else min position.toNat length

/-- The items of a list from one position up to another; a missing one stands for an end. -/
def slice {α : Type} (lower upper : Option Int) (items : List α) : List α :=
  let start := (lower.map (positionIn items.length)).getD 0
  let upTo := (upper.map (positionIn items.length)).getD items.length
  (items.take upTo).drop start

/-- The items at every `step`th position, from the first on. -/
def everyNth {α : Type} (step : Nat) (items : List α) : List α :=
  items.zipIdx.filterMap fun (item, place) => if place % step = 0 then some item else none

/-- The items of a list at every `step`th position between two positions; with a negative step they
come in the opposite order, the first position being the larger one. -/
def steppedSlice {α : Type} (lower upper : Option Int) (step : Int) (items : List α) : List α :=
  if 0 < step then everyNth step.toNat (slice lower upper items)
  else
    let length := items.length
    let past := fun position : Int =>
      if position < 0 then (position + length + 1).toNat else min (position.toNat + 1) length
    let upTo := (lower.map past).getD length
    let start := (upper.map past).getD 0
    everyNth (-step).toNat ((items.take upTo).drop start).reverse

/-- The index that a position stands for, if the list has an item there. -/
def index? (length : Nat) (position : Int) : Option Nat :=
  let index := if position < 0 then position + length else position
  if 0 ≤ index ∧ index < length then some index.toNat else none

/-- A part that ends at a position counted from the start is a beginning of the list. -/
theorem slice_none_some {α : Type} (items : List α) (limit : Nat) :
    slice none (some (limit : Int)) items = items.take limit := by
  have positive : ¬ (limit : Int) < 0 := by omega
  simp only [slice, positionIn, positive, Option.map_some, Option.map_none, Option.getD_some,
    Option.getD_none, if_false, Int.toNat_natCast, List.drop_zero]
  rcases Nat.le_total limit items.length with h | h
  · rw [Nat.min_eq_left h]
  · rw [Nat.min_eq_right h, List.take_length, List.take_of_length_le h]

end IssueBoard
