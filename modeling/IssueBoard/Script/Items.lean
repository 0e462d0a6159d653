import IssueBoard.Data.Slice
import IssueBoard.Script.Action

/-!
# Items of containers

What stands at an index, under a key or between two bounds of a container, and what is put there.
-/

namespace IssueBoard.Script

/-- The most items and characters that a list or a text may have. -/
def sizeLimit : Int := 4294967296

/-- The integer that a value counts as. -/
def Value.integer? : Value → Option Int
  | .flag b => some (if b then 1 else 0)
  | .integer n => some n
  | _ => none

/-- What stands in a container that can be visited, in order. -/
def elements {κ : Type} (desk : Desk κ) : Value → Except Trouble (List Value)
  | .text s => .ok (s.toList.map fun c => .text (String.singleton c))
  | .list place => .ok (desk.items place)
  | .range start stop step =>
    .ok ((List.range (Desk.rangeSize start stop step)).map fun i =>
      .integer (start + step * Int.ofNat i))
  | .atom emptyBrackets => .ok []
  | other =>
    match desk.entries? other with
    | some entries => .ok (entries.map (·.1))
    | none => .error (.notIterable other.typeName)

/-- The place of an index in a sequence. -/
def placeOf (length : Nat) (index : Int) (beyond : Trouble) : Except Trouble Nat :=
  if Int.pow 2 63 ≤ index.natAbs then .error .indexTooLarge
  else
    match index? length index with
    | some place => .ok place
    | none => .error beyond

/-- The trouble with a key that is missing. -/
def missing {κ : Type} (desk : Desk κ) (key : Value) : Trouble := .ofError true [desk.view key]

/-- Why a value has no items. -/
def notSubscriptable (container : Value) : Trouble :=
  match container with
  | .builtin function =>
    if function.isType then .typeNotSubscriptable function.name
    else .notSubscriptable container.typeName
  | other => .notSubscriptable other.typeName

/-- What stands at an index of a container. -/
def item {κ : Type} (desk : Desk κ) (container index : Value) : Except Trouble Value :=
  match container with
  | .list place =>
    match index.integer? with
    | some i => do
      let items := desk.items place
      return items.getD (← placeOf items.length i (.indexOutOfRange "list")) .null
    | none => .error (.listIndex "list" index.typeName)
  | .text s =>
    match index.integer? with
    | some i => do
      let cs := s.toList
      let place ← placeOf cs.length i (.indexOutOfRange "string")
      return .text (String.ofList ((cs.drop place).take 1))
    | none => .error (.textIndex index.typeName)
  | .range start stop step =>
    match index.integer? with
    | some i =>
      match index? (Desk.rangeSize start stop step) i with
      | some place => .ok (.integer (start + step * place))
      | none => .error (.indexOutOfRange "range object")
    | none => .error (.listIndex "range" index.typeName)
  | .atom emptyBrackets =>
    match index.integer? with
    | some i => do return .integer (← placeOf 0 i (.indexOutOfRange "tuple"))
    | none => .error (.listIndex "tuple" index.typeName)
  | container =>
    match desk.entries? container with
    | some entries => do
      let key ← Desk.key? index
      match lookupKey? key entries with
      | some value => return value
      | none => throw (missing desk key)
    | none => .error (notSubscriptable container)

/-- The bound of a part, which may be left open. -/
def boundOf : Value → Except Trouble (Option Int)
  | .null => .ok none
  | value =>
    match value.integer? with
    | some n => .ok (some n)
    | none => .error .sliceIndex

/-- The bounds of a part: the lower and the upper one, which may be left open, and the step. -/
structure Bounds where
  lower : Option Int
  upper : Option Int
  step : Int

/-- The bounds that values stand for. -/
def boundsOf (lower upper step : Value) : Except Trouble Bounds := do
  let step := (← boundOf step).getD 1
  if step = 0 then throw .zeroSliceStep
  let lower ← boundOf lower
  return { lower, upper := ← boundOf upper, step }

/-- The range of the integers that stand between the bounds of a range of integers. -/
def partOfRange (start stop step : Int) (bounds : Bounds) : Value :=
  let length : Int := Desk.rangeSize start stop step
  let least : Int := if bounds.step < 0 then -1 else 0
  let most : Int := if bounds.step < 0 then length - 1 else length
  let place := fun index : Int =>
    if index < 0 then max least (index + length) else min most index
  let first := (bounds.lower.map place).getD (if bounds.step < 0 then most else least)
  let last := (bounds.upper.map place).getD (if bounds.step < 0 then least else most)
  .range (start + first * step) (start + last * step) (step * bounds.step)

/-- A part of a text, a list or a range. -/
def part {κ : Type} (container lower upper step : Value) : Action κ Value := do
  match container with
  | .text s =>
    let bounds ← Action.ofExcept (boundsOf lower upper step)
    return .text (String.ofList (steppedSlice bounds.lower bounds.upper bounds.step s.toList))
  | .list place =>
    let bounds ← Action.ofExcept (boundsOf lower upper step)
    let items ← Action.inspect fun desk => desk.items place
    Action.newList (steppedSlice bounds.lower bounds.upper bounds.step items)
  | .range start stop pace =>
    let bounds ← Action.ofExcept (boundsOf lower upper step)
    return partOfRange start stop pace bounds
  | .atom emptyBrackets =>
    let _ ← Action.ofExcept (boundsOf lower upper step)
    return container
  | .object _ => throw (.unhashable "slice")
  | .cache => throw (.unhashable "slice")
  | other => throw (notSubscriptable other)

/-- What the query cache holds once a value is put into it. Objects have other items than an entry
has, and all other values but entries have none of its attributes. -/
def holdingOf : Value → Holding Value
  | .entry slot => .entry slot
  | .null => .other .null none
  | .object cell => .other (.object cell) (some .entryType)
  | .cache => .other .cache (some .entryType)
  | value => .other value (some .notAnEntry)

/-- Puts a value at an index of a container. -/
def assignItem {κ : Type} (container index value : Value) : Action κ Unit :=
  match container with
  | .list place =>
    match index.integer? with
    | some i => do
      let items ← Action.inspect fun desk => desk.items place
      let spot ← Action.ofExcept
        (placeOf items.length i (.indexOutOfRange "list assignment"))
      Action.setItems place (items.set spot value)
    | none => throw (.listIndex "list" index.typeName)
  | .object cell => do
    let key ← Action.ofExcept (Desk.key? index)
    let entries ← Action.inspect fun desk => desk.entries cell
    Action.setEntries cell (assignKey key value entries)
  | .cache => do
    let key ← Action.ofExcept (Desk.key? index)
    Action.change fun desk =>
      ((), { desk with cache := desk.cache.bind (desk.keyAtom key) (holdingOf value) })
  | other => throw (.notAssignable other.typeName)

/-- Puts values at the places of a list, as far as there are both. -/
def placeAll (places : List Nat) (values items : List Value) : List Value :=
  (places.zip values).foldl (fun items (place, value) => items.set place value) items

/-- A list with a part replaced by values. A part without gaps may change its length. -/
def replacePart (bounds : Bounds) (values items : List Value) : Except Trouble (List Value) :=
  if bounds.step = 1 then
    let start := (bounds.lower.map (positionIn items.length)).getD 0
    let upTo := (bounds.upper.map (positionIn items.length)).getD items.length
    .ok (items.take start ++ values ++ items.drop (max start upTo))
  else
    let places := steppedSlice bounds.lower bounds.upper bounds.step (List.range items.length)
    if places.length = values.length then .ok (placeAll places values items)
    else .error (.partSize values.length places.length)

/-- Puts the elements of a value in the place of a part of a container. -/
def assignPart {κ : Type} (container lower upper step value : Value) : Action κ Unit := do
  match container with
  | .list place =>
    let bounds ← Action.ofExcept (boundsOf lower upper step)
    let values ← Action.examine fun desk =>
      (elements desk value).mapError fun _ => .partSource (bounds.step != 1)
    let items ← Action.inspect fun desk => desk.items place
    Action.setItems place (← Action.ofExcept (replacePart bounds values items))
  | .object _ => throw (.unhashable "slice")
  | .cache => throw (.unhashable "slice")
  | other => throw (.notAssignable other.typeName)

end IssueBoard.Script
