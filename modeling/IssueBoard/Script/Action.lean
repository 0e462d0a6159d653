import IssueBoard.Script.Store

/-!
# Steps of running scripts

A step of a running script reads and changes the session and the values of names, and gives a result
or trouble. What it has changed before the trouble stays changed.
-/

namespace IssueBoard.Script

/-- What a running function body changes: the session, and the values of its names. -/
structure Frame (κ : Type) where
  desk : Desk κ
  names : List (String × Value) := []

/-- A step of a running script. -/
abbrev Action (κ α : Type) := ExceptT Trouble (StateM (Frame κ)) α

namespace Action

variable {κ α : Type}

/-- A step as a function on frames. -/
def ofFunction (step : Frame κ → Except Trouble α × Frame κ) : Action κ α := step

/-- Reads the session. -/
def inspect (look : Desk κ → α) : Action κ α := ofFunction fun frame =>
  (.ok (look frame.desk), frame)

/-- Reads the session; the reading may fail. -/
def examine (look : Desk κ → Except Trouble α) : Action κ α := ofFunction fun frame =>
  (look frame.desk, frame)

/-- Changes the session. -/
def change (step : Desk κ → α × Desk κ) : Action κ α := ofFunction fun frame =>
  let (result, desk) := step frame.desk
  (.ok result, { frame with desk })

/-- Makes a new list. -/
def newList (items : List Value) : Action κ Value := change fun desk =>
  let (cell, desk) := desk.add (.list items)
  (.list (.cell cell), desk)

/-- Makes a new object. -/
def newObject (entries : List (Value × Value)) : Action κ Value := change fun desk =>
  let (cell, desk) := desk.add (.object entries)
  (.object cell, desk)

/-- Replaces the items of a list. -/
def setItems (place : ListPlace) (items : List Value) : Action κ Unit := change fun desk =>
  ((), desk.setItems place items)

/-- Replaces the entries of an object. -/
def setEntries (cell : Nat) (entries : List (Value × Value)) : Action κ Unit := change fun desk =>
  ((), desk.setCell cell (.object entries))

/-- A number as a value. A not-a-number is a new one. -/
def newNumber : Number → Action κ Value
  | .integer n => return .integer n
  | .real x => if x.isNaN then change Desk.addNaN else return .real x

/-- A result that may be trouble. -/
def ofExcept (result : Except Trouble α) : Action κ α := examine fun _ => result

end Action

end IssueBoard.Script
