import IssueBoard.Number.Basic

/-!
# Plain data

Values as documents hold them, as scripts show them and as answers print them: atoms, lists, objects
in the order of their keys, sets, and records of a named kind.
-/

namespace IssueBoard

/-- A value without parts. A foreign atom is known only by its kind, its text and its literal
form. -/
inductive Atom where
  | null
  | flag (b : Bool)
  | integer (n : Int)
  | real (x : Binary64)
  | text (s : String)
  | bytes (content : List UInt8)
  | foreign (kind text literal : String)
  deriving DecidableEq

namespace Atom

instance : Inhabited Atom := ⟨.null⟩

/-- The number that an atom counts as: numbers themselves, and flags as one and zero. -/
def number? : Atom → Option Number
  | .flag b => some (.integer (if b then 1 else 0))
  | .integer n => some (.integer n)
  | .real x => some (.real x)
  | _ => none

/-- Whether an atom is a not-a-number. -/
def isNaN : Atom → Bool
  | .real x => x.isNaN
  | _ => false

/-- Whether two atoms are equal; atoms that count as numbers are compared by value. -/
def same (a b : Atom) : Bool :=
  match a.number?, b.number? with
  | some x, some y => x.sameValue y
  | none, none => a == b
  | _, _ => false

end Atom

/-- The number of values that may stand inside one another where values are read, shown or
compared. -/
def nestingLimit : Nat := 980

/-- A tree of plain data. -/
inductive Data where
  | atom (a : Atom)
  | list (items : List Data)
  | object (entries : List (Atom × Data))
  /-- Different atoms without an order of their own. -/
  | set (members : List Atom)
  | record (kind : String) (fields : List (String × Data))

namespace Data

instance : Inhabited Data := ⟨.atom .null⟩

/-- The absent value. -/
@[match_pattern] abbrev null : Data := .atom .null

/-- A truth value. -/
@[match_pattern] abbrev flag (b : Bool) : Data := .atom (.flag b)

/-- An integer. -/
@[match_pattern] abbrev integer (n : Int) : Data := .atom (.integer n)

/-- A floating-point number. -/
@[match_pattern] abbrev real (x : Binary64) : Data := .atom (.real x)

/-- A text. -/
@[match_pattern] abbrev text (s : String) : Data := .atom (.text s)

/-- An object whose keys are texts. -/
def ofFields (fields : List (String × Data)) : Data :=
  .object (fields.map fun (name, value) => (.text name, value))

/-- Whether a value is the absent one. -/
def isNull : Data → Bool
  | .null => true
  | _ => false

/-- A number as data. -/
def ofNumber : Number → Data
  | .integer n => .integer n
  | .real x => .real x

/-- The number that a value is; a flag is none. -/
def number? : Data → Option Number
  | .integer n => some (.integer n)
  | .real x => some (.real x)
  | _ => none

/-- The text that a value is. -/
def text? : Data → Option String
  | .text s => some s
  | _ => none

/-- The kind of a value that can change, which is no key of anything. -/
def changeable? : Data → Option String
  | .list _ => some "list"
  | .object _ => some "dict"
  | .set _ => some "set"
  | .record kind _ => some kind
  | .atom _ => none

/-- What a list or a set holds. -/
def items? : Data → Option (List Data)
  | .list items => some items
  | .set members => some (members.map .atom)
  | _ => none

/-- The value stored under a key. -/
def lookup? (key : Atom) (entries : List (Atom × Data)) : Option Data :=
  (entries.find? fun entry => entry.1.same key).map (·.2)

/-- Whether a value is there: it is neither absent, false, zero nor empty. -/
def isTrue : Data → Bool
  | .null => false
  | .flag b => b
  | .integer n => n != 0
  | .real x => !x.isZero
  | .text s => !s.isEmpty
  | .atom (.bytes content) => !content.isEmpty
  | .atom (.foreign ..) => true
  | .list items => !items.isEmpty
  | .object entries => !entries.isEmpty
  | .set members => !members.isEmpty
  | .record .. => true

/-- The value of an object's field, if the value is an object that has the field. -/
def field? (name : String) : Data → Option Data
  | .object entries => lookup? (.text name) entries
  | _ => none

/-- Stores a value under a key: a known key keeps its place, a new one goes to the end. -/
def store (key : Atom) (value : Data) : List (Atom × Data) → List (Atom × Data)
  | [] => [(key, value)]
  | (known, old) :: rest =>
    if known.same key then (known, value) :: rest else (known, old) :: store key value rest

end Data

end IssueBoard
