import IssueBoard.Evaluation.World
import IssueBoard.Script.Tree
import IssueBoard.Script.Trouble
import IssueBoard.Script.Value
import IssueBoard.Text.Search

/-!
# The store of running scripts

Lists, objects, pages and pending searches live in a store that lasts as long as the evaluation of a
dashboard. The items that are fetched for a query live in the query cache and are lists as well.
This module reads and changes places, shows values as data and compares them.
-/

namespace IssueBoard.Script

/-- The state of the default host: the store, the data that scripts share, and the server. -/
structure Machine (κ : Type) where
  store : Array Cell := #[]
  userdata : Value := .null
  server : κ

/-- The session of the default host. -/
abbrev Desk (κ : Type) := Session (Machine κ) Value

namespace Desk

variable {κ : Type}

/-- What a place of the store holds. -/
def cell? (desk : Desk κ) (cell : Nat) : Option Cell := desk.state.store[cell]?

/-- The items of a list. -/
def items (desk : Desk κ) : ListPlace → List Value
  | .cell cell =>
    match desk.cell? cell with
    | some (.list items) => items
    | _ => []
  | .entryItems slot => (desk.cache.entries[slot]?).elim [] (·.items)

/-- The entries of an object. -/
def entries (desk : Desk κ) (cell : Nat) : List (Value × Value) :=
  match desk.cell? cell with
  | some (.object entries) => entries
  | _ => []

/-- The attributes of a page of search results. -/
def pageAttributes (desk : Desk κ) (cell : Nat) : List (String × Value) :=
  match desk.cell? cell with
  | some (.page attributes) => attributes
  | _ => []

/-- Puts something into a place of the store. -/
def setCell (desk : Desk κ) (cell : Nat) (content : Cell) : Desk κ :=
  { desk with state := { desk.state with store := desk.state.store.setIfInBounds cell content } }

/-- Replaces the items of a list. -/
def setItems (desk : Desk κ) (place : ListPlace) (items : List Value) : Desk κ :=
  match place with
  | .cell cell => desk.setCell cell (.list items)
  | .entryItems slot =>
    match desk.cache.entries[slot]? with
    | some entry => { desk with cache := desk.cache.replace slot { entry with items } }
    | none => desk

/-- Takes a new place of the store into use. -/
def add (desk : Desk κ) (content : Cell) : Nat × Desk κ :=
  (desk.state.store.size,
    { desk with state := { desk.state with store := desk.state.store.push content } })

/-- A not-a-number of its own. -/
def addNaN (desk : Desk κ) : Value × Desk κ :=
  let (place, desk) := desk.add .mark
  (.nan place, desk)

end Desk

/-- Puts an atom into a store. -/
def loadAtom (store : Array Cell) (a : Atom) : Value × Array Cell :=
  if a.isNaN then (.nan store.size, store.push .mark) else (.atom a, store)

/-- Puts atoms into a store. -/
def loadAtoms (store : Array Cell) : List Atom → List Value × Array Cell
  | [] => ([], store)
  | a :: rest =>
    let (value, store) := loadAtom store a
    let (values, store) := loadAtoms store rest
    (value :: values, store)

section Loading

mutual

/-- Puts data into a store; every list, every object and every not-a-number gets a place of its
own. -/
def load (store : Array Cell) : Data → Value × Array Cell
  | .atom a => loadAtom store a
  | .list items =>
    let (values, store) := loadItems store items
    (.list (.cell store.size), store.push (.list values))
  | .object entries =>
    let (values, store) := loadEntries store entries
    (.object store.size, store.push (.object values))
  | .set members =>
    let (values, store) := loadAtoms store members
    (.list (.cell store.size), store.push (.list values))
  | .record kind _ => (.atom (.foreign kind kind kind), store)

/-- Puts the items of a list into a store. -/
def loadItems (store : Array Cell) : List Data → List Value × Array Cell
  | [] => ([], store)
  | item :: rest =>
    let (value, store) := load store item
    let (values, store) := loadItems store rest
    (value :: values, store)

/-- Puts the entries of an object into a store. -/
def loadEntries (store : Array Cell) : List (Atom × Data) → List (Value × Value) × Array Cell
  | [] => ([], store)
  | (key, item) :: rest =>
    let (key, store) := loadAtom store key
    let (value, store) := load store item
    let (values, store) := loadEntries store rest
    ((key, value) :: values, store)

end

end Loading

namespace Desk

variable {κ : Type}

/-- Puts data into the store. -/
def load (desk : Desk κ) (data : Data) : Value × Desk κ :=
  let (value, store) := Script.load desk.state.store data
  (value, { desk with state := { desk.state with store } })

/-! ## Entries of the query cache -/

/-- The total of a query as a value. -/
def totalValue (total : Total) : Value :=
  match total.toData with
  | .atom a => .atom a
  | _ => .null

/-- The attributes that make up an entry of the query cache. -/
def entryFields : List String := ["query", "total_count", "items", "pages_fetched", "exhausted"]

/-- An attribute of an entry of the query cache: what a script has set, or else what the cache
knows. -/
def entryAttribute? (desk : Desk κ) (slot : Nat) (name : String) : Option Value := do
  let entry ← desk.cache.entries[slot]?
  match entry.settings.lookup name with
  | some value => return value
  | none =>
    if name == "query" then return .text entry.query
    else if name == "total_count" then return totalValue entry.total
    else if name == "items" then return .list (.entryItems slot)
    else if name == "pages_fetched" then return .integer entry.pagesFetched
    else if name == "exhausted" then return .flag entry.exhausted
    else none

/-- The attributes that make up a page of search results. -/
def pageFields : List String := ["total_count", "items"]

/-- What a name of the query cache stands for, as a value. -/
def heldValue : Holding Value → Value
  | .entry slot => .entry slot
  | .other value _ => value

/-- The entries of a value that is an object or the query cache. -/
def entries? (desk : Desk κ) : Value → Option (List (Value × Value))
  | .object cell => some (desk.entries cell)
  | .cache => some (desk.cache.names.map fun (name, held) => (.atom name, heldValue held))
  | _ => none

/-! ## Values as data -/

/-- A value that is shown only by its kind and a text. -/
def shown (value : Value) (text : String) : Data := .atom (.foreign value.typeName text text)

/-- An error as data, with its text and its arguments. If these cannot be written, it is made up of them. -/
def shownError (kind : Builtin) (arguments : List Data) : Data :=
  match errorText (kind == .keyError) arguments, arguments.mapM Data.literal with
  | .ok text, .ok literals =>
    .atom (.foreign kind.name text (kind.name ++ "(" ++ ", ".intercalate literals ++ ")"))
  | _, _ => .record kind.name (arguments.map fun value => ("", value))

/-- A range as data, with its bounds. If these cannot be written, it is made up of them. -/
def shownRange (start stop step : Int) : Data :=
  let bounds := if step = 1 then [start, stop] else [start, stop, step]
  match bounds.mapM integerText with
  | .ok texts =>
    let text := "range(" ++ ", ".intercalate texts ++ ")"
    .atom (.foreign "range" text text)
  | .error _ => .record "range" (bounds.map fun bound => ("", .integer bound))

/-- A value as data. `within` are the places that hold the value, so a list inside itself ends
there; `depth` bounds how deep values are nested. -/
def viewIn (desk : Desk κ) : (depth : Nat) → (within : List Nat) → Value → Data
  | 0, _, value => shown value "..."
  | depth + 1, within, value =>
    let entriesIn := fun (within : List Nat) (entries : List (Value × Value)) =>
      Data.object (entries.map fun (key, item) =>
        let name := match viewIn desk depth within key with
          | .atom a => a
          | _ => .foreign key.typeName "..." "..."
        (name, viewIn desk depth within item))
    match value with
    | .atom a => .atom a
    | .nan _ => .real .nan
    | .complex z => shown value z.text
    | .list (.cell cell) =>
      if within.contains cell then shown value "[...]"
      else .list ((desk.items (.cell cell)).map (viewIn desk depth (cell :: within)))
    | .list place => .list ((desk.items place).map (viewIn desk depth within))
    | .object cell =>
      if within.contains cell then shown value "\x7b...\x7d"
      else entriesIn (cell :: within) (desk.entries cell)
    | .cache => entriesIn within ((desk.entries? value).getD [])
    | .range start stop step => shownRange start stop step
    | .entry slot => .record "QueryCacheEntry" (entryFields.map fun name =>
        (name, viewIn desk depth within ((desk.entryAttribute? slot name).getD .null)))
    | .page cell => .record "SearchPage" (pageFields.map fun name =>
        (name, viewIn desk depth within (((desk.pageAttributes cell).lookup name).getD .null)))
    | .error _ kind arguments => shownError kind (arguments.map (viewIn desk depth within))
    | .builtin function =>
      shown value (if function.isType then "<class '" ++ function.name ++ "'>"
        else "<built-in function " ++ function.name ++ ">")
    | .unbound method => shown value ("<method '" ++ method.name ++ "' of 'str' objects>")
    | value => shown value ("<" ++ value.typeName ++ ">")

/-- A bound on how deep values can be nested before one holds itself. -/
def depth (desk : Desk κ) : Nat := 2 * (desk.state.store.size + desk.cache.entries.length) + 4

/-- A value as data. -/
def view (desk : Desk κ) (value : Value) : Data := desk.viewIn desk.depth [] value

/-- A value as text: a text is itself, anything else is shown. -/
def toText (desk : Desk κ) (value : Value) : Except Trouble String :=
  (desk.view value).toText.mapError .fault

/-- A value in its literal form. -/
def literal (desk : Desk κ) (value : Value) : Except Trouble String :=
  (desk.view value).literal.mapError .fault

/-! ## Sizes -/

/-- The number of integers in a range. -/
def rangeSize (start stop step : Int) : Nat :=
  if 0 < step then ((stop - start + step - 1) / step).toNat
  else if step < 0 then ((start - stop - step - 1) / -step).toNat
  else 0

/-- The number of things in a value, if it has a size. -/
def size? (desk : Desk κ) : Value → Option Nat
  | .text s => some s.length
  | .list place => some (desk.items place).length
  | .range start stop step => some (rangeSize start stop step)
  | .atom emptyBrackets => some 0
  | value => (desk.entries? value).map List.length

/-- Whether a value counts as true. -/
def isTrue (desk : Desk κ) : Value → Bool
  | .null => false
  | .flag b => b
  | .integer n => n != 0
  | .real x => !x.isZero
  | .complex z => !z.isZero
  | value =>
    match desk.size? value with
    | some size => size != 0
    | none => true

end Desk

/-! ## Equality -/

/-- Whether two values are one: the same atom, or the same place. -/
def isOne : Value → Value → Bool
  | .atom a, .atom b => a == b
  | .nan p, .nan q => p == q
  | .error p .., .error q .. => p == q
  | .complex z, .complex w => z == w
  | .range a b c, .range a' b' c' => a == a' && b == b' && c == c'
  | .list p, .list q => p == q
  | .object p, .object q => p == q
  | .builtin f, .builtin g => f == g
  | .helper f, .helper g => f == g
  | .method owner m, .method owner' m' => m == m' && isOne owner owner'
  | .unbound m, .unbound m' => m == m'
  | .server _, .server _ => true
  | .search, .search => true
  | .cache, .cache => true
  | .entry i, .entry j => i == j
  | .page i, .page j => i == j
  | .pending i, .pending j => i == j
  | _, _ => false

/-- Whether a complex number and an atom have the same value. -/
def isRealPart (z : ComplexNumber) (a : Atom) : Bool :=
  z.im.isZero && a.number?.any fun n => n.sameValue (.real z.re)

/-- Whether two values that hold no others are equal. A not-a-number equals nothing. -/
def equalLeaves (x y : Value) : Bool :=
  match x, y with
  | .nan _, _ => false
  | .atom a, .atom b => a.same b
  | .complex z, .complex w => z.sameValue w
  | .complex z, .atom a => isRealPart z a
  | .atom a, .complex z => isRealPart z a
  | .range a b c, .range a' b' c' =>
    let size := Desk.rangeSize a b c
    size == Desk.rangeSize a' b' c' && (size == 0 || (a == a' && (size == 1 || c == c')))
  | x, y => isOne x y

/-- Whether two values are the same key of an object. -/
def sameKey (x y : Value) : Bool := isOne x y || equalLeaves x y

/-- Stores a value under a key: a known key keeps its place, a new one goes to the end. -/
def assignKey (key value : Value) : List (Value × Value) → List (Value × Value)
  | [] => [(key, value)]
  | (known, old) :: rest =>
    if sameKey known key then (known, value) :: rest else (known, old) :: assignKey key value rest

/-- The value stored under a key. -/
def lookupKey? (key : Value) (entries : List (Value × Value)) : Option Value :=
  (entries.find? fun entry => sameKey entry.1 key).map (·.2)

/-- Whether a test holds for the values of two lists, pair by pair. -/
def allPairs (test : Value → Value → Except Trouble Bool) :
    List Value → List Value → Except Trouble Bool
  | x :: xs, y :: ys => do if ← test x y then allPairs test xs ys else return false
  | [], [] => .ok true
  | _, _ => .ok false

/-- Whether the keys of a list of entries are found among others, with values that pass a test. -/
def allEntries (test : Value → Value → Except Trouble Bool) (others : List (Value × Value)) :
    List (Value × Value) → Except Trouble Bool
  | [] => .ok true
  | (key, x) :: rest =>
    match lookupKey? key others with
    | none => .ok false
    | some y => do if ← test x y then allEntries test others rest else return false

/-- The first two values of a pair of lists that a test tells apart. -/
def firstDifference? (test : Value → Value → Except Trouble Bool) :
    List Value → List Value → Except Trouble (Option (Value × Value))
  | x :: xs, y :: ys => do if ← test x y then firstDifference? test xs ys else return some (x, y)
  | _, _ => .ok none

namespace Desk

variable {κ : Type}

/-- Whether two values are equal; lists, objects, pages and entries of the cache are compared by
what they hold. A value that is one with another is taken for equal to it inside of them. -/
def sameIn (desk : Desk κ) : (depth : Nat) → Value → Value → Except Trouble Bool
  | 0, _, _ => .error .comparisonTooDeep
  | depth + 1, left, right =>
    let within := fun x y => if isOne x y then .ok true else sameIn desk depth x y
    match left, right with
    | .list p, .list q =>
      let xs := desk.items p
      let ys := desk.items q
      if xs.length = ys.length then allPairs within xs ys else .ok false
    | .entry i, .entry j =>
      let fields := fun slot => entryFields.map fun name =>
        (desk.entryAttribute? slot name).getD .null
      allPairs within (fields i) (fields j)
    | .page i, .page j =>
      let fields := fun cell => pageFields.map fun name =>
        ((desk.pageAttributes cell).lookup name).getD .null
      allPairs within (fields i) (fields j)
    | left, right =>
      match desk.entries? left, desk.entries? right with
      | some xs, some ys => if xs.length = ys.length then allEntries within ys xs else .ok false
      | _, _ => .ok (equalLeaves left right)

/-- A bound on how deep comparisons go. -/
def comparisonDepth (desk : Desk κ) : Nat := min desk.depth nestingLimit

/-- Whether two values are equal. -/
def same (desk : Desk κ) (left right : Value) : Except Trouble Bool :=
  desk.sameIn desk.comparisonDepth left right

/-- Whether two values are one, or equal. -/
def matching (desk : Desk κ) (left right : Value) : Except Trouble Bool :=
  if isOne left right then .ok true else desk.same left right

/-- Whether two values satisfy a comparison by order. Numbers are compared by value, texts by their
characters, and lists by the first items that differ. -/
def ordered (desk : Desk κ) (op : Comparison) :
    (depth : Nat) → Value → Value → Except Trouble Bool
  | 0, _, _ => .error .comparisonTooDeep
  | depth + 1, left, right =>
    match left, right with
    | .text a, .text b => .ok (op.accepts (compare a b))
    | .atom emptyBrackets, .atom emptyBrackets => .ok (op.accepts .eq)
    | .list p, .list q => do
      let xs := desk.items p
      let ys := desk.items q
      match ← firstDifference? desk.matching xs ys with
      | some (x, y) => ordered desk op depth x y
      | none => return op.accepts (compare xs.length ys.length)
    | left, right =>
      match left.number?, right.number? with
      | some x, some y => .ok ((x.compare? y).any op.accepts)
      | _, _ => .error (.incomparable op.spelling left.typeName right.typeName)

/-! ## Containers -/

/-- A value as the key of an object. What can change has no place among keys. -/
def key? : Value → Except Trouble Value
  | .list place => .error (.unhashable (Value.list place).typeName)
  | .object cell => .error (.unhashable (Value.object cell).typeName)
  | .cache => .error (.unhashable Value.cache.typeName)
  | .entry slot => .error (.unhashable (Value.entry slot).typeName)
  | .page cell => .error (.unhashable (Value.page cell).typeName)
  | value => .ok value

/-- A key of the query cache as an atom. -/
def keyAtom (desk : Desk κ) (key : Value) : Atom :=
  match desk.view key with
  | .atom a => a
  | _ => .foreign key.typeName "" ""

/-- Whether a value is among others. -/
def among (desk : Desk κ) (value : Value) : List Value → Except Trouble Bool
  | [] => .ok false
  | other :: rest => do
    if ← desk.matching other value then return true else desk.among value rest

/-- Whether a range holds an integer. -/
def rangeHolds (start stop step n : Int) : Bool :=
  if 0 < step then start ≤ n && n < stop && (n - start) % step == 0
  else stop < n && n ≤ start && (start - n) % -step == 0

/-- Whether a range holds a value. -/
def inRange (start stop step : Int) : Value → Bool
  | .atom a =>
    match a.number? with
    | some (.integer n) => rangeHolds start stop step n
    | some (.real x) => x.isIntegral && rangeHolds start stop step x.toRat.num
    | none => false
  | .complex z => z.im.isZero && z.re.isIntegral && rangeHolds start stop step z.re.toRat.num
  | _ => false

/-- Whether a value is in a container. -/
def contains (desk : Desk κ) (container value : Value) : Except Trouble Bool :=
  match container with
  | .text s =>
    match value with
    | .text part => .ok (Text.occursIn part.toList s.toList)
    | other => .error (.textMember other.typeName)
  | .list place => desk.among value (desk.items place)
  | .range start stop step => .ok (inRange start stop step value)
  | .atom emptyBrackets => .ok false
  | other =>
    match desk.entries? other with
    | some entries => do return (lookupKey? (← key? value) entries).isSome
    | none => .error (.notContainer other.typeName)

end Desk

end IssueBoard.Script
