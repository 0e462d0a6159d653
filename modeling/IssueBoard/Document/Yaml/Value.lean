import IssueBoard.Document.Yaml.Node
import IssueBoard.Document.Yaml.Scalar

/-!
# Values of nodes

The plain data that a document stands for. Scalars have their values at once. What lists and objects
hold is found level by level: the outermost first, then those inside of it in the order in which
they were met, so of several faults the one on the outer level counts. Of two entries with one key
the later counts, at the place of the earlier. The entries of a merge key come before all others, so
they never win; of several objects that are merged the first wins.
-/

namespace IssueBoard.Yaml

/-! ## Merged entries -/

namespace Graph

/-- The kind of the node at a place. -/
def tag (graph : Graph) (place : Nat) : Tag := (graph.node place).tag

/-- The number of merge keys that stand in objects. -/
def merges (graph : Graph) : Nat :=
  graph.nodes.foldl (fun count node =>
    match node with
    | .entries _ entries => count + (entries.filter fun (key, _) => graph.tag key == .merge).length
    | _ => count) 0

/-- The entries of the object at a place. -/
def entriesAt (graph : Graph) (place : Nat) : List (Nat × Nat) :=
  match graph.node place with
  | .entries _ entries => entries
  | _ => []

/-- Replaces the entries of the object at a place. -/
def putEntries (graph : Graph) (place : Nat) (entries : List (Nat × Nat)) : Graph :=
  graph.put place (.entries (graph.tag place) entries)

/-- Whether the node at a place is an object. -/
def isObject (graph : Graph) (place : Nat) : Bool :=
  match graph.node place with
  | .entries .. => true
  | _ => false

/-- Makes the key of a default value a text like any other. -/
def settleDefault (graph : Graph) (key : Nat) : Graph :=
  match graph.node key with
  | .scalar .default text => graph.put key (.scalar .text text)
  | .items .default items => graph.put key (.items .text items)
  | .entries .default entries => graph.put key (.entries .text entries)
  | _ => graph

end Graph

/-- The graph after `work` has been done for places, one after the other. -/
def forEach (work : Nat → Graph → Reading Graph) : List Nat → Graph → Reading Graph
  | [], graph => .ok graph
  | place :: rest, graph => do forEach work rest (← work place graph)

/-- Replaces the merge keys of the object at a place by the entries that they stand for; `merged`
are those that are known already. Every round takes one merge key away, so there are at most `fuel`
rounds if the graph has fewer merge keys. -/
def settleMerges : (fuel : Nat) → (merged : List (Nat × Nat)) → (place : Nat) → Graph →
    Reading Graph
  | 0, _, _, graph => .ok graph
  | fuel + 1, merged, place, graph =>
    let entries := graph.entriesAt place
    match entries.findIdx? fun (key, _) => graph.tag key == .merge with
    | none =>
      let graph := entries.foldl (fun graph (key, _) => graph.settleDefault key) graph
      .ok (graph.putEntries place (merged ++ entries))
    | some index => do
      let graph := graph.putEntries place (entries.eraseIdx index)
      match (entries[index]?).map (·.2) with
      | none => refuse
      | some source =>
        let sources ← match graph.node source with
          | .entries .. => pure [source]
          | .items _ items => if items.all graph.isObject then pure items else refuse
          | .scalar .. => refuse
        let graph ← forEach (settleMerges fuel []) sources graph
        let found := (sources.reverse.map graph.entriesAt).flatten
        settleMerges fuel (merged ++ found) place graph

/-! ## Contents -/

/-- What is known of the value of a node. The parts of a collection are known by their places. -/
inductive Content where
  | atom (a : Atom)
  | list (items : List Nat)
  | object (entries : List (Atom × Nat))
  | set (members : List Atom)
  | pairs (items : List (Nat × Nat))
  /-- A collection whose parts have not been looked at yet. -/
  | waiting

/-- A document whose values are being found: the contents that are known by their places, and the
collections that wait for a look at their parts, in order. -/
structure Construction where
  graph : Graph
  /-- The number of merge keys in the beginning. -/
  merges : Nat
  contents : Array (Option Content)
  waiting : List Nat := []

namespace Construction

/-- What is known of the value at a place. -/
def content? (c : Construction) (place : Nat) : Option Content := c.contents.getD place none

/-- Notes the value at a place. -/
def note (c : Construction) (place : Nat) (content : Content) : Construction :=
  { c with contents := c.contents.setIfInBounds place (some content) }

end Construction

/-- The text of a scalar, or of the default value of an object. One that lies in itself is not found
within `fuel` steps. -/
def textAt (graph : Graph) : (fuel : Nat) → (place : Nat) → Reading String
  | 0, _ => .error (.fault .endlessText)
  | fuel + 1, place =>
    match graph.node place with
    | .scalar _ text => .ok text
    | .items .. => refuse
    | .entries _ entries =>
      match entries.find? fun (key, _) => graph.tag key == .default with
      | some (_, value) => textAt graph fuel value
      | none => refuse

/-- Whether the values of a kind are collections. -/
def Tag.isCollection : Tag → Bool
  | .list | .object | .set | .pairs => true
  | _ => false

/-- Begins with the value at a place: an atom is found at once, a collection waits. -/
def beginAt (place : Nat) (c : Construction) : Reading Construction :=
  match c.content? place with
  | some _ => .ok c
  | none =>
    let node := c.graph.node place
    if node.tag.isCollection then
      .ok { c.note place .waiting with waiting := c.waiting ++ [place] }
    else if node.tag == .merge || node.tag == .default || node.tag == .unknown then refuse
    else do
      let text ← textAt c.graph (c.graph.nodes.size + 1) place
      match node with
      | .scalar tag _ => return c.note place (.atom (← scalarValue tag text))
      | .items tag _ | .entries tag _ =>
        if tag == .timestamp then .error (.fault .notScalar)
        else return c.note place (.atom (← scalarValue tag text))

/-- Begins with the values at several places. -/
def beginAll : List Nat → Construction → Reading Construction
  | [], c => .ok c
  | place :: rest, c => do beginAll rest (← beginAt place c)

/-- Puts a place under a key: a known key keeps its position. -/
def storePlace (key : Atom) (place : Nat) : List (Atom × Nat) → List (Atom × Nat)
  | [] => [(key, place)]
  | (known, old) :: rest =>
    if known.same key then (known, place) :: rest else (known, old) :: storePlace key place rest

/-- Begins with keys and values, and collects them. Only atoms can be keys. -/
def beginEntries (known : List (Atom × Nat)) :
    List (Nat × Nat) → Construction → Reading (List (Atom × Nat) × Construction)
  | [], c => .ok (known, c)
  | (key, value) :: rest, c => do
    let c ← beginAt key c
    match c.content? key with
    | some (.atom name) =>
      let c ← beginAt value c
      beginEntries (storePlace name value known) rest c
    | _ => refuse

/-- The entries of the object at a place, merged ones included. -/
def openObject (place : Nat) (c : Construction) :
    Reading (List (Atom × Nat) × Construction) :=
  if c.graph.isObject place then do
    let graph ← settleMerges (c.merges + 1) [] place c.graph
    beginEntries [] (graph.entriesAt place) { c with graph }
  else refuse

/-- Begins with the keys and values of objects of one entry each. -/
def beginPairs :
    List Nat → Construction → Reading (List (Nat × Nat) × Construction)
  | [], c => .ok ([], c)
  | place :: rest, c =>
    match c.graph.node place with
    | .entries _ [(key, value)] => do
      let (others, c) ← beginPairs rest (← beginAll [key, value] c)
      return ((key, value) :: others, c)
    | _ => refuse

/-- The members of a set. They have no order of their own; integers are taken in ascending order,
and others as they are written. -/
def inOrder (members : List Atom) : List Atom :=
  let integers := members.filterMap fun member =>
    match member with
    | .integer n => some n
    | _ => none
  if integers.length = members.length then
    (integers.mergeSort fun m n => decide (m ≤ n)).map .integer
  else members

/-- Looks at the parts of the collection at a place. -/
def openAt (place : Nat) (c : Construction) : Reading Construction :=
  match c.graph.node place with
  | .items .list items => do return (← beginAll items c).note place (.list items)
  | .items .pairs items => do
    let (pairs, c) ← beginPairs items c
    return c.note place (.pairs pairs)
  | .entries .object _ => do
    let (entries, c) ← openObject place c
    return c.note place (.object entries)
  | .entries .set _ => do
    let (entries, c) ← openObject place c
    return c.note place (.set (inOrder (entries.map (·.1))))
  | _ => refuse

/-- Looks at waiting collections until there are none. Each waits once, so there are at most as many
steps as nodes. -/
def openAll : (fuel : Nat) → Construction → Reading Construction
  | 0, c => .ok c
  | fuel + 1, c =>
    match c.waiting with
    | [] => .ok c
    | place :: rest => do openAll fuel (← openAt place { c with waiting := rest })

/-! ## Data -/

/-- How often a node may stand inside of itself before the rest is left out. -/
def nestingLimit : Nat := 5

/-- The data at a place. `around` are the places that hold it. A node that holds itself is followed
only some way down, and then known by its kind; `fuel` bounds how deep nodes are nested. -/
def dataAt (contents : Array (Option Content)) :
    (fuel : Nat) → (around : List Nat) → (place : Nat) → Data
  | 0, _, _ => .null
  | fuel + 1, around, place =>
    let within := dataAt contents fuel (place :: around)
    let isDeep := nestingLimit ≤ around.count place
    match contents.getD place none with
    | some (.atom a) => .atom a
    | some (.set members) => .set members
    | some (.list items) =>
      if isDeep then .atom (.foreign "list" "[...]" "[...]") else .list (items.map within)
    | some (.pairs pairs) =>
      if isDeep then .atom (.foreign "list" "[...]" "[...]")
      else .list (pairs.map fun (key, value) => .list [within key, within value])
    | some (.object entries) =>
      if isDeep then .atom (.foreign "dict" "\x7b...\x7d" "\x7b...\x7d")
      else .object (entries.map fun (key, value) => (key, within value))
    | _ => .null

/-- The data of a document. -/
def documentData (root : Nat) (graph : Graph) : Reading Data := do
  let size := graph.nodes.size
  let start ← beginAt root
    { graph, merges := graph.merges, contents := Array.replicate size none }
  let done ← openAll (size + 1) start
  return dataAt done.contents (nestingLimit * size + 2) [] root

/-- Reads a text as a YAML document. A text without content stands for the absent value. -/
def read (source : String) : Reading Data := do
  match ← document? (← tokens source) with
  | some (root, graph) => documentData root graph
  | none => return .null

end IssueBoard.Yaml
