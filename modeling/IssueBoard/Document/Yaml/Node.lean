import IssueBoard.Document.Yaml.Outline
import IssueBoard.Document.Yaml.Tag

/-!
# Nodes

The structure of a document: scalars, lists and objects of nodes, each of a kind. Every node has a
place in the graph of the document, and lists and objects hold the places of the nodes that they are
made of. An alias stands for the place that bears the anchor of its name, so a node may stand at
several points, and even inside of itself. No anchor is given twice.
-/

namespace IssueBoard.Yaml

/-- A node. -/
inductive Node where
  | scalar (tag : Tag) (text : String)
  | items (tag : Tag) (items : List Nat)
  | entries (tag : Tag) (entries : List (Nat × Nat))

namespace Node

/-- The kind of a node. -/
def tag : Node → Tag
  | .scalar tag _ | .items tag _ | .entries tag _ => tag

/-- The node that stands where nothing is written. -/
def empty : Node := .scalar .null ""

end Node

/-- The nodes of a document, and the places that bear anchors, the last one first. -/
structure Graph where
  nodes : Array Node := #[]
  anchors : List (String × Nat) := []

namespace Graph

/-- The node at a place. -/
def node (graph : Graph) (place : Nat) : Node := graph.nodes.getD place .empty

/-- Takes a new place for a node into use; it may bear an anchor. -/
def add (graph : Graph) (anchor : Option String) (node : Node) : Nat × Graph :=
  let place := graph.nodes.size
  (place, { nodes := graph.nodes.push node,
            anchors := (anchor.map fun name => (name, place)).toList ++ graph.anchors })

/-- Puts another node at a place. -/
def put (graph : Graph) (place : Nat) (node : Node) : Graph :=
  { graph with nodes := graph.nodes.setIfInBounds place node }

end Graph

/-- The beginnings of tags that handles abbreviate. -/
abbrev Handles := List (String × String)

/-- The handles that every document has. -/
def defaultHandles : Handles := [("!", "!"), ("!!", Tag.commonStart)]

/-- What is written before a node. -/
structure Properties where
  anchor : Option String := none
  tag : Option TagText := none

/-- Takes a token off, if it stands here. -/
def take? (token : Token) : (ts : List Token) → Option (Shorter ts)
  | [] => none
  | first :: rest => if first == token then some ⟨rest, by simp⟩ else none

/-- Whether one of the given tokens stands here. -/
def standsHere (tokens : List Token) (ts : List Token) : Bool := ts.head?.any tokens.contains

/-- Takes an anchor off, if one stands here. -/
def takeAnchor : (ts : List Token) → Option String × Rest ts
  | .anchor name :: rest => (some name, ⟨rest, by simp⟩)
  | ts => (none, .all ts)

/-- Takes a tag off, if one stands here. -/
def takeTag : (ts : List Token) → Option TagText × Rest ts
  | .tag tag :: rest => (some tag, ⟨rest, by simp⟩)
  | ts => (none, .all ts)

/-- Takes an anchor and a tag off, in either order. -/
def takeProperties (ts : List Token) : Properties × Rest ts :=
  match takeAnchor ts with
  | (some anchor, rest) =>
    let (tag, after) := takeTag rest.1
    ({ anchor, tag }, after.trans rest.2)
  | (none, rest) =>
    let (tag, after) := takeTag rest.1
    let (anchor, last) := if tag.isSome then takeAnchor after.1 else (none, .all _)
    ({ anchor, tag }, (last.trans after.2).trans rest.2)

/-- The kind that a tag names; a lone exclamation mark names none. -/
def kindOf (handles : Handles) : Option TagText → Reading (Option Tag)
  | none => .ok none
  | some tag => do
    let start ← match tag.handle with
      | none => pure ""
      | some handle =>
        match handles.lookup handle with
        | some start => pure start
        | none => refuse
    let name := start ++ tag.suffix
    return if name == "!" then none else some (.ofName name)

/-- Takes a scalar off, if one stands here. Its text implies its kind if it is plain and bears no
tag, or if its tag names no kind. -/
def takeScalar (tagged : Bool) (kind : Option Tag) : (ts : List Token) → Option Node × Rest ts
  | .scalar isPlain text :: rest =>
    let tag := kind.getD (if isPlain || tagged then .implied text else .text)
    (some (.scalar tag text), ⟨rest, by simp⟩)
  | ts => (none, .all ts)

/-- How the items of a list or the entries of an object are laid out. -/
inductive Layout where
  | flowItems
  | flowEntries
  | blockItems
  | blockEntries
  /-- Items without an indentation of their own, behind the first dash. -/
  | indentless
  deriving DecidableEq

/-- Takes off what opens a list or an object. -/
def takeOpening (inBlock indentless : Bool) : (ts : List Token) → Option (Layout × Shorter ts)
  | [] => none
  | first :: rest =>
    let layout? : Option Layout := match first with
      | .openBracket => some .flowItems
      | .openBrace => some .flowEntries
      | .openItems => if inBlock then some .blockItems else none
      | .openEntries => if inBlock then some .blockEntries else none
      | .dash => if indentless then some .indentless else none
      | _ => none
    layout?.map fun layout => (layout, ⟨rest, by simp⟩)

/-- The number of lists and objects that may stand inside one another. -/
def deepestNode : Nat := 486

/-- What holds where a node stands. -/
structure Setting where
  handles : Handles
  /-- The number of lists and objects that may be opened here, one inside the other. -/
  levels : Nat := deepestNode

mutual

/-- Reads a node. Blocks are nodes only where `inBlock` is set, and the items of a list need no
indentation of their own where `indentless` is set. -/
def node (setting : Setting) (inBlock indentless : Bool) (graph : Graph) (ts : List Token) :
    Reading ((Nat × Graph) × Shorter ts) :=
  match ts with
  | [] => refuse
  | .alias name :: rest =>
    match graph.anchors.lookup name with
    | some place => .ok ((place, graph), ⟨rest, by simp⟩)
    | none => refuse
  | first :: others => do
    let (properties, ⟨rest, shorter⟩) := takeProperties (first :: others)
    let kind ← kindOf setting.handles properties.tag
    if properties.anchor.any fun name => (graph.anchors.lookup name).isSome then refuse
    else
      match takeOpening inBlock indentless rest with
      | some (layout, ⟨inner, _⟩) =>
        let (found, ⟨after, _⟩) ← collection setting layout kind properties.anchor graph inner
        return (found, ⟨after, by omega⟩)
      | none =>
        let (found, ⟨after, _⟩) := takeScalar properties.tag.isSome kind rest
        let node := found.getD (.scalar (kind.getD .null) "")
        if taken : after.length < (first :: others).length then
          return (graph.add properties.anchor node, ⟨after, taken⟩)
        else refuse
termination_by 4 * ts.length
decreasing_by simp only [List.length_cons] at *; omega

/-- Reads a list or an object behind its opening. It takes its place before the nodes inside of it,
so these may refer to it. -/
def collection (setting : Setting) (layout : Layout) (kind : Option Tag) (anchor : Option String)
    (graph : Graph) (ts : List Token) : Reading ((Nat × Graph) × Rest ts) := do
  if setting.levels = 0 then throw (.fault .nestedTooDeep)
  let setting := { setting with levels := setting.levels - 1 }
  let isList := layout == .flowItems || layout == .blockItems || layout == .indentless
  if isList then
    let tag := kind.getD .list
    let (place, graph) := graph.add anchor (.items tag [])
    let ((found, graph), rest) ←
      if layout == .flowItems then flowItems setting graph ts
      else if layout == .blockItems then blockItems setting graph ts
      else indentlessItems setting graph ts
    return ((place, graph.put place (.items tag found)), rest)
  else
    let tag := kind.getD .object
    let (place, graph) := graph.add anchor (.entries tag [])
    let ((found, graph), rest) ←
      if layout == .flowEntries then flowEntries setting graph ts
      else blockEntries setting graph ts
    return ((place, graph.put place (.entries tag found)), rest)
termination_by 4 * ts.length + 3

/-- Reads a node, or none before one of the tokens in `stops`. -/
def nodeUnless (setting : Setting) (stops : List Token) (inBlock indentless : Bool)
    (graph : Graph) (ts : List Token) : Reading ((Nat × Graph) × Rest ts) :=
  if standsHere stops ts then .ok (graph.add none .empty, .all ts)
  else do
    let (found, ⟨rest, shorter⟩) ← node setting inBlock indentless graph ts
    return (found, ⟨rest, by omega⟩)
termination_by 4 * ts.length + 1

/-- Reads the items of a block, and its end. -/
def blockItems (setting : Setting) (graph : Graph) (ts : List Token) :
    Reading ((List Nat × Graph) × Rest ts) :=
  match take? .dash ts with
  | some ⟨rest, _⟩ => do
    let ((first, graph), ⟨rest, _⟩) ←
      nodeUnless setting [.dash, .closeBlock] true false graph rest
    let ((others, graph), ⟨rest, _⟩) ← blockItems setting graph rest
    return ((first :: others, graph), ⟨rest, by omega⟩)
  | none =>
    match take? .closeBlock ts with
    | some ⟨rest, _⟩ => .ok (([], graph), ⟨rest, by omega⟩)
    | none => refuse
termination_by 4 * ts.length + 2

/-- Reads the items of a list that is not indented, behind the first dash. -/
def indentlessItems (setting : Setting) (graph : Graph) (ts : List Token) :
    Reading ((List Nat × Graph) × Rest ts) := do
  let ((first, graph), ⟨rest, _⟩) ←
    nodeUnless setting [.dash, .key, .colon, .closeBlock] true false graph ts
  match take? .dash rest with
  | some ⟨after, _⟩ =>
    let ((others, graph), ⟨rest, _⟩) ← indentlessItems setting graph after
    return ((first :: others, graph), ⟨rest, by omega⟩)
  | none => return (([first], graph), ⟨rest, by omega⟩)
termination_by 4 * ts.length + 2

/-- Reads the value behind a key, which may be missing. -/
def valueOf (setting : Setting) (stops : List Token) (inBlock : Bool) (graph : Graph)
    (ts : List Token) : Reading ((Nat × Graph) × Rest ts) :=
  match take? .colon ts with
  | some ⟨rest, _⟩ => do
    let (found, ⟨rest, _⟩) ← nodeUnless setting stops inBlock inBlock graph rest
    return (found, ⟨rest, by omega⟩)
  | none => .ok (graph.add none .empty, .all ts)
termination_by 4 * ts.length + 1

/-- Reads the entries of a block, and its end. -/
def blockEntries (setting : Setting) (graph : Graph) (ts : List Token) :
    Reading ((List (Nat × Nat) × Graph) × Rest ts) :=
  match take? .key ts with
  | some ⟨rest, _⟩ => do
    let stops := [.key, .colon, .closeBlock]
    let ((key, graph), ⟨rest, _⟩) ← nodeUnless setting stops true true graph rest
    let ((value, graph), ⟨rest, _⟩) ← valueOf setting stops true graph rest
    let ((others, graph), ⟨rest, _⟩) ← blockEntries setting graph rest
    return (((key, value) :: others, graph), ⟨rest, by omega⟩)
  | none =>
    match take? .closeBlock ts with
    | some ⟨rest, _⟩ => .ok (([], graph), ⟨rest, by omega⟩)
    | none => refuse
termination_by 4 * ts.length + 2

/-- Reads the key and the value of an entry between brackets that end with `close`. -/
def flowEntry (setting : Setting) (close : Token) (graph : Graph) (ts : List Token) :
    Reading (((Nat × Nat) × Graph) × Rest ts) := do
  let ((key, graph), ⟨rest, _⟩) ←
    nodeUnless setting [.colon, .comma, close] false false graph ts
  let ((value, graph), ⟨rest, _⟩) ← valueOf setting [.comma, close] false graph rest
  return (((key, value), graph), ⟨rest, by omega⟩)
termination_by 4 * ts.length + 2

/-- Reads the items of a list between brackets, and the closing one. An item may be a single entry
of an object. -/
def flowItems (setting : Setting) (graph : Graph) (ts : List Token) :
    Reading ((List Nat × Graph) × Rest ts) :=
  match take? .closeBracket ts with
  | some ⟨rest, _⟩ => .ok (([], graph), ⟨rest, by omega⟩)
  | none => do
    let ((first, graph), ⟨rest, _⟩) : (Nat × Graph) × Shorter ts ←
      match take? .key ts with
      | some ⟨rest, _⟩ => do
        let ((entry, graph), ⟨rest, _⟩) ← flowEntry setting .closeBracket graph rest
        pure (graph.add none (.entries .object [entry]), ⟨rest, by omega⟩)
      | none => node setting false false graph ts
    match take? .comma rest, take? .closeBracket rest with
    | some ⟨rest, _⟩, _ => do
      let ((others, graph), ⟨rest, _⟩) ← flowItems setting graph rest
      return ((first :: others, graph), ⟨rest, by omega⟩)
    | none, some ⟨rest, _⟩ => return (([first], graph), ⟨rest, by omega⟩)
    | none, none => refuse
termination_by 4 * ts.length + 2

/-- Reads the entries of an object between braces, and the closing one. An entry without a colon is
a key without a value. -/
def flowEntries (setting : Setting) (graph : Graph) (ts : List Token) :
    Reading ((List (Nat × Nat) × Graph) × Rest ts) :=
  match take? .closeBrace ts with
  | some ⟨rest, _⟩ => .ok (([], graph), ⟨rest, by omega⟩)
  | none => do
    let ((first, graph), ⟨rest, _⟩) : ((Nat × Nat) × Graph) × Shorter ts ←
      match take? .key ts with
      | some ⟨rest, _⟩ => do
        let ((entry, graph), ⟨rest, _⟩) ← flowEntry setting .closeBrace graph rest
        pure ((entry, graph), ⟨rest, by omega⟩)
      | none => do
        let ((key, graph), rest) ← node setting false false graph ts
        let (value, graph) := graph.add none .empty
        pure (((key, value), graph), rest)
    match take? .comma rest, take? .closeBrace rest with
    | some ⟨rest, _⟩, _ => do
      let ((others, graph), ⟨rest, _⟩) ← flowEntries setting graph rest
      return ((first :: others, graph), ⟨rest, by omega⟩)
    | none, some ⟨rest, _⟩ => return (([first], graph), ⟨rest, by omega⟩)
    | none, none => refuse
termination_by 4 * ts.length + 2

end

/-- Reads the directives before a document. `version` is set when the version has been named. -/
def directives (version : Bool) (handles : Handles) :
    (ts : List Token) → Reading (Handles × Rest ts)
  | .directive found :: rest =>
    match found with
    | .version major =>
      if version || major != 1 then refuse
      else (directives true handles rest).map fun (found, last) => (found, last.trans (by simp))
    | .tagHandle handle start =>
      if (handles.lookup handle).isSome then refuse
      else (directives version ((handle, start) :: handles) rest).map fun (found, last) =>
        (found, last.trans (by simp))
    | .other => (directives version handles rest).map fun (found, last) =>
        (found, last.trans (by simp))
  | ts => .ok (handles, .all ts)

/-- Whether a token is a directive. -/
def Token.isDirective : Token → Bool
  | .directive _ => true
  | _ => false

/-- The nodes of a text that holds one document and the place of the outermost one, or none if the
text holds nothing. -/
def document? (ts : List Token) : Reading (Option (Nat × Graph)) := do
  let handlesAndRest : Option (Handles × List Token) ←
    if ts.head?.any fun t => t.isDirective || t == .documentStart then do
      let (handles, rest) ← directives false [] ts
      match take? .documentStart rest.1 with
      | some after => pure (some (handles ++ defaultHandles, after.1))
      | none => refuse
    else pure none
  let (found, rest) : Option (Nat × Graph) × List Token ←
    match handlesAndRest with
    | none =>
      if ts.isEmpty then pure (none, [])
      else do
        let (found, rest) ← node { handles := defaultHandles } true false {} ts
        pure (some found, rest.1)
    | some (handles, body) =>
      if body.head?.all fun t => t.isDirective || t == .documentStart || t == .documentEnd then
        pure (some (Graph.add {} none .empty), body)
      else do
        let (found, rest) ← node { handles } true false {} body
        pure (some found, rest.1)
  if rest.all (· == .documentEnd) then return found else refuse

end IssueBoard.Yaml
