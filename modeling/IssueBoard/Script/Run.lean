import IssueBoard.Script.Attributes
import IssueBoard.Script.Program

/-!
# Running scripts

Expressions are evaluated and statements are run by recursion on the syntax tree. Only loops can go
on without end, so each has a budget of rounds; a loop that uses it up ends the script with a
trouble of its own.
-/

namespace IssueBoard.Script

variable {κ ι : Type}

/-- What the code of a function body can see besides the frame. -/
structure Surroundings (κ ι : Type) where
  host : Host κ ι
  /-- The names that belong to the body, whether they have a value yet or not. -/
  locals : List String
  /-- The names of the comprehensions around an expression, the innermost first. -/
  inner : List (String × Value) := []
  /-- The number of rounds that a loop may make. -/
  budget : Nat

/-- How a statement ends. -/
inductive Flow where
  | next
  | leave
  | proceed
  | finish (value : Value)

/-- The value of a name. The mark of debugging is always set. -/
def lookupName (around : Surroundings κ ι) (name : String) : Action κ Value :=
  Action.ofFunction fun frame =>
    let result := match around.inner.lookup name with
      | some value => .ok value
      | none =>
        match frame.names.lookup name with
        | some value => .ok value
        | none =>
          if around.locals.contains name then .error (.unassigned name (!around.inner.isEmpty))
          else if name == debugName then .ok (.flag true)
          else
            match Builtin.all.find? fun function => function.name == name with
            | some function => .ok (.builtin function)
            | none => .error (.unknownName name)
    (result, frame)

/-- The values of names after one is given a value. -/
def assignName (name : String) (value : Value) : List (String × Value) → List (String × Value)
  | [] => [(name, value)]
  | (known, old) :: rest =>
    if known == name then (name, value) :: rest else (known, old) :: assignName name value rest

/-- Gives a name a value. -/
def setName (name : String) (value : Value) : Action κ Unit := Action.ofFunction fun frame =>
  (.ok (), { frame with names := assignName name value frame.names })

/-- What is left of a visit to a container. -/
inductive Remaining where
  /-- The letters of a text, which nothing changes during the visit. -/
  | letters (rest : List Char)
  /-- What stands in another container from an index on, and its size when the visit began. -/
  | elements (source : Value) (size index : Nat)

/-- The visit to a container, from its start. -/
def beginVisit (source : Value) : Action κ Remaining := Action.inspect fun desk =>
  match source with
  | .text s => .letters s.toList
  | source => .elements source ((desk.size? source).getD 0) 0

/-- The next thing that a visit comes to, with what is left after it. An object must keep the size
that it had when the visit began. -/
def nextElement (desk : Desk κ) : Remaining → Except Trouble (Option (Value × Remaining))
  | .letters [] => .ok none
  | .letters (c :: rest) => .ok (some (.text (String.singleton c), .letters rest))
  | .elements source size index =>
    let found : Except Trouble (Option Value) := match source with
      | .list place => .ok (desk.items place)[index]?
      | .atom emptyBrackets => .ok none
      | .range start stop step =>
        .ok (if index < Desk.rangeSize start stop step then some (.integer (start + step * index))
          else none)
      | other =>
        match desk.entries? other with
        | some entries =>
          if entries.length != size then .error .changedWhileVisited
          else .ok ((entries[index]?).map (·.1))
        | none => .error (.notIterable other.typeName)
    found.map (·.map fun element => (element, .elements source size (index + 1)))

/-- Goes on with a visit and collects what `step` makes of the elements. -/
def gather (step : Value → Action κ (Option Value)) :
    (budget : Nat) → Remaining → Action κ (List Value)
  | 0, _ => throw .endless
  | budget + 1, remaining => do
    match ← Action.examine fun desk => nextElement desk remaining with
    | none => return []
    | some (element, remaining) => do
      let result ← step element
      let others ← gather step budget remaining
      return result.toList ++ others

/-- Goes on with a visit and runs `step` for the elements until it says to stop. -/
def visit (step : Value → Action κ Flow) : (budget : Nat) → Remaining → Action κ Flow
  | 0, _ => throw .endless
  | budget + 1, remaining => do
    match ← Action.examine fun desk => nextElement desk remaining with
    | none => return .next
    | some (element, remaining) => do
      match ← step element with
      | .next => visit step budget remaining
      | .proceed => visit step budget remaining
      | flow => return flow

/-- Runs `step` while `condition` holds, until it says to stop. -/
def repeatWhile (condition : Action κ Bool) (step : Action κ Flow) : (budget : Nat) → Action κ Flow
  | 0 => throw .endless
  | budget + 1 => do
    if ← condition then
      match ← step with
      | .next => repeatWhile condition step budget
      | .proceed => repeatWhile condition step budget
      | flow => return flow
    else return .next

/-- Whether a value counts as true. -/
def holds (value : Value) : Action κ Bool := Action.inspect fun desk => desk.isTrue value

/-- Makes an object of keys and values. -/
def makeObject (entries : List (Value × Value)) : Action κ Value := do
  let entries ← Action.ofExcept (entries.foldlM (fun known (key, value) => do
    return assignKey (← Desk.key? key) value known) [])
  Action.newObject entries

mutual

/-- The value of an expression. -/
def evaluate (around : Surroundings κ ι) : Expr → Action κ Value
  | .literal a => return .atom a
  | .name n => lookupName around n
  | .list items => do Action.newList (← evaluateAll around items)
  | .object entries => do makeObject (← evaluateEntries around entries)
  | .unary op operand => do
    let value ← evaluate around operand
    match op with
    | .negation => return .flag (!(← holds value))
    | op => applySign op value
  | .binary op left right => do
    let left ← evaluate around left
    let right ← evaluate around right
    operate op op.inErrors left right
  | .compare first rest => do
    let left ← evaluate around first
    return .flag (← evaluateChain around left rest)
  | .both left right => do
    let value ← evaluate around left
    if ← holds value then evaluate around right else return value
  | .either left right => do
    let value ← evaluate around left
    if ← holds value then return value else evaluate around right
  | .choice condition yes no => do
    if ← holds (← evaluate around condition) then evaluate around yes else evaluate around no
  | .subscript container index => do
    let container ← evaluate around container
    let index ← evaluate around index
    Action.examine fun desk => item desk container index
  | .part container lower upper step => do
    let container ← evaluate around container
    let lower ← evaluateBound around lower
    let upper ← evaluateBound around upper
    let step ← evaluateBound around step
    part container lower upper step
  | .member owner name => do
    let owner ← evaluate around owner
    Action.examine fun desk => memberOf around.host desk owner name
  | .call function arguments => do
    let function ← evaluate around function
    let arguments ← evaluateAll around arguments
    callValue around.host function arguments
  | .comprehension body loopName source conditions => do
    let source ← evaluate around source
    let items ← gather (fun element => do
      let within := { around with inner := (loopName, element) :: around.inner }
      if ← allHold within conditions then return some (← evaluate within body) else return none)
      around.budget (← beginVisit source)
    Action.newList items
  | .await operand => do
    let value ← evaluate around operand
    wait around.host value

/-- The values of expressions, from left to right. -/
def evaluateAll (around : Surroundings κ ι) : List Expr → Action κ (List Value)
  | [] => return []
  | first :: rest => do
    let value ← evaluate around first
    return value :: (← evaluateAll around rest)

/-- The keys and values of an object, from left to right. -/
def evaluateEntries (around : Surroundings κ ι) :
    List (Expr × Expr) → Action κ (List (Value × Value))
  | [] => return []
  | (key, value) :: rest => do
    let key ← evaluate around key
    let value ← evaluate around value
    return (key, value) :: (← evaluateEntries around rest)

/-- The value of a bound of a part; one that is left open is absent. -/
def evaluateBound (around : Surroundings κ ι) : Option Expr → Action κ Value
  | none => return .null
  | some bound => evaluate around bound

/-- Whether a chain of comparisons holds, up to the first that does not. -/
def evaluateChain (around : Surroundings κ ι) (left : Value) :
    List (Comparison × Expr) → Action κ Bool
  | [] => return true
  | (op, operand) :: rest => do
    let right ← evaluate around operand
    if ← Action.examine fun desk => satisfies desk op left right then
      evaluateChain around right rest
    else return false

/-- Whether all conditions hold, up to the first that does not. -/
def allHold (around : Surroundings κ ι) : List Expr → Action κ Bool
  | [] => return true
  | condition :: rest => do
    if ← holds (← evaluate around condition) then allHold around rest else return false

end

/-- Assigns a value to a target. -/
def assign (around : Surroundings κ ι) (value : Value) : Target → Action κ Unit
  | .name n => setName n value
  | .item container index => do
    let container ← evaluate around container
    let index ← evaluate around index
    assignItem container index value
  | .part container lower upper step => do
    let container ← evaluate around container
    let lower ← evaluateBound around lower
    let upper ← evaluateBound around upper
    let step ← evaluateBound around step
    assignPart container lower upper step value
  | .member owner name => do
    let owner ← evaluate around owner
    setMember owner name value

/-- Assigns a value to targets, from left to right. -/
def assignAll (around : Surroundings κ ι) (value : Value) : List Target → Action κ Unit
  | [] => return ()
  | target :: rest => do
    assign around value target
    assignAll around value rest

/-- Raises a value. -/
def raiseValue (value : Value) : Action κ Flow := Action.examine fun desk =>
  match value with
  | .error _ kind arguments => .error (.ofError (kind == .keyError) (arguments.map desk.view))
  | .builtin .valueError | .builtin .keyError | .builtin .runtimeError => .error (.ofError false [])
  | _ => .error .notAnError

mutual

/-- Runs a statement. -/
def run (around : Surroundings κ ι) : Stmt → Action κ Flow
  | .pass => return .next
  | .expression value => do
    let _ ← evaluate around value
    return .next
  | .assign targets value => do
    let value ← evaluate around value
    assignAll around value targets
    return .next
  | .augment (.name n) op value => do
    let left ← lookupName around n
    let right ← evaluate around value
    setName n (← augment op left right)
    return .next
  | .augment (.item container index) op value => do
    let container ← evaluate around container
    let index ← evaluate around index
    let left ← Action.examine fun desk => item desk container index
    let right ← evaluate around value
    assignItem container index (← augment op left right)
    return .next
  | .augment (.part container lower upper step) op value => do
    let container ← evaluate around container
    let lower ← evaluateBound around lower
    let upper ← evaluateBound around upper
    let step ← evaluateBound around step
    let left ← part container lower upper step
    let right ← evaluate around value
    assignPart container lower upper step (← augment op left right)
    return .next
  | .augment (.member owner name) op value => do
    let owner ← evaluate around owner
    let left ← Action.examine fun desk => memberOf around.host desk owner name
    let right ← evaluate around value
    setMember owner name (← augment op left right)
    return .next
  | .finish none => return .finish .null
  | .finish (some value) => do return .finish (← evaluate around value)
  | .raise none => throw .nothingToRaise
  | .raise (some error) => do raiseValue (← evaluate around error)
  | .branch condition yes no => do
    if ← holds (← evaluate around condition) then runAll around yes else runAll around no
  | .forEach loopName source body otherwise => do
    let source ← evaluate around source
    match ← visit (fun element => do
      setName loopName element
      runAll around body) around.budget (← beginVisit source) with
    | .next => runAll around otherwise
    | .leave => return .next
    | flow => return flow
  | .repeatWhile condition body otherwise => do
    match ← repeatWhile (do holds (← evaluate around condition)) (runAll around body)
      around.budget with
    | .next => runAll around otherwise
    | .leave => return .next
    | flow => return flow
  | .leave => return .leave
  | .proceed => return .proceed

/-- Runs statements one after the other until one says to stop. -/
def runAll (around : Surroundings κ ι) : List Stmt → Action κ Flow
  | [] => return .next
  | first :: rest => do
    match ← run around first with
    | .next => runAll around rest
    | flow => return flow

end

/-- Runs the body of a function. A search that it returns without waiting for it is waited for. -/
def runBody (around : Surroundings κ ι) (body : List Stmt) : Action κ Value := do
  let value := match ← runAll around body with
    | .finish value => value
    | _ => .null
  match value with
  | .pending cell => wait around.host (.pending cell)
  | value => return value

end IssueBoard.Script
