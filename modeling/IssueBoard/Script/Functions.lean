import IssueBoard.Script.Methods

/-!
# The functions of scripts

The functions that every script can call, the date helpers and the search of the server. A search
is started by waiting for what the call gives.
-/

namespace IssueBoard.Script

/-- What running scripts get from outside: the current instant, a search server, and how a found
item is put into the store. -/
structure Host (κ ι : Type) where
  now : Calendar.Instant
  server : SearchServer κ ι
  takeIn : ι → Array Cell → Value × Array Cell

variable {κ ι : Type}

/-- Puts found items into the store. -/
def Host.takeInAll (host : Host κ ι) (store : Array Cell) : List ι → List Value × Array Cell
  | [] => ([], store)
  | item :: rest =>
    let (value, store) := host.takeIn item store
    let (values, store) := host.takeInAll store rest
    (value :: values, store)

/-- Asks the server for a page. -/
def Host.search (host : Host κ ι) (request : SearchRequest) (machine : Machine κ) :
    Except Failure (SearchPage Value) × Machine κ :=
  match host.server.search request machine.server with
  | (.error failure, server) => (.error failure, { machine with server })
  | (.ok page, server) =>
    let (items, store) := host.takeInAll machine.store page.items
    (.ok { total := page.total, items }, { machine with server, store })

/-- Compares by the order below. -/
def below (desk : Desk κ) (left right : Value) : Except Trouble Bool :=
  desk.ordered .less desk.comparisonDepth left right

/-- The items that go on with a run from `last`, each below the one before if `falling`, and
otherwise not; and the items behind the run. -/
def runFrom (less : Value → Value → Except Trouble Bool) (falling : Bool) (last : Value) :
    List Value → Except Trouble (List Value × List Value)
  | [] => .ok ([], [])
  | x :: rest => do
    if (← less x last) == falling then
      let (run, rest) ← runFrom less falling x rest
      return (x :: run, rest)
    else return ([], x :: rest)

/-- The place where a value goes in a sorted list, between the places `low` and `high`: behind all
values that it is not below. Halving takes at most `fuel` steps. -/
def placeFor (less : Value → Value → Except Trouble Bool) (sorted : List Value) (value : Value) :
    (fuel low high : Nat) → Except Trouble Nat
  | 0, low, _ => .ok low
  | fuel + 1, low, high =>
    if high ≤ low then .ok low
    else do
      let middle := (low + high) / 2
      if ← less value (sorted.getD middle .null) then placeFor less sorted value fuel low middle
      else placeFor less sorted value fuel (middle + 1) high

/-- Inserts values into a sorted list, one after the other. -/
def insertAll (less : Value → Value → Except Trouble Bool) (sorted : List Value) :
    List Value → Except Trouble (List Value)
  | [] => .ok sorted
  | value :: rest => do
    let place ← placeFor less sorted value (sorted.length + 1) 0 sorted.length
    insertAll less (sorted.take place ++ value :: sorted.drop place) rest

/-- The values in order; equal ones keep their places. -/
def sort (less : Value → Value → Except Trouble Bool) : List Value → Except Trouble (List Value)
  | [] => .ok []
  | [value] => .ok [value]
  | x :: y :: rest => do
    let falling ← less y x
    let (run, rest) ← runFrom less falling y rest
    insertAll less (if falling then (x :: y :: run).reverse else x :: y :: run) rest

/-- The extreme value by a comparison; the first of several stays. -/
def extreme (desk : Desk κ) (op : Comparison) (best : Value) :
    List Value → Except Trouble Value
  | [] => .ok best
  | value :: rest => do
    if ← desk.ordered op desk.comparisonDepth value best then extreme desk op value rest
    else extreme desk op best rest

/-- The largest or smallest of the arguments, or of what stands in the only one. -/
def extremeOf (desk : Desk κ) (name : String) (op : Comparison) :
    List Value → Except Trouble Value
  | [] => .error (wrongArguments name true 1 0)
  | [source] => do
    match ← elements desk source with
    | [] => throw (.emptySequence name)
    | first :: rest => extreme desk op first rest
  | first :: rest => extreme desk op first rest

/-- The integer that a text spells to a base. -/
def integerOfText (base : Nat) (s : String) : Except Trouble Int :=
  match parseIntegerTo base s with
  | .ok n => .ok n
  | .error (.tooLong digits) => .error (.fault (.numeralTooLong digits))
  | .error .malformed =>
    .error (.integerLiteral base (String.ofList ((Text.quoted s).toList.take 200)))

/-- The integer that a value is turned into. -/
def toInteger : Value → Except Trouble Int
  | .text s => integerOfText 10 s
  | value =>
    match value.number? with
    | some n => n.truncate.mapError .fault
    | none => .error (.notIntegral value.typeName)

/-- The integer that a value has to be. -/
def indexOf (value : Value) : Except Trouble Int :=
  match value.integer? with
  | some n => .ok n
  | none => .error (.notIndexLike value.typeName)

/-- The integer that a text spells to a base that is given as a value. -/
def toIntegerIn (value base : Value) : Except Trouble Int := do
  let base ← indexOf base
  if (base ≠ 0 ∧ base < 2) ∨ 36 < base then throw .integerBase
  match value with
  | .text s => integerOfText base.toNat s
  | _ => throw .textBaseOnly

/-- The text that a value is turned into. Only bytes could be read in an encoding. -/
def toTextIn (value : Value) (arguments : List Value) : Except Trouble String :=
  match arguments.zip ["encoding", "errors"] |>.find? fun (given, _) => given.typeName != "str" with
  | some (given, name) => .error (.textArgument ("str() argument '" ++ name ++ "'") given.typeName)
  | none => .error (.notDecodable value.typeName)

/-- The range with the given bounds. -/
def rangeOf : List Value → Except Trouble Value
  | [stop] => do return .range 0 (← indexOf stop) 1
  | [start, stop] => do return .range (← indexOf start) (← indexOf stop) 1
  | [start, stop, step] => do
    let start ← indexOf start
    let stop ← indexOf stop
    let step ← indexOf step
    if step = 0 then throw .zeroRangeStep else return .range start stop step
  | arguments =>
    .error (wrongArguments "range" arguments.isEmpty (if arguments.isEmpty then 1 else 3)
      arguments.length)

/-- Adds values to a first one. -/
def addAll (sum : Value) : List Value → Action κ Value
  | [] => return sum
  | value :: rest => do addAll (← operate .add "+" sum value) rest

/-- Calls one of the functions that every script knows. -/
def callBuiltin (function : Builtin) (arguments : List Value) : Action κ Value :=
  match function, arguments with
  | .len, [value] => Action.examine fun desk =>
    match desk.size? value with
    | some size =>
      if Nat.pow 2 63 ≤ size then .error .sizeTooLarge else .ok (.integer size)
    | none => .error (.noLength value.typeName)
  | .len, arguments => throw (.argumentCount ("len() takes exactly one argument ("
      ++ Nat.repr arguments.length ++ " given)"))
  | .str, [] => return .text ""
  | .str, [value] => Action.examine fun desk => (desk.toText value).map .text
  | .str, value :: more =>
    if 2 < more.length then
      throw (.argumentCount ("str() takes at most 3 arguments (" ++ Nat.repr arguments.length
        ++ " given)"))
    else Action.ofExcept ((toTextIn value more).map .text)
  | .int, [] => return .integer 0
  | .int, [value] => Action.ofExcept ((toInteger value).map .integer)
  | .int, [value, base] => Action.ofExcept ((toIntegerIn value base).map .integer)
  | .int, arguments => throw (wrongArguments "int" false 2 arguments.length)
  | .sum, [source] => do addAll (.integer 0) (← Action.examine fun desk => elements desk source)
  | .sum, [source, start] => do
    let values ← Action.examine fun desk => elements desk source
    match start with
    | .text _ => throw .sumOfTexts
    | start => addAll start values
  | .sum, [] => throw (.argumentCount "sum() takes at least 1 positional argument (0 given)")
  | .sum, arguments => throw (.argumentCount ("sum() takes at most 2 arguments ("
      ++ Nat.repr arguments.length ++ " given)"))
  | .max, arguments => Action.examine fun desk => extremeOf desk "max" .greater arguments
  | .min, arguments => Action.examine fun desk => extremeOf desk "min" .less arguments
  | .sorted, [source] => do
    let values ← Action.examine fun desk => elements desk source
    Action.newList (← Action.examine fun desk => sort (below desk) values)
  | .sorted, arguments => throw (.argumentCount ("sorted expected 1 argument, got "
      ++ Nat.repr arguments.length))
  | .range, arguments => Action.ofExcept (rangeOf arguments)
  | kind, arguments => Action.change fun desk =>
    let (place, desk) := desk.add .mark
    (.error place kind arguments, desk)

/-- Calls a date helper. -/
def callHelper (host : Host κ ι) (helper : Calendar.Helper) (arguments : List Value) :
    Action κ Value :=
  Action.examine fun desk => do
    let source ← match arguments with
      | [] => pure ""
      | [.null] => pure ""
      | [value] => desk.toText value
      | _ => throw (.argumentCount (helper.name
          ++ "() takes from 0 to 1 positional arguments but " ++ Nat.repr arguments.length
          ++ " were given"))
    match helper.textOf host.now source with
    | .ok text => return .text text
    | .error failure => throw (.ofFailure failure)

/-- The parameters of a search. -/
def searchParameters : List String := ["query_type", "query", "per_page", "page"]

/-- Names in quotes as a message lists them. -/
def listNames (names : List String) : String :=
  match names.map Text.quoted with
  | [] => ""
  | [name] => name
  | [first, second] => first ++ " and " ++ second
  | names => ", ".intercalate names.dropLast ++ ", and " ++ names.getLastD ""

/-- The complaint about too few or too many arguments of a search. -/
def searchArguments (host : Host κ ι) (given : Nat) : Trouble :=
  let missing := searchParameters.drop given
  .argumentCount (host.server.kind ++ ".search() " ++
    if missing.isEmpty then "takes " ++ Nat.repr (searchParameters.length + 1)
      ++ " positional arguments but " ++ Nat.repr (given + 1) ++ " were given"
    else "missing " ++ Nat.repr missing.length ++ " required positional argument"
      ++ (if missing.length = 1 then ": " else "s: ") ++ listNames missing)

/-- Prepares a search. -/
def callSearch (host : Host κ ι) (arguments : List Value) : Action κ Value :=
  match arguments with
  | [kind, .text query, perPage, page] => do
    let perPage ← Action.ofExcept (indexOf perPage)
    let page ← Action.ofExcept (indexOf page)
    let kind ← Action.inspect fun desk => desk.view kind
    Action.change fun desk =>
      let (cell, desk) := desk.add (.pending ⟨.other kind, query, perPage, page⟩ false)
      (.pending cell, desk)
  | [_, query, _, _] => throw (.textArgument "query" query.typeName)
  | arguments => throw (searchArguments host arguments.length)

/-- Waits for a search. -/
def wait (host : Host κ ι) (value : Value) : Action κ Value :=
  match value with
  | .pending cell => do
    match ← Action.inspect fun desk => desk.cell? cell with
    | some (.pending request false) => do
      let answer ← Action.change fun desk =>
        let desk := desk.setCell cell (.pending request true)
        let (answer, state) := host.search request desk.state
        (answer, { desk with state })
      match answer with
      | .error failure => throw (.ofFailure failure)
      | .ok page => do
        let items ← Action.newList page.items
        Action.change fun desk =>
          let (cell, desk) := desk.add
            (.page [("total_count", Desk.totalValue page.total), ("items", items)])
          (.page cell, desk)
    | _ => throw .awaitedTwice
  | other => throw (.notAwaitable other.typeName)

/-- Calls a method of texts with its text as the first argument. -/
def callUnbound (method : Method) (arguments : List Value) : Action κ Value :=
  match arguments with
  | [] => throw (.argumentCount ("unbound method str." ++ method.name ++ "() needs an argument"))
  | .text s :: rest => callMethod (.text s) method rest
  | other :: _ => throw (.otherOwner method.name other.typeName)

/-- Calls a value. -/
def callValue (host : Host κ ι) (function : Value) (arguments : List Value) : Action κ Value :=
  match function with
  | .builtin function => callBuiltin function arguments
  | .helper helper => callHelper host helper arguments
  | .method owner method => callMethod owner method arguments
  | .unbound method => callUnbound method arguments
  | .search => callSearch host arguments
  | other => throw (.notCallable other.typeName)

end IssueBoard.Script
