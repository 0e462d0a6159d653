import IssueBoard.Calendar.Helper
import IssueBoard.Query.Cache

/-!
# Worlds

Evaluating a dashboard needs two things from outside: a host that runs author code, and a server
that answers searches. A world holds both. What it is made of is left open: a host may keep any
state and hand out any values, as long as it can show a value as data.
-/

namespace IssueBoard

/-- What a name in a scope stands for. -/
inductive Binding (V : Type) where
  | helper (helper : Calendar.Helper)
  /-- The search server. -/
  | server
  /-- The data that scripts share. -/
  | userdata
  | queryCache
  /-- A value that the host has handed out. -/
  | held (value : V)
  | plain (value : Data)

/-- The names that author code can use, with what they stand for. -/
abbrev Scope (V : Type) := List (String × Binding V)

/-- A request to a host: run an expression or a script in a scope. -/
structure Call (V : Type) where
  kind : CodeKind
  source : String
  scope : Scope V

/-- What evaluation changes: the query cache and the state of the world. -/
structure Session (σ V : Type) where
  cache : QueryCache V := {}
  state : σ

/-- A host and a server with states `σ` and values `V`. -/
structure World (σ V : Type) where
  /-- The web site that links to searches point at. -/
  webUrl : Except Failure String
  /-- Runs author code. -/
  run : Call V → Session σ V → Except Failure V × Session σ V
  /-- Shows a value as data. -/
  view : Session σ V → V → Data
  /-- What stands under a name in a value that is an object. -/
  field? : Session σ V → V → String → Option V
  /-- Answers a request for a page of search results. -/
  search : SearchRequest → σ → Except Failure (SearchPage V) × σ

/-- An evaluation: it changes the session, and gives a result or a failure. What it has changed
before a failure stays changed. -/
abbrev Evaluation (σ V α : Type) := ExceptT Failure (StateM (Session σ V)) α

namespace Evaluation

variable {σ V α : Type}

/-- An evaluation as a function on sessions. -/
def ofFunction (step : Session σ V → Except Failure α × Session σ V) : Evaluation σ V α := step

/-- The result of an evaluation from a session, and the session after it. -/
def runFrom (evaluation : Evaluation σ V α) (session : Session σ V) :
    Except Failure α × Session σ V := evaluation session

/-- A result that may be a failure. -/
def ofExcept (result : Except Failure α) : Evaluation σ V α := ofFunction fun session =>
  (result, session)

/-- Runs author code in a world. -/
def call (world : World σ V) (request : Call V) : Evaluation σ V V := ofFunction fun session =>
  world.run request session

/-- A value of a world as data. -/
def view (world : World σ V) (value : V) : Evaluation σ V Data := ofFunction fun session =>
  (.ok (world.view session value), session)

/-- What stands under a name in a value. -/
def field? (world : World σ V) (value : V) (name : String) : Evaluation σ V (Option V) :=
  ofFunction fun session => (.ok (world.field? session value name), session)

end Evaluation

end IssueBoard
