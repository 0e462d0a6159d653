import IssueBoard.Script.Program
import IssueBoard.Script.Run

/-!
# The default host

Runs expressions and scripts of the script language. A script is the body of a function whose
parameters are the names of the scope; an expression is a script that returns it.
-/

namespace IssueBoard.Script

variable {κ ι : Type}

/-- The number of rounds that a loop may make. -/
def loopBudget : Nat := 10000000

/-- The value that a binding stands for. -/
def bindingValue (host : Host κ ι) (desk : Desk κ) : Binding Value → Value × Desk κ
  | .helper helper => (.helper helper, desk)
  | .server => (.server host.server.kind, desk)
  | .userdata => (desk.state.userdata, desk)
  | .queryCache => (.cache, desk)
  | .held value => (value, desk)
  | .plain value => desk.load value

/-- The parameters of a function body in a scope. -/
def parameters (host : Host κ ι) (desk : Desk κ) :
    Scope Value → List (String × Value) × Desk κ
  | [] => ([], desk)
  | (name, binding) :: rest =>
    let (value, desk) := bindingValue host desk binding
    let (others, desk) := parameters host desk rest
    ((name, value) :: others, desk)

/-- Runs a function body in a scope. -/
def Host.runBody (host : Host κ ι) (body : List Stmt) (scope : Scope Value) (desk : Desk κ) :
    Except Trouble Value × Desk κ :=
  let (names, desk) := parameters host desk scope
  let around : Surroundings κ ι :=
    { host, locals := scope.map (·.1) ++ assignedIn body, budget := loopBudget }
  let (result, frame) := Script.runBody around body { desk, names }
  (result, frame.desk)

/-- The desk at the beginning of an evaluation: nothing is fetched, and the data that scripts share
is an empty object. -/
def Desk.ofServer (server : κ) : Desk κ :=
  { state := { store := #[.object []], userdata := .object 0, server } }

/-- The first name of a scope that no parameter has, because parameters have their letters in the
usual form. -/
def unknownParameter? (scope : Scope Value) : Option String :=
  (scope.map (·.1)).find? fun name => Text.normalize name != name

/-- The names of the parameters for a scope. -/
def parameterNames (scope : Scope Value) : List String :=
  scope.map fun entry => Text.normalize entry.1

/-- The function body that author code stands for in its scope. -/
def compile (request : Call Value) : Except Failure (List Stmt) := do
  let body ← parseBody request.kind request.source
  checkBody request.kind request.source (parameterNames request.scope) body
  match unknownParameter? request.scope with
  | some name => throw ((Trouble.unknownParameter name).toFailure request.kind)
  | none => return body

/-- Runs author code. -/
def Host.call (host : Host κ ι) (request : Call Value) (desk : Desk κ) :
    Except Failure Value × Desk κ :=
  match compile request with
  | .error failure => (.error failure, desk)
  | .ok body =>
    let (result, desk) := host.runBody body request.scope desk
    (result.mapError (·.toFailure request.kind), desk)

/-- The world of the default host and its server. -/
def Host.world (host : Host κ ι) : World (Machine κ) Value where
  webUrl := host.server.webUrl
  run := host.call
  view := Desk.view
  field? desk value name := (Desk.entries? desk value).bind (lookupKey? (.text name))
  search := host.search

end IssueBoard.Script
