import IssueBoard.Data.Display
import IssueBoard.Evaluation.World
import IssueBoard.Template
import IssueBoard.Text.Identifier

/-!
# Resolving templates and running scripts

Author code runs in a scope: the date helpers and whatever bindings the caller adds. A binding must
not take the name of a helper and has to be a name at all. A template is resolved by replacing each
of its expressions by the text that shows its value; literal text is copied.
-/

namespace IssueBoard.Evaluation

variable {σ V : Type}

/-- The date helpers, which every scope has. -/
def helperScope : Scope V := Calendar.Helper.all.map fun helper => (helper.name, .helper helper)

/-- Refuses a name that no binding may have. -/
def checkName (name : String) : Except Failure Unit :=
  if Calendar.Helper.all.any (·.name == name) then .error (.scope name .reserved)
  else if !Text.isIdentifier name || Text.isKeyword name then .error (.scope name .malformed)
  else .ok ()

/-- Refuses the first of the names that no binding may have. -/
def checkNames : List String → Except Failure Unit
  | [] => .ok ()
  | name :: rest => do
    checkName name
    checkNames rest

/-- The scope with the helpers and some bindings. -/
def createScope (bindings : Scope V) : Except Failure (Scope V) := do
  checkNames (bindings.map (·.1))
  return helperScope ++ bindings

/-- A value as a page shows it. -/
def display (world : World σ V) (value : V) : Evaluation σ V String := do
  ofExcept ((← view world value).display.mapError .fault)

/-- The text that a piece of a template resolves to. -/
def resolveSegment (world : World σ V) (scope : Scope V) (segment : Segment) :
    Evaluation σ V String :=
  if segment.isExpression then do
    let value ← call world ⟨.expression, segment.text, scope⟩
    display world value
  else return segment.text

/-- The texts that the pieces of a template resolve to, joined. -/
def resolveSegments (world : World σ V) (scope : Scope V) :
    List Segment → Evaluation σ V String
  | [] => return ""
  | segment :: rest => do
    let text ← resolveSegment world scope segment
    return text ++ (← resolveSegments world scope rest)

/-- Resolves a template. -/
def resolve (world : World σ V) (bindings : Scope V) (source : String) :
    Evaluation σ V String := do
  let scope ← ofExcept (createScope bindings)
  if Template.hasExpressions source then
    let segments ← ofExcept ((Template.scan source).mapError .grammar)
    resolveSegments world scope segments
  else return source

/-- Runs a script. -/
def runScript (world : World σ V) (bindings : Scope V) (source : String) : Evaluation σ V V := do
  let scope ← ofExcept (createScope bindings)
  call world ⟨.script, source, scope⟩

end IssueBoard.Evaluation
