import IssueBoard.Failure
import IssueBoard.Script.Block
import IssueBoard.Script.Source

/-!
# Programs from sources

An expression is read between brackets on lines of their own, so it may be spread over lines and end
in a comment. A script is read as it stands; if its first line of code is indented, it is read as
the block of a statement, and what follows that block is left out. The statements that are read are
the body of a function, and some bodies are refused as a whole.
-/

namespace IssueBoard.Script

/-- The expression that a source is, read between brackets. -/
def readExpression? (source : List Char) : Option Expr := do
  let tokens ← tokens? ("(\n".toList ++ source ++ "\n)".toList)
  let (value, ⟨rest, _⟩) ← expression tokens
  if rest = [.newline] then some value else none

/-- The statements that a source is. -/
def readStatements? (source : List Char) : Option (List Stmt) :=
  (tokens? source).bind statements

/-- The statements of the block at the head of a source. -/
def readIndented? (source : List Char) : Option (List Stmt) := do
  match ← readStatements? ("if True:\n".toList ++ source) with
  | .branch _ body _ :: _ => some body
  | _ => none

/-- The error for code that is not well formed. -/
def malformed (kind : CodeKind) (source : String) : Failure :=
  .grammar { cause := .malformedCode kind, position := none, source }

/-- Refuses sources with a null character, which no reader accepts. -/
def withoutNull (source : String) : Except Failure Unit :=
  if source.toList.contains '\x00' then .error (.fault .nullCharacter) else .ok ()

/-- The expression that a source is. -/
def parseExpression (source : String) : Except Failure Expr := do
  if Text.isBlankText source then
    throw (.grammar { cause := .emptyExpression, position := some 0, source })
  withoutNull source
  match readExpression? source.toList with
  | some value => return value
  | none => throw (malformed .expression source)

/-- The statements of a script. -/
def parseScript (source : String) : Except Failure (List Stmt) := do
  withoutNull source
  let read := if isIndented source then readIndented? else readStatements?
  match read source.toList with
  | some body => return body
  | none => throw (malformed .script source)

/-- The function body that the source of some kind of code stands for. -/
def parseBody (kind : CodeKind) (source : String) : Except Failure (List Stmt) :=
  match kind with
  | .expression => (parseExpression source).map fun value => [.finish (some value)]
  | .script => parseScript source

/-! ## Bodies that are refused -/

/-- The name of the mark of debugging, which is always set and can never be given a value. -/
def debugName : String := "__debug__"

/-- Whether a name spells a constant once its letters are brought to their usual form. -/
def Mention.isConstant : Mention → Bool
  | .read name | .bound name => name == "None" || name == "True" || name == "False"
  | .attribute _ => false

/-- Whether the mark of debugging is given a value. -/
def Mention.setsDebug : Mention → Bool
  | .bound name | .attribute name => name == debugName
  | .read _ => false

/-- Whether no name stands in a list twice. -/
def areDistinct : List String → Bool
  | [] => true
  | name :: rest => !rest.contains name && areDistinct rest

/-- Refuses a body that no function with such parameters can have. -/
def checkBody (kind : CodeKind) (source : String) (parameters : List String) (body : List Stmt) :
    Except Failure Unit :=
  let mentions := mentionedIn body
  let isSound := areDistinct parameters && !parameters.contains debugName
    && allWellPlaced 0 body && !mentions.any Mention.setsDebug
  if nestingLimit < nestingOfBlock body then .error (.fault .nestedTooDeep)
  else if mentions.any Mention.isConstant then .error (.fault .constantName)
  else if isSound then .ok ()
  else .error (malformed kind source)

end IssueBoard.Script
