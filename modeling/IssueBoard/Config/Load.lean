import IssueBoard.Config.Schema
import IssueBoard.Document.Json
import IssueBoard.Document.Yaml.Value

/-!
# Loading configurations

A configuration is a JSON document, or else a YAML document.
-/

namespace IssueBoard.Config

/-- The data of a document in either form. -/
def readDocument (content : String) : Except Failure Data :=
  match Json.read content with
  | .ok data => .ok data
  | .error (.integerTooLong digits) => .error (.fault (.numeralTooLong digits))
  | .error .nestedTooDeep => .error (.fault .nestedTooDeep)
  | .error .malformed =>
    match Yaml.read content with
    | .ok data => .ok data
    | .error (.fault fault) => .error (.fault fault)
    | .error .malformed => .error (.config none "cannot parse configuration: not well formed")

/-- The configuration in a document. -/
def Configuration.load (content : String) : Except Failure Configuration := do
  Configuration.ofData (← readDocument content)

end IssueBoard.Config
