import IssueBoard.Evaluation.World
import IssueBoard.Text.Blank
import IssueBoard.Text.Casing

/-!
# Rehearsals

A rehearsal runs no author code. It answers a source from a table, or with the source itself in
capitals, and records what it was asked, so that a dashboard can be tried out without its scripts.
-/

namespace IssueBoard

/-- What a rehearsal was asked: the kind of code, the source and the names in scope. -/
structure RehearsedCall where
  kind : CodeKind
  source : String
  names : List String

namespace Rehearsal

/-- The answer to a source. -/
def answer (answers : List (String × Data)) (source : String) : Data :=
  (answers.lookup source).getD (.text (Text.upperCase (Text.trim source)))

/-- The world of a rehearsal; searches find nothing. -/
def world (answers : List (String × Data)) (webUrl : String) :
    World (List RehearsedCall) Data where
  webUrl := .ok webUrl
  run request session :=
    let made : RehearsedCall := ⟨request.kind, request.source, request.scope.map (·.1)⟩
    (.ok (answer answers request.source), { session with state := session.state ++ [made] })
  view _ value := value
  field? _ value name := value.field? name
  search _ calls := (.ok { total := .count 0, items := [] }, calls)

end Rehearsal

end IssueBoard
