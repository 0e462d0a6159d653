import IssueBoard.Evaluation.Resolve
import IssueBoard.Query.Link

/-!
# The context of an evaluation

Most texts of a dashboard are evaluated with everything in scope. A cell of a table of search
results sees only its item, and the title, link, color and alignment of a widget only the widget's
value.
-/

namespace IssueBoard

/-- What an evaluation is about. -/
inductive Focus (V : Type) where
  | whole
  | item (item : V)
  | value (value : Binding V)

/-- The focus on a plain value. -/
def Focus.plain {V : Type} (value : Data) : Focus V := .value (.plain value)

namespace Focus

variable {V : Type}

/-- What is in scope: the server and the shared data always, the query cache only for the whole. -/
def scope : Focus V → Scope V
  | .whole => [("github", .server), ("userdata", .userdata), ("querycache", .queryCache)]
  | .item found => [("github", .server), ("userdata", .userdata), ("item", .held found)]
  | .value known => [("github", .server), ("userdata", .userdata), ("value", known)]

/-- Whether the focus leaves something out. -/
def isNarrow : Focus V → Bool
  | .whole => false
  | _ => true

end Focus

namespace Evaluation

variable {σ V : Type}

/-- Runs a query whose text is a template. At most `limit` items are given back, and what the cache
holds already is not fetched again. -/
def runQuery (world : World σ V) (pageSize : Int) (focus : Focus V) (kind : QueryKind)
    (query : String) (limit : Int) : Evaluation σ V (QueryResults V) := do
  match kind with
  | .other name =>
    let shown ← ofExcept (name.toText.mapError .fault)
    throw (.queryType shown)
  | .issue =>
    let resolved ← resolve world focus.scope query
    let webUrl ← ofExcept world.webUrl
    let entry ← ofFunction fun session =>
      let (answer, cache, state) :=
        Query.fetch world.search resolved pageSize limit session.cache session.state
      (answer, { cache, state })
    return {
      total := entry.total
      items := slice none (some limit) entry.items
      url := Query.link resolved webUrl }

end Evaluation

end IssueBoard
