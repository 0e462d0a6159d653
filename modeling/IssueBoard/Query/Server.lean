import IssueBoard.Data.Basic
import IssueBoard.Failure

/-!
# Search servers

A search server answers requests for one page of the results of a query, or fails to, and moves to
another state with every request.
-/

namespace IssueBoard

/-- The number of items on a page of search results unless another one is configured. -/
def defaultPageSize : Int := 100

/-- What a query looks for. Only searches for issues are known; a request may name something
else. -/
inductive QueryKind where
  | issue
  | other (name : Data)

/-- A request for one page of search results. Pages are counted from one. -/
structure SearchRequest where
  kind : QueryKind
  query : String
  perPage : Int
  page : Int

/-- The number of results that a server reports. Some servers answer with a truth value instead, and
a script may put anything in its place. -/
inductive Total where
  | count (n : Int)
  | flag (b : Bool)
  | other (value : Data)

namespace Total

/-- A total as data. -/
def toData : Total → Data
  | .count n => .integer n
  | .flag b => .flag b
  | .other value => value

/-- The total that a value is. -/
def ofData : Data → Total
  | .integer n => .count n
  | .flag b => .flag b
  | value => .other value

/-- The number that a total counts as, if it is one. -/
def number? : Total → Option Number
  | .count n => some (.integer n)
  | .flag b => some (.integer (if b then 1 else 0))
  | .other (.atom a) => a.number?
  | .other _ => none

/-- Whether a total is larger than a number of items. -/
def exceeds (total : Total) (size : Nat) : Bool :=
  total.number?.any fun number => (Number.integer size).below number

end Total

/-- One page of search results. -/
structure SearchPage (ι : Type) where
  total : Total
  items : List ι

/-- A search server with states `κ` that finds items `ι`. -/
structure SearchServer (κ ι : Type) where
  /-- What errors call the server. -/
  kind : String
  /-- The web site that shows the same searches. -/
  webUrl : Except Failure String
  search : SearchRequest → κ → Except Failure (SearchPage ι) × κ

end IssueBoard
