import IssueBoard.Data.Slice
import IssueBoard.Query.Server

/-!
# Catalogues

A catalogue is a search server that holds the results of each query in memory and cuts the pages out
of them. It may report other totals than it has items, refuse some pages, and it records every
request.
-/

namespace IssueBoard

/-- A page that a catalogue refuses to answer. -/
structure Outage where
  page : Int
  message : String
  status : Option Int
  deriving DecidableEq

/-- A search server in memory. -/
structure Catalogue (ι : Type) where
  results : List (String × List ι) := []
  /-- Totals reported for the pages of a query; the last one holds for all further pages. -/
  totals : List (String × List Int) := []
  outages : List (String × Outage) := []
  requests : List SearchRequest := []

namespace Catalogue

variable {ι : Type}

/-- All results of a query. -/
def itemsOf (catalogue : Catalogue ι) (query : String) : List ι :=
  (catalogue.results.lookup query).getD []

/-- The total that is reported on a page of the results of a query. -/
def totalOn (catalogue : Catalogue ι) (query : String) (page : Int) : Int :=
  match catalogue.totals.lookup query with
  | some totals =>
    let last := totals.getLastD 0
    if page < 1 then last else totals.getD (page - 1).toNat last
  | none => (catalogue.itemsOf query).length

/-- The items on a page of the results of a query. -/
def pageOf (catalogue : Catalogue ι) (query : String) (perPage page : Int) : List ι :=
  slice (some ((page - 1) * perPage)) (some (page * perPage)) (catalogue.itemsOf query)

/-- Answers a request and records it. -/
def search (request : SearchRequest) (catalogue : Catalogue ι) :
    Except Failure (SearchPage ι) × Catalogue ι :=
  let after := { catalogue with requests := catalogue.requests ++ [request] }
  let page : SearchPage ι :=
    { total := .count (catalogue.totalOn request.query request.page)
      items := catalogue.pageOf request.query request.perPage request.page }
  match catalogue.outages.lookup request.query with
  | some outage =>
    if outage.page = request.page then
      (.error (.fetch request.query (.refused outage.message outage.status)), after)
    else (.ok page, after)
  | none => (.ok page, after)

/-- A catalogue as a search server whose results are shown at a web site. -/
def server (webUrl : String) : SearchServer (Catalogue ι) ι where
  kind := "SearchClient"
  webUrl := .ok webUrl
  search := search

end Catalogue

end IssueBoard
