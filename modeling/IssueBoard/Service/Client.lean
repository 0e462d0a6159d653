import IssueBoard.Number.Arithmetic
import IssueBoard.Query.Server
import IssueBoard.Service.Settings

/-!
# Clients of the search service

A client asks the search service for pages of results over a connection. The connection is opened
before the first request; what is on its other side is left open.
-/

namespace IssueBoard.Service

/-- A request to the service. -/
structure Request where
  url : String
  parameters : List (String × String)
  headers : List (String × Data)

/-- What a request comes to. -/
inductive Response where
  /-- An answer. The body is read as text or as data, depending on the status. -/
  | answer (status : Int) (reason : Option String) (body : String) (content : Data)
  | timeout
  | broken (message : String)

/-- What happens on a connection. -/
inductive Event where
  /-- The connection is opened, with a time limit in seconds. -/
  | opened (timeout : Binary64)
  | asked (request : Request)
  | closed

/-- The other side of a connection, with states `τ`. -/
abbrev Remote (τ : Type) := Request → τ → Response × τ

/-- A connection: the state of the other side, and what has happened so far. -/
structure Connection (τ : Type) where
  remote : τ
  isOpen : Bool := false
  events : List Event := []

namespace Connection

variable {τ : Type}

/-- Notes an event. -/
def note (connection : Connection τ) (event : Event) : Connection τ :=
  { connection with events := connection.events ++ [event] }

/-- Closes a connection that is open. -/
def close (connection : Connection τ) : Connection τ :=
  if connection.isOpen then { connection.note .closed with isOpen := false } else connection

end Connection

namespace Options

/-- The web site that shows the same searches. -/
def site (options : Options) : Except Failure String :=
  match options.webUrl.filter (!·.isEmpty) with
  | some url => .ok url
  | none => (Query.webUrlOf options.apiUrl).mapError .fault

/-- The headers of every request. -/
def headers (options : Options) : List (String × Data) :=
  [("Accept", .text "application/vnd.github+json"), ("User-Agent", options.userAgent)]
    ++ (options.token.filter (!·.isEmpty)).toList.map fun token =>
      ("Authorization", .text ("Bearer " ++ token))

/-- The request for a page of the issues that a query finds. -/
def issueRequest (options : Options) (search : SearchRequest) : Request :=
  { url := options.apiUrl ++ "/search/issues"
    parameters := [("q", search.query), ("per_page", Int.repr search.perPage),
      ("page", Int.repr search.page)]
    headers := options.headers }

end Options

/-- The page that an answer holds. -/
def pageOf (content : Data) : Except FetchCause (SearchPage Data) :=
  match content with
  | .object _ =>
    let total := match content.field? "total_count" with
      | some (.integer n) => some (Total.count n)
      | some (.flag b) => some (Total.flag b)
      | _ => none
    match total, content.field? "items" with
    | some total, some (.list items) => .ok { total, items }
    | _, _ => .error .incomplete
  | _ => .error .notAnObject

/-- The page that a response gives; answers from status 400 on give none. -/
def Response.page (options : Options) : Response → Except FetchCause (SearchPage Data)
  | .answer status reason body content =>
    if 400 ≤ status then .error (.status status reason body) else pageOf content
  | .timeout => .error (.timeout options.timeout)
  | .broken message => .error (.connection message)

variable {τ : Type}

/-- Opens a connection that is not open. -/
def Options.opened (options : Options) (connection : Connection τ) :
    Except Failure (Connection τ) :=
  if connection.isOpen then .ok connection
  else
    match (Number.integer options.timeout).quotient (.integer 1000) with
    | .ok seconds => .ok { connection.note (.opened seconds) with isOpen := true }
    | .error fault => .error (.fault fault)

/-- Asks the service for a page. -/
def search (options : Options) (remote : Remote τ) (request : SearchRequest)
    (connection : Connection τ) : Except Failure (SearchPage Data) × Connection τ :=
  match request.kind with
  | .other name =>
    match name.changeable? with
    | some kind => (.error (.fault (.unhashable kind)), connection)
    | none => (.error (.queryType (name.toText.toOption.getD "")), connection)
  | .issue =>
    match options.opened connection with
    | .error failure => (.error failure, connection)
    | .ok connection =>
      let asked := options.issueRequest request
      let (response, after) := remote asked connection.remote
      ((response.page options).mapError (.fetch request.query ·),
        { connection.note (.asked asked) with remote := after })

/-- A client as a search server. -/
def server (options : Options) (remote : Remote τ) : SearchServer (Connection τ) Data where
  kind := "GitHubSearchClient"
  webUrl := options.site
  search := search options remote

/-- The other side of a connection that gives the responses of a list, one after the other. -/
def recorded : Remote (List Response) := fun _ responses =>
  match responses with
  | [] => (.broken "no response", [])
  | response :: rest => (response, rest)

end IssueBoard.Service
