import IssueBoard.Query.Address
import IssueBoard.Text.Percent

/-!
# Search links

The page of a web site that shows the results of a search query, and the web site that belongs to a
search service. The first place where a query names a repository chooses the page of that repository
and is cut out of the query.
-/

namespace IssueBoard.Query

/-- The web site that links point at unless another one is configured. -/
def defaultWebUrl : String := "https://github.com"

/-- The address of the search service unless another one is configured. -/
def defaultServiceUrl : String := "https://api.github.com"

/-- What stands in front of the name of a repository in a query. -/
def repositoryMark : List Char := "repo:".toList

/-- The name of a repository and what stands behind it, if a text starts with the mark and a name. -/
def repositoryAhead? (cs : List Char) : Option (List Char × List Char) :=
  let marked := cs.drop repositoryMark.length
  let name := marked.takeWhile (!Text.isBlank ·)
  if repositoryMark.isPrefixOf cs && !name.isEmpty then
    some (name, marked.dropWhile (!Text.isBlank ·))
  else none

/-- A place where a query names a repository: the characters before the place, the name, and the
characters behind it. A blank in front of the mark belongs to the place. -/
structure Naming where
  before : List Char
  name : List Char
  after : List Char

/-- The first place behind a blank where a query names a repository. -/
def namingBehindBlank? : List Char → Option Naming
  | [] => none
  | c :: rest =>
    match if Text.isBlank c then repositoryAhead? rest else none with
    | some (name, after) => some { before := [], name, after }
    | none => (namingBehindBlank? rest).map fun found => { found with before := c :: found.before }

/-- The first place where a query names a repository: at its start or behind a blank. -/
def naming? (cs : List Char) : Option Naming :=
  match repositoryAhead? cs with
  | some (name, after) => some { before := [], name, after }
  | none => namingBehindBlank? cs

/-- What remains of a query as a component of an address: without blanks at its ends and with single
spaces inside. -/
def searchTerm (cs : List Char) : String :=
  Text.Percent.encode (String.ofList (Text.trimBlank (Text.singleSpaced cs)))

/-- The page of the site at `webUrl` that shows the results of a query. -/
def link (query webUrl : String) : String :=
  match naming? query.toList with
  | some found =>
    webUrl ++ "/" ++ String.ofList found.name ++ "/issues?q="
      ++ searchTerm (found.before ++ ' ' :: found.after)
  | none => webUrl ++ "/search?q=" ++ searchTerm query.toList

/-- A text without the slashes at its end. -/
def withoutTrailingSlashes (s : String) : String :=
  String.ofList (Text.dropTrailing (· == '/') s.toList)

/-- The path below the web site that a self-hosted service answers at. -/
def selfHostedPath : List Char := "/api/v3".toList

/-- The web site that belongs to the search service at an address: the site behind the default
service, the root that a self-hosted service stands below, or any other address without its path. -/
def webUrlOf (serviceUrl : String) : Except Fault String := do
  let address := withoutTrailingSlashes serviceUrl
  if address == defaultServiceUrl then return defaultWebUrl
  let cs := address.toList
  if selfHostedPath.isSuffixOf cs then
    return String.ofList (cs.take (cs.length - selfHostedPath.length))
  let (scheme, host) ← schemeAndHost address
  if scheme.isEmpty || host.isEmpty then return defaultWebUrl
  return String.ofList scheme ++ "://" ++ String.ofList host

end IssueBoard.Query
