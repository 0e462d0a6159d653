import IssueBoard.Config.Integer
import IssueBoard.Config.Options
import IssueBoard.Number.Arithmetic
import IssueBoard.Query.Link

/-!
# Settings of the search service

How the search service is reached. Settings come from the caller or from environment variables, each
under two names: one with underscores, and one with capitals, which counts if the first is not given
or empty. From settings the options of a client are made, in which every text is trimmed.
-/

namespace IssueBoard.Service

/-- The options of a client. -/
structure Options where
  apiUrl : String := Query.defaultServiceUrl
  token : Option String := none
  /-- The time that a request may take, in milliseconds. -/
  timeout : Int := 30000
  /-- The name that the client gives itself. It is sent as it is set. -/
  userAgent : Data := .text "issue-analytics"
  webUrl : Option String := none

/-- Settings as they are given, with those that are not known by their names with underscores. -/
structure Settings where
  apiUrl : Option String := none
  token : Option String := none
  timeout : Option Int := none
  userAgent : Option String := none
  webUrl : Option String := none
  extra : List (String × Data) := []

namespace Settings

/-- The names of the settings, with underscores. -/
def names : List String := ["api_url", "token", "timeout_ms", "user_agent", "web_url"]

/-- Settings from named values. -/
def ofValues (values : List (String × Data)) : Except Fault Settings :=
  let options : Config.Options := values.map fun (name, value) => (.text name, value)
  let settings : Config.Reading Settings := do
    return {
      apiUrl := ← options.text "api_url"
      token := ← options.text "token"
      timeout := ← options.optional Config.readInteger "timeout_ms"
      userAgent := ← options.text "user_agent"
      webUrl := ← options.text "web_url"
      extra := values.filter fun (name, _) => !names.contains name }
  settings.mapError fun _ => .optionType

/-- The settings that environment variables give, under their names with underscores. Empty
variables do not count. -/
def fromEnvironment (environment : List (String × String)) : List (String × Data) :=
  [("token", "GITHUB_TOKEN"), ("api_url", "GITHUB_API_URL"),
      ("web_url", "GITHUB_SERVER_URL")].filterMap fun (name, source) =>
    match environment.lookup source with
    | some value => if value.isEmpty then none else some (name, .text value)
    | none => none

/-- The names that no value may have beside an environment: they mean the settings as a whole and
the environment itself. -/
def reserved : List String := ["cls", "environ"]

/-- Settings from environment variables and values that take precedence over them. -/
def ofEnvironment (environment : List (String × String)) (overrides : List (String × Data)) :
    Except Fault Settings :=
  if overrides.any fun (name, _) => reserved.contains name then .error .reservedSetting
  else
    ofValues (overrides.filter (fun (_, value) => !value.isNull) ++ fromEnvironment environment)

/-- The value of a setting: the one under its first name, or else the one under its second name, or
else the default. -/
def choose (settings : Settings) (first : Option Data) (second : String) (default : Data) : Data :=
  let choices := first.toList ++ (settings.extra.lookup second).toList
  (choices.find? Data.isTrue).getD default

/-- A text without blanks around it and without slashes at its end. -/
def trimmedUrl (url : String) : String := Query.withoutTrailingSlashes (Text.trim url)

/-- The whole part of a number of milliseconds, which has to be positive. -/
def wholeLimit (limit : Number) : Except Fault Int :=
  match limit.compare? (.integer 0) with
  | some .lt | some .eq => throw .timeoutNotPositive
  | _ => limit.truncate

/-- The time limit that a value gives, in whole milliseconds. -/
def timeLimit : Data → Except Fault Int
  | .flag b => wholeLimit (.integer (if b then 1 else 0))
  | value =>
    match value.number? with
    | some limit => wholeLimit limit
    | none => throw .timeoutNotPositive

/-- The address of the service that a value gives. -/
def serviceUrl : Data → Except Fault String
  | .text url => if Text.isBlankText url then throw .blankServiceUrl else pure (trimmedUrl url)
  | _ => throw .blankServiceUrl

/-- The address of the web site that a value gives, if any. -/
def site : Data → Except Fault (Option String)
  | .null => pure none
  | .text url => pure (some (trimmedUrl url))
  | _ => throw .webUrlNotText

/-- The options of a client with these settings. -/
def options (settings : Settings) : Except Fault Options := do
  let apiUrl ← serviceUrl
    (settings.choose (settings.apiUrl.map .text) "apiUrl" (.text Query.defaultServiceUrl))
  let timeout ← timeLimit
    (settings.choose (settings.timeout.map .integer) "timeoutMs" (.integer 30000))
  let userAgent := settings.choose (settings.userAgent.map .text) "userAgent"
    (.text "issue-analytics")
  let webUrl ← site (settings.choose (settings.webUrl.map .text) "webUrl" .null)
  return { apiUrl, token := settings.token.filter (!·.isEmpty), timeout, userAgent, webUrl }

end Settings

end IssueBoard.Service
