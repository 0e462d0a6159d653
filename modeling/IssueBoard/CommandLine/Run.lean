import IssueBoard.Board.Evaluate
import IssueBoard.CommandLine.Arguments
import IssueBoard.CommandLine.Directory
import IssueBoard.Config.Load
import IssueBoard.Render.Format
import IssueBoard.Script.Host
import IssueBoard.Service.Client

/-!
# Runs of the command line

A run loads a configuration, evaluates its dashboard, renders it and writes the text to one place.
Nothing is written unless all of this succeeds. What a run changes is its directory and its
connection to the search service.
-/

namespace IssueBoard.CommandLine

/-- What a run starts from. -/
structure Setting (τ : Type) where
  now : Calendar.Instant
  environment : List (String × String)
  directory : Directory
  /-- The other side of the connection to the search service, and the state that it is in. -/
  remote : Service.Remote τ
  state : τ

/-- Why a run fails. -/
inductive Problem where
  | failure (failure : Failure)
  | file (path : String) (fault : FileFault)

/-- What is wrong, if a run can tell; other failures end it without a message. -/
def Problem.message? : Problem → Option String
  | .failure cause => cause.kind?.map fun _ => cause.message
  | .file path fault => some (fault.message path)

/-- What there is to do: a dashboard, the form in which it is written, the place that the text goes
to, and the options of the client. -/
structure Job where
  dashboard : Dashboard
  format : Render.Format
  destination : Option String
  service : Service.Options

variable {τ : Type}

/-- The first of two paths that is given and not empty. -/
def chooseDestination (first second : Option String) : Option String :=
  (first.filter (!·.isEmpty)).or (second.filter (!·.isEmpty))

/-- The normal form of a path, which holds no null character. -/
def checkedPath (path : String) : Except Problem String :=
  if path.toList.contains '\x00' then .error (.failure (.fault .nullCharacter))
  else .ok (normalPath path)

/-- What the arguments ask for in a setting. -/
def Setting.job (setting : Setting τ) (arguments : Arguments) : Except Problem Job := do
  let path ← checkedPath arguments.path
  let content ← (setting.directory.read path).mapError (.file path ·)
  let configuration ← (Config.Configuration.load content).mapError .failure
  let format ← (Render.Format.ofName configuration.output.format).mapError .failure
  let overrides := [("token", arguments.token), ("api_url", arguments.apiUrl),
    ("web_url", arguments.webUrl)].map fun (name, value) => (name, value.elim .null Data.text)
  let settings ← (Service.Settings.ofEnvironment setting.environment overrides).mapError
    (.failure <| .fault ·)
  let service ← settings.options.mapError (.failure <| .fault ·)
  return {
    dashboard := configuration.dashboard
    format
    destination := chooseDestination arguments.output configuration.output.filename
    service }

/-- The text of a job's dashboard, and the connection after its evaluation. -/
def Setting.text (setting : Setting τ) (job : Job) :
    Except Problem String × Service.Connection τ :=
  let host : Script.Host (Service.Connection τ) Data :=
    { now := setting.now
      server := Service.server job.service setting.remote
      takeIn := fun item store => Script.load store item }
  let (result, desk) := (Evaluation.evaluateDashboard host.world job.dashboard).runFrom
    (Script.Desk.ofServer { remote := setting.state })
  ((result.bind job.format.render).mapError .failure, desk.state.server.close)

/-- How a run ends: with an exit status, or without one by a failure that it cannot tell. -/
inductive Ending where
  | exit (status : Nat)
  | escaped (failure : Failure)
  deriving DecidableEq

/-- What a run leaves. -/
structure Outcome (τ : Type) where
  ending : Ending
  output : String := ""
  errors : String := ""
  directory : Directory
  connection : Service.Connection τ

/-- The end of a run by a problem. -/
def Problem.outcome (problem : Problem) (directory : Directory)
    (connection : Service.Connection τ) : Outcome τ :=
  match problem.message?, problem with
  | some message, _ =>
    { ending := .exit 1, errors := "error: " ++ message ++ "\n", directory, connection }
  | none, .failure cause => { ending := .escaped cause, directory, connection }
  | none, .file .. => { ending := .exit 1, directory, connection }

/-- The directory of a setting after a text is written to its destination. -/
def Setting.write (setting : Setting τ) (destination text : String) :
    Except Problem Directory := do
  let path ← checkedPath destination
  (setting.directory.write path text).mapError (.file path ·)

/-- Writes a text to its destination, or gives it as output if there is none. -/
def Setting.finish (setting : Setting τ) (destination : Option String) (text : String)
    (connection : Service.Connection τ) : Outcome τ :=
  match destination with
  | none => { ending := .exit 0, output := text, directory := setting.directory, connection }
  | some path =>
    match setting.write path text with
    | .ok directory => { ending := .exit 0, directory, connection }
    | .error problem => problem.outcome setting.directory connection

/-- Runs the command line. -/
def run (arguments : List String) (setting : Setting τ) : Outcome τ :=
  let directory := setting.directory
  let connection : Service.Connection τ := { remote := setting.state }
  match Arguments.parse arguments with
  | .error usage =>
    { ending := .exit 2, errors := "issue-analytics: error: " ++ usage.message ++ "\n",
      directory, connection }
  | .ok none => { ending := .exit 0, directory, connection }
  | .ok (some arguments) =>
    match setting.job arguments with
    | .error problem => problem.outcome directory connection
    | .ok job =>
      match setting.text job with
      | (.error problem, connection) => problem.outcome directory connection
      | (.ok text, connection) => setting.finish job.destination text connection

end IssueBoard.CommandLine
