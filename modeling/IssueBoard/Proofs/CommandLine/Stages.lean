import IssueBoard.CommandLine.Run

/-! # The stages of a run

A run loads its configuration, chooses the form of the text, connects to the search service, evaluates the
dashboard, renders it and writes the text. The stage that fails ends the run by its problem, and a failure
of one of the program's own kinds is told in one message.
-/

namespace IssueBoard.CommandLine

open Config

variable {τ : Type}

/-- The stages of a run, in order. -/
inductive Stage where
  | loading
  | choosing
  | connecting
  | evaluating
  | rendering
  | writing
  deriving DecidableEq

/-- Whether a stage comes before the dashboard is evaluated. -/
def Stage.isEarly : Stage → Bool
  | .loading | .choosing | .connecting => true
  | .evaluating | .rendering | .writing => false

/-- Whether the file that the arguments name is there and loads as a configuration. -/
def Setting.Loads (setting : Setting τ) (arguments : Arguments) (configuration : Configuration) : Prop :=
  ∃ path content, checkedPath arguments.path = .ok path ∧ setting.directory.read path = .ok content ∧
    Configuration.load content = .ok configuration

/-- The options of the client, from the environment and the arguments. -/
def Setting.service (setting : Setting τ) (arguments : Arguments) : Except Fault Service.Options := do
  let overrides := [("token", arguments.token), ("api_url", arguments.apiUrl),
    ("web_url", arguments.webUrl)].map fun (name, value) => (name, value.elim .null Data.text)
  let settings ← Service.Settings.ofEnvironment setting.environment overrides
  settings.options

/-- The host of author code and searches for a job. -/
def Setting.host (setting : Setting τ) (job : Job) : Script.Host (Service.Connection τ) Data where
  now := setting.now
  server := Service.server job.service setting.remote
  takeIn item store := Script.load store item

/-- The session that an evaluation starts from, with no request made so far. -/
def Setting.session (setting : Setting τ) : Script.Desk (Service.Connection τ) :=
  Script.Desk.ofServer { remote := setting.state }

/-- What a job's dashboard is evaluated to. -/
def Setting.evaluated (setting : Setting τ) (job : Job) : Except Failure Dashboard :=
  ((Evaluation.evaluateDashboard (setting.host job).world job.dashboard).runFrom setting.session).1

/-- Where a run fails, and why. -/
inductive Setting.FailsAt (setting : Setting τ) (arguments : Arguments) : Stage → Problem → Prop
  | path {problem : Problem} (malformed : checkedPath arguments.path = .error problem) :
    setting.FailsAt arguments .loading problem
  | file {path : String} {fault : FileFault} (checked : checkedPath arguments.path = .ok path)
      (unread : setting.directory.read path = .error fault) :
    setting.FailsAt arguments .loading (.file path fault)
  | configuration {path content : String} {failure : Failure}
      (checked : checkedPath arguments.path = .ok path) (read : setting.directory.read path = .ok content)
      (invalid : Configuration.load content = .error failure) :
    setting.FailsAt arguments .loading (.failure failure)
  | format {configuration : Configuration} {failure : Failure}
      (loads : setting.Loads arguments configuration)
      (unknown : Render.Format.ofName configuration.output.format = .error failure) :
    setting.FailsAt arguments .choosing (.failure failure)
  | service {configuration : Configuration} {format : Render.Format} {fault : Fault}
      (loads : setting.Loads arguments configuration)
      (chosen : Render.Format.ofName configuration.output.format = .ok format)
      (unfit : setting.service arguments = .error fault) :
    setting.FailsAt arguments .connecting (.failure (.fault fault))
  | evaluation {job : Job} {failure : Failure} (prepared : setting.job arguments = .ok job)
      (failed : setting.evaluated job = .error failure) :
    setting.FailsAt arguments .evaluating (.failure failure)
  | rendering {job : Job} {board : Dashboard} {failure : Failure}
      (prepared : setting.job arguments = .ok job) (evaluated : setting.evaluated job = .ok board)
      (failed : job.format.render board = .error failure) :
    setting.FailsAt arguments .rendering (.failure failure)
  | writing {job : Job} {board : Dashboard} {text path : String} {problem : Problem}
      (prepared : setting.job arguments = .ok job) (evaluated : setting.evaluated job = .ok board)
      (rendered : job.format.render board = .ok text) (file : job.destination = some path)
      (unwritten : setting.write path text = .error problem) :
    setting.FailsAt arguments .writing problem

section Stages
variable {setting : Setting τ} {arguments : Arguments}

/-- Once the configuration is loaded, a job takes a form and a client. -/
theorem job_of_loads {configuration : Configuration} (loads : setting.Loads arguments configuration) :
    setting.job arguments = (do
      let format ← (Render.Format.ofName configuration.output.format).mapError .failure
      let service ← (setting.service arguments).mapError (.failure <| .fault ·)
      return { dashboard := configuration.dashboard, format, service,
               destination := chooseDestination arguments.output configuration.output.filename }) := by
  obtain ⟨path, content, checked, read, loaded⟩ := loads
  rw [Setting.job, checked]
  show (setting.directory.read path).mapError _ >>= _ = _
  rw [read]
  show (Configuration.load content).mapError _ >>= _ = _
  rw [loaded]
  show (Render.Format.ofName configuration.output.format).mapError _ >>= _ = _
  cases Render.Format.ofName configuration.output.format with
  | error failure => rfl
  | ok format =>
    show (Service.Settings.ofEnvironment _ _).mapError _ >>= _ = (setting.service arguments).mapError _ >>= _
    rw [Setting.service]
    cases Service.Settings.ofEnvironment _ _ with
    | error fault => rfl
    | ok settings => rfl

/-- A stage before the evaluation that fails leaves no job to do. -/
theorem Setting.FailsAt.job_eq {stage : Stage} {problem : Problem}
    (fails : setting.FailsAt arguments stage problem) (early : stage.isEarly = true) :
    setting.job arguments = .error problem := by
  cases fails with
  | path malformed =>
    rw [Setting.job, malformed]
    rfl
  | file checked unread =>
    rw [Setting.job, checked]
    show (setting.directory.read _).mapError _ >>= _ = _
    rw [unread]
    rfl
  | configuration checked read invalid =>
    rw [Setting.job, checked]
    show (setting.directory.read _).mapError _ >>= _ = _
    rw [read]
    show (Configuration.load _).mapError _ >>= _ = _
    rw [invalid]
    rfl
  | format loads unknown =>
    rw [job_of_loads loads, unknown]
    rfl
  | service loads chosen unfit =>
    rw [job_of_loads loads, chosen, unfit]
    rfl
  | evaluation | rendering | writing => cases early

end Stages

/-! ## Endings -/

section Endings
variable {setting : Setting τ} {arguments : List String} {options : Arguments} {problem : Problem}

theorem run_of_job_error (parsed : Arguments.parse arguments = .ok (some options))
    (failed : setting.job options = .error problem) :
    run arguments setting = problem.outcome setting.directory { remote := setting.state } := by
  unfold run
  rw [parsed]
  dsimp only
  rw [failed]

end Endings

end IssueBoard.CommandLine
