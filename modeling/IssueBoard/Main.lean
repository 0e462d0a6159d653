import IssueBoard.CommandLine.Run
import Std.Time.DateTime.Timestamp

/-!
# The command line

Reads the files and the environment variables that a run can see, runs it, and writes what it
leaves. There is no connection to a search service here, so searches fail.
-/

open IssueBoard CommandLine

namespace IssueBoard.CommandLine

/-- The other side of a connection that cannot be made. -/
def noService : Service.Remote Unit := fun _ state =>
  (.broken "cannot connect to the search service", state)

/-- The current instant, in universal time. -/
def currentInstant : IO Calendar.Instant := do
  let stamp ← Std.Time.Timestamp.now
  let epoch : Int := 719162
  let micros := stamp.toNanosecondsSinceUnixEpoch.val / 1000
  let first := Calendar.Instant.midnight ⟨1970, 1, 1, by decide⟩
  return (Calendar.Instant.ofTotal? (epoch * Calendar.dayLength + micros)).getD first

/-- The environment variables that are set, of those that settings come from. -/
def currentEnvironment : IO (List (String × String)) := do
  let names := ["GITHUB_TOKEN", "GITHUB_API_URL", "GITHUB_SERVER_URL"]
  let values ← names.mapM fun name => IO.getEnv name
  return (names.zip values).filterMap fun (name, value) => value.map fun value => (name, value)

/-- The directory that holds the file at a path, if it can be read. -/
def directoryOf (path : String) : IO Directory := do
  try return { files := [(normalPath path, ← IO.FS.readFile path)] }
  catch _ => return {}

/-- The setting in which also the directory is known that the text goes to, if it is there. -/
def withDestination (setting : Setting Unit) (arguments : Arguments) : IO (Setting Unit) := do
  match setting.job arguments with
  | .ok { destination := some path, .. } =>
    let folder := Directory.parent (normalPath path)
    try
      let _ ← IO.FS.realPath folder
      return { setting with directory := { setting.directory with folders := [folder] } }
    catch _ => return setting
  | _ => return setting

end IssueBoard.CommandLine

/-- Runs the command line on the arguments of the program. -/
def main (arguments : List String) : IO UInt32 := do
  let empty : Setting Unit :=
    { now := ← currentInstant, environment := ← currentEnvironment, directory := {}
      remote := noService, state := () }
  let setting ← match Arguments.parse arguments with
    | .ok (some asked) =>
      withDestination { empty with directory := ← directoryOf asked.path } asked
    | _ => pure empty
  let outcome := run arguments setting
  for (path, text) in outcome.directory.changes setting.directory do
    IO.FS.writeFile path text
  IO.print outcome.output
  IO.eprint outcome.errors
  match outcome.ending with
  | .exit status => return status.toUInt32
  | .escaped failure => throw (IO.userError failure.message)
