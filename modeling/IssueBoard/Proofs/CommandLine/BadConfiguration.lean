import IssueBoard.Proofs.CommandLine.Stages
import IssueBoard.Proofs.Config.Acceptance
import IssueBoard.Proofs.Data.Display
import IssueBoard.Proofs.Document.JsonFailure
import IssueBoard.Proofs.Document.YamlFailure
import IssueBoard.Proofs.Evaluation.Trace

/-! # Bad configurations

A text that is no configuration is complained about, and a run tells the complaint and ends. Some faults of
the readers underneath pass by the complaints, though, and a run ends by them without a word. They are
told by what shows in the text: numerals, nesting, escapes and scalars that the readers give up on, and
integers that are shown but have no text.
-/

namespace IssueBoard

namespace Config

/-- What a text has that keeps it from being loaded without a complaint. -/
inductive Defies (content : String) : Fault → Prop
  | numeral {run : List Char} (among : run <:+: content.toList) (digits : ∀ c ∈ run, c.isDigit = true)
    (long : integerDigitLimit < run.length) : Defies content (.numeralTooLong run.length)
  | nesting (many : nestingLimit < content.toList.countP Json.isOpening) :
    Defies content .nestedTooDeep
  | yaml {fault : Fault} (other : Json.read content = .error .malformed)
    (prevents : Yaml.Prevents content fault) : Defies content fault
  | figure {data : Data} (read : readDocument content = .ok data) (valid : Conforms IsScalar data)
    (hidden : ¬ Conforms IsShownScalar data) : Defies content .integerTooLong

theorem readDocument_error {content : String} {failure : Failure}
    (failed : readDocument content = .error failure) :
    (∃ place message, failure = .config place message) ∨
      ∃ fault, failure = .fault fault ∧ Defies content fault := by
  unfold readDocument at failed
  split at failed
  · cases failed
  · next digits read =>
    cases failed
    cases Json.read_error read with
    | longInteger among isDigit long => exact .inr ⟨_, rfl, .numeral among isDigit long⟩
  · next read =>
    cases failed
    cases Json.read_error read with
    | deep many => exact .inr ⟨_, rfl, .nesting many⟩
  · next other =>
    split at failed
    · cases failed
    · next fault read =>
      cases failed
      exact .inr ⟨fault, rfl, .yaml other (Yaml.read_fault read)⟩
    · cases failed
      exact .inl ⟨_, _, rfl⟩

/-! ## Building -/

theorem writes_toText (value : Scalar) : Writes value.toText := by
  cases value with
  | text s => exact writes_ok s
  | number n =>
    cases n with
    | integer n => exact writes_integerText n
    | real x => exact writes_ok _

theorem writes_cell (cell : CellOptions) : Writes cell.widget := by
  unfold CellOptions.widget
  split
  · exact (writes_toText _).bind fun _ => writes_ok _
  · exact writes_ok _

theorem writes_widget (options : WidgetOptions) : Writes options.widget := by
  cases options with
  | string cell => exact writes_cell cell
  | table caption headers rows =>
    refine (writes_mapM writes_cell headers).bind fun _ => ?_
    exact (writes_mapM (writes_mapM writes_cell) rows).bind fun _ => writes_ok _
  | _ => exact writes_ok _

theorem writes_build (board : BoardOptions) : Writes board.build := by
  have each (part : SectionOptions) : Writes part.build :=
    (writes_mapM writes_widget part.widgets).bind fun _ => writes_ok _
  exact (writes_mapM each board.sections).bind fun _ => writes_ok _

theorem ofData_error {data : Data} {failure : Failure} (failed : Configuration.ofData data = .error failure) :
    (∃ place message, failure = .config place message) ∨
      failure = .fault .integerTooLong ∧ Conforms IsScalar data ∧ ¬ Conforms IsShownScalar data := by
  cases data with
  | object options =>
    rcases bind_eq_error_iff.mp failed with complained | ⟨board, readMapped, unbuilt⟩
    · obtain ⟨complaint, -, rfl⟩ := mapError_eq_error_iff.mp complained
      exact .inl ⟨_, _, rfl⟩
    · have read := mapError_eq_ok_iff.mp readMapped
      obtain ⟨fault, built, rfl⟩ := mapError_eq_error_iff.mp unbuilt
      refine .inr ⟨congrArg Failure.fault (writes_build board fault built), ⟨options, rfl, ?_⟩, ?_⟩
      · exact (yields_readBoard_iff fun _ => yields_readScalar_iff).mp
          ⟨board, read, board.fits_of_all fun _ => trivial⟩
      · rintro ⟨_, ⟨⟩, valid⟩
        obtain ⟨other, same, fine⟩ := (yields_readBoard_iff fun _ => yields_hasText_iff).mpr valid
        cases read.symm.trans same
        obtain ⟨configuration, done⟩ := exists_build_iff.mpr fine
        cases built.symm.trans done
  | _ =>
    cases failed
    exact .inl ⟨_, _, rfl⟩

theorem load_error {content : String} {failure : Failure}
    (failed : Configuration.load content = .error failure) :
    (∃ place message, failure = .config place message) ∨
      ∃ fault, failure = .fault fault ∧ Defies content fault := by
  rcases bind_eq_error_iff.mp failed with failed | ⟨data, read, failed⟩
  · exact readDocument_error failed
  · rcases ofData_error failed with told | ⟨rfl, valid, hidden⟩
    · exact .inl told
    · exact .inr ⟨_, rfl, .figure read valid hidden⟩

end Config

namespace CommandLine

open Config

variable {τ : Type}

/-- Whether a run with these arguments reads a text as its configuration. -/
def Setting.Reads (setting : Setting τ) (arguments : List String) (content : String) : Prop :=
  ∃ found path, Arguments.parse arguments = .ok (some found) ∧ checkedPath found.path = .ok path ∧
    setting.directory.read path = .ok content

/-- A run whose configuration does not load has done nothing but find out. -/
theorem run_of_load {setting : Setting τ} {arguments : List String} {content : String} {failure : Failure}
    (reads : setting.Reads arguments content) (failed : Configuration.load content = .error failure) :
    run arguments setting =
      (Problem.failure failure).outcome setting.directory { remote := setting.state } := by
  obtain ⟨found, path, parsed, checked, read⟩ := reads
  have fails : setting.FailsAt found .loading (.failure failure) := .configuration checked read failed
  exact run_of_job_error parsed (fails.job_eq rfl)

/-- **A text is loaded or complained about, or it defies its readers.** A run that reads a text that is
complained about tells the complaint and ends with status 1; one that reads a text that defies its readers
ends by their fault. Both leave everything as it was. -/
theorem load_settled (content : String) :
    (∃ configuration, Configuration.load content = .ok configuration) ∨
    (∃ place message, Configuration.load content = .error (.config place message) ∧
      ∀ (τ : Type) (setting : Setting τ) (arguments : List String), setting.Reads arguments content →
        run arguments setting =
          { ending := .exit 1, errors := "error: " ++ (Failure.config place message).message ++ "\n",
            directory := setting.directory, connection := { remote := setting.state } }) ∨
    ∃ fault, Configuration.load content = .error (.fault fault) ∧ Defies content fault ∧
      ∀ (τ : Type) (setting : Setting τ) (arguments : List String), setting.Reads arguments content →
        run arguments setting =
          { ending := .escaped (.fault fault), directory := setting.directory,
            connection := { remote := setting.state } } := by
  cases loaded : Configuration.load content with
  | ok configuration => exact .inl ⟨configuration, rfl⟩
  | error failure =>
    rcases load_error loaded with ⟨place, message, rfl⟩ | ⟨fault, rfl, defies⟩
    · exact .inr (.inl ⟨place, message, rfl, fun τ setting arguments reads => run_of_load reads loaded⟩)
    · exact .inr (.inr ⟨fault, rfl, defies, fun τ setting arguments reads => run_of_load reads loaded⟩)

/-- A date that does not exist is neither loaded nor complained about, and a run that reads it ends without
a status. -/
theorem load_noDate :
    let content := "title: 2020-13-45\noutput: \x7bformat: json\x7d\n"
    (∀ configuration, Configuration.load content ≠ .ok configuration) ∧
    (∀ place message, Configuration.load content ≠ .error (.config place message)) ∧
    ∀ (setting : Setting Unit), setting.directory = { files := [("board.yml", content)] } →
      (run ["board.yml"] setting).ending = .escaped (.fault (.date .month)) := by
  intro content
  have unread : readDocument content = .error (.fault (.date .month)) :=
    eq_error_of_failure? (by decide +kernel)
  have loaded : Configuration.load content = .error (.fault (.date .month)) := by
    rw [Configuration.load, unread]
    rfl
  refine ⟨?_, ?_, ?_⟩
  · rw [loaded]
    exact nofun
  · rw [loaded]
    exact nofun
  · intro setting directory
    have reads : setting.Reads ["board.yml"] content := by
      refine ⟨{ path := "board.yml" }, "board.yml", by decide +kernel, ?_, ?_⟩
      · rw [checkedPath, if_neg (by decide +kernel)]
        exact congrArg Except.ok (by decide +kernel)
      · rw [directory]
        decide +kernel
    rw [run_of_load reads loaded]
    rfl

end CommandLine

end IssueBoard
