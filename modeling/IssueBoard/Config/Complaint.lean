import IssueBoard.Failure

/-!
# Complaints about configurations

What is wrong with a configuration, and where. A place is the path of option names and list
positions that leads to the part at fault.
-/

namespace IssueBoard.Config

/-- What is wrong with a part of a configuration. -/
inductive Cause where
  | notText
  /-- Bytes that are not the encoding of a text. -/
  | notUnicode
  | notList
  /-- Something else stands where the options of a model are expected. -/
  | notOptions (model : String)
  | notWidget
  | noType
  | unknownType (shown : String)
  | missing (option : String)
  | unexpected (option : String)
  /-- The name of an option is no text. -/
  | nameNotText
  /-- None of some options is given, of which one has to be. -/
  | noSource (options : List String)
  /-- Several options are given that exclude each other. -/
  | manySources (options : List String)
  | notInteger
  /-- A text that is no integer numeral. -/
  | notNumeral
  | fractional
  | infinite
  | tooLarge
  | negative
  deriving DecidableEq

/-- A name in quotes. -/
def quotedName (name : String) : String := "'" ++ name ++ "'"

/-- Names as alternatives: commas between them, and `or` before the last. -/
def alternatives : List String → String
  | [] => ""
  | [name] => quotedName name
  | [first, last] => quotedName first ++ " or " ++ quotedName last
  | name :: rest => quotedName name ++ ", " ++ alternatives rest

/-- What went wrong. -/
def Cause.message : Cause → String
  | .notText => "Input should be a valid string"
  | .notUnicode => "Input should be a valid string, unable to parse raw data as a unicode string"
  | .notList => "Input should be a valid list"
  | .notOptions model => "Input should be a valid dictionary or instance of " ++ model
  | .notWidget => "Input should be a valid dictionary or object to extract fields from"
  | .noType => "Unable to extract tag using discriminator 'type'"
  | .unknownType shown => "Input tag '" ++ shown ++ "' found using 'type' does not match any of "
      ++ "the expected tags: 'number', 'string', 'graph', 'table'"
  | .missing option => "missing required option '" ++ option ++ "'"
  | .unexpected option => "unexpected option '" ++ option ++ "'"
  | .nameNotText => "Keys should be strings"
  | .noSource options => "expected one of: " ++ alternatives options
  | .manySources options => "expected only one of: " ++ alternatives options
  | .notInteger => "Input should be a valid integer"
  | .notNumeral => "Input should be a valid integer, unable to parse string as an integer"
  | .fractional => "Input should be a valid integer, got a number with a fractional part"
  | .infinite => "Input should be a finite number"
  | .tooLarge => "Unable to parse input string as an integer, exceeded maximum size"
  | .negative => "Input should be greater than or equal to 0"

/-- A cause and the place where it arose. -/
structure Complaint where
  place : List String := []
  cause : Cause
  deriving DecidableEq

namespace Complaint

/-- The same complaint, as seen from around the given part. -/
def inside (part : String) (complaint : Complaint) : Complaint :=
  { complaint with place := part :: complaint.place }

/-- The place as a text; the whole configuration has none. -/
def location (complaint : Complaint) : Option String :=
  let joined := ".".intercalate complaint.place
  if joined.isEmpty then none else some joined

/-- A complaint as the failure of a run. -/
def toFailure (complaint : Complaint) : Failure :=
  .config complaint.location complaint.cause.message

end Complaint

/-- What is read from a part of a configuration, or the first complaint about it. -/
abbrev Reading := Except Complaint

/-- Complains about the part at hand. -/
def complain {α : Type} (cause : Cause) : Reading α := .error { cause }

/-- Reads a part; complaints name the part. -/
def within {α : Type} (part : String) (reading : Reading α) : Reading α :=
  reading.mapError (·.inside part)

end IssueBoard.Config
