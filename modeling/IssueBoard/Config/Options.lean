import IssueBoard.Config.Complaint
import IssueBoard.Data.Display

/-!
# Reading options

An object of a configuration is a set of options. The options of an object are read in a fixed
order, and after them the object is searched for unknown names, so the first complaint does not
depend on the order in which the options are written. Null stands for an absent option.
-/

namespace IssueBoard.Config

/-- The options of an object, in the order in which they are written. -/
abbrev Options := List (Atom × Data)

/-- Reads a text, which may be given as the bytes that encode it. -/
def readText : Data → Reading String
  | .text s => .ok s
  | .atom (.bytes content) =>
    match String.fromUTF8? ⟨content.toArray⟩ with
    | some s => .ok s
    | none => complain .notUnicode
  | _ => complain .notText

/-- Reads the items of a list from a position on. -/
def readItems {α : Type} (read : Data → Reading α) (position : Nat) :
    List Data → Reading (List α)
  | [] => .ok []
  | item :: rest => do
    let first ← within (Nat.repr position) (read item)
    return first :: (← readItems read (position + 1) rest)

/-- Reads a list; a set counts as one. -/
def readList {α : Type} (read : Data → Reading α) (value : Data) : Reading (List α) :=
  match value.items? with
  | some items => readItems read 0 items
  | none => complain .notList

/-- Reads the options of a model. -/
def readOptions (model : String) : Data → Reading Options
  | .object options => .ok options
  | _ => complain (.notOptions model)

namespace Options

/-- The value of an option. -/
def find? (options : Options) (name : String) : Option Data := Data.lookup? (.text name) options

/-- Reads an option that may be absent. -/
def optional {α : Type} (options : Options) (read : Data → Reading α) (name : String) :
    Reading (Option α) :=
  match options.find? name with
  | none => .ok none
  | some value => if value.isNull then .ok none else within name (some <$> read value)

/-- Reads an option that has to be there. -/
def required {α : Type} (options : Options) (read : Data → Reading α) (name : String) :
    Reading α :=
  within name <| match options.find? name with
    | none => complain (.missing name)
    | some value => read value

/-- Reads a list that is empty unless the option is there. -/
def items {α : Type} (options : Options) (read : Data → Reading α) (name : String) :
    Reading (List α) :=
  match options.find? name with
  | none => .ok []
  | some value => within name (readList read value)

/-- Reads a text that may be absent. -/
def text (options : Options) (name : String) : Reading (Option String) :=
  options.optional readText name

/-- An option's name as it stands in a place. -/
def nameShown : Atom → String
  | .text name => name
  | .flag b => if b then "1" else "0"
  | name => name.literal.toOption.getD ""

/-- Complains about the first option whose name is no text, or is not among the known ones. -/
def checkNames (isKnown : String → Bool) : Options → Reading Unit
  | [] => .ok ()
  | (name, _) :: rest =>
    match name with
    | .text known =>
      if isKnown known then checkNames isKnown rest
      else within known (complain (.unexpected known))
    | name => within (nameShown name) (complain .nameNotText)

/-- Complains about the first option that is not one of those named. -/
def only (options : Options) (names : List String) : Reading Unit :=
  options.checkNames names.contains

end Options

/-- The one of several options that is given. -/
def single {α : Type} (choices : List (String × Option α)) : Reading α :=
  match choices.filterMap fun (name, value) => value.map fun found => (name, found) with
  | [(_, found)] => .ok found
  | [] => complain (.noSource (choices.map (·.1)))
  | several => complain (.manySources (several.map (·.1)))

end IssueBoard.Config
