import IssueBoard.Data.Display
import IssueBoard.Failure

/-!
# What goes wrong while a script runs

The causes that end a running script or expression, and their wording. Types are named in them as
`Value.typeName` names them.
-/

namespace IssueBoard.Script

/-- Why values cannot be filled into a text. -/
inductive FillingCause where
  /-- A value is left over. -/
  | unused
  /-- A value is missing. -/
  | missing
  /-- A value is asked for by name, but names lead nowhere. -/
  | noNames
  | openName
  /-- The text ends inside of a conversion. -/
  | cut
  | unknownLetter (letter : Char) (place : Nat)
  /-- A width or a precision is taken from a value that is no integer. -/
  | sizeType
  | widthTooLarge
  | precisionTooLarge
  | notReal (letter : Char) (value : String)
  | notInteger (letter : Char) (value : String)
  | notFloating (value : String)
  | notCharacter
  | noSuchCharacter

/-- What is wrong with a text that values are filled into. -/
def FillingCause.message : FillingCause → String
  | .unused => "not all arguments converted during string formatting"
  | .missing => "not enough arguments for format string"
  | .noNames => "format requires a mapping"
  | .openName => "incomplete format key"
  | .cut => "incomplete format"
  | .unknownLetter letter place => "unsupported format character '"
      ++ (if 31 ≤ letter.toNat ∧ letter.toNat ≤ 126 then String.singleton letter else "?")
      ++ "' (0x" ++ String.ofList (Nat.toDigits 16 letter.toNat) ++ ") at index "
      ++ Nat.repr place
  | .sizeType => "* wants int"
  | .widthTooLarge => "width too big"
  | .precisionTooLarge => "precision too big"
  | .notReal letter value => "%" ++ String.singleton letter
      ++ " format: a real number is required, not " ++ value
  | .notInteger letter value => "%" ++ String.singleton letter
      ++ " format: an integer is required, not " ++ value
  | .notFloating value => "must be real number, not " ++ value
  | .notCharacter => "%c requires int or char"
  | .noSuchCharacter => "%c arg not in range(0x110000)"

/-- The text of an error with arguments, which for a missing key is in its literal form. -/
def errorText (isKey : Bool) : (arguments : List Data) → Except Fault String
  | [] => .ok ""
  | [value] => if isKey then value.literal else value.toText
  | values => do return "(" ++ ", ".intercalate (← values.mapM Data.literal) ++ ")"

/-- An error whose text cannot be written. -/
structure UnspokenError where
  isKey : Bool
  arguments : List Data
  fault : Fault
  unwritten : errorText isKey arguments = .error fault

/-- Why a running script or expression ends early. -/
inductive Trouble where
  /-- Something other than author code failed in a way of the program's own; the failure is passed on as
  it is. -/
  | passed (failure : Failure) (own : failure.isOwn = true)
  /-- A number or a date could not be made. -/
  | fault (fault : Fault)
  /-- An error with this text was raised. -/
  | raised (text : String)
  /-- An error was raised that nobody can tell. -/
  | unspoken (error : UnspokenError)
  | divisionByZero
  | realDivisionByZero
  | integerDivisionByZero
  | integerRemainderByZero
  | realFloorDivisionByZero
  | realRemainderByZero
  | zeroToNegativePower
  | powerOverflow
  | zeroToComplexPower
  | complexOverflow
  | complexDivisionByZero
  | operands (op left right : String)
  | concatenation (left right : String)
  | repetition (count : String)
  | filling (cause : FillingCause)
  | signedOperand (op operand : String)
  | incomparable (op left right : String)
  /-- Values that hold themselves cannot be compared. -/
  | comparisonTooDeep
  | notContainer (container : String)
  | textMember (member : String)
  | listIndex (container index : String)
  | textIndex (index : String)
  | indexOutOfRange (container : String)
  | sliceIndex
  | zeroSliceStep
  /-- What is put in the place of a part with gaps has another size. -/
  | partSize (given wanted : Nat)
  | partSource (gaps : Bool)
  | notSubscriptable (container : String)
  | typeNotSubscriptable (type : String)
  | notAssignable (container : String)
  | notCallable (function : String)
  | notIterable (source : String)
  | noLength (value : String)
  | notAwaitable (value : String)
  | awaitedTwice
  | noAttribute (owner name : String)
  | fixedAttribute (owner name : String)
  | fixedTypeAttribute (name type : String)
  | noTypeAttribute (type name : String)
  | otherOwner (method value : String)
  | integerLiteral (base : Nat) (shown : String)
  | integerBase
  | textBaseOnly
  | notDecodable (value : String)
  | notIntegral (value : String)
  | notIndexLike (value : String)
  | zeroRangeStep
  | sumOfTexts
  | joinedItem (place : Nat) (item : String)
  | joinedSource
  | emptySequence (function : String)
  | unhashable (key : String)
  | emptySeparator
  | separatorArgument (argument : String)
  | stripArgument
  | textArgument (method argument : String)
  | affixArgument (method argument : String)
  | unknownName (name : String)
  | unassigned (name : String) (outside : Bool)
  | unknownParameter (name : String)
  | changedWhileVisited
  | argumentCount (text : String)
  | notAnError
  | nothingToRaise
  | outOfMemory
  | indexTooLarge
  | sizeTooLarge
  /-- A loop went on for longer than scripts may. -/
  | endless

/-- What went wrong. -/
def Trouble.message : Trouble → String
  | .passed f _ => f.message
  | .fault f => f.message
  | .raised text => text
  | .unspoken error => error.fault.message
  | .divisionByZero => "division by zero"
  | .realDivisionByZero => "float division by zero"
  | .integerDivisionByZero => "integer division or modulo by zero"
  | .integerRemainderByZero => "integer modulo by zero"
  | .realFloorDivisionByZero => "float floor division by zero"
  | .realRemainderByZero => "float modulo"
  | .zeroToNegativePower => "0.0 cannot be raised to a negative power"
  | .powerOverflow => "(34, 'Numerical result out of range')"
  | .zeroToComplexPower => "0.0 to a negative or complex power"
  | .complexOverflow => "complex exponentiation"
  | .complexDivisionByZero => "complex division by zero"
  | .operands op left right => "unsupported operand type(s) for " ++ op ++ ": '" ++ left
      ++ "' and '" ++ right ++ "'"
  | .concatenation left right => "can only concatenate " ++ left ++ " (not \"" ++ right
      ++ "\") to " ++ left
  | .repetition count => "can't multiply sequence by non-int of type '" ++ count ++ "'"
  | .filling cause => cause.message
  | .signedOperand op operand => "bad operand type for unary " ++ op ++ ": '" ++ operand ++ "'"
  | .incomparable op left right => "'" ++ op ++ "' not supported between instances of '" ++ left
      ++ "' and '" ++ right ++ "'"
  | .comparisonTooDeep => "maximum recursion depth exceeded in comparison"
  | .notContainer container => "argument of type '" ++ container ++ "' is not iterable"
  | .textMember member => "'in <string>' requires string as left operand, not " ++ member
  | .listIndex container index => container ++ " indices must be integers or slices, not " ++ index
  | .textIndex index => "string indices must be integers, not '" ++ index ++ "'"
  | .indexOutOfRange container => container ++ " index out of range"
  | .sliceIndex => "slice indices must be integers or None or have an __index__ method"
  | .zeroSliceStep => "slice step cannot be zero"
  | .partSize given wanted => "attempt to assign sequence of size " ++ Nat.repr given
      ++ " to extended slice of size " ++ Nat.repr wanted
  | .partSource gaps =>
    if gaps then "must assign iterable to extended slice" else "can only assign an iterable"
  | .notSubscriptable container => "'" ++ container ++ "' object is not subscriptable"
  | .typeNotSubscriptable type => "type '" ++ type ++ "' is not subscriptable"
  | .notAssignable container => "'" ++ container ++ "' object does not support item assignment"
  | .notCallable function => "'" ++ function ++ "' object is not callable"
  | .notIterable source => "'" ++ source ++ "' object is not iterable"
  | .noLength value => "object of type '" ++ value ++ "' has no len()"
  | .notAwaitable value => "object " ++ value ++ " can't be used in 'await' expression"
  | .awaitedTwice => "cannot reuse already awaited coroutine"
  | .noAttribute owner name => "'" ++ owner ++ "' object has no attribute '" ++ name ++ "'"
  | .noTypeAttribute type name => "type object '" ++ type ++ "' has no attribute '" ++ name ++ "'"
  | .otherOwner method value => "descriptor '" ++ method
      ++ "' for 'str' objects doesn't apply to a '" ++ value ++ "' object"
  | .fixedAttribute owner name =>
    "'" ++ owner ++ "' object attribute '" ++ name ++ "' is read-only"
  | .fixedTypeAttribute name type =>
    "cannot set '" ++ name ++ "' attribute of immutable type '" ++ type ++ "'"
  | .integerLiteral base shown => "invalid literal for int() with base " ++ Nat.repr base ++ ": "
      ++ shown
  | .integerBase => "int() base must be >= 2 and <= 36, or 0"
  | .textBaseOnly => "int() can't convert non-string with explicit base"
  | .notDecodable value =>
    if value == "str" then "decoding str is not supported"
    else "decoding to str: need a bytes-like object, " ++ value ++ " found"
  | .notIntegral value => "int() argument must be a string, a bytes-like object or a real number, "
      ++ "not '" ++ value ++ "'"
  | .notIndexLike value => "'" ++ value ++ "' object cannot be interpreted as an integer"
  | .zeroRangeStep => "range() arg 3 must not be zero"
  | .sumOfTexts => "sum() can't sum strings [use ''.join(seq) instead]"
  | .joinedItem place item => "sequence item " ++ Nat.repr place ++ ": expected str instance, "
      ++ item ++ " found"
  | .joinedSource => "can only join an iterable"
  | .emptySequence function => function ++ "() arg is an empty sequence"
  | .unhashable key => "unhashable type: '" ++ key ++ "'"
  | .separatorArgument argument => "must be str or None, not " ++ argument
  | .stripArgument => "strip arg must be None or str"
  | .emptySeparator => "empty separator"
  | .textArgument method argument => method ++ " must be str, not " ++ argument
  | .affixArgument method argument => method ++ " first arg must be str or a tuple of str, not "
      ++ argument
  | .unknownName name => "name '" ++ name ++ "' is not defined"
  | .unassigned name outside =>
    if outside then "cannot access free variable '" ++ name
      ++ "' where it is not associated with a value in enclosing scope"
    else "cannot access local variable '" ++ name
      ++ "' where it is not associated with a value"
  | .unknownParameter name =>
    "__dashboard_entry__() got an unexpected keyword argument '" ++ name ++ "'"
  | .changedWhileVisited => "dictionary changed size during iteration"
  | .argumentCount text => text
  | .notAnError => "exceptions must derive from BaseException"
  | .nothingToRaise => "No active exception to reraise"
  | .outOfMemory => ""
  | .indexTooLarge => "cannot fit 'int' into an index-sized integer"
  | .sizeTooLarge => "Python int too large to convert to C ssize_t"
  | .endless => "loop does not come to an end"

/-- The trouble of an error that is raised with arguments. -/
def Trouble.ofError (isKey : Bool) (arguments : List Data) : Trouble :=
  match unwritten : errorText isKey arguments with
  | .ok text => .raised text
  | .error reason => .unspoken { isKey, arguments, fault := reason, unwritten }

/-- A failure of something that a script called: failures of the program's own kinds are passed on,
and faults end the script as its own errors do. -/
def Trouble.ofFailure (failure : Failure) : Trouble :=
  if own : failure.isOwn then .passed failure own
  else
    match failure with
    | .fault f => .fault f
    | _ => .endless

/-- The failure that a trouble ends a run of author code with. -/
def Trouble.toFailure (kind : CodeKind) : Trouble → Failure
  | .passed f _ => f
  | .unspoken error => .fault error.fault
  | .endless => .endless kind
  | trouble => .script kind trouble.message

end IssueBoard.Script
