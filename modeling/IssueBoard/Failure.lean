/-!
# Failures

Every way in which a dashboard can fail to load, evaluate or render, as a cause. The wording of all
of them is in `Failure.message`. Failures of the program's own kinds end a run with a message;
a `Fault` is a failure of the arithmetic or the conversions underneath.
-/

namespace IssueBoard

/-- What author code is: one expression, or the statements of a script. -/
inductive CodeKind where
  | expression
  | script
  deriving DecidableEq

/-- The word for a kind of code. -/
def CodeKind.word : CodeKind → String
  | .expression => "expression"
  | .script => "script"

/-- The broad category of a failure. -/
inductive FailureKind where
  | grammar
  | scope
  | typeConstraint
  | remote
  | script
  | config
  | render
  deriving DecidableEq

/-- The word for a category of failures. -/
def FailureKind.word : FailureKind → String
  | .grammar => "grammar"
  | .scope => "scope"
  | .typeConstraint => "type_constraint"
  | .remote => "remote"
  | .script => "script"
  | .config => "config"
  | .render => "render"

/-- The language of a text that cannot be parsed. -/
inductive Grammar where
  | date
  | template
  | code
  deriving DecidableEq

/-- What is wrong with a text of one of the small languages. -/
inductive GrammarCause where
  /-- A date expression goes on without a sign. -/
  | operatorExpected
  /-- No adjustment of a date stands here. -/
  | adjustmentExpected
  /-- An expression in a template is never closed. -/
  | unterminatedExpression
  /-- There is nothing to evaluate. -/
  | emptyExpression
  /-- Author code is not well formed. -/
  | malformedCode (kind : CodeKind)
  deriving DecidableEq

/-- The language that a cause belongs to. -/
def GrammarCause.grammar : GrammarCause → Grammar
  | .operatorExpected | .adjustmentExpected => .date
  | .unterminatedExpression => .template
  | .emptyExpression | .malformedCode _ => .code

/-- A text that cannot be parsed, with the place where parsing stopped, in characters. -/
structure GrammarError where
  cause : GrammarCause
  position : Option Nat
  source : String
  deriving DecidableEq

namespace GrammarError

/-- The source from the place of the error on. -/
def remainder (e : GrammarError) : String :=
  String.ofList (e.source.toList.drop (e.position.getD 0))

/-- What went wrong. -/
def message (e : GrammarError) : String :=
  match e.cause with
  | .operatorExpected => "operator expected, got '" ++ e.remainder ++ "'"
  | .adjustmentExpected => "date adjustment expected, got '" ++ e.remainder ++ "'"
  | .unterminatedExpression => "unterminated expression, got '" ++ e.remainder ++ "'"
  | .emptyExpression => "empty expression"
  | .malformedCode kind => "invalid " ++ kind.word ++ ": not well formed"

/-- The message, and below it the source with a caret under the place of the error. -/
def messageInContext (e : GrammarError) : String :=
  match e.position with
  | none => e.message
  | some position =>
    let pointer := String.ofList (List.replicate position ' ') ++ "^"
    e.message ++ "\n  " ++ e.source ++ "\n  " ++ pointer

end GrammarError

/-- Why a name cannot be bound in a scope. -/
inductive ScopeCause where
  /-- The name belongs to one of the scope's own helpers. -/
  | reserved
  /-- The name is no identifier. -/
  | malformed
  deriving DecidableEq

/-- Why a date or a part of it does not exist. -/
inductive DateFault where
  | year (year : Int)
  | month
  | day
  | hour
  | minute
  | second
  deriving DecidableEq

/-- Why an address cannot be taken apart. -/
inductive AddressFault where
  /-- Brackets do not match, or do not enclose all of a host. -/
  | brackets
  /-- An address of version four stands between brackets. -/
  | versionFour
  /-- An address of a version still to come is not well formed. -/
  | laterVersion
  /-- Something that is no address stands for one; it is kept in its literal form. -/
  | unknown (shown : String)
  /-- A host holds a character that stands for a separator. -/
  | lookalike (host : String)
  deriving DecidableEq

/-- What is wrong with an address. -/
def AddressFault.message : AddressFault → String
  | .brackets => "Invalid IPv6 URL"
  | .versionFour => "An IPv4 address cannot be in brackets"
  | .laterVersion => "IPvFuture address is invalid"
  | .unknown shown => shown ++ " does not appear to be an IPv4 or IPv6 address"
  | .lookalike host => "netloc '" ++ host
      ++ "' contains invalid characters under NFKC normalization"

/-- A failure of the arithmetic or the conversions underneath the program. -/
inductive Fault where
  /-- An integer has too many digits to be written. -/
  | integerTooLong
  /-- A text has too many digits to be read as an integer; their count is kept. -/
  | numeralTooLong (digits : Nat)
  /-- A date or a time of day does not exist. -/
  | date (cause : DateFault)
  /-- A shifted date leaves the calendar. -/
  | calendarOverflow
  /-- A shift has too many days. -/
  | shiftTooLong (days : Int)
  /-- A number does not fit a machine word of the calendar. -/
  | wordOverflow
  /-- A year lies above or below the machine's integers. -/
  | yearOverflow (above : Bool)
  /-- A year does not even fit a long machine word. -/
  | longOverflow
  /-- An infinity has no integer part. -/
  | infiniteToInteger
  /-- A not-a-number has no integer part. -/
  | nanToInteger
  /-- An integer is too large for a floating-point number. -/
  | integerToReal
  /-- The quotient of two integers is too large for a floating-point number. -/
  | quotientToReal
  /-- A widget has a kind that nothing is known of. -/
  | unknownWidget (kind : String)
  /-- A value of a kind that can change stands for a kind of query. -/
  | unhashable (kind : String)
  /-- An address cannot be taken apart. -/
  | address (cause : AddressFault)
  /-- A client option has the wrong type. -/
  | optionType
  /-- A setting has a name that no setting may have. -/
  | reservedSetting
  /-- The address of the search service is blank, or no text. -/
  | blankServiceUrl
  /-- The time limit of requests is no positive number. -/
  | timeoutNotPositive
  /-- The address of the web site is no text. -/
  | webUrlNotText
  /-- Author code holds a null character. -/
  | nullCharacter
  /-- A name in author code spells a constant in unusual letters. -/
  | constantName
  /-- A search result that should be an object is something else. -/
  | notAnItem
  /-- A link is no text. -/
  | linkNotText
  /-- A figure is no number. -/
  | figureType
  /-- A value in the query cache is of no use as an entry: it has no attributes of one. -/
  | notAnEntry
  /-- A value in the query cache, or in an entry of it, does not have the type that is needed. -/
  | entryType
  /-- A number is above all code points. -/
  | codePoint
  /-- A scalar that is tagged as a number is no numeral. -/
  | malformedNumeral
  /-- A scalar that is tagged as a number is empty. -/
  | emptyNumeral
  /-- A scalar that is tagged as a truth value is no word for one. -/
  | unknownFlag (word : String)
  /-- A scalar that is tagged as a time stamp is none. -/
  | malformedTimestamp
  /-- A node that is tagged as a time stamp is no scalar. -/
  | notScalar
  /-- The text of a node is looked for in the node itself. -/
  | endlessText
  /-- Values, or parts of code, stand too deep inside one another. -/
  | nestedTooDeep
  /-- A time zone lies a day or more from the standard one. -/
  | zoneOffset
  deriving DecidableEq

/-- The sort of a fault. -/
inductive FaultKind where
  | value
  | overflow
  | type
  | validation
  | attribute
  | key
  | index
  | recursion
  deriving DecidableEq

namespace Fault

/-- The sort that a fault belongs to. -/
def kind : Fault → FaultKind
  | .integerTooLong | .numeralTooLong _ | .date _ | .nanToInteger | .address _
  | .blankServiceUrl | .timeoutNotPositive | .nullCharacter | .constantName | .codePoint
  | .malformedNumeral | .zoneOffset => .value
  | .calendarOverflow | .shiftTooLong _ | .wordOverflow | .yearOverflow _ | .longOverflow
  | .infiniteToInteger | .integerToReal | .quotientToReal => .overflow
  | .unknownWidget _ | .unhashable _ | .reservedSetting | .notScalar | .entryType
  | .figureType => .type
  | .optionType => .validation
  | .notAnItem | .linkNotText | .notAnEntry | .webUrlNotText | .malformedTimestamp => .attribute
  | .unknownFlag _ => .key
  | .emptyNumeral => .index
  | .endlessText | .nestedTooDeep => .recursion

/-- What went wrong. -/
def message : Fault → String
  | .integerTooLong => "Exceeds the limit (4300 digits) for integer string conversion; "
      ++ "use sys.set_int_max_str_digits() to increase the limit"
  | .numeralTooLong digits => "Exceeds the limit (4300 digits) for integer string conversion: "
      ++ "value has " ++ Nat.repr digits
      ++ " digits; use sys.set_int_max_str_digits() to increase the limit"
  | .date (.year year) => "year " ++ Int.repr year ++ " is out of range"
  | .date .month => "month must be in 1..12"
  | .date .day => "day is out of range for month"
  | .date .hour => "hour must be in 0..23"
  | .date .minute => "minute must be in 0..59"
  | .date .second => "second must be in 0..59"
  | .calendarOverflow => "date value out of range"
  | .shiftTooLong days => "days=" ++ Int.repr days ++ "; must have magnitude <= 999999999"
  | .wordOverflow => "Python int too large to convert to C int"
  | .yearOverflow above => if above then "signed integer is greater than maximum"
      else "signed integer is less than minimum"
  | .longOverflow => "Python int too large to convert to C long"
  | .infiniteToInteger => "cannot convert float infinity to integer"
  | .nanToInteger => "cannot convert float NaN to integer"
  | .integerToReal => "int too large to convert to float"
  | .quotientToReal => "integer division result too large for a float"
  | .unknownWidget kind => "unknown widget kind: " ++ kind
  | .unhashable kind => "unhashable type: '" ++ kind ++ "'"
  | .address cause => cause.message
  | .optionType => "invalid option"
  | .reservedSetting => "setting is named twice"
  | .blankServiceUrl => "api_url must be a non-empty string"
  | .timeoutNotPositive => "timeout_ms must be a positive number"
  | .webUrlNotText => "web_url is no text"
  | .nullCharacter => "source code string cannot contain null bytes"
  | .constantName => "name spells a constant"
  | .notAnItem => "search result is no object"
  | .linkNotText => "link is no text"
  | .figureType => "figure is no number"
  | .notAnEntry => "value in the cache is no entry"
  | .entryType => "entry of the cache has the wrong type"
  | .codePoint => "code point out of range"
  | .malformedNumeral => "malformed numeral"
  | .emptyNumeral => "empty numeral"
  | .unknownFlag word => "unknown truth value: " ++ word
  | .malformedTimestamp => "malformed time stamp"
  | .notScalar => "time stamp is no scalar"
  | .endlessText => "text of a node lies in the node itself"
  | .nestedTooDeep => "maximum recursion depth exceeded while getting the repr of an object"
  | .zoneOffset => "time zone out of range"

end Fault

/-- A container that admits only some widgets. -/
inductive Container where
  | graph
  | table
  deriving DecidableEq

namespace Container

/-- The container's name. -/
def word : Container → String
  | .graph => "graph"
  | .table => "table"

/-- The widgets that the container admits. -/
def admitted : Container → String
  | .graph => "number"
  | .table => "string or number"

end Container

/-- Why a dashboard cannot be rendered. -/
inductive RenderCause where
  | unknownFormat (format : String)
  | unknownColor (color : String)
  | unknownWidget (kind : String)
  | graphElement
  | tableCell
  deriving DecidableEq

/-- Why a search gave no page of results. -/
inductive FetchCause where
  | status (status : Int) (reason : Option String) (body : String)
  | timeout (milliseconds : Int)
  | connection (message : String)
  | notAnObject
  | incomplete
  /-- The server's own wording, and its status if it has one. -/
  | refused (message : String) (status : Option Int)
  deriving DecidableEq

/-- Any failure of a run. -/
inductive Failure where
  | grammar (error : GrammarError)
  | scope (name : String) (cause : ScopeCause)
  | widgetType (container : Container) (actual : String)
  | queryType (shown : String)
  | fetch (query : String) (cause : FetchCause)
  | script (kind : CodeKind) (message : String)
  | config (location : Option String) (message : String)
  | render (cause : RenderCause)
  | fault (fault : Fault)
  /-- Author code went on for longer than it may. -/
  | endless (kind : CodeKind)
  deriving DecidableEq

namespace Failure

/-- The category of a failure; faults have none. -/
def kind? : Failure → Option FailureKind
  | .grammar _ => some .grammar
  | .scope .. => some .scope
  | .widgetType .. | .queryType _ => some .typeConstraint
  | .fetch .. => some .remote
  | .script .. => some .script
  | .config .. => some .config
  | .render _ => some .render
  | .fault _ => none
  | .endless _ => none

/-- Whether a failure is of one of the program's own kinds. -/
def isOwn (failure : Failure) : Bool := failure.kind?.isSome

private def fetchMessage (query : String) : FetchCause → String
  | .status status reason body => "search for '" ++ query ++ "' failed: HTTP " ++ Int.repr status
      ++ ": " ++ reason.getD "None" ++ ": " ++ body
  | .timeout milliseconds =>
    "search for '" ++ query ++ "' timed out after " ++ Int.repr milliseconds ++ "ms"
  | .connection message => "search for '" ++ query ++ "' failed: " ++ message
  | .notAnObject => "search for '" ++ query ++ "' returned a non-object response"
  | .incomplete =>
    "search for '" ++ query ++ "' returned a response without total_count and items"
  | .refused message _ => message

private def renderMessage : RenderCause → String
  | .unknownFormat format => "config: unknown output format type '" ++ format ++ "'"
  | .unknownColor color => "invalid color: " ++ color
  | .unknownWidget kind => "cannot render unknown widget type: " ++ kind
  | .graphElement => "graph elements must be static number widgets"
  | .tableCell => "table cells must be static number or string widgets"

/-- What went wrong. -/
def message : Failure → String
  | .grammar error => error.message
  | .scope name .reserved => "cannot redefine evaluation global '" ++ name ++ "'"
  | .scope name .malformed => "invalid binding name '" ++ name ++ "'"
  | .widgetType container actual => container.word ++ " widget elements must be "
      ++ container.admitted ++ " widgets, got " ++ actual
  | .queryType shown => "unknown query type: " ++ shown
  | .fetch query cause => fetchMessage query cause
  | .script kind message => kind.word ++ " failed: " ++ message
  | .config location message => "config: invalid configuration"
      ++ (match location with
        | some place => " for " ++ place
        | none => "")
      ++ ": " ++ message
  | .render cause => renderMessage cause
  | .fault cause => cause.message
  | .endless kind => kind.word ++ " does not come to an end"

/-- The status that a server answered a failed search with. -/
def status? : Failure → Option Int
  | .fetch _ (.status status ..) => some status
  | .fetch _ (.refused _ status) => status
  | _ => none

end Failure

end IssueBoard
