import IssueBoard.Text.Digit
import IssueBoard.Text.Quoted

/-!
# Arguments

Reading the arguments of the command line: the path of a configuration, and options that each take a
value. A value stands behind its option, or behind an equality sign in the same argument. The name
of an option may be shortened, and two dashes end the options.
-/

namespace IssueBoard.CommandLine

/-- An option. -/
inductive Flag where
  | help
  | token
  | apiUrl
  | webUrl
  | output
  | logLevel
  deriving DecidableEq

namespace Flag

/-- All options, in the order in which they are listed. -/
def all : List Flag := [.help, .token, .apiUrl, .webUrl, .output, .logLevel]

/-- How an option is written in full. -/
def name : Flag → String
  | .help => "--help"
  | .token => "--token"
  | .apiUrl => "--api-url"
  | .webUrl => "--web-url"
  | .output => "--output"
  | .logLevel => "--log-level"

/-- How messages name an option. -/
def shown : Flag → String
  | .help => "-h/--help"
  | flag => flag.name

end Flag

/-- How much is logged. -/
def logLevels : List String := ["DEBUG", "INFO", "WARNING", "ERROR"]

/-- Why arguments cannot be used. -/
inductive UsageError where
  | missingPath
  | unrecognized (arguments : List String)
  | missingValue (flag : Flag)
  | unneededValue (flag : Flag) (value : String)
  | unknownLevel (level : String)
  | ambiguous (argument : String) (flags : List Flag)
  deriving DecidableEq

/-- What is wrong with arguments. -/
def UsageError.message : UsageError → String
  | .missingPath => "the following arguments are required: config"
  | .unrecognized arguments => "unrecognized arguments: " ++ " ".intercalate arguments
  | .missingValue flag => "argument " ++ flag.shown ++ ": expected one argument"
  | .unneededValue flag value =>
    "argument " ++ flag.shown ++ ": ignored explicit argument " ++ Text.quoted value
  | .unknownLevel level => "argument --log-level: invalid choice: " ++ Text.quoted level
      ++ " (choose from " ++ ", ".intercalate (logLevels.map Text.quoted) ++ ")"
  | .ambiguous argument flags => "ambiguous option: " ++ argument ++ " could match "
      ++ ", ".intercalate (flags.map Flag.name)

/-- What the arguments ask for. -/
structure Arguments where
  path : String
  token : Option String := none
  apiUrl : Option String := none
  webUrl : Option String := none
  output : Option String := none
  deriving DecidableEq

/-- One argument, by its form. -/
inductive Argument where
  | plain (text : String)
  /-- Two dashes, the first time they stand alone. -/
  | terminator
  | flag (flag : Flag) (value : Option String)
  /-- Something that looks like an option but is none. -/
  | unknown (text : String)
  deriving DecidableEq

/-- Whether characters spell a negative number, with digits of any script. A line feed at the end
does not count. -/
def isNegativeNumber (cs : List Char) : Bool :=
  match (if cs.getLast? == some '\n' then cs.dropLast else cs) with
  | '-' :: digits =>
    let whole := digits.takeWhile Text.isDigit
    match digits.dropWhile Text.isDigit with
    | [] => !whole.isEmpty
    | '.' :: fraction => !fraction.isEmpty && fraction.all Text.isDigit
    | _ => false
  | _ => false

/-- Splits an argument at its first equality sign. -/
def splitValue (cs : List Char) : List Char × Option String :=
  match cs.dropWhile (· != '=') with
  | [] => (cs, none)
  | _ :: value => (cs.takeWhile (· != '='), some (String.ofList value))

/-- The form of an argument before the two dashes. -/
def classify (argument : String) : Except UsageError Argument :=
  let cs := argument.toList
  let other : Argument :=
    if isNegativeNumber cs || cs.contains ' ' then .plain argument else .unknown argument
  match cs with
  | '-' :: '-' :: _ =>
    let (name, value) := splitValue cs
    match Flag.all.find? fun flag => flag.name.toList == name with
    | some flag => .ok (.flag flag value)
    | none =>
      match Flag.all.filter fun flag => name.isPrefixOf flag.name.toList with
      | [] => .ok other
      | [flag] => .ok (.flag flag value)
      | flags => .error (.ambiguous argument flags)
  | '-' :: 'h' :: [] => .ok (.flag .help none)
  | '-' :: 'h' :: '=' :: value => .ok (.flag .help (some (String.ofList value)))
  | '-' :: 'h' :: letters =>
    match letters.dropWhile (· == 'h') with
    | [] => .ok (.flag .help none)
    | rest => .ok (.flag .help (some (String.ofList rest)))
  | '-' :: _ :: _ => .ok other
  | _ => .ok (.plain argument)

/-- The forms of arguments. -/
def classifyAll : List String → Except UsageError (List Argument)
  | [] => .ok []
  | argument :: rest =>
    if argument == "--" then .ok (.terminator :: rest.map .plain)
    else do return (← classify argument) :: (← classifyAll rest)

/-- What has been read of the arguments. -/
structure Progress where
  path : Option String := none
  token : Option String := none
  apiUrl : Option String := none
  webUrl : Option String := none
  output : Option String := none
  /-- The arguments that belong to nothing. -/
  unused : List String := []
  /-- Whether the argument before this one is the path. -/
  isBehindPath : Bool := false

namespace Progress

/-- Sets an option. -/
def set (progress : Progress) (flag : Flag) (value : String) : Except UsageError Progress :=
  let progress := { progress with isBehindPath := false }
  match flag with
  | .help => .error (.unneededValue flag value)
  | .token => .ok { progress with token := some value }
  | .apiUrl => .ok { progress with apiUrl := some value }
  | .webUrl => .ok { progress with webUrl := some value }
  | .output => .ok { progress with output := some value }
  | .logLevel => if logLevels.contains value then .ok progress else .error (.unknownLevel value)

/-- Adds an argument that belongs to nothing. -/
def skip (progress : Progress) (argument : String) : Progress :=
  { progress with unused := progress.unused ++ [argument], isBehindPath := false }

/-- Takes a plain argument for the path, if there is none yet. -/
def plain (progress : Progress) (argument : String) : Progress :=
  match progress.path with
  | none => { progress with path := some argument, isBehindPath := true }
  | some _ => progress.skip argument

/-- What the arguments ask for, once all are read. -/
def finish (progress : Progress) : Except UsageError Arguments :=
  match progress.path, progress.unused with
  | none, _ => .error .missingPath
  | some path, [] => .ok {
      path
      token := progress.token
      apiUrl := progress.apiUrl
      webUrl := progress.webUrl
      output := progress.output }
  | some _, unused => .error (.unrecognized unused)

/-- Reads arguments; `none` if they ask for help. -/
def read (progress : Progress) : List Argument → Except UsageError (Option Arguments)
  | [] => some <$> progress.finish
  | .plain argument :: rest => (progress.plain argument).read rest
  | .unknown argument :: rest => (progress.skip argument).read rest
  | .flag flag (some value) :: rest => do (← progress.set flag value).read rest
  | .flag .help none :: _ => .ok none
  | .flag flag none :: .plain value :: rest => do (← progress.set flag value).read rest
  | .flag flag none :: _ => .error (.missingValue flag)
  | .terminator :: rest =>
    if progress.isBehindPath || (progress.path.isNone && !rest.isEmpty) then progress.read rest
    else (progress.skip "--").read rest

end Progress

/-- Reads arguments; `none` if they ask for help. -/
def Arguments.parse (arguments : List String) : Except UsageError (Option Arguments) := do
  Progress.read {} (← classifyAll arguments)

end IssueBoard.CommandLine
