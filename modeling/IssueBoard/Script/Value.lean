import IssueBoard.Calendar.Helper
import IssueBoard.Data.Display
import IssueBoard.Number.Complex
import IssueBoard.Query.Server

/-!
# Values of running scripts

Numbers, texts and the like are values by themselves. Lists, objects, pages of search results and
pending searches are places in a store, so two names can stand for one list. A not-a-number is a
place as well: it equals nothing, but it is found again in a list that holds it.
-/

namespace IssueBoard.Script

/-- The functions that every script can call, and the errors that it can raise. -/
inductive Builtin where
  | len | str | int | sum | max | min | sorted | range
  | valueError | keyError | runtimeError
  deriving DecidableEq

/-- The name of a function. -/
def Builtin.name : Builtin → String
  | .len => "len"
  | .str => "str"
  | .int => "int"
  | .sum => "sum"
  | .max => "max"
  | .min => "min"
  | .sorted => "sorted"
  | .range => "range"
  | .valueError => "ValueError"
  | .keyError => "KeyError"
  | .runtimeError => "RuntimeError"

/-- All functions. -/
def Builtin.all : List Builtin :=
  [.len, .str, .int, .sum, .max, .min, .sorted, .range, .valueError, .keyError, .runtimeError]

/-- Whether a function makes values of a type named like it. -/
def Builtin.isType : Builtin → Bool
  | .str | .int | .range | .valueError | .keyError | .runtimeError => true
  | _ => false

/-- The methods of texts, lists and objects. -/
inductive Method where
  | upper | lower | strip | join | split | replace | startsWith | endsWith
  | append
  | get | setDefault
  deriving DecidableEq

/-- The name of a method. -/
def Method.name : Method → String
  | .upper => "upper"
  | .lower => "lower"
  | .strip => "strip"
  | .join => "join"
  | .split => "split"
  | .replace => "replace"
  | .startsWith => "startswith"
  | .endsWith => "endswith"
  | .append => "append"
  | .get => "get"
  | .setDefault => "setdefault"

/-- The methods of texts. -/
def Method.ofTexts : List Method :=
  [.upper, .lower, .strip, .join, .split, .replace, .startsWith, .endsWith]

/-- Where a list is kept: in the store, or as the items of an entry of the query cache. -/
inductive ListPlace where
  | cell (cell : Nat)
  | entryItems (slot : Nat)
  deriving DecidableEq

/-- A value. -/
inductive Value where
  | atom (a : Atom)
  /-- A result that is no number; the place tells it from others of its kind. -/
  | nan (place : Nat)
  | complex (z : ComplexNumber)
  | list (place : ListPlace)
  | object (cell : Nat)
  | range (start stop step : Int)
  | builtin (function : Builtin)
  | helper (helper : Calendar.Helper)
  | method (owner : Value) (method : Method)
  /-- A method of texts that takes its text as the first argument. -/
  | unbound (method : Method)
  /-- An error; the place tells it from others of its kind. -/
  | error (place : Nat) (kind : Builtin) (arguments : List Value)
  /-- The search server, with what errors call it. -/
  | server (kind : String)
  /-- The search method of the server. -/
  | search
  | cache
  | entry (slot : Nat)
  | page (cell : Nat)
  /-- A search that has not been waited for yet. -/
  | pending (cell : Nat)

namespace Value

instance : Inhabited Value := ⟨.atom .null⟩

/-- The absent value. -/
@[match_pattern] abbrev null : Value := .atom .null

/-- A truth value. -/
@[match_pattern] abbrev flag (b : Bool) : Value := .atom (.flag b)

/-- An integer. -/
@[match_pattern] abbrev integer (n : Int) : Value := .atom (.integer n)

/-- A floating-point number. -/
@[match_pattern] abbrev real (x : Binary64) : Value := .atom (.real x)

/-- A text. -/
@[match_pattern] abbrev text (s : String) : Value := .atom (.text s)

end Value

/-- What a place in the store holds. -/
inductive Cell where
  | list (items : List Value)
  | object (entries : List (Value × Value))
  /-- A page of search results, as its attributes. -/
  | page (attributes : List (String × Value))
  | pending (request : SearchRequest) (done : Bool)
  /-- The place of a value that is only told from others of its kind. -/
  | mark

/-- The type of an atom, as errors name it. -/
def atomType : Atom → String
  | .null => "NoneType"
  | .flag _ => "bool"
  | .integer _ => "int"
  | .real _ => "float"
  | .text _ => "str"
  | .bytes _ => "bytes"
  | .foreign kind .. => kind

/-- The number that a value counts as. -/
def Value.number? : Value → Option Number
  | .atom a => a.number?
  | .nan _ => some Number.nan
  | _ => none

/-- The type of a value, as errors name it. -/
def Value.typeName : Value → String
  | .atom a => atomType a
  | .nan _ => "float"
  | .complex _ => "complex"
  | .list _ => "list"
  | .object _ => "dict"
  | .range .. => "range"
  | .builtin f => if f.isType then "type" else "builtin_function_or_method"
  | .helper _ => "function"
  | .method .. => "builtin_function_or_method"
  | .unbound _ => "method_descriptor"
  | .error _ kind _ => kind.name
  | .server kind => kind
  | .search => "method"
  | .cache => "dict"
  | .entry _ => "QueryCacheEntry"
  | .page _ => "SearchPage"
  | .pending _ => "coroutine"

end IssueBoard.Script
