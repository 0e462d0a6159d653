import IssueBoard.Script.Operators
import IssueBoard.Text.Casing

/-!
# Methods of texts, lists and objects
-/

namespace IssueBoard.Script

/-- The complaint about the number of arguments of a method that takes a fixed number. -/
def exactArguments (owner name wanted : String) (given : Nat) : Trouble :=
  .argumentCount (owner ++ "." ++ name ++ "() takes " ++ wanted ++ " (" ++ Nat.repr given
    ++ " given)")

/-- The complaint about too few or too many arguments. -/
def wrongArguments (name : String) (few : Bool) (bound : Nat) (given : Nat) : Trouble :=
  .argumentCount (name ++ " expected at " ++ (if few then "least " else "most ") ++ Nat.repr bound
    ++ (if bound = 1 then " argument, got " else " arguments, got ") ++ Nat.repr given)

/-- The characters without those that satisfy `p` at both ends. -/
def stripChars (p : Char → Bool) (cs : List Char) : List Char :=
  Text.dropTrailing p (cs.dropWhile p)

/-- Splits a text at blanks, at most `limit` times; what is left then keeps its own blanks and those
behind it. -/
def splitBlanks : (limit : Nat) → List Char → List (List Char)
  | 0, cs =>
    let rest := Text.dropBlank cs
    if rest.isEmpty then [] else [rest]
  | limit + 1, cs =>
    let rest := Text.dropBlank cs
    if rest.isEmpty then []
    else rest.takeWhile (!Text.isBlank ·) :: splitBlanks limit (rest.dropWhile (!Text.isBlank ·))

/-- The number of times that something may happen; a negative limit is none. -/
def limitOf (size : Nat) (limit : Int) : Nat := if limit < 0 then size + 1 else limit.toNat

/-- Whether the part of a text between two bounds starts or ends with another text. A lower bound
behind the end of the text leaves no part, and even the empty text needs one. -/
def hasAffix (atEnd : Bool) (s affix : List Char) (lower upper : Option Int) : Bool :=
  let upTo := (upper.map (positionIn s.length)).getD s.length
  let start := match lower with
    | none => 0
    | some position => (if position < 0 then position + s.length else position).toNat
  decide (start + affix.length ≤ upTo)
    && (if atEnd then affix.isSuffixOf (s.take upTo) else affix.isPrefixOf (s.drop start))

/-- The result of a test of the start or the end of a text. The bounds are looked at first. -/
def affixTest (atEnd : Bool) (s : String) (arguments : List Value) : Except Trouble Value := do
  let name := if atEnd then Method.endsWith.name else Method.startsWith.name
  let bounds := arguments.drop 1
  if 2 < bounds.length then
    throw (.argumentCount (name ++ "() takes at most 3 arguments (" ++ Nat.repr arguments.length
      ++ " given)"))
  let lower ← (bounds[0]?).elim (.ok none) boundOf
  let upper ← (bounds[1]?).elim (.ok none) boundOf
  match arguments with
  | [] => throw (.argumentCount (name ++ "() takes at least 1 argument (0 given)"))
  | .text affix :: _ => return .flag (hasAffix atEnd s.toList affix.toList lower upper)
  | first :: _ => throw (.affixArgument name first.typeName)

/-- How often something may happen, as a value gives it. -/
def countOf (value : Value) : Except Trouble Int :=
  match value.integer? with
  | some n => if Int.pow 2 63 ≤ n ∨ n < -Int.pow 2 63 then .error .sizeTooLarge else .ok n
  | none => .error (.notIndexLike value.typeName)

/-- The texts that are joined, or the first value that is none. -/
def joinable (place : Nat) : List Value → Except Trouble (List String)
  | [] => .ok []
  | .text s :: rest => do return s :: (← joinable (place + 1) rest)
  | other :: _ => .error (.joinedItem place other.typeName)

/-- The result of a method of a text, as far as no new list is needed. -/
def textMethod {κ : Type} (desk : Desk κ) (s : String) (method : Method) (arguments : List Value) :
    Except Trouble Value :=
  match method, arguments with
  | .upper, [] => .ok (.text (Text.upperCase s))
  | .lower, [] => .ok (.text (Text.lowerCase s))
  | .strip, [] => .ok (.text (Text.trim s))
  | .strip, [.null] => .ok (.text (Text.trim s))
  | .strip, [.text marks] =>
    .ok (.text (String.ofList (stripChars marks.toList.contains s.toList)))
  | .strip, [_] => .error .stripArgument
  | .strip, _ => .error (wrongArguments "strip" false 1 arguments.length)
  | .join, [source] =>
    match elements desk source with
    | .ok items => do return .text (s.intercalate (← joinable 0 items))
    | .error _ => .error .joinedSource
  | .join, _ => .error (exactArguments "str" "join" "exactly one argument" arguments.length)
  | .replace, .text old :: .text new :: rest =>
    match rest with
    | [] => .ok (.text (String.ofList
        (Text.replace old.toList new.toList (s.length + 1) s.toList)))
    | [count] => do
      let limit ← countOf count
      return .text (String.ofList
        (Text.replace old.toList new.toList (limitOf s.length limit) s.toList))
    | _ => .error (wrongArguments "replace" false 3 arguments.length)
  | .replace, .text _ :: second :: _ =>
    .error (.textArgument "replace() argument 2" second.typeName)
  | .replace, first :: _ :: _ => .error (.textArgument "replace() argument 1" first.typeName)
  | .replace, _ => .error (wrongArguments "replace" true 2 arguments.length)
  | .startsWith, arguments => affixTest false s arguments
  | .endsWith, arguments => affixTest true s arguments
  | method, _ =>
    .error (exactArguments "str" method.name "no arguments" arguments.length)

/-- The pieces that a text is split into. -/
def splitText (s : String) (arguments : List Value) : Except Trouble (List Value) := do
  let limit ← match arguments with
    | [_, count] => pure (limitOf s.length (← countOf count))
    | _ => pure (s.length + 1)
  let texts := fun pieces : List (List Char) => pieces.map fun piece =>
    Value.text (String.ofList piece)
  match arguments with
  | [] => return texts (splitBlanks limit s.toList)
  | _ :: _ :: _ :: _ => throw (.argumentCount ("split() takes at most 2 arguments ("
      ++ Nat.repr arguments.length ++ " given)"))
  | .null :: _ => return texts (splitBlanks limit s.toList)
  | .text "" :: _ => throw .emptySeparator
  | .text separator :: _ => return texts (Text.pieces separator.toList limit s.toList)
  | other :: _ => throw (.separatorArgument other.typeName)

/-- Whether a kind of value has a method. -/
def Value.hasMethod : Value → Method → Bool
  | .text _, m => Method.ofTexts.contains m
  | .list _, m => m == .append
  | .object _, m => m == .get || m == .setDefault
  | .cache, m => m == .get || m == .setDefault
  | _, _ => false

/-- All methods. -/
def Method.all : List Method := Method.ofTexts ++ [.append, .get, .setDefault]

/-- The value under a key of an object or of the cache, if there is one. -/
def stored? {κ : Type} (desk : Desk κ) (owner key : Value) : Except Trouble (Option Value) := do
  return lookupKey? (← Desk.key? key) ((desk.entries? owner).getD [])

/-- Calls a method. -/
def callMethod {κ : Type} (owner : Value) (method : Method) (arguments : List Value) :
    Action κ Value :=
  match owner, method, arguments with
  | .text s, .split, arguments => do
    Action.newList (← Action.examine fun _ => splitText s arguments)
  | .text s, method, arguments => Action.examine fun desk => textMethod desk s method arguments
  | .list place, .append, [value] => do
    let items ← Action.inspect fun desk => desk.items place
    Action.setItems place (items ++ [value])
    return .null
  | .list _, _, arguments =>
    throw (exactArguments "list" "append" "exactly one argument" arguments.length)
  | owner, .get, key :: rest =>
    if 1 < rest.length then throw (wrongArguments "get" false 2 arguments.length)
    else do
      return (← Action.examine fun desk => stored? desk owner key).getD (rest.headD .null)
  | owner, .setDefault, key :: rest =>
    if 1 < rest.length then throw (wrongArguments "setdefault" false 2 arguments.length)
    else do
      match ← Action.examine fun desk => stored? desk owner key with
      | some value => return value
      | none =>
        assignItem owner key (rest.headD .null)
        return rest.headD .null
  | _, method, arguments => throw (wrongArguments method.name true 1 arguments.length)

end IssueBoard.Script
