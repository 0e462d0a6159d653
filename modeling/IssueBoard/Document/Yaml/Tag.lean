import IssueBoard.Document.Yaml.Timestamp

/-!
# Tags

The kind of a node. A scalar without a tag and without quotes has the kind that its text implies.
-/

namespace IssueBoard.Yaml

/-- The kind of a node. -/
inductive Tag where
  | null
  | flag
  | integer
  | real
  | binary
  | timestamp
  | text
  | list
  | object
  | set
  | pairs
  /-- The key that merges other entries in. -/
  | merge
  /-- The key of the default value of an object. -/
  | default
  /-- A kind without values of its own. -/
  | unknown
  deriving DecidableEq

namespace Tag

/-- What the full names of the known kinds begin with. -/
def commonStart : String := "tag:yaml.org,2002:"

/-- The names of the kinds. -/
def names : List (String × Tag) :=
  [("null", null), ("bool", flag), ("int", integer), ("float", real), ("binary", binary),
   ("timestamp", timestamp), ("str", text), ("seq", list), ("map", object), ("set", set),
   ("omap", pairs), ("pairs", pairs), ("merge", merge), ("value", default)]

/-- The kind with a full name. -/
def ofName (name : String) : Tag :=
  ((names.find? fun (short, _) => commonStart ++ short == name).map (·.2)).getD unknown

/-- Whether a character is a digit or the mark that groups digits. -/
def isGrouped (c : Char) : Bool := c.isDigit || c == '_'

/-- Whether characters are there, and all of them satisfy a predicate. -/
def allAndSome (p : Char → Bool) (cs : List Char) : Bool := !cs.isEmpty && cs.all p

/-- Whether characters are a digit to the base sixty. -/
def isSixtieth (cs : List Char) : Bool :=
  match cs with
  | [low] => low.isDigit
  | [high, low] => '0' ≤ high && high ≤ '5' && low.isDigit
  | _ => false

/-- The parts of a numeral between its colons. -/
def colonParts : List Char → List (List Char)
  | [] => [[]]
  | c :: rest =>
    if c == ':' then [] :: colonParts rest
    else match colonParts rest with
      | [] => [[c]]
      | part :: parts => (c :: part) :: parts

/-- The characters behind an optional sign. -/
def withoutSign : List Char → List Char
  | [] => []
  | c :: rest => if c == '+' || c == '-' then rest else c :: rest

/-- Whether a text spells an integer: binary, octal, hexadecimal, decimal or to the base sixty. -/
def spellsInteger (cs : List Char) : Bool :=
  match withoutSign cs with
  | [] => false
  | '0' :: rest =>
    match rest with
    | [] => true
    | mark :: digits =>
      if mark == 'b' then allAndSome (fun c => c == '0' || c == '1' || c == '_') digits
      else if mark == 'x' then
        allAndSome (fun c => c.isDigit || c == '_' || ('a' ≤ c.toLower && c.toLower ≤ 'f')) digits
      else rest.all fun c => c == '_' || ('0' ≤ c && c ≤ '7')
  | first :: rest =>
    match colonParts rest with
    | [] => false
    | whole :: sixtieths => first.isDigit && whole.all isGrouped && sixtieths.all isSixtieth

/-- Whether a text is empty or spells an exponent with a sign. -/
def spellsExponent (cs : List Char) : Bool :=
  match cs with
  | [] => true
  | mark :: sign :: digits =>
    (mark == 'e' || mark == 'E') && (sign == '+' || sign == '-') && allAndSome Char.isDigit digits
  | [_] => false

/-- Whether a text spells a floating-point number. -/
def spellsReal (cs : List Char) : Bool :=
  let body := withoutSign cs
  let whole := body.takeWhile (· != '.')
  match body.dropWhile (· != '.') with
  | [] => false
  | _ :: fraction =>
    let tail := fraction.dropWhile isGrouped
    if whole.isEmpty then
      (body.length == cs.length && fraction.head?.any Char.isDigit && spellsExponent tail)
        || ["inf", "Inf", "INF"].contains (String.ofList fraction)
        || (body.length == cs.length && ["nan", "NaN", "NAN"].contains (String.ofList fraction))
    else
      match colonParts whole with
      | [] => false
      | first :: sixtieths =>
        first.head?.any Char.isDigit && first.all isGrouped && sixtieths.all isSixtieth
          && (if sixtieths.isEmpty then spellsExponent tail else tail.isEmpty)

/-- The words for truth values. -/
def flagWords : List (String × Bool) :=
  [("yes", true), ("no", false), ("true", true), ("false", false), ("on", true), ("off", false)]

/-- A word in lower case, with a capital, and in upper case. -/
def casings (word : String) : List (List Char) :=
  let cs := word.toList
  [cs, (cs.take 1).map Char.toUpper ++ cs.drop 1, cs.map Char.toUpper]

/-- The kind that a text without quotes implies. A line feed at its end does not count, unless there
is nothing else. -/
def implied (source : String) : Tag :=
  let cs := withoutLastFeed source.toList
  let text := String.ofList cs
  if flagWords.any fun (word, _) => (casings word).contains cs then flag
  else if spellsReal cs then real
  else if spellsInteger cs then integer
  else if text == "<<" then merge
  else if cs.isEmpty then if source.isEmpty then null else .text
  else if text == "~" || (casings "null").contains cs then null
  else if (Timestamp.parse? source.toList).any fun stamp =>
    stamp.time.isSome || stamp.isPadded then timestamp
  else if text == "=" then default
  else if text == "!" || text == "&" || text == "*" then unknown
  else .text

end Tag

end IssueBoard.Yaml
