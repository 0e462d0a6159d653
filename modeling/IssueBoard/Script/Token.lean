import IssueBoard.Number.Numeral
import IssueBoard.Rest
import IssueBoard.Text.Hex
import IssueBoard.Text.Identifier
import IssueBoard.Text.Normal

/-!
# Tokens of the script language

The words, marks and literals that scripts are made of, and the reading of one literal from the
front of a text. What a reader takes off the front is followed by a proper or improper end of the
text it was given, which is recorded in the type of the result.
-/

namespace IssueBoard.Script

/-- The reserved words that the language gives a meaning to; `unused` stands for the others. -/
inductive Word where
  | noneWord | trueWord | falseWord
  | andWord | orWord | notWord | inWord | isWord
  | ifWord | elifWord | elseWord | forWord | whileWord
  | returnWord | passWord | breakWord | continueWord | raiseWord | awaitWord
  | unused
  deriving DecidableEq

/-- The words by their spelling. -/
def Word.spellings : List (String × Word) :=
  [("None", .noneWord), ("True", .trueWord), ("False", .falseWord), ("and", .andWord),
   ("or", .orWord), ("not", .notWord), ("in", .inWord), ("is", .isWord), ("if", .ifWord),
   ("elif", .elifWord), ("else", .elseWord), ("for", .forWord), ("while", .whileWord),
   ("return", .returnWord), ("pass", .passWord), ("break", .breakWord),
   ("continue", .continueWord), ("raise", .raiseWord), ("await", .awaitWord)]

/-- The punctuation and the operators of the language. -/
inductive Mark where
  | openParen | closeParen | openBracket | closeBracket | openBrace | closeBrace
  | comma | colon | semicolon | dot | assign
  | plus | minus | star | slash | doubleSlash | percent | doubleStar
  | equal | notEqual | less | lessEqual | greater | greaterEqual
  | plusAssign | minusAssign | starAssign | slashAssign | doubleSlashAssign | percentAssign
  | doubleStarAssign
  deriving DecidableEq

/-- The marks by their spelling; a spelling comes before those that it begins with. -/
def Mark.spellings : List (List Char × Mark) :=
  [("**=".toList, .doubleStarAssign), ("//=".toList, .doubleSlashAssign),
   ("**".toList, .doubleStar), ("//".toList, .doubleSlash), ("==".toList, .equal),
   ("!=".toList, .notEqual), ("<=".toList, .lessEqual), (">=".toList, .greaterEqual),
   ("+=".toList, .plusAssign), ("-=".toList, .minusAssign), ("*=".toList, .starAssign),
   ("/=".toList, .slashAssign), ("%=".toList, .percentAssign), (['('], .openParen),
   ([')'], .closeParen), (['['], .openBracket),
   ([']'], .closeBracket), (['{'], .openBrace), (['}'], .closeBrace), ([','], .comma),
   ([':'], .colon), ([';'], .semicolon), (['.'], .dot), (['='], .assign), (['+'], .plus),
   (['-'], .minus), (['*'], .star), (['/'], .slash), (['%'], .percent), (['<'], .less),
   (['>'], .greater)]

/-- The mark that closes what another one opens. -/
def Mark.closer? : Mark → Option Mark
  | .openParen => some .closeParen
  | .openBracket => some .closeBracket
  | .openBrace => some .closeBrace
  | _ => none

/-- Whether a mark closes a bracket. -/
def Mark.isCloser : Mark → Bool
  | .closeParen | .closeBracket | .closeBrace => true
  | _ => false

/-- A token. Ends of lines and changes of the indentation are tokens too. -/
inductive Token where
  | name (name : String)
  | word (word : Word)
  | integer (n : Nat)
  | real (x : Binary64)
  | text (s : String)
  | mark (mark : Mark)
  | newline
  | indent
  | dedent
  deriving DecidableEq

/-- Reads digits of some kind of which single underscores may stand between two; the run may not end
in an underscore. -/
def digitRun? (p : Char → Bool) : (cs : List Char) → Option (List Char × Rest cs)
  | [] => some ([], .all [])
  | '_' :: c :: rest =>
    if p c then
      (digitRun? p rest).map fun (digits, after) => (c :: digits, (after.past c).past '_')
    else none
  | c :: rest =>
    if c == '_' then none
    else if p c then
      (digitRun? p rest).map fun (digits, after) => (c :: digits, after.past c)
    else some ([], .all (c :: rest))

/-- The words that may stand right behind a number. -/
def wordsBehindNumber : List (List Char) :=
  ["and".toList, "else".toList, "for".toList, "if".toList, "in".toList, "is".toList, "or".toList,
   "not".toList]

/-- Whether a number may end before these characters. -/
def endsNumber (cs : List Char) : Bool :=
  wordsBehindNumber.any (fun word => word.isPrefixOf cs)
    || !cs.head?.any fun c => c.isAlphanum || c == '_' || 0x80 ≤ c.toNat

/-- The number that digits of a base denote. -/
def valueInBase (base : Nat) (digits : List Char) : Nat :=
  digits.foldl (fun value c => base * value + (Text.hexValue? c).getD 0) 0

/-- The bases that a letter after a leading zero chooses. -/
def baseOf? (c : Char) : Option Nat :=
  if c == 'x' || c == 'X' then some 16
  else if c == 'o' || c == 'O' then some 8
  else if c == 'b' || c == 'B' then some 2
  else none

/-- Whether a character is a digit of a base. -/
def isDigitOf (base : Nat) (c : Char) : Bool := (Text.hexValue? c).any (· < base)

/-- Reads the digits behind the letter of a base. -/
def basedNumber? (base : Nat) (cs : List Char) : Option (Token × Rest cs) := do
  let first := cs.head?.any fun c => c == '_' || isDigitOf base c
  if !first then none
  let (digits, rest) ← digitRun? (isDigitOf base) cs
  if digits.isEmpty || !endsNumber rest.1 || rest.1.head?.any Char.isDigit then none
  return (.integer (valueInBase base digits), rest)

/-- Reads an optional fraction: a point and perhaps digits. -/
def fraction? : (cs : List Char) → Option (Option (List Char) × Rest cs)
  | '.' :: rest =>
    if rest.head? == some '_' then some (some [], (Rest.all rest).past '.')
    else (digitRun? Char.isDigit rest).map fun (digits, after) => (some digits, after.past '.')
  | cs => some (none, .all cs)

/-- Reads an optional exponent. A letter that no number follows is none. -/
def exponent? : (cs : List Char) → Option (Option Int × Rest cs)
  | [] => some (none, .all [])
  | mark :: rest =>
    if mark == 'e' || mark == 'E' then
      match rest with
      | sign :: digit :: more =>
        if (sign == '+' || sign == '-') then
          if digit.isDigit then
            (digitRun? Char.isDigit (digit :: more)).map fun (digits, after) =>
              let value : Int := Text.digitsValue digits
              (some (if sign == '-' then -value else value), after.trans (by simp))
          else none
        else if sign.isDigit then
          (digitRun? Char.isDigit (sign :: digit :: more)).map fun (digits, after) =>
            (some (Text.digitsValue digits : Int), after.trans (by simp))
        else some (none, .all _)
      | [digit] =>
        if digit.isDigit then some (some (Text.digitsValue [digit]), ⟨[], by simp⟩)
        else if digit == '+' || digit == '-' then none
        else some (none, .all _)
      | [] => some (none, .all _)
    else some (none, .all (mark :: rest))

/-- Reads a number whose first character is a digit or a point before a digit. -/
def decimalNumber? (cs : List Char) : Option (Token × Rest cs) := do
  let (whole, ⟨behindWhole, h⟩) ←
    if cs.head? == some '_' then none else digitRun? Char.isDigit cs
  let (fraction, ⟨behindFraction, h'⟩) ← fraction? behindWhole
  let (exponent, behindExponent) ← exponent? behindFraction
  let rest : Rest cs := (behindExponent.trans h').trans h
  if !endsNumber rest.1 then none
  if fraction.isNone && exponent.isNone then
    if whole.head? == some '0' && whole.any (· != '0') then none
    if integerDigitLimit < whole.length then none
    return (.integer (Text.digitsValue whole), rest)
  else
    let digits := fraction.getD []
    return (.real (Binary64.ofDecimal false (Text.digitsValue (whole ++ digits))
      (exponent.getD 0 - digits.length)), rest)

/-- Reads a number. -/
def number? : (cs : List Char) → Option (Token × Rest cs)
  | '0' :: letter :: rest =>
    match baseOf? letter with
    | some base => (basedNumber? base rest).map fun (token, after) =>
        (token, after.trans (by simp; omega))
    | none => decimalNumber? ('0' :: letter :: rest)
  | cs => decimalNumber? cs

/-- The characters that a letter behind a backslash stands for. -/
def namedEscape? (c : Char) : Option Char :=
  if c == 'n' then some '\n' else if c == 't' then some '\t' else if c == 'r' then some '\r'
  else if c == 'a' then some '\x07' else if c == 'b' then some '\x08'
  else if c == 'f' then some '\x0c' else if c == 'v' then some '\x0b'
  else if c == '\\' || c == '\x27' || c == '"' then some c else none

/-- The number of hexadecimal digits that a letter behind a backslash asks for. -/
def escapeWidth? (c : Char) : Option Nat :=
  if c == 'x' then some 2 else if c == 'u' then some 4 else if c == 'U' then some 8 else none

/-- The characters of a text literal once its escapes are read. A backslash before a character that
it does not belong to stays; one before a line break takes the break away. -/
def unescape : List Char → Option (List Char)
  | [] => some []
  | '\\' :: c :: rest =>
    if c == '\n' then unescape rest
    else if let some meant := namedEscape? c then (unescape rest).map (meant :: ·)
    else if let some width := escapeWidth? c then
      if (rest.take width).length = width then do
        let meant ← Text.hexChar? (rest.take width)
        return meant :: (← unescape (rest.drop width))
      else none
    else if isDigitOf 8 c then
      let digits := c :: (rest.take 2).takeWhile (isDigitOf 8)
      (unescape (rest.drop (digits.length - 1))).map (Char.ofNat (valueInBase 8 digits) :: ·)
    else if c == 'N' then none
    else (unescape rest).map ('\\' :: c :: ·)
  | c :: rest => (unescape rest).map (c :: ·)
termination_by cs => cs.length
decreasing_by all_goals simp only [List.length_cons, List.length_drop]; omega

/-- The characters up to the closing quotes, escapes still unread. A text between single marks ends
before the line does. -/
def textBody? (quote : Char) (triple : Bool) : (cs : List Char) → Option (List Char × Rest cs)
  | [] => none
  | '\\' :: c :: rest =>
    (textBody? quote triple rest).map fun (body, after) =>
      ('\\' :: c :: body, (after.past c).past '\\')
  | c :: rest =>
    if c == quote then
      if triple then
        if rest.take 2 == [quote, quote] then
          some ([], ⟨rest.drop 2, by simp; omega⟩)
        else (textBody? quote triple rest).map fun (body, after) => (c :: body, after.past c)
      else some ([], (Rest.all rest).past c)
    else if c == '\n' && !triple then none
    else (textBody? quote triple rest).map fun (body, after) => (c :: body, after.past c)

/-- What letters before a quote mean: the flag says whether they leave the escapes of the literal
unread, and `none` stands for literals that are no texts. Other letters are a word of their own. -/
def textLetters? (letters : List Char) : Option (Option Bool) :=
  let letters := String.ofList (letters.map Char.toLower)
  if letters == "u" then some (some false)
  else if letters == "r" then some (some true)
  else if ["b", "f", "br", "rb", "fr", "rf"].contains letters then some none
  else none

/-- Reads a text literal from its opening quote on. -/
def text? (raw : Bool) : (cs : List Char) → Option (Token × Shorter cs)
  | [] => none
  | quote :: rest => do
    let triple := rest.take 2 == [quote, quote]
    let start := if triple then rest.drop 2 else rest
    have shorter : start.length ≤ rest.length := by
      simp only [start]; split <;> simp
    let (body, after) ← textBody? quote triple start
    let content ← if raw then some body else unescape body
    return (.text (String.ofList content), (after.trans shorter).behind quote)

/-- Whether a name may start with this character. -/
def startsName (c : Char) : Bool := c.isAlpha || c == '_' || 0x80 ≤ c.toNat

/-- Whether a name goes on with this character. -/
def continuesName (c : Char) : Bool := startsName c || c.isDigit

/-- The token that a run of name characters is. Words are known by their spelling, and names have
their letters brought to the usual form. -/
def wordOrName? (name : String) : Option Token :=
  match Word.spellings.lookup name with
  | some word => some (.word word)
  | none =>
    if Text.isKeyword name then some (.word .unused)
    else if Text.isIdentifier name then some (.name (Text.normalize name)) else none

/-- Reads a name, a reserved word, or a text with letters before its quote. -/
def nameOrText? : (cs : List Char) → Option (Token × Shorter cs)
  | [] => none
  | c :: cs => do
    let (others, rest) := takeRun continuesName cs
    let quoted := rest.1.head?.any fun c => c == '"' || c == '\x27'
    match if quoted then textLetters? (c :: others) else none with
    | some (some raw) =>
      let (token, after) ← text? raw rest.1
      return (token, ⟨after.1, Nat.lt_succ_of_le (Nat.le_trans (Nat.le_of_lt after.2) rest.2)⟩)
    | some none => none
    | none => return (← wordOrName? (String.ofList (c :: others)), rest.behind c)

/-- Reads a mark. -/
def mark? (cs : List Char) : Option (Mark × Shorter cs) :=
  match cs with
  | [] => none
  | c :: cs =>
    (Mark.spellings.find? fun (spelling, _) => spelling.isPrefixOf (c :: cs)).map
      fun (spelling, mark) => (mark,
        ⟨cs.drop (spelling.length - 1), by rw [List.length_drop, List.length_cons]; omega⟩)

/-- Reads a token other than the end of a line from a text that starts with it. -/
def token? : (cs : List Char) → Option (Token × Shorter cs)
  | [] => none
  | c :: rest =>
    if c == '"' || c == '\x27' then text? false (c :: rest)
    else if startsName c then nameOrText? (c :: rest)
    else if c.isDigit || (c == '.' && rest.head?.any Char.isDigit) then
      match number? (c :: rest) with
      | some (token, after) =>
        if shorter : after.1.length < (c :: rest).length then some (token, ⟨after.1, shorter⟩)
        else none
      | none => none
    else (mark? (c :: rest)).map fun (mark, after) => (.mark mark, after)

end IssueBoard.Script
