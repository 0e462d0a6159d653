import IssueBoard.Script.Token
import IssueBoard.Script.Tree

/-!
# The grammar of scripts

Expressions and statements are read from the front of a list of tokens. Every reader takes at least
one token off, and the type of its result says so; a reader of what may follow takes off none or
more. The readers of expressions are ordered from the loosest operator to the tightest.
-/

namespace IssueBoard.Script

/-- Takes a given token off. -/
def expect (token : Token) : (ts : List Token) → Option (Shorter ts)
  | [] => none
  | found :: rest => if found = token then some ⟨rest, by simp⟩ else none

/-- Takes a name off. -/
def name? : (ts : List Token) → Option (String × Shorter ts)
  | .name n :: rest => some (n, ⟨rest, by simp⟩)
  | _ => none

/-- The comparison that stands at the front. -/
def comparison? : (ts : List Token) → Option (Comparison × Shorter ts)
  | .mark .equal :: rest => some (.equal, ⟨rest, by simp⟩)
  | .mark .notEqual :: rest => some (.notEqual, ⟨rest, by simp⟩)
  | .mark .less :: rest => some (.less, ⟨rest, by simp⟩)
  | .mark .lessEqual :: rest => some (.lessEqual, ⟨rest, by simp⟩)
  | .mark .greater :: rest => some (.greater, ⟨rest, by simp⟩)
  | .mark .greaterEqual :: rest => some (.greaterEqual, ⟨rest, by simp⟩)
  | .word .inWord :: rest => some (.member, ⟨rest, by simp⟩)
  | .word .notWord :: .word .inWord :: rest =>
    some (.notMember, ⟨rest, by simp only [List.length_cons]; omega⟩)
  | .word .isWord :: .word .notWord :: rest =>
    some (.notIdentical, ⟨rest, by simp only [List.length_cons]; omega⟩)
  | .word .isWord :: rest => some (.identical, ⟨rest, by simp⟩)
  | _ => none

/-- The operators that add and subtract. -/
def sumOp? : Token → Option BinaryOp
  | .mark .plus => some .add
  | .mark .minus => some .sub
  | _ => none

/-- The operators that multiply and divide. -/
def productOp? : Token → Option BinaryOp
  | .mark .star => some .mul
  | .mark .slash => some .div
  | .mark .doubleSlash => some .floorDiv
  | .mark .percent => some .mod
  | _ => none

/-- The signs of an operand. -/
def sign? : Token → Option UnaryOp
  | .mark .plus => some .plus
  | .mark .minus => some .minus
  | _ => none

/-- The operator of an assignment that changes what is there. -/
def augmentOp? : Token → Option BinaryOp
  | .mark .plusAssign => some .add
  | .mark .minusAssign => some .sub
  | .mark .starAssign => some .mul
  | .mark .slashAssign => some .div
  | .mark .doubleSlashAssign => some .floorDiv
  | .mark .percentAssign => some .mod
  | .mark .doubleStarAssign => some .pow
  | _ => none

/-- Texts that stand side by side are one text. -/
def joinTexts (ts : List Token) : String × Rest ts :=
  match ts with
  | .text s :: rest =>
    let (others, after) := joinTexts rest
    (s ++ others, after.trans (by simp))
  | ts => ("", .all ts)

/-- A word that is a value. -/
def Word.value? : Word → Option Atom
  | .noneWord => some .null
  | .trueWord => some (.flag true)
  | .falseWord => some (.flag false)
  | _ => none

/-- Takes an operator of some kind off. -/
def operator? {α : Type} (kind : Token → Option α) : (ts : List Token) → Option (α × Shorter ts)
  | [] => none
  | token :: rest => (kind token).map fun op => (op, ⟨rest, by simp⟩)

/-- Reads a literal, a name, or brackets with nothing between them. -/
def leaf? : (ts : List Token) → Option (Expr × Shorter ts)
  | .name n :: rest => some (.name n, ⟨rest, by simp⟩)
  | .word word :: rest => (word.value?).map fun value => (.literal value, ⟨rest, by simp⟩)
  | .integer n :: rest => some (.literal (.integer n), ⟨rest, by simp⟩)
  | .real x :: rest => some (.literal (.real x), ⟨rest, by simp⟩)
  | .mark .openParen :: .mark .closeParen :: rest =>
    some (.literal emptyBrackets, ⟨rest, by simp only [List.length_cons]; omega⟩)
  | .text s :: rest =>
    let (others, after) := joinTexts rest
    some (.literal (.text (s ++ others)), ⟨after.1, Nat.lt_succ_of_le after.2⟩)
  | _ => none

mutual

/-- Reads an expression: a choice, or something tighter. -/
def expression (ts : List Token) : Option (Expr × Shorter ts) := do
  let (value, ⟨rest, shorter⟩) ← disjunction ts
  match expect (.word .ifWord) rest with
  | none => return (value, ⟨rest, shorter⟩)
  | some ⟨rest, shorter⟩ => do
    let (condition, ⟨rest, shorter⟩) ← disjunction rest
    let ⟨rest, shorter⟩ ← expect (.word .elseWord) rest
    let (other, ⟨rest, shorter⟩) ← expression rest
    return (.choice condition value other, ⟨rest, by omega⟩)
termination_by 16 * ts.length + 11
decreasing_by all_goals omega

/-- Reads operands joined by `or`. -/
def disjunction (ts : List Token) : Option (Expr × Shorter ts) := do
  let (left, ⟨rest, shorter⟩) ← conjunction ts
  match expect (.word .orWord) rest with
  | none => return (left, ⟨rest, shorter⟩)
  | some ⟨rest, shorter⟩ => do
    let (right, ⟨rest, shorter⟩) ← disjunction rest
    return (.either left right, ⟨rest, by omega⟩)
termination_by 16 * ts.length + 10
decreasing_by all_goals omega

/-- Reads operands joined by `and`. -/
def conjunction (ts : List Token) : Option (Expr × Shorter ts) := do
  let (left, ⟨rest, shorter⟩) ← inversion ts
  match expect (.word .andWord) rest with
  | none => return (left, ⟨rest, shorter⟩)
  | some ⟨rest, shorter⟩ => do
    let (right, ⟨rest, shorter⟩) ← conjunction rest
    return (.both left right, ⟨rest, by omega⟩)
termination_by 16 * ts.length + 9
decreasing_by all_goals omega

/-- Reads a negated operand, or a comparison. -/
def inversion (ts : List Token) : Option (Expr × Shorter ts) :=
  match expect (.word .notWord) ts with
  | some ⟨rest, shorter⟩ => do
    let (operand, ⟨rest, shorter⟩) ← inversion rest
    return (.unary .negation operand, ⟨rest, by omega⟩)
  | none => do
    let (first, ⟨rest, shorter⟩) ← sum ts
    let (others, ⟨rest, shorter⟩) ← comparisons rest
    return (if others.isEmpty then first else .compare first others, ⟨rest, by omega⟩)
termination_by 16 * ts.length + 8
decreasing_by all_goals omega

/-- Reads the comparisons that follow an operand. -/
def comparisons (ts : List Token) : Option (List (Comparison × Expr) × Rest ts) :=
  match comparison? ts with
  | none => some ([], .all ts)
  | some (op, ⟨rest, shorter⟩) => do
    let (operand, ⟨rest, shorter⟩) ← sum rest
    let (others, ⟨rest, shorter⟩) ← comparisons rest
    return ((op, operand) :: others, ⟨rest, by omega⟩)
termination_by 16 * ts.length + 7
decreasing_by all_goals omega

/-- Reads terms that are added or subtracted. -/
def sum (ts : List Token) : Option (Expr × Shorter ts) := do
  let (first, ⟨rest, shorter⟩) ← product ts
  let (value, ⟨rest, shorter⟩) ← sumFrom first rest
  return (value, ⟨rest, by omega⟩)
termination_by 16 * ts.length + 7
decreasing_by all_goals omega

/-- Reads the terms that follow the sum so far. -/
def sumFrom (left : Expr) (ts : List Token) : Option (Expr × Rest ts) :=
  match operator? sumOp? ts with
  | none => some (left, .all ts)
  | some (op, ⟨rest, shorter⟩) => do
    let (right, ⟨rest, shorter⟩) ← product rest
    let (value, ⟨rest, shorter⟩) ← sumFrom (.binary op left right) rest
    return (value, ⟨rest, by omega⟩)
termination_by 16 * ts.length + 6
decreasing_by all_goals omega

/-- Reads factors that are multiplied or divided. -/
def product (ts : List Token) : Option (Expr × Shorter ts) := do
  let (first, ⟨rest, shorter⟩) ← factor ts
  let (value, ⟨rest, shorter⟩) ← productFrom first rest
  return (value, ⟨rest, by omega⟩)
termination_by 16 * ts.length + 5
decreasing_by all_goals omega

/-- Reads the factors that follow the product so far. -/
def productFrom (left : Expr) (ts : List Token) : Option (Expr × Rest ts) :=
  match operator? productOp? ts with
  | none => some (left, .all ts)
  | some (op, ⟨rest, shorter⟩) => do
    let (right, ⟨rest, shorter⟩) ← factor rest
    let (value, ⟨rest, shorter⟩) ← productFrom (.binary op left right) rest
    return (value, ⟨rest, by omega⟩)
termination_by 16 * ts.length + 4
decreasing_by all_goals omega

/-- Reads an operand with signs, or a power. -/
def factor (ts : List Token) : Option (Expr × Shorter ts) :=
  match operator? sign? ts with
  | some (op, ⟨rest, shorter⟩) => do
    let (operand, ⟨rest, shorter⟩) ← factor rest
    return (.unary op operand, ⟨rest, by omega⟩)
  | none => do
    let (base, ⟨rest, shorter⟩) ← operand ts
    match expect (.mark .doubleStar) rest with
    | none => return (base, ⟨rest, shorter⟩)
    | some ⟨rest, shorter⟩ => do
      let (exponent, ⟨rest, shorter⟩) ← factor rest
      return (.binary .pow base exponent, ⟨rest, by omega⟩)
termination_by 16 * ts.length + 3
decreasing_by all_goals omega

/-- Reads a value that may be waited for. -/
def operand (ts : List Token) : Option (Expr × Shorter ts) :=
  match expect (.word .awaitWord) ts with
  | none => primary ts
  | some ⟨rest, shorter⟩ => do
    let (value, ⟨rest, shorter⟩) ← primary rest
    return (.await value, ⟨rest, by omega⟩)
termination_by 16 * ts.length + 2
decreasing_by all_goals omega

/-- Reads an atom with attributes, calls and subscripts. -/
def primary (ts : List Token) : Option (Expr × Shorter ts) := do
  let (first, ⟨rest, shorter⟩) ← atom ts
  let (value, ⟨rest, shorter⟩) ← trailers first rest
  return (value, ⟨rest, by omega⟩)
termination_by 16 * ts.length + 1
decreasing_by all_goals omega

/-- Reads the attributes, calls and subscripts that follow a value. -/
def trailers (value : Expr) (ts : List Token) : Option (Expr × Rest ts) :=
  match expect (.mark .dot) ts with
  | some ⟨rest, shorter⟩ => do
    let (name, ⟨rest, shorter⟩) ← name? rest
    let (value, ⟨rest, shorter⟩) ← trailers (.member value name) rest
    return (value, ⟨rest, by omega⟩)
  | none =>
    match expect (.mark .openParen) ts with
    | some ⟨rest, shorter⟩ => do
      let (arguments, ⟨rest, shorter⟩) ← items .closeParen rest
      let (value, ⟨rest, shorter⟩) ← trailers (.call value arguments) rest
      return (value, ⟨rest, by omega⟩)
    | none =>
      match expect (.mark .openBracket) ts with
      | some ⟨rest, shorter⟩ => do
        let (value, ⟨rest, shorter⟩) ← subscript value rest
        let (value, ⟨rest, shorter⟩) ← trailers value rest
        return (value, ⟨rest, by omega⟩)
      | none => some (value, .all ts)
termination_by 16 * ts.length
decreasing_by all_goals omega

/-- Reads the index or the bounds between square brackets, and the closing bracket. -/
def subscript (value : Expr) (ts : List Token) : Option (Expr × Shorter ts) := do
  let (lower, ⟨rest, shorter⟩) ← bound ts
  match expect (.mark .colon) rest with
  | none => do
    let ⟨rest, shorter⟩ ← expect (.mark .closeBracket) rest
    let index ← lower
    return (.subscript value index, ⟨rest, by omega⟩)
  | some ⟨rest, shorter⟩ => do
    let (upper, ⟨rest, shorter⟩) ← bound rest
    match expect (.mark .colon) rest with
    | none => do
      let ⟨rest, shorter⟩ ← expect (.mark .closeBracket) rest
      return (.part value lower upper none, ⟨rest, by omega⟩)
    | some ⟨rest, shorter⟩ => do
      let (step, ⟨rest, shorter⟩) ← bound rest
      let ⟨rest, shorter⟩ ← expect (.mark .closeBracket) rest
      return (.part value lower upper step, ⟨rest, by omega⟩)
termination_by 16 * ts.length + 13
decreasing_by all_goals omega

/-- Reads an expression unless a colon or a closing bracket stands here. -/
def bound (ts : List Token) : Option (Option Expr × Rest ts) :=
  if ts.head? = some (.mark .colon) ∨ ts.head? = some (.mark .closeBracket) then
    some (none, .all ts)
  else do
    let (value, ⟨rest, shorter⟩) ← expression ts
    return (some value, ⟨rest, by omega⟩)
termination_by 16 * ts.length + 12
decreasing_by all_goals omega

/-- Reads expressions between commas, and the mark that closes them. -/
def items (closer : Mark) (ts : List Token) : Option (List Expr × Shorter ts) :=
  match expect (.mark closer) ts with
  | some after => some ([], after)
  | none => do
    let (first, ⟨rest, shorter⟩) ← expression ts
    match expect (.mark .comma) rest with
    | some ⟨rest, shorter⟩ => do
      let (others, ⟨rest, shorter⟩) ← items closer rest
      return (first :: others, ⟨rest, by omega⟩)
    | none => do
      let ⟨rest, shorter⟩ ← expect (.mark closer) rest
      return ([first], ⟨rest, by omega⟩)
termination_by 16 * ts.length + 12
decreasing_by all_goals omega

/-- Reads the entries of an object, and the closing brace. -/
def entries (ts : List Token) : Option (List (Expr × Expr) × Shorter ts) :=
  match expect (.mark .closeBrace) ts with
  | some after => some ([], after)
  | none => do
    let (key, ⟨rest, shorter⟩) ← expression ts
    let ⟨rest, shorter⟩ ← expect (.mark .colon) rest
    let (value, ⟨rest, shorter⟩) ← expression rest
    match expect (.mark .comma) rest with
    | some ⟨rest, shorter⟩ => do
      let (others, ⟨rest, shorter⟩) ← entries rest
      return ((key, value) :: others, ⟨rest, by omega⟩)
    | none => do
      let ⟨rest, shorter⟩ ← expect (.mark .closeBrace) rest
      return ([(key, value)], ⟨rest, by omega⟩)
termination_by 16 * ts.length + 12
decreasing_by all_goals omega

/-- Reads the conditions of a comprehension, and the closing bracket. -/
def conditions (ts : List Token) : Option (List Expr × Shorter ts) :=
  match expect (.word .ifWord) ts with
  | some ⟨rest, shorter⟩ => do
    let (condition, ⟨rest, shorter⟩) ← disjunction rest
    let (others, ⟨rest, shorter⟩) ← conditions rest
    return (condition :: others, ⟨rest, by omega⟩)
  | none => do return ([], ← expect (.mark .closeBracket) ts)
termination_by 16 * ts.length
decreasing_by all_goals omega

/-- Reads a list or a comprehension behind its opening bracket. -/
def listFrom (ts : List Token) : Option (Expr × Shorter ts) :=
  match expect (.mark .closeBracket) ts with
  | some after => some (.list [], after)
  | none => do
    let (first, ⟨rest, shorter⟩) ← expression ts
    match expect (.word .forWord) rest with
    | some ⟨rest, shorter⟩ => do
      let (loopName, ⟨rest, shorter⟩) ← name? rest
      let ⟨rest, shorter⟩ ← expect (.word .inWord) rest
      let (source, ⟨rest, shorter⟩) ← disjunction rest
      let (conditions, ⟨rest, shorter⟩) ← conditions rest
      return (.comprehension first loopName source conditions, ⟨rest, by omega⟩)
    | none =>
      match expect (.mark .comma) rest with
      | some ⟨rest, shorter⟩ => do
        let (others, ⟨rest, shorter⟩) ← items .closeBracket rest
        return (.list (first :: others), ⟨rest, by omega⟩)
      | none => do
        let ⟨rest, shorter⟩ ← expect (.mark .closeBracket) rest
        return (.list [first], ⟨rest, by omega⟩)
termination_by 16 * ts.length + 13
decreasing_by all_goals omega

/-- Reads a literal, a name, or something in brackets. -/
def atom (ts : List Token) : Option (Expr × Shorter ts) :=
  match leaf? ts with
  | some found => some found
  | none =>
    match expect (.mark .openParen) ts with
    | some ⟨rest, shorter⟩ => do
      let (value, ⟨rest, shorter⟩) ← expression rest
      let ⟨rest, shorter⟩ ← expect (.mark .closeParen) rest
      return (value, ⟨rest, by omega⟩)
    | none =>
      match expect (.mark .openBracket) ts with
      | some ⟨rest, shorter⟩ => do
        let (value, ⟨rest, shorter⟩) ← listFrom rest
        return (value, ⟨rest, by omega⟩)
      | none => do
        let ⟨rest, shorter⟩ ← expect (.mark .openBrace) ts
        let (entries, ⟨rest, shorter⟩) ← entries rest
        return (.object entries, ⟨rest, by omega⟩)
termination_by 16 * ts.length
decreasing_by all_goals omega

end

end IssueBoard.Script
