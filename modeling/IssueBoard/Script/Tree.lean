import IssueBoard.Data.Basic

/-!
# Syntax trees of scripts

The expressions and statements of the script language.
-/

namespace IssueBoard.Script

/-- The operators with two operands. -/
inductive BinaryOp where
  | add | sub | mul | div | floorDiv | mod | pow
  deriving DecidableEq

/-- How an operator is written. -/
def BinaryOp.spelling : BinaryOp → String
  | .add => "+"
  | .sub => "-"
  | .mul => "*"
  | .div => "/"
  | .floorDiv => "//"
  | .mod => "%"
  | .pow => "**"

/-- The operators with one operand. -/
inductive UnaryOp where
  | plus | minus | negation
  deriving DecidableEq

/-- The comparisons. -/
inductive Comparison where
  | equal | notEqual | less | lessEqual | greater | greaterEqual
  | member | notMember | identical | notIdentical
  deriving DecidableEq

namespace Comparison

/-- How a comparison by order is written. -/
def spelling : Comparison → String
  | .less => "<"
  | .lessEqual => "<="
  | .greater => ">"
  | .greaterEqual => ">="
  | _ => "=="

/-- Whether two things in this order satisfy a comparison. -/
def accepts : Comparison → Ordering → Bool
  | .less, order => order == .lt
  | .lessEqual, order => order != .gt
  | .greater, order => order == .gt
  | .greaterEqual, order => order != .lt
  | _, order => order == .eq

end Comparison

/-- What brackets with nothing between them stand for: a container that is always empty. -/
@[match_pattern] abbrev emptyBrackets : Atom := .foreign "tuple" "()" "()"

/-- An expression. -/
inductive Expr where
  | literal (value : Atom)
  | name (name : String)
  | list (items : List Expr)
  | object (entries : List (Expr × Expr))
  | unary (op : UnaryOp) (operand : Expr)
  | binary (op : BinaryOp) (left right : Expr)
  /-- A chain of comparisons; all of them have to hold. -/
  | compare (first : Expr) (rest : List (Comparison × Expr))
  | both (left right : Expr)
  | either (left right : Expr)
  | choice (condition yes no : Expr)
  | subscript (container index : Expr)
  | part (container : Expr) (lower upper step : Option Expr)
  | member (owner : Expr) (name : String)
  | call (function : Expr) (arguments : List Expr)
  | comprehension (body : Expr) (loopName : String) (source : Expr) (conditions : List Expr)
  | await (operand : Expr)

/-- What a value can be assigned to. -/
inductive Target where
  | name (name : String)
  | item (container index : Expr)
  | part (container : Expr) (lower upper step : Option Expr)
  | member (owner : Expr) (name : String)

/-- What an expression means on the left of an assignment. -/
def Expr.target? : Expr → Option Target
  | .name n => some (.name n)
  | .subscript container index => some (.item container index)
  | .part container lower upper step => some (.part container lower upper step)
  | .member owner n => some (.member owner n)
  | _ => none

/-- A statement. -/
inductive Stmt where
  | pass
  | expression (value : Expr)
  | assign (targets : List Target) (value : Expr)
  | augment (target : Target) (op : BinaryOp) (value : Expr)
  | finish (value : Option Expr)
  | raise (error : Option Expr)
  | branch (condition : Expr) (yes no : List Stmt)
  | forEach (loopName : String) (source : Expr) (body otherwise : List Stmt)
  | repeatWhile (condition : Expr) (body otherwise : List Stmt)
  | leave
  | proceed

/-- The largest number of loops inside one another. -/
def deepestLoop : Nat := 20

mutual

/-- Whether a statement in some loops leaves or goes on with a loop only inside one, and not too
many loops stand inside one another. -/
def Stmt.wellPlaced (loops : Nat) : Stmt → Bool
  | .leave | .proceed => 0 < loops
  | .branch _ yes no => allWellPlaced loops yes && allWellPlaced loops no
  | .forEach _ _ body otherwise =>
    loops < deepestLoop && allWellPlaced (loops + 1) body && allWellPlaced loops otherwise
  | .repeatWhile _ body otherwise =>
    loops < deepestLoop && allWellPlaced (loops + 1) body && allWellPlaced loops otherwise
  | _ => true

/-- Whether all statements of a block in some loops are well placed. -/
def allWellPlaced (loops : Nat) : List Stmt → Bool
  | [] => true
  | stmt :: rest => stmt.wellPlaced loops && allWellPlaced loops rest

end

/-- The name that a target assigns to. -/
def Target.assigned : Target → List String
  | .name n => [n]
  | .item .. | .part .. | .member .. => []

mutual

/-- The names that a statement assigns to. -/
def Stmt.assigned : Stmt → List String
  | .assign targets _ => targets.flatMap Target.assigned
  | .augment target _ _ => target.assigned
  | .branch _ yes no => assignedIn yes ++ assignedIn no
  | .forEach loopName _ body otherwise => loopName :: assignedIn body ++ assignedIn otherwise
  | .repeatWhile _ body otherwise => assignedIn body ++ assignedIn otherwise
  | _ => []

/-- The names that the statements of a block assign to. -/
def assignedIn : List Stmt → List String
  | [] => []
  | stmt :: rest => stmt.assigned ++ assignedIn rest

end

/-! ## Nesting -/

mutual

/-- The number of expressions that stand inside one another. Operands that are joined by the same
word stand side by side. -/
def Expr.nesting : Expr → Nat
  | .literal _ | .name _ => 1
  | .list items => nestingOfAll items + 1
  | .object entries => nestingOfEntries entries + 1
  | .unary _ operand => operand.nesting + 1
  | .binary _ left right => max left.nesting right.nesting + 1
  | .compare first rest => max first.nesting (nestingOfChain rest) + 1
  | .both left right =>
    match right with
    | .both .. => max (left.nesting + 1) right.nesting
    | _ => max left.nesting right.nesting + 1
  | .either left right =>
    match right with
    | .either .. => max (left.nesting + 1) right.nesting
    | _ => max left.nesting right.nesting + 1
  | .choice condition yes no => max condition.nesting (max yes.nesting no.nesting) + 1
  | .subscript container index => max container.nesting index.nesting + 1
  | .part container lower upper step =>
    max container.nesting (max (nestingOfBound lower)
      (max (nestingOfBound upper) (nestingOfBound step)) + 1) + 1
  | .member owner _ => owner.nesting + 1
  | .call function arguments => max function.nesting (nestingOfAll arguments) + 1
  | .comprehension body _ source conditions =>
    max body.nesting (max source.nesting (nestingOfAll conditions) + 1) + 1
  | .await operand => operand.nesting + 1

/-- The nesting of the deepest of some expressions. -/
def nestingOfAll : List Expr → Nat
  | [] => 0
  | first :: rest => max first.nesting (nestingOfAll rest)

/-- The nesting of the deepest key or value of an object. -/
def nestingOfEntries : List (Expr × Expr) → Nat
  | [] => 0
  | (key, value) :: rest => max (max key.nesting value.nesting) (nestingOfEntries rest)

/-- The nesting of a bound of a part. -/
def nestingOfBound : Option Expr → Nat
  | none => 0
  | some bound => bound.nesting

/-- The nesting of the deepest operand of a chain of comparisons. -/
def nestingOfChain : List (Comparison × Expr) → Nat
  | [] => 0
  | (_, operand) :: rest => max operand.nesting (nestingOfChain rest)

end

/-- The nesting of a target. -/
def Target.nesting : Target → Nat
  | .name _ => 1
  | .item container index => max container.nesting index.nesting + 1
  | .part container lower upper step => (Expr.part container lower upper step).nesting
  | .member owner _ => owner.nesting + 1

/-- The nesting of the deepest of some targets. -/
def nestingOfTargets (targets : List Target) : Nat :=
  targets.foldr (fun target deepest => max target.nesting deepest) 0

mutual

/-- The number of statements and expressions that stand inside one another. -/
def Stmt.nesting : Stmt → Nat
  | .pass | .leave | .proceed => 1
  | .expression value => value.nesting + 1
  | .assign targets value => max (nestingOfTargets targets) value.nesting + 1
  | .augment target _ value => max target.nesting value.nesting + 1
  | .finish value => nestingOfBound value + 1
  | .raise error => nestingOfBound error + 1
  | .branch condition yes no =>
    max condition.nesting (max (nestingOfBlock yes) (nestingOfBlock no)) + 1
  | .forEach _ source body otherwise =>
    max source.nesting (max (nestingOfBlock body) (nestingOfBlock otherwise)) + 1
  | .repeatWhile condition body otherwise =>
    max condition.nesting (max (nestingOfBlock body) (nestingOfBlock otherwise)) + 1

/-- The nesting of the deepest statement of a block. -/
def nestingOfBlock : List Stmt → Nat
  | [] => 0
  | stmt :: rest => max stmt.nesting (nestingOfBlock rest)

end

/-! ## Mentioned names -/

/-- A name that code mentions. -/
inductive Mention where
  /-- The value of the name is asked for. -/
  | read (name : String)
  /-- The name is given a value. -/
  | bound (name : String)
  /-- An attribute of this name is set. -/
  | attribute (name : String)

mutual

/-- The names that an expression mentions. -/
def Expr.mentions : Expr → List Mention
  | .literal _ => []
  | .name n => [.read n]
  | .list items => mentionsIn items
  | .object entries => mentionsInEntries entries
  | .unary _ operand => operand.mentions
  | .binary _ left right => left.mentions ++ right.mentions
  | .compare first rest => first.mentions ++ mentionsInChain rest
  | .both left right => left.mentions ++ right.mentions
  | .either left right => left.mentions ++ right.mentions
  | .choice condition yes no => condition.mentions ++ yes.mentions ++ no.mentions
  | .subscript container index => container.mentions ++ index.mentions
  | .part container lower upper step =>
    container.mentions ++ mentionsInBound lower ++ mentionsInBound upper ++ mentionsInBound step
  | .member owner _ => owner.mentions
  | .call function arguments => function.mentions ++ mentionsIn arguments
  | .comprehension body loopName source conditions =>
    .bound loopName :: body.mentions ++ source.mentions ++ mentionsIn conditions
  | .await operand => operand.mentions

/-- The names that expressions mention. -/
def mentionsIn : List Expr → List Mention
  | [] => []
  | first :: rest => first.mentions ++ mentionsIn rest

/-- The names that the entries of an object mention. -/
def mentionsInEntries : List (Expr × Expr) → List Mention
  | [] => []
  | (key, value) :: rest => key.mentions ++ value.mentions ++ mentionsInEntries rest

/-- The names that a bound of a part mentions. -/
def mentionsInBound : Option Expr → List Mention
  | none => []
  | some bound => bound.mentions

/-- The names that the operands of a chain of comparisons mention. -/
def mentionsInChain : List (Comparison × Expr) → List Mention
  | [] => []
  | (_, operand) :: rest => operand.mentions ++ mentionsInChain rest

end

/-- The names that a target mentions. -/
def Target.mentions : Target → List Mention
  | .name n => [.bound n]
  | .item container index => container.mentions ++ index.mentions
  | .part container lower upper step =>
    container.mentions ++ mentionsInBound lower ++ mentionsInBound upper ++ mentionsInBound step
  | .member owner n => .attribute n :: owner.mentions

mutual

/-- The names that a statement mentions. -/
def Stmt.mentions : Stmt → List Mention
  | .pass | .leave | .proceed => []
  | .expression value => value.mentions
  | .assign targets value => targets.flatMap Target.mentions ++ value.mentions
  | .augment target _ value => target.mentions ++ value.mentions
  | .finish value => mentionsInBound value
  | .raise error => mentionsInBound error
  | .branch condition yes no => condition.mentions ++ mentionedIn yes ++ mentionedIn no
  | .forEach loopName source body otherwise =>
    .bound loopName :: source.mentions ++ mentionedIn body ++ mentionedIn otherwise
  | .repeatWhile condition body otherwise =>
    condition.mentions ++ mentionedIn body ++ mentionedIn otherwise

/-- The names that the statements of a block mention. -/
def mentionedIn : List Stmt → List Mention
  | [] => []
  | stmt :: rest => stmt.mentions ++ mentionedIn rest

end

end IssueBoard.Script
