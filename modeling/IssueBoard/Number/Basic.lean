import IssueBoard.Number.Binary64

/-!
# Numbers

A number is an integer of any size or a binary floating-point number. Numbers of the two kinds are
compared by their exact values.
-/

namespace IssueBoard

/-- An integer or a binary floating-point number. -/
inductive Number where
  | integer (n : Int)
  | real (x : Binary64)
  deriving DecidableEq

namespace Number

instance : Inhabited Number := ⟨.integer 0⟩

/-- The not-a-number. -/
def nan : Number := .real .nan

/-- Whether this is the not-a-number. -/
def isNaN : Number → Bool
  | .integer _ => false
  | .real x => x.isNaN

/-- The order of an integer and a floating-point number, by their exact values. -/
def compareInt? (n : Int) : Binary64 → Option Ordering
  | .nan => none
  | .infinite negative => some (if negative then .gt else .lt)
  | x => some (if (n : Rat) < x.toRat then .lt else if (n : Rat) = x.toRat then .eq else .gt)

/-- The order of two numbers; a not-a-number compares with none. -/
def compare? : Number → Number → Option Ordering
  | .integer m, .integer n => some (if m < n then .lt else if m = n then .eq else .gt)
  | .integer m, .real y => compareInt? m y
  | .real x, .integer n => (compareInt? n x).map Ordering.swap
  | .real x, .real y => x.compare? y

/-- Whether two numbers have the same value; a not-a-number equals nothing. -/
def sameValue (x y : Number) : Bool := x.compare? y == some .eq

/-- Whether a number is below another. -/
def below (x y : Number) : Bool := x.compare? y == some .lt

/-- The floating-point number nearest to a number, if an integer is not too large for one. -/
def toBinary64? : Number → Option Binary64
  | .integer n => Binary64.ofInt? n
  | .real x => some x

end Number

end IssueBoard
