/-!
# Blank characters

White space: tabs and line breaks, the four information separators, the space and the spaces and
separators of other scripts. Texts are trimmed by it, and runs of it count as one space.
-/

namespace IssueBoard.Text

/-- Whether a character is white space. -/
def isBlank (c : Char) : Bool :=
  let code := c.toNat
  (0x9 ≤ code && code ≤ 0xD) || (0x1C ≤ code && code ≤ 0x20) || code == 0x85 || code == 0xA0
    || code == 0x1680 || (0x2000 ≤ code && code ≤ 0x200A) || code == 0x2028 || code == 0x2029
    || code == 0x202F || code == 0x205F || code == 0x3000

/-- The characters after the leading blanks. -/
def dropBlank (cs : List Char) : List Char := cs.dropWhile isBlank

/-- The characters without the trailing ones that satisfy `p`. -/
def dropTrailing (p : Char → Bool) (cs : List Char) : List Char :=
  (cs.reverse.dropWhile p).reverse

/-- The characters without leading and trailing blanks. -/
def trimBlank (cs : List Char) : List Char := dropTrailing isBlank (dropBlank cs)

/-- A text without leading and trailing blanks. -/
def trim (s : String) : String := String.ofList (trimBlank s.toList)

/-- Whether a text is empty or holds nothing but blanks. -/
def isBlankText (s : String) : Bool := s.toList.all isBlank

/-- Runs of blanks as single spaces; `inGap` tells whether a space stands for the open run already. -/
def singleSpacedFrom (inGap : Bool) : List Char → List Char
  | [] => []
  | c :: rest =>
    if isBlank c then
      if inGap then singleSpacedFrom true rest else ' ' :: singleSpacedFrom true rest
    else c :: singleSpacedFrom false rest

/-- The characters with a single space in place of every run of blanks. -/
def singleSpaced (cs : List Char) : List Char := singleSpacedFrom false cs

/-- Whatever core's classifier takes for white space is blank. -/
theorem isBlank_of_isWhitespace {c : Char} (h : c.isWhitespace = true) : isBlank c = true := by
  simp only [Char.isWhitespace, Bool.or_eq_true, decide_eq_true_eq] at h
  rcases h with ((rfl | rfl) | rfl) | rfl <;> decide

end IssueBoard.Text
