/-!
# Searching in texts

Where one run of characters occurs in another, and what results from splitting a text at the
occurrences of a separator or from replacing them. Occurrences are found from left to right and do
not overlap.
-/

namespace IssueBoard.Text

/-- Whether a run of characters occurs in a text. -/
def occursIn (part : List Char) : List Char → Bool
  | [] => part.isEmpty
  | c :: rest => part.isPrefixOf (c :: rest) || occursIn part rest

/-- The pieces between the occurrences of a separator, at most `limit` of which count; `piece` is
the open piece, reversed, and `skip` characters belong to the separator that was met last. -/
def piecesFrom (separator : List Char) (limit : Nat) (piece : List Char) (skip : Nat) :
    List Char → List (List Char)
  | [] => [piece.reverse]
  | c :: rest =>
    if 0 < skip then piecesFrom separator limit piece (skip - 1) rest
    else if 0 < limit && separator.isPrefixOf (c :: rest) then
      piece.reverse :: piecesFrom separator (limit - 1) [] (separator.length - 1) rest
    else piecesFrom separator limit (c :: piece) 0 rest

/-- Splits a text at the first `limit` occurrences of a separator that is not empty. -/
def pieces (separator : List Char) (limit : Nat) (cs : List Char) : List (List Char) :=
  piecesFrom separator limit [] 0 cs

/-- Puts a text before each of the first `limit` characters, and at the end if `limit` allows. -/
def interleave (new : List Char) : (limit : Nat) → List Char → List Char
  | 0, cs => cs
  | _ + 1, [] => new
  | limit + 1, c :: rest => new ++ c :: interleave new limit rest

/-- Replaces the first `limit` occurrences of a text. The empty text occurs between all characters
and at both ends. -/
def replace (old new : List Char) (limit : Nat) (cs : List Char) : List Char :=
  if old.isEmpty then interleave new limit cs else new.intercalate (pieces old limit cs)

end IssueBoard.Text
