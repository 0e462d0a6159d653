import IssueBoard.Text.Normal.Composition
import IssueBoard.Text.Normal.Decomposition
import IssueBoard.Text.Normal.Order

/-!
# Normal forms of texts

Two texts that differ only in how their characters are put together or look have one normal form:
every character is taken apart, marks are sorted by their classes, and a letter is put together
again with the marks behind it. Names of scripts are the same when their normal forms are.
-/

namespace IssueBoard.Text

namespace Normal

/-- The code point of the first syllable of Hangul. -/
def firstSyllable : Nat := 0xAC00

/-- The code point of the first consonant that begins a syllable. -/
def firstLeading : Nat := 0x1100

/-- The code point of the first vowel. -/
def firstVowel : Nat := 0x1161

/-- The code point before the first consonant that ends a syllable. -/
def beforeTrailing : Nat := 0x11A7

/-- The number of consonants that begin a syllable. -/
def leadingCount : Nat := 19

/-- The number of vowels. -/
def vowelCount : Nat := 21

/-- The number of ways to end a syllable, with no consonant or with one. -/
def trailingCount : Nat := 28

/-- The letters of a syllable of Hangul. -/
def syllableForm? (c : Char) : Option (List Char) :=
  let place := c.toNat - firstSyllable
  if c.toNat < firstSyllable || leadingCount * vowelCount * trailingCount ≤ place then none
  else
    let leading := Char.ofNat (firstLeading + place / (vowelCount * trailingCount))
    let vowel := Char.ofNat (firstVowel + place / trailingCount % vowelCount)
    let trailing := place % trailingCount
    some (leading :: vowel ::
      if trailing = 0 then [] else [Char.ofNat (beforeTrailing + trailing)])

/-- The syllable of Hangul that two characters make: two letters, or a syllable without an end and a
letter that ends it. -/
def syllable? (first second : Char) : Option Char :=
  let leading := first.toNat - firstLeading
  let vowel := second.toNat - firstVowel
  let opened := first.toNat - firstSyllable
  let trailing := second.toNat - beforeTrailing
  if firstLeading ≤ first.toNat && leading < leadingCount
      && firstVowel ≤ second.toNat && vowel < vowelCount then
    some (Char.ofNat (firstSyllable + (leading * vowelCount + vowel) * trailingCount))
  else if firstSyllable ≤ first.toNat && opened < leadingCount * vowelCount * trailingCount
      && opened % trailingCount = 0 && beforeTrailing < second.toNat
      && trailing < trailingCount then
    some (Char.ofNat (first.toNat + trailing))
  else none

/-- A character, completely taken apart. -/
def decompose (c : Char) : List Char := ((syllableForm? c).or (form? c)).getD [c]

/-- The character for two others. -/
def compose? (first second : Char) : Option Char :=
  (syllable? first second).or (listedComposition? first second)

/-- Puts a mark behind what stands before it, read backwards: before the marks of higher classes, as
far back as there are no other characters. -/
def insertMark (mark : Char) : List Char → List Char
  | [] => [mark]
  | last :: before =>
    if combiningClass mark ≠ 0 ∧ combiningClass mark < combiningClass last then
      last :: insertMark mark before
    else mark :: last :: before

/-- The characters with their marks sorted by class. -/
def sortMarks (cs : List Char) : List Char :=
  (cs.foldl (fun before c => insertMark c before) []).reverse

/-- Puts a letter together with the marks behind it. `marks` are those that stay apart from it, read
backwards: a mark reaches the letter if the last of them has a lower class. -/
def composeFrom (letter : Char) (marks : List Char) : List Char → List Char
  | [] => letter :: marks.reverse
  | c :: rest =>
    let reaches := marks.head?.all fun last => combiningClass last < combiningClass c
    match if reaches then compose? letter c else none with
    | some both => composeFrom both marks rest
    | none =>
      if combiningClass c = 0 then letter :: marks.reverse ++ composeFrom c [] rest
      else composeFrom letter (c :: marks) rest

/-- The characters with letters and marks put together; marks before the first letter stay. -/
def compose : List Char → List Char
  | [] => []
  | c :: rest => if combiningClass c = 0 then composeFrom c [] rest else c :: compose rest

end Normal

/-- Whether a character is one that never changes its form. -/
def isPlainChar (c : Char) : Bool := c.toNat < 0x80

/-- The normal form of characters. -/
def normalForm (cs : List Char) : List Char :=
  if cs.all isPlainChar then cs else Normal.compose (Normal.sortMarks (cs.flatMap Normal.decompose))

/-- The normal form of a text. -/
def normalize (s : String) : String := String.ofList (normalForm s.toList)

/-- Plain characters are in normal form. -/
theorem normalForm_of_all_plain {cs : List Char} (plain : cs.all isPlainChar = true) :
    normalForm cs = cs := if_pos plain

end IssueBoard.Text
