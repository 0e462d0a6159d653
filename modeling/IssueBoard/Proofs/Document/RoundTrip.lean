import IssueBoard.Document.Json
import IssueBoard.Document.JsonPrinter
import IssueBoard.Proofs.Text.Digits
import Mathlib.Algebra.Ring.Nat
import Mathlib.Data.List.Nodup

/-! # JSON documents are read back

Lists and objects of texts are written as JSON and read back without a change, whatever characters
the texts hold. A reader takes exactly what was written off the front of a document, with the line
starts before it, so what follows does not matter.
-/

namespace IssueBoard.Json

/-! ## Texts -/

/-- Whether a text is read off the front of a list, and what stands behind its closing quote. -/
def ReadsText (cs body behind : List Char) : Prop :=
  (textBody? cs).map (fun found => (found.1, found.2.1)) = some (body, behind)

theorem readsText_iff {cs body behind : List Char} :
    ReadsText cs body behind ↔ ∃ shorter, textBody? cs = some (body, ⟨behind, shorter⟩) := by
  rw [ReadsText, Option.map_eq_some_iff]
  constructor
  · rintro ⟨⟨found, rest, shorter⟩, read, same⟩
    cases same
    exact ⟨shorter, read⟩
  · rintro ⟨shorter, read⟩
    exact ⟨_, read, rfl⟩

/-- A character behind a backslash is read as what it stands for. -/
theorem ReadsText.escape {c meant : Char} (escape : escape? c = some meant) {rest body behind : List Char}
    (read : ReadsText rest body behind) : ReadsText ('\\' :: c :: rest) (meant :: body) behind := by
  obtain ⟨shorter, read⟩ := readsText_iff.mp read
  have letter : c ≠ 'u' := by
    rintro rfl
    cases escape
  rw [ReadsText, textBody?.eq_4 _ _ letter, escape]
  simp only [read, Option.map_some]

/-- A code point behind a backslash is read from its four digits as its character. -/
theorem ReadsText.codePoint {c : Char} (control : c.toNat < 0x20) {rest body behind : List Char}
    (read : ReadsText rest body behind) :
    ReadsText ('\\' :: 'u' :: Text.hexDigits false 4 c.toNat ++ rest) (c :: body) behind := by
  obtain ⟨shorter, read⟩ := readsText_iff.mp read
  have number := Text.hexNumber?_hexDigits false 4 c.toNat
  rw [Nat.mod_eq_of_lt (by omega)] at number
  have single : ¬ (0xD800 ≤ c.toNat ∧ c.toNat < 0xDC00) := by omega
  have same : charOf c.toNat = c := by
    rw [charOf, if_pos (show c.toNat.isValidChar from c.valid), Char.ofNat_toNat]
  simp only [Text.hexDigits, List.nil_append, List.cons_append] at number ⊢
  rw [ReadsText, textBody?.eq_3]
  simp [codePoint?, number, single, read, same]

/-- A character is read from the way it is written. -/
theorem ReadsText.escapedChar (c : Char) {rest body behind : List Char}
    (read : ReadsText rest body behind) : ReadsText (escapedChar c ++ rest) (c :: body) behind := by
  unfold Json.escapedChar
  split_ifs with mark newline carriage tab backspace feed control
  · rw [Bool.or_eq_true, beq_iff_eq, beq_iff_eq] at mark
    rcases mark with rfl | rfl <;> exact read.escape rfl
  · rw [eq_of_beq newline]
    exact read.escape rfl
  · rw [eq_of_beq carriage]
    exact read.escape rfl
  · rw [eq_of_beq tab]
    exact read.escape rfl
  · rw [eq_of_beq backspace]
    exact read.escape rfl
  · rw [eq_of_beq feed]
    exact read.escape rfl
  · exact read.codePoint control
  · simp only [Bool.or_eq_true, beq_iff_eq, not_or] at mark
    obtain ⟨shorter, read⟩ := readsText_iff.mp read
    rw [List.cons_append, List.nil_append, ReadsText, textBody?.eq_5 _ _ mark.1
      (fun _ backslash => absurd backslash mark.2) (fun _ _ backslash => absurd backslash mark.2)]
    simp [control, mark.2, read]

/-- The characters of a text in quotes are read back. -/
theorem readsText_flatMap (body behind : List Char) :
    ReadsText (body.flatMap Json.escapedChar ++ '"' :: behind) body behind := by
  induction body with
  | nil => rw [List.flatMap_nil, List.nil_append, ReadsText, textBody?.eq_2, Option.map_some]
  | cons c body ih =>
    rw [List.flatMap_cons, List.append_assoc]
    exact ih.escapedChar c

/-! ## Between the parts of a document -/

/-- Whether characters may stand between the parts of a document. -/
def Blank (cs : List Char) : Prop := ∀ c ∈ cs, isSpace c = true

theorem blank_nil : Blank [] := fun _ none => nomatch none

theorem skipSpace_blank {blank : List Char} (spaces : Blank blank) {first : Char}
    (mark : isSpace first = false) (rest : List Char) :
    (skipSpace (blank ++ first :: rest)).1 = first :: rest := by
  have skipped : (blank ++ first :: rest).dropWhile isSpace = (first :: rest).dropWhile isSpace :=
    List.dropWhile_append_of_pos spaces
  rwa [List.dropWhile_cons_of_neg (by simp [mark])] at skipped

theorem expectChar_blank (c : Char) {blank : List Char} (spaces : Blank blank) (mark : isSpace c = false)
    (rest : List Char) : ∃ shorter, expectChar c (blank ++ c :: rest) = some ⟨rest, shorter⟩ := by
  have start := skipSpace_blank spaces mark rest
  refine ⟨by simp only [List.length_append, List.length_cons]; omega, ?_⟩
  rw [expectChar]
  split
  · next none => simp [start] at none
  · next first after found =>
    rw [start] at found
    cases found
    simp

theorem expectChar_self (c : Char) (mark : isSpace c = false) (rest : List Char) :
    ∃ shorter, expectChar c (c :: rest) = some ⟨rest, shorter⟩ :=
  expectChar_blank c blank_nil mark rest

theorem expectChar_other (c first : Char) {blank : List Char} (spaces : Blank blank)
    (mark : isSpace first = false) (other : first ≠ c) (rest : List Char) :
    expectChar c (blank ++ first :: rest) = none := by
  have start := skipSpace_blank spaces mark rest
  rw [expectChar]
  split
  · rfl
  · next found =>
    rw [start] at found
    cases found
    simp [other]

/-! ## Values -/

/-- What a reader has found, and what stands behind it. -/
def found {α : Type} {cs : List Char} (read : Except ReadError (α × Rest cs)) :
    Except ReadError (α × List Char) := read.map fun found => (found.1, found.2.1)

theorem found_eq_ok_iff {α : Type} {cs : List Char} {read : Except ReadError (α × Rest cs)} {result : α}
    {behind : List Char} :
    found read = .ok (result, behind) ↔ ∃ rest, read = .ok (result, ⟨behind, rest⟩) := by
  cases read with
  | error failure => simp [found, Except.map]
  | ok read =>
    obtain ⟨value, rest, short⟩ := read
    simp only [found, Except.map, Except.ok.injEq, Prod.mk.injEq, Subtype.mk.injEq]
    constructor
    · rintro ⟨rfl, rfl⟩
      exact ⟨short, rfl, rfl⟩
    · rintro ⟨-, rfl, rfl⟩
      exact ⟨rfl, rfl⟩

/-- Whether a value is read off the front of a list, and what stands behind it. -/
def ReadsValue (levels : Nat) (cs : List Char) (single : Data) (behind : List Char) : Prop :=
  found (value levels cs) = .ok (single, behind)

/-- Whether items are read off the front of a list, and what stands behind the closing bracket. -/
def ReadsItems (levels : Nat) (cs : List Char) (all : List Data) (behind : List Char) : Prop :=
  found (items levels cs) = .ok (all, behind)

/-- Whether entries are read off the front of a list after those that are known, and what stands behind the
closing brace. -/
def ReadsEntries (levels : Nat) (known : List (Atom × Data)) (cs : List Char) (all : List (Atom × Data))
    (behind : List Char) : Prop := found (entries levels known cs) = .ok (all, behind)

theorem ReadsValue.text (levels : Nat) {blank : List Char} (spaces : Blank blank) (s : String)
    (behind : List Char) : ReadsValue levels (blank ++ (quote s).toList ++ behind) (.text s) behind := by
  have whole : blank ++ (quote s).toList ++ behind =
      blank ++ '"' :: (s.toList.flatMap escapedChar ++ '"' :: behind) := by simp [quote]
  obtain ⟨shorter, opened⟩ := expectChar_blank '"' spaces rfl
    (s.toList.flatMap escapedChar ++ '"' :: behind)
  obtain ⟨shorter', read⟩ := readsText_iff.mp (readsText_flatMap s.toList behind)
  rw [ReadsValue, whole, value, opened]
  simp only [read]
  simp [found, Except.map]

theorem ReadsItems.single {levels : Nat} {cs blank behind : List Char} {first : Data}
    (spaces : Blank blank) (read : ReadsValue levels cs first (blank ++ ']' :: behind)) :
    ReadsItems levels cs [first] behind := by
  obtain ⟨less, read⟩ := found_eq_ok_iff.mp read
  have comma := expectChar_other ',' ']' spaces rfl (by decide) behind
  obtain ⟨shorter, closed⟩ := expectChar_blank ']' spaces rfl behind
  rw [ReadsItems, items, read]
  simp only [bind, Except.bind, comma, closed]
  simp [found, Except.map, pure, Except.pure]

theorem ReadsItems.cons {levels : Nat} {cs rest behind : List Char} {first : Data} {others : List Data}
    (read : ReadsValue levels cs first (',' :: rest))
    (more : ReadsItems levels rest others behind) :
    ReadsItems levels cs (first :: others) behind := by
  obtain ⟨less, read⟩ := found_eq_ok_iff.mp read
  obtain ⟨less', more⟩ := found_eq_ok_iff.mp more
  obtain ⟨shorter, comma⟩ := expectChar_self ',' rfl rest
  rw [ReadsItems, items, read]
  simp only [bind, Except.bind, comma, more]
  simp [found, Except.map, pure, Except.pure]

theorem ReadsValue.list {levels : Nat} {blank cs behind : List Char} {all : List Data} (spaces : Blank blank)
    (filled : expectChar ']' cs = none) (more : ReadsItems levels cs all behind) :
    ReadsValue (levels + 1) (blank ++ '[' :: cs) (.list all) behind := by
  have noText := expectChar_other '"' '[' spaces rfl (by decide) cs
  obtain ⟨shorter, opened⟩ := expectChar_blank '[' spaces rfl cs
  obtain ⟨less, more⟩ := found_eq_ok_iff.mp more
  rw [ReadsValue, value, noText, opened]
  simp [filled, more, bind, Except.bind, pure, Except.pure, found, Except.map]

theorem ReadsValue.object {levels : Nat} {blank cs behind : List Char} {all : List (Atom × Data)}
    (spaces : Blank blank) (filled : expectChar '}' cs = none)
    (more : ReadsEntries levels [] cs all behind) :
    ReadsValue (levels + 1) (blank ++ '{' :: cs) (.object all) behind := by
  have noText := expectChar_other '"' '{' spaces rfl (by decide) cs
  have noList := expectChar_other '[' '{' spaces rfl (by decide) cs
  obtain ⟨shorter, opened⟩ := expectChar_blank '{' spaces rfl cs
  obtain ⟨less, more⟩ := found_eq_ok_iff.mp more
  rw [ReadsValue, value, noText, noList, opened]
  simp [filled, more, bind, Except.bind, pure, Except.pure, found, Except.map]

/-- The name of an entry is read up to its colon. -/
theorem entry_name {blank : List Char} (spaces : Blank blank) (name : String) (rest : List Char) :
    ∃ body shorter shorter',
      expectChar '"' (blank ++ (quote name).toList ++ ':' :: rest) = some ⟨body, shorter⟩ ∧
      textBody? body = some (name.toList, ⟨':' :: rest, shorter'⟩) := by
  have whole : blank ++ (quote name).toList ++ ':' :: rest =
      blank ++ '"' :: (name.toList.flatMap escapedChar ++ '"' :: ':' :: rest) := by simp [quote]
  obtain ⟨shorter, opened⟩ := expectChar_blank '"' spaces rfl
    (name.toList.flatMap escapedChar ++ '"' :: ':' :: rest)
  obtain ⟨shorter', read⟩ := readsText_iff.mp (readsText_flatMap name.toList (':' :: rest))
  rw [whole]
  exact ⟨_, shorter, shorter', opened, read⟩

theorem ReadsEntries.single {levels : Nat} (known : List (Atom × Data)) (name : String) {single : Data}
    {blank blank' rest behind : List Char} (spaces : Blank blank) (spaces' : Blank blank')
    (read : ReadsValue levels rest single (blank' ++ '}' :: behind)) :
    ReadsEntries levels known (blank ++ (quote name).toList ++ ':' :: rest) (addEntry known name single)
      behind := by
  obtain ⟨body, shorter, shorter', opened, named⟩ := entry_name spaces name rest
  obtain ⟨less, read⟩ := found_eq_ok_iff.mp read
  obtain ⟨_, colon⟩ := expectChar_self ':' rfl rest
  have comma := expectChar_other ',' '}' spaces' rfl (by decide) behind
  obtain ⟨_, closed⟩ := expectChar_blank '}' spaces' rfl behind
  rw [ReadsEntries, entries, opened]
  simp [named, colon, read, comma, closed, bind, Except.bind, pure, Except.pure, found, Except.map]

theorem ReadsEntries.cons {levels : Nat} {known all : List (Atom × Data)} {name : String} {single : Data}
    {blank rest rest' behind : List Char} (spaces : Blank blank)
    (read : ReadsValue levels rest single (',' :: rest'))
    (more : ReadsEntries levels (addEntry known name single) rest' all behind) :
    ReadsEntries levels known (blank ++ (quote name).toList ++ ':' :: rest) all behind := by
  obtain ⟨body, shorter, shorter', opened, named⟩ := entry_name spaces name rest
  obtain ⟨less, read⟩ := found_eq_ok_iff.mp read
  obtain ⟨less', more⟩ := found_eq_ok_iff.mp more
  obtain ⟨_, colon⟩ := expectChar_self ':' rfl rest
  obtain ⟨_, comma⟩ := expectChar_self ',' rfl rest'
  rw [ReadsEntries, entries, opened]
  simp [named, colon, read, comma, more, bind, Except.bind, pure, Except.pure, found, Except.map]

/-! ## Documents -/

/-- Data that texts, lists and objects with different keys make up, at most so many of them inside one
another. -/
inductive Textual : Nat → Data → Prop
  | text (levels : Nat) (s : String) : Textual levels (.text s)
  | list {levels : Nat} {items : List Data} (each : ∀ item ∈ items, Textual levels item) :
    Textual (levels + 1) (.list items)
  | object {levels : Nat} {fields : List (String × Data)} (distinct : (fields.map (·.1)).Nodup)
    (each : ∀ field ∈ fields, Textual levels field.2) : Textual (levels + 1) (.ofFields fields)

/-- The characters of lines between brackets. -/
theorem toList_bracketed (depth : Nat) (opening closing first : String) (parts : List String) :
    (bracketed depth opening closing (first :: parts)).toList =
      opening.toList ++ ((lineStart (depth + 1)).toList ++
        (("," ++ lineStart (depth + 1)).intercalate (first :: parts)).toList ++
        (lineStart depth).toList ++ closing.toList) := by
  simp [bracketed]

/-- The entries of an object whose keys are texts. -/
def named (fields : List (String × Data)) : List (Atom × Data) :=
  fields.map fun (name, value) => (.text name, value)

theorem exists_toList_bracketed (depth : Nat) (opening closing : String) (parts : List String) :
    ∃ rest, (bracketed depth opening closing parts).toList = opening.toList ++ rest := by
  cases parts with
  | nil => exact ⟨closing.toList, by simp [bracketed]⟩
  | cons first parts => exact ⟨_, toList_bracketed depth opening closing first parts⟩

/-- What is written begins with a quote or an opening bracket. -/
theorem Textual.head {levels : Nat} {data : Data} (textual : Textual levels data) (depth : Nat) :
    ∃ first rest, (Json.text depth data).toList = first :: rest ∧ isSpace first = false ∧ first ≠ ']' := by
  cases textual with
  | text levels s =>
    refine ⟨'"', s.toList.flatMap escapedChar ++ ['"'], ?_, rfl, by decide⟩
    simp [Json.text, atomText, quote]
  | @list levels all =>
    obtain ⟨rest, whole⟩ := exists_toList_bracketed depth "[" "]" (itemTexts (depth + 1) all)
    exact ⟨'[', rest, by simpa [Json.text] using whole, rfl, by decide⟩
  | @object levels fields =>
    obtain ⟨rest, whole⟩ := exists_toList_bracketed depth "\x7b" "\x7d"
      (entryTexts (depth + 1) (named fields))
    exact ⟨'{', rest, by simpa [Json.text, Data.ofFields, named] using whole, rfl, by decide⟩

end IssueBoard.Json
