import IssueBoard.Proofs.Script.Entries
import IssueBoard.Proofs.Text.Breaks

/-! # Where the code of a source starts

The lines before the first line of code are blank or comments. Where such comments hold no break of another
kind, the first line of code is found at the same place by its characters and by its tokens.
-/

namespace IssueBoard.Script

open Text (isBlank isLineBreak linesFrom lines trimBlank)

/-! ## Lines that hold code -/

/-- Whether a line holds something, and no comment first. -/
def isCode (line : List Char) : Bool :=
  let code := trimBlank line
  !code.isEmpty && code.head? != some '#'

/-- The first line that holds code. -/
def codeLine? (cs : List Char) : Option (List Char) := (lines cs).find? isCode

theorem isIndented_eq (source : String) : isIndented source =
    match codeLine? source.toList with
    | some (c :: _) => isBlank c
    | _ => false := rfl

theorem trimBlank_blanks {blanks : List Char} (blank : ∀ c ∈ blanks, isBlank c = true) :
    trimBlank blanks = [] := by
  rw [trimBlank, Text.dropBlank, ← List.append_nil blanks, List.dropWhile_append_of_pos blank]
  rfl

theorem head_trimBlank {blanks : List Char} (blank : ∀ c ∈ blanks, isBlank c = true) {c : Char}
    (filled : isBlank c = false) (more : List Char) : (trimBlank (blanks ++ c :: more)).head? = some c := by
  have drop : Text.dropBlank (blanks ++ c :: more) = c :: more := by
    rw [Text.dropBlank, List.dropWhile_append_of_pos blank, List.dropWhile_cons_of_neg (by simp [filled])]
  have last (cs : List Char) : (cs ++ [c]).dropWhile isBlank = cs.dropWhile isBlank ++ [c] := by
    induction cs with
    | nil => simp [filled]
    | cons d cs ih =>
      rw [List.cons_append, List.dropWhile_cons, List.dropWhile_cons, ih]
      split <;> rfl
  rw [trimBlank, drop, Text.dropTrailing, List.reverse_cons, last, List.reverse_append]
  rfl

theorem isCode_blanks {blanks : List Char} (blank : ∀ c ∈ blanks, isBlank c = true) :
    isCode blanks = false := by
  rw [isCode, trimBlank_blanks blank]
  rfl

theorem isCode_append {blanks : List Char} (blank : ∀ c ∈ blanks, isBlank c = true) {c : Char}
    (filled : isBlank c = false) (more : List Char) : isCode (blanks ++ c :: more) = (c != '#') := by
  obtain ⟨code, same⟩ := List.head?_eq_some_iff.mp (head_trimBlank blank filled more)
  rw [isCode, same]
  rfl

/-! ## Lines at all breaks -/

theorem isBlank_of_isLineBreak {c : Char} (is : isLineBreak c = true) : isBlank c = true := by
  simp only [isLineBreak, isBlank, Bool.or_eq_true, Bool.and_eq_true, decide_eq_true_eq, beq_iff_eq] at is ⊢
  omega

theorem linesFrom_cons {c : Char} {cs : List Char}
    (single : c ≠ '\r' ∨ cs.head? ≠ some '\n') (line : List Char) :
    linesFrom line (c :: cs) =
      if isLineBreak c then line.reverse :: lines cs else linesFrom (c :: line) cs := by
  rw [linesFrom, lines]
  rintro _ rfl rfl
  rcases single with never | never
  · exact never rfl
  · exact never rfl

theorem linesFrom_append {word : List Char} (inside : ∀ c ∈ word, isLineBreak c = false)
    (line cs : List Char) :
    linesFrom line (word ++ cs) = linesFrom (word.reverse ++ line) cs := by
  induction word generalizing line with
  | nil => rfl
  | cons c word ih =>
    obtain ⟨here, others⟩ := List.forall_mem_cons.mp inside
    have other : c ≠ '\r' := by
      rintro rfl
      cases here
    rw [List.cons_append, linesFrom_cons (.inl other), here, if_neg Bool.false_ne_true, ih others]
    simp

/-- A line goes on where it has started. -/
theorem linesFrom_started {line : List Char} (started : line ≠ []) (cs : List Char) :
    ∃ more others, linesFrom line cs = (line.reverse ++ more) :: others := by
  induction cs generalizing line with
  | nil => exact ⟨[], [], by simp [linesFrom, started]⟩
  | cons c cs ih =>
    by_cases pair : c = '\r' ∧ cs.head? = some '\n'
    · obtain ⟨rfl, feed⟩ := pair
      obtain ⟨cs, rfl⟩ := List.head?_eq_some_iff.mp feed
      exact ⟨[], lines cs, by rw [linesFrom, lines, List.append_nil]⟩
    rw [linesFrom_cons (by rwa [not_and_or] at pair)]
    split
    · exact ⟨[], lines cs, by rw [List.append_nil]⟩
    · obtain ⟨more, others, same⟩ := ih (List.cons_ne_nil c line)
      exact ⟨c :: more, others, by rw [same]; simp⟩

theorem linesFrom_unifyBreaks (line cs : List Char) :
    linesFrom line (Text.unifyBreaks cs) = linesFrom line cs := by
  induction cs using Text.unifyBreaks.induct generalizing line with
  | case1 => rfl
  | case2 cs ih =>
    rw [Text.unifyBreaks, linesFrom, linesFrom_cons (.inl (by decide)), if_pos (by decide), lines, ih]
  | case3 cs single ih =>
    have single : cs.head? ≠ some '\n' := by
      rintro feed
      obtain ⟨more, rfl⟩ := List.head?_eq_some_iff.mp feed
      exact single more rfl
    rw [Text.unifyBreaks_return single, linesFrom_cons (.inr single), linesFrom_cons (.inl (by decide)),
      lines, lines, ih]
    rfl
  | case4 c cs _ other ih =>
    rw [Text.unifyBreaks_cons other, linesFrom_cons (.inl other), linesFrom_cons (.inl other), lines, lines,
      ih, ih]

/-- The first line of code is the same when all breaks are written in one way. -/
theorem codeLine_unifyBreaks (cs : List Char) : codeLine? (Text.unifyBreaks cs) = codeLine? cs := by
  rw [codeLine?, codeLine?, lines, lines, linesFrom_unifyBreaks]

/-! ## Lines before the code -/

/-- Whether a line is blank, or a comment without breaks of another kind. -/
def isSkipped (line : List Char) : Bool :=
  match line.dropWhile isSpacing with
  | [] => true
  | c :: comment => c == '#' && !comment.any isLineBreak

/-- The first line that is not blank and no comment. -/
def firstCode? (cs : List Char) : Option (List Char) := (cs.splitOn '\n').find? fun line => !isSkipped line

theorem isSkipped_append {blanks : List Char} (spacing : ∀ c ∈ blanks, isSpacing c = true)
    (line : List Char) :
    isSkipped (blanks ++ line) = isSkipped line := by
  rw [isSkipped, isSkipped, List.dropWhile_append_of_pos spacing]

/-- A line that is skipped is blank, or blanks and a comment. -/
theorem skipped_cases {line : List Char} (skipped : isSkipped line = true) :
    ∃ blanks comment, line = blanks ++ comment ∧ (∀ c ∈ blanks, isSpacing c = true) ∧
      (comment = [] ∨ ∃ text, comment = '#' :: text ∧ ∀ c ∈ text, isLineBreak c = false) := by
  refine ⟨line.takeWhile isSpacing, line.dropWhile isSpacing, List.takeWhile_append_dropWhile.symm,
    List.all_eq_true.mp List.all_takeWhile, ?_⟩
  rw [isSkipped] at skipped
  split at skipped
  next none => exact .inl none
  next c text same =>
    rw [Bool.and_eq_true, beq_iff_eq, Bool.not_eq_true', List.any_eq_false] at skipped
    obtain ⟨rfl, inside⟩ := skipped
    exact .inr ⟨text, same, fun c mem => Bool.eq_false_iff.mpr (inside c mem)⟩

theorem isBlank_of_isSpacing {c : Char} (spacing : isSpacing c = true) : isBlank c = true := by
  rcases isSpacing_iff.mp spacing with rfl | rfl | rfl <;> decide

/-- No code is found in a line without code, and behind a break it is found behind that. -/
theorem find_ended {line : List Char} (no : isCode line.reverse = false) :
    (linesFrom line []).find? isCode = none ∧
      ∀ c rest, isLineBreak c = true → c ≠ '\r' →
        (linesFrom line (c :: rest)).find? isCode = codeLine? rest := by
  constructor
  · rw [linesFrom]
    split
    · rfl
    · rw [List.find?_cons_of_neg (by simp [no]), List.find?_nil]
  · intro c rest breaks single
    rw [linesFrom_cons (.inl single), if_pos breaks, List.find?_cons_of_neg (by simp [no]), codeLine?]

/-- No code is found in a line that is skipped. -/
theorem find_skipped {line : List Char} (skipped : isSkipped line = true) {start : List Char}
    (blank : ∀ c ∈ start, isBlank c = true) :
    (linesFrom start line).find? isCode = none ∧
      ∀ rest, (linesFrom start (line ++ '\n' :: rest)).find? isCode = codeLine? rest := by
  obtain ⟨blanks, comment, rfl, spacing, ends⟩ := skipped_cases skipped
  clear skipped
  induction blanks generalizing start with
  | nil =>
    have reversed : ∀ c ∈ start.reverse, isBlank c = true := fun c mem => blank c (List.mem_reverse.mp mem)
    rcases ends with rfl | ⟨text, rfl, inside⟩
    · obtain ⟨none, others⟩ := find_ended (isCode_blanks reversed)
      exact ⟨none, fun rest => others '\n' rest (by decide) (by decide)⟩
    · have inside : ∀ c ∈ '#' :: text, isLineBreak c = false := List.forall_mem_cons.mpr ⟨by decide, inside⟩
      have no : isCode (('#' :: text).reverse ++ start).reverse = false := by
        rw [List.reverse_append, List.reverse_reverse, isCode_append reversed (by decide)]
        rfl
      obtain ⟨none, others⟩ := find_ended no
      constructor
      · rw [List.nil_append, ← List.append_nil ('#' :: text), linesFrom_append inside]
        exact none
      · intro rest
        rw [List.nil_append, linesFrom_append inside]
        exact others '\n' rest (by decide) (by decide)
  | cons c blanks ih =>
    obtain ⟨here, spacing⟩ := List.forall_mem_cons.mp spacing
    have other : c ≠ '\r' := by
      rintro rfl
      cases here
    -- A form feed is a blank to the tokens and the end of a line here.
    cases breaks : isLineBreak c with
    | false =>
      have longer (rest : List Char) : linesFrom start (c :: rest) = linesFrom (c :: start) rest := by
        rw [linesFrom_cons (.inl other), breaks, if_neg Bool.false_ne_true]
      simp only [List.cons_append, longer]
      exact ih (List.forall_mem_cons.mpr ⟨isBlank_of_isSpacing here, blank⟩) spacing
    | true =>
      have no := isCode_blanks fun c mem => blank c (List.mem_reverse.mp mem)
      have fresh (rest : List Char) :
          (linesFrom start (c :: rest)).find? isCode = (linesFrom [] rest).find? isCode :=
        (find_ended no).2 c rest breaks other
      simp only [List.cons_append, fresh]
      exact ih (List.forall_mem_nil _) spacing

/-- A line that starts with code behind some blanks is the first line of code. -/
theorem codeLine_blanks {m : Nat} {c : Char} (filled : isBlank c = false) (hash : c ≠ '#') (cs : List Char) :
    ∃ more, codeLine? (List.replicate m ' ' ++ c :: cs) = some (List.replicate m ' ' ++ c :: more) := by
  have spaces {p : Char → Bool} {b : Bool} (is : p ' ' = b) : ∀ c ∈ List.replicate m ' ', p c = b := by
    intro d mem
    rw [List.eq_of_mem_replicate mem]
    exact is
  have breaks : isLineBreak c = false := by
    rw [Bool.eq_false_iff]
    intro is
    rw [isBlank_of_isLineBreak is] at filled
    cases filled
  have single : c ≠ '\r' := by
    rintro rfl
    cases filled
  obtain ⟨more, others, same⟩ := linesFrom_started (List.cons_ne_nil c (List.replicate m ' ').reverse) cs
  refine ⟨more, ?_⟩
  rw [codeLine?, lines, linesFrom_append (spaces rfl), List.append_nil, linesFrom_cons (.inl single), breaks,
    if_neg Bool.false_ne_true, same, List.reverse_cons, List.reverse_reverse, List.append_assoc,
    List.singleton_append, List.find?_cons_of_pos]
  rw [isCode_append (spaces rfl) filled]
  simpa using hash

/-! ## The first line of code -/

/-- What holds of every last line, and of a text if it holds of the text without its first line, holds of
every text. -/
theorem line_induction {motive : List Char → Prop}
    (last : ∀ line, (∀ c ∈ line, isFeed c = false) → motive line)
    (first : ∀ line rest, (∀ c ∈ line, isFeed c = false) → motive rest → motive (line ++ '\n' :: rest))
    (cs : List Char) : motive cs := by
  obtain ⟨line, tail, rfl, inside, ends⟩ := exists_line cs
  rcases nil_or_feed ends with rfl | ⟨rest, rfl⟩
  · rw [List.append_nil]
    exact last line inside
  · exact first line rest inside (line_induction last first rest)
termination_by cs.length

theorem firstCode_append (cs rest : List Char) :
    firstCode? (cs ++ '\n' :: rest) = (firstCode? cs).or (firstCode? rest) := by
  rw [firstCode?, List.splitOn_append_cons_self, List.find?_append]
  rfl

theorem firstCode_line {line : List Char} (inside : ∀ c ∈ line, isFeed c = false) :
    firstCode? line = if isSkipped line then none else some line := by
  have inside : '\n' ∉ line := fun mem => absurd (inside _ mem) (by decide)
  rw [firstCode?, List.splitOn_eq_singleton inside]
  cases skipped : isSkipped line <;> simp [skipped]

theorem indented_line (k : Nat) {line : List Char} (inside : ∀ c ∈ line, isFeed c = false) :
    indented k false line = line := by
  have same := indented_append k inside []
  rwa [List.append_nil, indented, List.append_nil] at same

theorem indented_first (k : Nat) {line : List Char} (inside : ∀ c ∈ line, isFeed c = false)
    (rest : List Char) :
    indented k true (line ++ '\n' :: rest) =
      List.replicate k ' ' ++ line ++ '\n' :: indented k true rest := by
  rw [indented_true k (by simp), indented_append k inside, indented_feed, List.append_assoc]

/-- Without a first line of code, no line holds code, and no token stands in the text. -/
theorem codeLine_of_none {cs : List Char} (none : firstCode? cs = none) :
    codeLine? cs = .none ∧ ∀ k, codeLine? (indented k true cs) = .none := by
  induction cs using line_induction with
  | last line inside =>
    rw [firstCode_line inside] at none
    split at none
    next skipped =>
      refine ⟨(find_skipped skipped (List.forall_mem_nil _)).1, fun k => ?_⟩
      obtain ⟨m, -, same⟩ := exists_indented_true k line
      rw [same, indented_line k inside]
      rw [← isSkipped_append (isSpacing_replicate m)] at skipped
      exact (find_skipped skipped (List.forall_mem_nil _)).1
    next => cases none
  | first line rest inside ih =>
    rw [firstCode_append, firstCode_line inside, Option.or_eq_none_iff] at none
    split at none
    next skipped =>
      obtain ⟨plain, shifted⟩ := ih none.2
      refine ⟨((find_skipped skipped (List.forall_mem_nil _)).2 rest).trans plain, fun k => ?_⟩
      rw [indented_first k inside]
      rw [← isSkipped_append (isSpacing_replicate k)] at skipped
      exact ((find_skipped skipped (List.forall_mem_nil _)).2 _).trans (shifted k)
    next => cases none.1

/-- The first line of code holds code, also when the text is indented. -/
theorem codeLine_of_some {cs more : List Char} {c : Char} (found : firstCode? cs = some (c :: more))
    (filled : isBlank c = false) (hash : c ≠ '#') :
    (∃ line, codeLine? cs = some (c :: line)) ∧
      ∀ k, ∃ line, codeLine? (indented k true cs) = some (List.replicate k ' ' ++ c :: line) := by
  have plain (cs : List Char) : ∃ line, codeLine? (c :: cs) = some (c :: line) := by
    obtain ⟨line, same⟩ := codeLine_blanks (m := 0) filled hash cs
    exact ⟨line, same⟩
  induction cs using line_induction with
  | last line inside =>
    rw [firstCode_line inside] at found
    split at found
    · cases found
    · cases found
      refine ⟨plain more, fun k => ?_⟩
      rw [indented_true k (List.cons_ne_nil c more), indented_line k inside]
      exact codeLine_blanks filled hash more
  | first line rest inside ih =>
    rw [firstCode_append, firstCode_line inside] at found
    split at found
    next skipped =>
      obtain ⟨⟨first, same⟩, shifted⟩ := ih found
      refine ⟨⟨first, ((find_skipped skipped (List.forall_mem_nil _)).2 rest).trans same⟩, fun k => ?_⟩
      obtain ⟨first, same⟩ := shifted k
      rw [indented_first k inside]
      rw [← isSkipped_append (isSpacing_replicate k)] at skipped
      exact ⟨first, ((find_skipped skipped (List.forall_mem_nil _)).2 _).trans same⟩
    next =>
      cases found
      refine ⟨plain _, fun k => ?_⟩
      rw [indented_first k inside, List.append_assoc]
      exact codeLine_blanks filled hash _

/-! ## Entries -/

theorem entriesFrom_blanks {blanks : List Char} (spacing : ∀ c ∈ blanks, isSpacing c = true)
    (brackets : List Mark) : entriesFrom true brackets blanks = some [] ∧
      (∀ rest, entriesFrom true brackets (blanks ++ '\n' :: rest) = entriesFrom true brackets rest) ∧
      ∀ rest, entriesFrom true brackets (blanks ++ '#' :: rest) =
        entriesFrom true brackets (toLineEnd rest).1 := by
  have start (cs : List Char) : ∃ column, reads (indentation ⟨0, 0⟩ 0) (blanks ++ cs) =
      reads (indentation column 0) cs := indentation_blanks spacing cs
  refine ⟨?_, fun rest => ?_, fun rest => ?_⟩
  · obtain ⟨column, same⟩ := start []
    rw [List.append_nil, indentation_nil] at same
    rw [entriesFrom_true, same]
    rfl
  · obtain ⟨column, same⟩ := start ('\n' :: rest)
    rw [entriesFrom_true, same, indentation_other (by decide) (by decide) (by decide) (.inl (by decide))]
    rfl
  · obtain ⟨column, same⟩ := start ('#' :: rest)
    rw [entriesFrom_true, same, indentation_other (by decide) (by decide) (by decide) (.inl (by decide))]
    rfl

/-- A line that is skipped has no entries. -/
theorem entriesFrom_skipped {line : List Char} (inside : ∀ c ∈ line, isFeed c = false)
    (skipped : isSkipped line = true) (brackets : List Mark) :
    entriesFrom true brackets line = some [] ∧
      ∀ rest, entriesFrom true brackets (line ++ '\n' :: rest) = entriesFrom true brackets rest := by
  obtain ⟨blanks, comment, rfl, spacing, ends⟩ := skipped_cases skipped
  obtain ⟨last, feed, comment⟩ := entriesFrom_blanks spacing brackets
  obtain ⟨empty, first, -⟩ := entriesFrom_blanks (List.forall_mem_nil (isSpacing · = true)) brackets
  rcases ends with rfl | ⟨text, rfl, -⟩
  · rw [List.append_nil]
    exact ⟨last, feed⟩
  · have text_inside : ∀ c ∈ text, (c != '\n') = true := by
      intro c mem
      have other := inside c (List.mem_append_right _ (List.mem_cons_of_mem _ mem))
      change (!isFeed c) = true
      rw [other]
      rfl
    have left (rest : List Char) : entriesFrom true brackets (blanks ++ '#' :: (text ++ rest)) =
        entriesFrom true brackets (rest.dropWhile (· != '\n')) := by
      rw [comment]
      exact congrArg _ (List.dropWhile_append_of_pos text_inside)
    constructor
    · have same := left []
      rw [List.append_nil] at same
      exact same.trans empty
    · intro rest
      rw [List.append_assoc, List.cons_append, left]
      exact first rest

theorem entriesFrom_of_none {cs : List Char} (none : firstCode? cs = none) (brackets : List Mark) :
    entriesFrom true brackets cs = some [] := by
  induction cs using line_induction with
  | last line inside =>
    rw [firstCode_line inside] at none
    split at none
    next skipped => exact (entriesFrom_skipped inside skipped brackets).1
    next => cases none
  | first line rest inside ih =>
    rw [firstCode_append, firstCode_line inside, Option.or_eq_none_iff] at none
    split at none
    next skipped => exact ((entriesFrom_skipped inside skipped brackets).2 rest).trans (ih none.2)
    next => cases none.1

end IssueBoard.Script
