import IssueBoard.Proofs.Board.HostFailures
import IssueBoard.Proofs.Script.Margin
import IssueBoard.Proofs.Text.Breaks

/-! # Indented scripts

A script with spaces in front of each of its lines runs like the script. It is read as the block of a
condition, so it has to start at the margin, the spaces have to leave the order of its columns alone, and
there has to be room for one more block. A text literal over several lines would get the spaces too.
-/

namespace IssueBoard.Script

open Text (isBlank unifyBreaks)

/-! ## Sources -/

/-- A text with spaces put in front of each of its lines, which end at any break of a source. -/
def indentLines (k : Nat) : (lineStart : Bool) → List Char → List Char
  | _, [] => []
  | lineStart, '\r' :: '\n' :: rest =>
    (if lineStart then List.replicate k ' ' else []) ++ '\r' :: '\n' :: indentLines k true rest
  | lineStart, c :: rest =>
    (if lineStart then List.replicate k ' ' else []) ++ c :: indentLines k (c == '\n' || c == '\r') rest

/-- A source with spaces put in front of each of its lines. -/
def indentSource (k : Nat) (source : String) : String := String.ofList (indentLines k true source.toList)

section

variable (k : Nat)

theorem unifyBreaks_spaces (m : Nat) (cs : List Char) :
    unifyBreaks (List.replicate m ' ' ++ cs) = List.replicate m ' ' ++ unifyBreaks cs := by
  induction m with
  | zero => rfl
  | succ m ih =>
    rw [List.replicate_succ, List.cons_append, Text.unifyBreaks_cons (by decide), ih, List.cons_append]

theorem unifyBreaks_start (lineStart : Bool) (cs : List Char) :
    unifyBreaks ((if lineStart then List.replicate k ' ' else []) ++ cs) =
      (if lineStart then List.replicate k ' ' else []) ++ unifyBreaks cs := by
  cases lineStart with
  | true => exact unifyBreaks_spaces k cs
  | false => rfl

theorem head_indentLines (cs : List Char) (space : cs.head? ≠ some '\n') :
    (indentLines k true cs).head? ≠ some '\n' := by
  have spaces (rest : List Char) (other : rest.head? ≠ some '\n') :
      (List.replicate k ' ' ++ rest).head? ≠ some '\n' := by
    cases k with
    | zero => exact other
    | succ k => simp [List.replicate_succ]
  rw [indentLines.eq_def]
  split
  next => exact nofun
  next => exact spaces ('\r' :: _) (by simp)
  next => exact spaces (_ :: _) space

/-- Spaces are put in front of the same lines when all breaks are written in one way. -/
theorem unifyBreaks_indentLines (lineStart : Bool) (cs : List Char) :
    unifyBreaks (indentLines k lineStart cs) = indented k lineStart (unifyBreaks cs) := by
  induction cs using Text.unifyBreaks.induct generalizing lineStart with
  | case1 => rfl
  | case2 cs ih =>
    rw [indentLines, unifyBreaks_start, unifyBreaks, unifyBreaks, ih, indented]
    rfl
  | case3 cs single ih =>
    have alone : cs.head? ≠ some '\n' := by
      intro feed
      obtain ⟨more, rfl⟩ := List.head?_eq_some_iff.mp feed
      exact single more rfl
    rw [indentLines, unifyBreaks_start, Text.unifyBreaks_return alone, indented]
    · change _ ++ unifyBreaks ('\r' :: indentLines k true cs) = _
      rw [Text.unifyBreaks_return (head_indentLines k cs alone), ih]
      rfl
    · exact fun rest _ => single rest
  | case4 c cs pair other ih =>
    rw [indentLines, unifyBreaks_start, Text.unifyBreaks_cons other, Text.unifyBreaks_cons other,
      indented, ih]
    · have feed : (c == '\n' || c == '\r') = isFeed c := by simp [isFeed, show c ≠ '\r' from other]
      rw [feed]
    · exact pair

end

/-! ## What stands in a source -/

/-- A text of which the last line has an end. -/
def completed (cs : List Char) : List Char := if cs.getLast? == some '\n' then cs else cs ++ ['\n']

/-- What stands in a source. -/
def entries? (source : List Char) : Option (List Entry) :=
  entriesFrom true [] (completed (unifyBreaks source))

theorem tokens_eq (source : List Char) : tokens? source = (entries? source).bind (layOut [⟨0, 0⟩]) :=
  tokensFrom_eq ..

theorem completed_append (line : List Char) {cs : List Char} (filled : cs ≠ []) :
    completed (line ++ cs) = line ++ completed cs := by
  rw [completed, completed, List.getLast?_append_of_ne_nil line filled]
  split
  · rfl
  · rw [List.append_assoc]

theorem completed_ends (cs : List Char) : (completed cs).getLast? = some '\n' := by
  rw [completed]
  split
  next ends => exact beq_iff_eq.mp ends
  next => exact List.getLast?_concat ..

/-- What stands in a source with code ends with the end of a line. -/
theorem entries_ends {source : List Char} {entries : List Entry} (found : entries? source = some entries)
    (code : entries ≠ []) : EndsInNewline entries :=
  (entriesFrom_ends (.inr (completed_ends _)) found).resolve_left fun none => code none.2

theorem completed_ne_nil (cs : List Char) : completed cs ≠ [] := by
  rw [completed]
  split
  next ends =>
    rintro rfl
    cases ends
  next => simp

theorem getLast?_indented (k : Nat) (lineStart : Bool) (cs : List Char) :
    (indented k lineStart cs).getLast? = cs.getLast? := by
  induction cs generalizing lineStart with
  | nil => rfl
  | cons c cs ih =>
    rw [indented, List.getLast?_append_of_ne_nil _ (List.cons_ne_nil _ _), List.getLast?_cons,
      List.getLast?_cons, ih]

theorem indented_append_feed (k : Nat) (lineStart : Bool) {cs : List Char} (filled : cs ≠ [])
    (ends : cs.getLast? ≠ some '\n') :
    indented k lineStart (cs ++ ['\n']) = indented k lineStart cs ++ ['\n'] := by
  induction cs generalizing lineStart with
  | nil => exact absurd rfl filled
  | cons c cs ih =>
    rw [List.cons_append, indented, indented, List.append_assoc, List.cons_append]
    rcases cs with _ | ⟨d, cs⟩
    · have other : isFeed c = false := by
        rw [Bool.eq_false_iff, ne_eq, isFeed_iff]
        rintro rfl
        exact ends rfl
      rw [other]
      rfl
    · rw [ih _ (List.cons_ne_nil d cs) ends]

theorem completed_indented (k : Nat) {cs : List Char} (filled : cs ≠ []) :
    completed (indented k true cs) = indented k true (completed cs) := by
  rw [completed, completed, getLast?_indented]
  split
  next => rfl
  next ends => rw [indented_append_feed k true filled (by simpa using ends)]

/-- What stands in an indented source is what stands in the source. -/
theorem entries_indentSource (k : Nat) {source : String} (filled : unifyBreaks source.toList ≠ []) :
    AllShifted k (entries? source.toList) (entries? (indentSource k source).toList) := by
  rw [entries?, entries?, indentSource, String.toList_ofList, unifyBreaks_indentLines,
    completed_indented k filled, indented_true k (completed_ne_nil _)]
  exact entriesFrom_indented k true [] k _ fun _ => .inl rfl

/-! ## Behind a condition -/

/-- The condition that a source may be put behind. -/
def conditionEntries : List Entry :=
  [.line [], .token (.word .ifWord) ['i', 'f'], .token (.word .trueWord) ['T', 'r', 'u', 'e'],
    .token (.mark .colon) [':'], .token .newline ['\n']]

theorem token_if (rest : List Char) :
    reads token? ('i' :: 'f' :: ' ' :: rest) = some (.word .ifWord, ' ' :: rest) := by
  rw [reads_token, if_neg (by decide), if_pos (by decide), reads_nameOrText]
  rfl

theorem token_true (rest : List Char) :
    reads token? ('T' :: 'r' :: 'u' :: 'e' :: ':' :: rest) = some (.word .trueWord, ':' :: rest) := by
  rw [reads_token, if_neg (by decide), if_pos (by decide), reads_nameOrText]
  rfl

theorem token_colon (rest : List Char) :
    reads token? (':' :: '\n' :: rest) = some (.mark .colon, '\n' :: rest) := rfl

/-- The first entry of a text that starts with a token. -/
theorem entriesFrom_word {brackets inner : List Mark} {c : Char} {word after : List Char} {t : Token}
    (token : c ≠ '\n' ∧ c ≠ '#' ∧ c ≠ '\\' ∧ isSpacing c = false)
    (found : reads token? (c :: word ++ after) = some (t, after))
    (nested : nestToken t brackets = some inner) :
    entriesFrom false brackets (c :: word ++ after) =
      (entriesFrom false inner after).map (.token t (c :: word) :: ·) := by
  obtain ⟨feed, hash, slash, spacing⟩ := token
  rw [← Bool.not_eq_true, isSpacing_iff, not_or, not_or] at spacing
  rw [List.cons_append, entriesFrom_token brackets (word ++ after) feed hash (.inl slash) spacing.1
    spacing.2.1 spacing.2.2, ← List.cons_append, found]
  simp only [Option.bind_some, nested, take_blanks]

/-- A line that starts with a token starts at the margin. -/
theorem entriesFrom_margin (brackets : List Mark) {c : Char} {word : List Char}
    (token : c ≠ '\n' ∧ c ≠ '#' ∧ c ≠ '\\' ∧ isSpacing c = false) (after : List Char) :
    entriesFrom true brackets (c :: word ++ after) =
      (entriesFrom false brackets (c :: word ++ after)).map (.line [] :: ·) := by
  obtain ⟨feed, hash, slash, spacing⟩ := token
  rw [← Bool.not_eq_true, isSpacing_iff, not_or, not_or] at spacing
  rw [List.cons_append, entriesFrom_true,
    indentation_other spacing.1 spacing.2.1 spacing.2.2 (.inl slash)]
  simp only [Option.bind_some, Nat.sub_self, List.take_zero]
  rw [entriesBehind]
  · exact feed
  · exact hash

theorem entriesFrom_condition (cs : List Char) :
    entriesFrom true [] ("if True:\n".toList ++ cs) =
      (entriesFrom true [] cs).map (conditionEntries ++ ·) := by
  have colon : entriesFrom false [] ([':'] ++ '\n' :: cs) = _ :=
    entriesFrom_word (by decide) (token_colon cs) rfl
  have condition : entriesFrom false [] (['T', 'r', 'u', 'e'] ++ ':' :: '\n' :: cs) = _ :=
    entriesFrom_word (by decide) (token_true ('\n' :: cs)) rfl
  have word : entriesFrom false [] (['i', 'f'] ++ ' ' :: (['T', 'r', 'u', 'e'] ++ ':' :: '\n' :: cs)) = _ :=
    entriesFrom_word (by decide) (token_if (['T', 'r', 'u', 'e'] ++ ':' :: '\n' :: cs)) rfl
  have line : entriesFrom true [] (['i', 'f'] ++ ' ' :: (['T', 'r', 'u', 'e'] ++ ':' :: '\n' :: cs)) = _ :=
    entriesFrom_margin [] (by decide) (' ' :: (['T', 'r', 'u', 'e'] ++ ':' :: '\n' :: cs))
  rw [List.singleton_append] at colon
  change entriesFrom true [] (['i', 'f'] ++ ' ' :: (['T', 'r', 'u', 'e'] ++ ':' :: '\n' :: cs)) = _
  rw [line, word, entriesFrom_blank _ _ (.inl rfl), condition, colon, entriesFrom_newline]
  simp only [List.isEmpty_nil, if_true, Option.map_map]
  rfl

/-- What stands in a source that is put behind a condition. -/
theorem entries_condition {source : List Char} (filled : unifyBreaks source ≠ []) :
    entries? ("if True:\n".toList ++ source) = (entries? source).map (conditionEntries ++ ·) := by
  rw [entries?, entries?, Text.unifyBreaks_append (by decide), Text.unifyBreaks_eq_self (by decide),
    completed_append _ filled, entriesFrom_condition]

/-! ## Layout -/

/-- The blanks with which lines of code start. -/
def blanksOf : List Entry → List (List Char)
  | [] => []
  | .line blanks :: rest => blanks :: blanksOf rest
  | .token .. :: rest => blanksOf rest

/-- The columns of the margin and of lines of code, each with the one that it has in an indented source. -/
def columnPairs (k : Nat) (entries : List Entry) : List (Column × Column) :=
  ([] :: blanksOf entries).map fun blanks => (columnOf blanks, columnOf (padded k blanks))

/-- Spaces leave the order of columns alone if lines are indented with spaces, or also with tabs and the
spaces go from one tab stop to another one. -/
theorem keepsOrder_columnPairs {k : Nat} {entries : List Entry}
    (plain : ∀ blanks ∈ blanksOf entries, ∀ c ∈ blanks, c = ' ' ∨ c = '\t' ∧ 8 ∣ k) :
    KeepsOrder (columnPairs k entries) := by
  have moved (blanks : List Char) (mem : blanks ∈ [] :: blanksOf entries) :
      columnOf (padded k blanks) = ⟨(columnOf blanks).wide + k, (columnOf blanks).narrow + k⟩ := by
    have plain : ∀ c ∈ blanks, c = ' ' ∨ c = '\t' ∧ 8 ∣ k := by
      rcases List.mem_cons.mp mem with rfl | mem
      · exact List.forall_mem_nil _
      · exact plain blanks mem
    have inside : ∀ c ∈ blanks, isFeed c = false := by
      intro c mem
      rcases plain c mem with rfl | ⟨rfl, -⟩ <;> rfl
    rw [columnOf, padded, columnFrom_spaces, spread_eq_self k inside]
    exact columnFrom_add plain ⟨0, 0⟩
  rintro _ mem _ mem'
  obtain ⟨blanks, within, rfl⟩ := List.mem_map.mp mem
  obtain ⟨blanks', within', rfl⟩ := List.mem_map.mp mem'
  simp only [moved blanks within, moved blanks' within', Nat.add_lt_add_iff_right, and_self]

/-- Whether a line starts with code. -/
def startsCode (line : List Char) : Bool := line.head?.any fun c => !isBlank c && c != '#'

/-- Whether an entry is the start of a line of code in the first column. -/
def Entry.isAtMargin : Entry → Bool
  | .line blanks => columnOf blanks = ⟨0, 0⟩
  | .token .. => false

/-- Whether an entry is no text over several lines. -/
def Entry.isOneLine : Entry → Bool
  | .token (.text _) spelling => !spelling.contains '\n'
  | _ => true

/-- Whether spaces in front of each of its lines leave the layout of a source alone. -/
structure Indentable (k : Nat) (source : String) (entries : List Entry) : Prop where
  /-- The first line of code starts with code, in the first column. A comment before it with a break of
  another kind counts as such a line. -/
  margin : ∀ line ∈ firstCode? (unifyBreaks source.toList),
    startsCode line = true ∧ entries.head?.any Entry.isAtMargin = true
  texts : ∀ entry ∈ entries, entry.isOneLine = true
  /-- Behind the spaces, columns compare like before. -/
  order : KeepsOrder (columnPairs k entries)
  /-- There is room for one more block around all others. -/
  room : ∀ ts ∈ layOut [⟨0, 0⟩] entries, deepest 0 ts + 1 < deepestIndentation

instance (k : Nat) (source : String) (entries : List Entry) : Decidable (Indentable k source entries) :=
  decidable_of_iff ((∀ line ∈ firstCode? (unifyBreaks source.toList),
      startsCode line = true ∧ entries.head?.any Entry.isAtMargin = true) ∧
      (∀ entry ∈ entries, entry.isOneLine = true) ∧ KeepsOrder (columnPairs k entries) ∧
      ∀ ts ∈ layOut [⟨0, 0⟩] entries, deepest 0 ts + 1 < deepestIndentation)
    ⟨fun ⟨margin, texts, order, room⟩ => ⟨margin, texts, order, room⟩,
      fun keeps => ⟨keeps.margin, keeps.texts, keeps.order, keeps.room⟩⟩

section

variable {k : Nat} {entries entries' : List Entry}

theorem follows_of_shifted (shifted : List.Forall₂ (Entry.Shifted k) entries entries')
    (texts : ∀ entry ∈ entries, entry.isOneLine = true) {pairs : List (Column × Column)}
    (paired : ∀ blanks ∈ blanksOf entries, (columnOf blanks, columnOf (padded k blanks)) ∈ pairs) :
    List.Forall₂ (Entry.Follows pairs) entries entries' := by
  induction shifted with
  | nil => exact .nil
  | cons first _ ih =>
    obtain ⟨single, plain⟩ := List.forall_mem_cons.mp texts
    cases first with
    | line blanks =>
      obtain ⟨here, others⟩ := List.forall_mem_cons.mp paired
      exact .cons (.line here) (ih plain others)
    | token t spelling spelling' => exact .cons (.token t spelling spelling') (ih plain paired)
    | text s s' spelling' broken =>
      rw [← List.contains_iff_mem] at broken
      rw [Entry.isOneLine, broken] at single
      cases single

theorem layOut_underTrue (entries : List Entry) : layOut [⟨0, 0⟩] (conditionEntries ++ entries) =
    (layOut [⟨0, 0⟩] entries).map fun ts => underTrue (.newline :: ts) := by
  have margin : changeIndentation (columnOf []) [⟨0, 0⟩] = some ([], [⟨0, 0⟩]) := by decide
  rw [conditionEntries, List.cons_append, layOut_line, margin, Option.bind_some]
  simp only [List.cons_append, List.nil_append, layOut, Option.map_map]
  rfl

theorem atMargin_cases (first : entries.head?.any Entry.isAtMargin = true) :
    ∃ blanks rest, entries = .line blanks :: rest ∧ columnOf blanks = ⟨0, 0⟩ := by
  rcases entries with _ | ⟨⟨blanks⟩ | ⟨t, spelling⟩, rest⟩
  · cases first
  · exact ⟨blanks, rest, rfl, of_decide_eq_true first⟩
  · cases first

/-- Behind a condition, an indented source is laid out like the source, as a block. -/
theorem layOut_condition (pos : 0 < k) {source : String} (keeps : Indentable k source entries)
    (first : entries.head?.any Entry.isAtMargin = true) (plain : ∀ entry ∈ entries, entry.IsPlain)
    (shifted : List.Forall₂ (Entry.Shifted k) entries entries') :
    layOut [⟨0, 0⟩] (conditionEntries ++ entries') =
      (layOut [⟨0, 0⟩] entries).map fun ts => underTrue (.newline :: .indent :: (ts ++ [.dedent])) := by
  obtain ⟨-, texts, order, room⟩ := keeps
  obtain ⟨blanks, rest, rfl, start⟩ := atMargin_cases first
  -- The line of the condition stands at the margin, so it is less deep than every line of the source.
  have margin : ((⟨0, 0⟩, ⟨k, k⟩) : Column × Column) ∈ columnPairs k (.line blanks :: rest) := by
    refine List.mem_map.mpr ⟨[], List.mem_cons_self, Prod.ext rfl ?_⟩
    exact (columnFrom_spaces k ⟨0, 0⟩ 0 []).trans (by simp [columnFrom])
  have paired : ∀ b ∈ blanksOf (.line blanks :: rest),
      (columnOf b, columnOf (padded k b)) ∈ columnPairs k (.line blanks :: rest) :=
    fun b mem => List.mem_map.mpr ⟨b, List.mem_cons_of_mem _ mem, rfl⟩
  have above : ∀ p ∈ columnPairs k (.line blanks :: rest), (⟨0, 0⟩ : Column).wide < p.2.wide := by
    intro p mem
    change 0 < p.2.wide
    have := (order p mem _ margin).1
    simp only [Nat.not_lt_zero, false_iff] at this
    omega
  have base : columnOf (padded k blanks) = ⟨k, k⟩ :=
    (order.eq_iff (paired blanks List.mem_cons_self) margin).mp start
  have follows := follows_of_shifted shifted texts paired
  obtain ⟨-, plain⟩ := List.forall_mem_cons.mp plain
  have plainly : layOut [⟨0, 0⟩] (.line blanks :: rest) = layOut [⟨0, 0⟩] rest := by
    rw [layOut_line, start]
    simp [changeIndentation, leaveBlocks]
  rw [plainly] at room ⊢
  cases shifted with
  | cons same shifted =>
  cases same
  cases follows with
  | cons _ follows =>
  have block : changeIndentation ⟨k, k⟩ [⟨0, 0⟩] = some ([.indent], [⟨k, k⟩, ⟨0, 0⟩]) := by
    rw [changeIndentation_deeper _ pos, if_neg]
    rw [not_or, Nat.not_le]
    exact ⟨pos, by decide⟩
  have inner := layOut_follows order above follows plain (List.cons_ne_nil ⟨0, 0⟩ []) (.cons margin .nil) room
  rw [List.singleton_append] at inner
  rw [layOut_underTrue, layOut_line, base, block, Option.bind_some]
  dsimp only
  rw [inner]
  cases layOut [⟨0, 0⟩] rest <;> rfl

end

/-! ## Scripts -/

/-- The statements of a script, which is read as it stands or as a block. -/
def readScript? (source : String) : Option (List Stmt) :=
  (if isIndented source then readIndented? else readStatements?) source.toList

theorem readStatements_eq (source : List Char) :
    readStatements? source = ((entries? source).bind (layOut [⟨0, 0⟩])).bind statements := by
  rw [readStatements?, tokens_eq]

theorem unifyBreaks_eq_nil {cs : List Char} (none : unifyBreaks cs = []) : cs = [] := by
  cases cs using Text.unifyBreaks.fun_cases <;> simp_all [unifyBreaks]

theorem readScript_of_none {source : String} (filled : unifyBreaks source.toList ≠ [])
    (none : entries? source.toList = none) : readScript? source = .none := by
  rw [readScript?]
  split
  · rw [readIndented?, readStatements_eq, entries_condition filled, none]
    rfl
  · rw [readStatements_eq, none]
    rfl

section

variable {k : Nat} {source : String}

theorem entries_of_none (none : firstCode? (unifyBreaks source.toList) = none) :
    entries? source.toList = some [] := by
  refine entriesFrom_of_none ?_ []
  rw [completed]
  split
  · exact none
  · rw [firstCode_append, none]
    rfl

/-- A source without code is no indented script, and stays one. -/
theorem isIndented_of_none (none : firstCode? (unifyBreaks source.toList) = none) :
    isIndented source = false ∧ isIndented (indentSource k source) = false := by
  obtain ⟨plain, shifted⟩ := codeLine_of_none none
  constructor
  · rw [isIndented_eq, ← codeLine_unifyBreaks, plain]
  · rw [isIndented_eq, ← codeLine_unifyBreaks, indentSource, String.toList_ofList,
      unifyBreaks_indentLines, shifted]

/-- A source that starts at the margin is no indented script, but becomes one. -/
theorem isIndented_of_some (pos : 0 < k) {line : List Char}
    (found : firstCode? (unifyBreaks source.toList) = some line)
    (margin : startsCode line = true) :
    isIndented source = false ∧ isIndented (indentSource k source) = true := by
  cases line with
  | nil => cases margin
  | cons c line =>
    simp only [startsCode, List.head?_cons, Option.any_some, Bool.and_eq_true, Bool.not_eq_true',
      bne_iff_ne] at margin
    obtain ⟨⟨more, plain⟩, shifted⟩ := codeLine_of_some found margin.1 margin.2
    obtain ⟨more', shifted⟩ := shifted k
    constructor
    · rw [isIndented_eq, ← codeLine_unifyBreaks, plain]
      exact margin.1
    · rw [isIndented_eq, ← codeLine_unifyBreaks, indentSource, String.toList_ofList, unifyBreaks_indentLines,
        shifted, ← Nat.succ_pred_eq_of_pos pos, List.replicate_succ]
      rfl

/-- The statements of an indented script are those of the script. -/
theorem readScript_indentSource (pos : 0 < k)
    (keeps : ∀ entries ∈ entries? source.toList, Indentable k source entries) :
    readScript? (indentSource k source) = readScript? source := by
  by_cases filled : unifyBreaks source.toList = []
  · have empty := unifyBreaks_eq_nil filled
    have same : indentSource k source = source := by
      rw [indentSource, empty, indentLines, ← empty, String.ofList_toList]
    rw [same]
  have filled' : unifyBreaks (indentSource k source).toList ≠ [] := by
    rw [indentSource, String.toList_ofList, unifyBreaks_indentLines, ne_eq, ← List.isEmpty_iff,
      isEmpty_indented, List.isEmpty_iff]
    exact filled
  have shifted := entries_indentSource k filled
  cases found : entries? source.toList with
  -- Without tokens it does not matter which of the two ways of reading is taken: both fail.
  | none =>
    rw [found] at shifted
    generalize found' : entries? (indentSource k source).toList = entries' at shifted
    cases shifted
    rw [readScript_of_none filled found, readScript_of_none filled' found']
  | some entries =>
    rw [found] at shifted
    generalize found' : entries? (indentSource k source).toList = entries' at shifted
    cases shifted with
    | @some _ entries' shifted =>
    cases first : firstCode? (unifyBreaks source.toList) with
    | none =>
      obtain ⟨plain, shift⟩ := isIndented_of_none (k := k) first
      have none : entries = [] := Option.some.inj (found.symm.trans (entries_of_none first))
      cases none
      cases shifted
      rw [readScript?, readScript?, plain, shift, if_neg Bool.false_ne_true, readStatements_eq,
        readStatements_eq, found, found']
    | some line =>
      obtain ⟨code, start⟩ := (keeps entries found).margin line first
      obtain ⟨plain, shift⟩ := isIndented_of_some pos first code
      have own := entriesFrom_plain found
      have laid := layOut_condition pos (keeps entries found) start own shifted
      rw [readScript?, readScript?, plain, shift, if_pos rfl, if_neg Bool.false_ne_true, readIndented?,
        readStatements_eq, readStatements_eq, entries_condition filled', found', found, Option.map_some,
        Option.bind_some, Option.bind_some, laid]
      cases tokens : layOut [⟨0, 0⟩] entries with
      | none => rfl
      | some ts =>
        have closed : Closes 0 ts := layOut_closes (List.cons_ne_nil ⟨0, 0⟩ []) own tokens
        have code : entries ≠ [] := by rintro rfl; cases start
        obtain ⟨some, whole⟩ := layOut_ends (entries_ends found code) tokens
        rw [Option.map_some, Option.bind_some, Option.bind_some, statements_underTrue whole closed some]
        cases statements ts <;> rfl

end

/-! ## Runs -/

theorem contains_indentSource (k : Nat) (source : String) :
    (indentSource k source).toList.contains '\x00' = source.toList.contains '\x00' := by
  rw [indentSource, String.toList_ofList]
  generalize true = lineStart
  have spaces (lineStart : Bool) :
      (if lineStart then List.replicate k ' ' else []).contains '\x00' = false := by
    cases lineStart <;> simp [List.mem_replicate]
  fun_induction indentLines k lineStart source.toList <;> simp_all

theorem parseScript_eq (source : String) : parseScript source =
    if source.toList.contains '\x00' then .error (.fault .nullCharacter)
    else (readScript? source).elim (.error (malformed .script source)) .ok := by
  rw [parseScript, withoutNull]
  split
  · rfl
  · rw [readScript?]
    dsimp only
    cases (if isIndented source then readIndented? else readStatements?) source.toList <;> rfl

theorem checkBody_cases (source source' : String) (parameters : List String) (body : List Stmt) :
    checkBody .script source' parameters body = checkBody .script source parameters body ∨
      checkBody .script source parameters body = .error (malformed .script source) ∧
        checkBody .script source' parameters body = .error (malformed .script source') := by
  simp only [checkBody]
  split
  · exact .inl rfl
  split
  · exact .inl rfl
  split
  · exact .inl rfl
  · exact .inr ⟨rfl, rfl⟩

/-- An indented script is the function body that the script is, or both are no code. -/
theorem compile_indentSource {k : Nat} (pos : 0 < k) {source : String}
    (keeps : ∀ entries ∈ entries? source.toList, Indentable k source entries) (scope : Scope Value) :
    compile ⟨.script, indentSource k source, scope⟩ = compile ⟨.script, source, scope⟩ ∨
      compile ⟨.script, source, scope⟩ = .error (malformed .script source) ∧
        compile ⟨.script, indentSource k source, scope⟩ =
          .error (malformed .script (indentSource k source)) := by
  simp only [compile, parseBody, parseScript_eq, contains_indentSource, readScript_indentSource pos keeps]
  split
  · exact .inl rfl
  cases readScript? source with
  | none => exact .inr ⟨rfl, rfl⟩
  | some body =>
    simp only [Option.elim_some, bind, Except.bind]
    obtain same | ⟨refused, refused'⟩ :=
      checkBody_cases source (indentSource k source) (parameterNames scope) body
    · rw [same]
      exact .inl rfl
    · rw [refused, refused']
      exact .inr ⟨rfl, rfl⟩

/-- A script that is indented has the outcome of the script, unless both are no code. -/
theorem Host.call_indentSource {κ ι : Type} (host : Host κ ι) (request : Call Value)
    (script : request.kind = .script) {k : Nat} (pos : 0 < k)
    (keeps : ∀ entries ∈ entries? request.source.toList, Indentable k request.source entries)
    (desk : Desk κ) :
    host.call { request with source := indentSource k request.source } desk = host.call request desk ∨
      ∃ error, host.call request desk = (.error (.grammar error), desk) ∧
        host.call { request with source := indentSource k request.source } desk =
          (.error (.grammar { error with source := indentSource k request.source }), desk) := by
  obtain ⟨kind, source, scope⟩ := request
  cases script
  simp only [Host.call]
  obtain same | ⟨refused, refused'⟩ := compile_indentSource pos keeps scope
  · rw [same]
    exact .inl rfl
  · rw [refused, refused']
    exact .inr ⟨_, rfl, rfl⟩

/-- A script with a comment, an empty line, a block and a bracket over two lines. -/
def nestedScript : Call Value where
  kind := .script
  source := "# the next number\n\nif True:\n  return (x +\n1)\n"
  scope := [("x", .plain (.integer 6))]

theorem call_indentSource_nested :
    (∀ entries ∈ entries? nestedScript.source.toList, Indentable 4 nestedScript.source entries) ∧
      issueHost.call { nestedScript with source := indentSource 4 nestedScript.source }
          (Desk.ofServer openIssue) =
        issueHost.call nestedScript (Desk.ofServer openIssue) := by
  have keeps : ∀ entries ∈ entries? nestedScript.source.toList, Indentable 4 nestedScript.source entries := by
    decide +kernel
  have ran : (issueHost.call nestedScript (Desk.ofServer openIssue)).1.isOk = true := by decide +kernel
  refine ⟨keeps, ?_⟩
  obtain same | ⟨error, refused, -⟩ :=
    issueHost.call_indentSource nestedScript rfl (by decide : 0 < 4) keeps (Desk.ofServer openIssue)
  · exact same
  · rw [refused] at ran
    cases ran

/-- Whether a script without texts over several lines starts at the margin and comes to a result, but is no
code behind some spaces. -/
def RunsAtMarginOnly (k : Nat) (source : String) : Prop :=
  isIndented source = false ∧
    (∀ entries ∈ entries? source.toList, ∀ entry ∈ entries, entry.isOneLine = true) ∧
    (issueHost.call ⟨.script, source, []⟩ (Desk.ofServer openIssue)).1.isOk = true ∧
    (issueHost.call ⟨.script, indentSource k source, []⟩ (Desk.ofServer openIssue)).1 =
      .error (malformed .script (indentSource k source))

/-- Where a tab ends depends on the spaces in front of it, and a form feed in a comment ends a line for one of
the two readers of lines only. -/
theorem runsAtMarginOnly_tabs_comment :
    RunsAtMarginOnly 7 "if True:\n \tif True:\n\t  return 1\n" ∧
      RunsAtMarginOnly 7 "# one\x0ctwo\nreturn 1\n" := by
  constructor
  · exact ⟨by decide +kernel, by decide +kernel, by decide +kernel, eq_error_of_failure? (by decide +kernel)⟩
  · exact ⟨by decide +kernel, by decide +kernel, by decide +kernel, eq_error_of_failure? (by decide +kernel)⟩

end IssueBoard.Script
