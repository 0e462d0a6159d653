import Mathlib.Data.List.ReduceOption
import IssueBoard.Proofs.Render.Totality
import IssueBoard.Proofs.Text.Breaks
import IssueBoard.Proofs.Text.Words

/-! # Tables of Markdown as they are read

Who reads a table finds a row on each line and cells between pipes. All rows of a rendered table are filled
up to the same length, but the texts of its cells are written as they are: the table that is read is the
table that was meant exactly if no text holds a pipe or a line break.
-/

namespace IssueBoard.Render.Markdown

/-! ## Reading a table -/

/-- The lines of a text. Each ends with a line feed, a carriage return or both. -/
def readLines (cs : List Char) : List (List Char) := ((Text.unifyBreaks cs).splitOn '\n').dropLast

/-- The characters of a line, with `none` for each pipe between cells. A pipe behind a backslash is part of
a text. -/
def readPipes : List Char → List (Option Char)
  | [] => []
  | '\\' :: '|' :: rest => some '|' :: readPipes rest
  | '|' :: rest => none :: readPipes rest
  | c :: rest => some c :: readPipes rest

/-- What stands before, between and behind the pipes of a line. -/
def readPieces (line : List Char) : List (List Char) :=
  ((readPipes line).splitOn none).map List.reduceOption

/-- Whether a character is space around the text of a cell. -/
def isPadding (c : Char) : Bool := c == ' ' || c == '\t'

/-- The text of a cell without the space around it. -/
def unpadded (cs : List Char) : List Char := Text.dropTrailing isPadding (cs.dropWhile isPadding)

/-- The pieces that are cells: there is none before the first pipe if nothing stands there, and none
behind the last one. -/
def inner (pieces : List (List Char)) : List (List Char) :=
  let pieces := if pieces.head?.all (·.all isPadding) then pieces.tail else pieces
  if pieces.getLast?.all (·.all isPadding) then pieces.dropLast else pieces

/-- The cells of a line. -/
def readCells (line : List Char) : List (List Char) := (inner (readPieces line)).map unpadded

/-- The texts of the cells of a line. -/
def readRow (line : List Char) : List String := (readCells line).map String.ofList

/-- The texts of the cells of a table, line by line. -/
def readTable (text : String) : List (List String) := (readLines text.toList).map readRow

/-! ## What a table is to show -/

/-- The text of a cell without the space around it. -/
def cellText (text : String) : String := String.ofList (unpadded text.toList)

/-- A row of texts, with nothing in the columns that it does not reach. -/
def shownRow (columns : Nat) (texts : List String) : List String :=
  (List.range columns).map fun column => cellText (texts[column]?.getD "")

/-- The rules of a table, column by column. -/
def rules (columns : Nat) (headers : List Widget) : List String :=
  (List.range columns).map fun column => rule headers[column]?

/-- Whether the text of a table is read as a line of headers, a line of rules, and a line for each row, all
of them with a cell for each column, and each cell shows what stands in its place. -/
def ReadsAsMeant (caption : Caption) (headers : List Widget) (rows : List (List Widget)) (text : String) :
    Prop :=
  ∃ tops lines lower, headers.mapM cell = .ok tops ∧ rows.mapM (fun row => row.mapM cell) = .ok lines ∧
    text = String.join ((heading caption).map (· ++ "\n")) ++ lower ∧
    readTable lower = shownRow (columnsOf headers rows) tops :: rules (columnsOf headers rows) headers
      :: lines.map (shownRow (columnsOf headers rows))

/-- Whether a text can be put into a cell as it is. -/
def IsPlain (text : String) : Prop :=
  '|' ∉ text.toList ∧ '\n' ∉ text.toList ∧ '\r' ∉ text.toList

/-! ## Padding -/

/-- How many characters of a text are no padding. -/
def ink (cs : List Char) : Nat := cs.countP fun c => !isPadding c

theorem ink_append (cs ds : List Char) : ink (cs ++ ds) = ink cs + ink ds := List.countP_append

theorem ink_dropWhile (cs : List Char) : ink (cs.dropWhile isPadding) = ink cs := by
  induction cs with
  | nil => rfl
  | cons c cs ih =>
    cases padding : isPadding c with
    | true => rw [List.dropWhile_cons_of_pos padding, ih, ink, ink, List.countP_cons, padding]; rfl
    | false => rw [List.dropWhile_cons_of_neg (by simp [padding])]

theorem ink_unpadded (cs : List Char) : ink (unpadded cs) = ink cs := by
  have back (ds : List Char) : ink ds.reverse = ink ds := List.countP_reverse
  rw [unpadded, Text.dropTrailing, back, ink_dropWhile, back, ink_dropWhile]

theorem unpadded_cons {c : Char} (padding : isPadding c = true) (cs : List Char) :
    unpadded (c :: cs) = unpadded cs := by
  rw [unpadded, List.dropWhile_cons_of_pos padding, unpadded]

theorem unpadded_concat {c : Char} (padding : isPadding c = true) (cs : List Char) :
    unpadded (cs ++ [c]) = unpadded cs := by
  rw [unpadded, unpadded, List.dropWhile_append]
  split
  · next none =>
    rw [List.isEmpty_iff] at none
    rw [none, List.dropWhile_cons_of_pos padding]
    rfl
  · rw [Text.dropTrailing, List.reverse_concat, List.dropWhile_cons_of_pos padding]
    rfl

/-! ## Cells -/

theorem readPipes_cons {c : Char} {cs : List Char} (pair : ∀ rest, c = '\\' → cs ≠ '|' :: rest)
    (pipe : c ≠ '|') :
    readPipes (c :: cs) = some c :: readPipes cs := by
  rw [readPipes]
  · exact pair
  · exact pipe

theorem readPipes_append {cs : List Char} (ends : cs.getLast? ≠ some '\\') (rest : List Char) :
    readPipes (cs ++ '|' :: rest) = readPipes cs ++ none :: readPipes rest := by
  induction cs using readPipes.induct with
  | case1 => rfl
  | case2 cs ih =>
    have ends := Text.getLast?_ne_of_cons (Text.getLast?_ne_of_cons ends)
    rw [List.cons_append, List.cons_append, readPipes, readPipes, ih ends, List.cons_append]
  | case3 cs ih =>
    have ends := Text.getLast?_ne_of_cons ends
    rw [List.cons_append, readPipes, readPipes, ih ends, List.cons_append]
  | case4 c cs pair pipe ih =>
    have still : ∀ more, c = '\\' → cs ++ '|' :: rest ≠ '|' :: more := by
      rintro more rfl same
      cases cs with
      | nil => exact ends rfl
      | cons d cs =>
        obtain ⟨rfl, -⟩ := List.cons_eq_cons.mp same
        exact pair cs rfl rfl
    rw [List.cons_append, readPipes_cons still pipe, readPipes_cons pair pipe,
      ih (Text.getLast?_ne_of_cons ends), List.cons_append]

theorem readPieces_append {cs : List Char} (ends : cs.getLast? ≠ some '\\') (rest : List Char) :
    readPieces (cs ++ '|' :: rest) = readPieces cs ++ readPieces rest := by
  rw [readPieces, readPipes_append ends, List.splitOn_append_cons_self, List.map_append]
  rfl

/-- A line of cells, each between two pipes. -/
def fence (cells : List (List Char)) : List Char := '|' :: cells.flatMap (· ++ ['|'])

theorem getLast?_fence (cells : List (List Char)) : (fence cells).getLast? = some '|' := by
  rcases List.eq_nil_or_concat cells with rfl | ⟨cells, cell, rfl⟩
  · rfl
  · rw [List.concat_eq_append, fence, List.flatMap_append, List.flatMap_singleton, ← List.cons_append,
      ← List.append_assoc, List.getLast?_concat]

theorem readPieces_fence {cells : List (List Char)} (ends : ∀ cell ∈ cells, cell.getLast? ≠ some '\\') :
    readPieces (fence cells) = [] :: cells.flatMap readPieces ++ [[]] := by
  have behind : readPieces (cells.flatMap (· ++ ['|'])) = cells.flatMap readPieces ++ [[]] := by
    induction cells with
    | nil => rfl
    | cons cell cells ih =>
      rw [List.forall_mem_cons] at ends
      rw [List.flatMap_cons, List.append_assoc, List.singleton_append, readPieces_append ends.1, ih ends.2,
        List.flatMap_cons, List.append_assoc]
  rw [fence, ← List.nil_append ('|' :: _), readPieces_append (by simp), behind]
  rfl

theorem inner_framed (pieces : List (List Char)) : inner ([] :: pieces ++ [[]]) = pieces := by
  simp [inner]

theorem readCells_fence {cells : List (List Char)} (ends : ∀ cell ∈ cells, cell.getLast? ≠ some '\\') :
    readCells (fence cells) = (cells.flatMap readPieces).map unpadded := by
  rw [readCells, readPieces_fence ends, inner_framed]

theorem readPipes_of_not_mem {cs : List Char} (plain : '|' ∉ cs) : readPipes cs = cs.map some := by
  induction cs with
  | nil => rfl
  | cons c cs ih =>
    rw [List.mem_cons, not_or] at plain
    rw [readPipes_cons _ (Ne.symm plain.1), ih plain.2, List.map_cons]
    rintro rest - rfl
    exact plain.2 List.mem_cons_self

theorem readPieces_of_not_mem {cs : List Char} (plain : '|' ∉ cs) : readPieces cs = [cs] := by
  have whole : (cs.map some).splitOn none = [cs.map some] := List.splitOn_eq_singleton (by simp)
  rw [readPieces, readPipes_of_not_mem plain, whole, List.map_singleton, List.reduceOption,
    List.filterMap_map]
  exact congrArg (fun piece => [piece]) List.filterMap_some

theorem flatten_reduceOption_splitOn (cs : List (Option Char)) :
    ((cs.splitOn none).map List.reduceOption).flatten = cs.reduceOption := by
  induction cs with
  | nil => rfl
  | cons c cs ih =>
    rw [List.splitOn_cons_eq_if_modifyHead]
    cases c with
    | none => exact ih
    | some c =>
      obtain ⟨piece, pieces, split⟩ := List.exists_cons_of_ne_nil (List.splitOn_ne_nil none cs)
      rw [split] at ih ⊢
      rw [if_neg nofun, List.modifyHead_cons, List.map_cons, List.flatten_cons,
        List.reduceOption_cons_of_some, List.reduceOption_cons_of_some, ← ih]
      rfl

/-- Every pipe of a text costs a character: it parts two cells, or it lacks its backslash. -/
theorem ink_readPieces (cs : List Char) : ink (readPieces cs).flatten + cs.count '|' = ink cs := by
  have step (c : Char) (ds : List Char) : ink (c :: ds) = ink ds + if isPadding c then 0 else 1 := by
    cases padding : isPadding c <;> simp [ink, padding]
  have backslash : isPadding '\\' = false := rfl
  have pipe : isPadding '|' = false := rfl
  rw [readPieces, flatten_reduceOption_splitOn]
  induction cs using readPipes.induct with
  | case1 => rfl
  | case2 cs ih =>
    rw [readPipes, List.reduceOption_cons_of_some, step, step, step, pipe, backslash, ← ih]
    simp
    omega
  | case3 cs ih =>
    rw [readPipes, List.reduceOption_cons_of_none, step, pipe, ← ih]
    simp
    omega
  | case4 c cs pair other ih =>
    rw [readPipes_cons pair other, List.reduceOption_cons_of_some, step, step, ← ih,
      List.count_cons_of_ne other]
    omega

/-- A text between the spaces that part it from the pipes. -/
def padded (cs : List Char) : List Char := ' ' :: cs ++ [' ']

theorem unpadded_padded (cs : List Char) : unpadded (padded cs) = unpadded cs := by
  rw [padded, unpadded_concat rfl, unpadded_cons rfl]

theorem ink_padded (cs : List Char) : ink (padded cs) = ink cs := by
  rw [← ink_unpadded, unpadded_padded, ink_unpadded]

theorem ink_flatten_map {f : List Char → List Char} (same : ∀ cs, ink (f cs) = ink cs)
    (pieces : List (List Char)) :
    ink (pieces.map f).flatten = ink pieces.flatten := by
  induction pieces with
  | nil => rfl
  | cons piece pieces ih =>
    rw [List.map_cons, List.flatten_cons, List.flatten_cons, ink_append, ink_append, ih, same]

theorem ink_flatMap_readPieces (cells : List (List Char)) :
    ink (cells.flatMap readPieces).flatten + cells.flatten.count '|' = ink cells.flatten := by
  induction cells with
  | nil => rfl
  | cons cell cells ih =>
    rw [List.flatMap_cons, List.flatten_append, List.flatten_cons, ink_append, ink_append, List.count_append,
      ← ih, ← ink_readPieces cell]
    omega

/-- A row is read as it was meant exactly if no pipe stands in it. -/
theorem readCells_row {texts : List (List Char)} :
    readCells (fence (texts.map padded)) = texts.map unpadded ↔ ∀ text ∈ texts, '|' ∉ text := by
  have ends : ∀ cell ∈ texts.map padded, cell.getLast? ≠ some '\\' := by
    rw [List.forall_mem_map]
    intro text _
    rw [padded, List.getLast?_concat]
    exact nofun
  rw [readCells_fence ends]
  constructor
  · intro same text member pipe
    -- the inner pipes would take something away from what can be seen
    have seen := congrArg (fun cells => ink cells.flatten) same
    have cost := ink_flatMap_readPieces (texts.map padded)
    simp only [ink_flatten_map ink_unpadded] at seen
    rw [seen, ink_flatten_map ink_padded, Nat.add_eq_left, List.count_eq_zero] at cost
    refine cost (List.mem_flatten.mpr ⟨_, List.mem_map_of_mem member, ?_⟩)
    exact List.mem_cons_of_mem _ (List.mem_append_left _ pipe)
  · intro plain
    have single : ∀ cell ∈ texts.map padded, readPieces cell = [cell] := by
      rw [List.forall_mem_map]
      intro text member
      refine readPieces_of_not_mem ?_
      simp [padded, plain text member]
    rw [List.flatMap_congr single, List.flatMap_singleton', List.map_map]
    exact List.map_congr_left fun text _ => unpadded_padded text

/-! ## Lines -/

/-- Lines, each of which ends with a line feed. -/
def written (lines : List (List Char)) : List Char := lines.flatMap (· ++ ['\n'])

/-- Whether a text breaks no line. -/
def Unbroken (cs : List Char) : Prop := '\n' ∉ cs ∧ '\r' ∉ cs

instance (cs : List Char) : Decidable (Unbroken cs) := inferInstanceAs (Decidable (_ ∧ _))

theorem length_splitOn (c : Char) (cs : List Char) : (cs.splitOn c).length = cs.count c + 1 := by
  induction cs with
  | nil => rfl
  | cons d cs ih =>
    rw [List.splitOn_cons_eq_if_modifyHead, List.count_cons]
    split
    · rw [List.length_cons, ih]
    · rw [List.length_modifyHead, ih, Nat.add_zero]

theorem readLines_written {lines : List (List Char)} (ends : ∀ line ∈ lines, line.getLast? ≠ some '\r') :
    readLines (written lines) = lines.flatMap fun line => (Text.unifyBreaks line).splitOn '\n' := by
  have all : (Text.unifyBreaks (written lines)).splitOn '\n' =
      (lines.flatMap fun line => (Text.unifyBreaks line).splitOn '\n') ++ [[]] := by
    induction lines with
    | nil => rfl
    | cons line lines ih =>
      rw [List.forall_mem_cons] at ends
      rw [written, List.flatMap_cons, List.append_assoc, List.singleton_append,
        Text.unifyBreaks_append ends.1, Text.unifyBreaks_cons (by decide), List.splitOn_append_cons_self,
        ← written, ih ends.2, List.flatMap_cons, List.append_assoc]
  rw [readLines, all, List.dropLast_concat]

theorem readLines_of_unbroken {lines : List (List Char)} (ends : ∀ line ∈ lines, line.getLast? ≠ some '\r')
    (unbroken : ∀ line ∈ lines, Unbroken line) : readLines (written lines) = lines := by
  have single : ∀ line ∈ lines, (Text.unifyBreaks line).splitOn '\n' = [line] := by
    intro line member
    obtain ⟨feed, ret⟩ := unbroken line member
    rw [Text.unifyBreaks_eq_self ret, List.splitOn_eq_singleton feed]
  rw [readLines_written ends, List.flatMap_congr single, List.flatMap_singleton']

/-- A break within a line makes lines of it. -/
theorem unbroken_of_length {lines : List (List Char)} (ends : ∀ line ∈ lines, line.getLast? ≠ some '\r')
    (same : (readLines (written lines)).length = lines.length) : ∀ line ∈ lines, Unbroken line := by
  rw [readLines_written ends, List.length_flatMap] at same
  simp only [length_splitOn] at same
  have none : ∀ line ∈ lines, (Text.unifyBreaks line).count '\n' = 0 := by
    rw [List.sum_map_add, List.map_const', List.sum_replicate_nat, mul_one, Nat.add_eq_right,
      List.sum_eq_zero_iff, List.forall_mem_map] at same
    exact same
  intro line member
  have feed := List.count_eq_zero.mp (none line member)
  rwa [Text.mem_unifyBreaks, not_or] at feed

theorem intercalate_concat (lines : List (List Char)) :
    ['\n'].intercalate (lines ++ [[]]) = written lines := by
  induction lines with
  | nil => rfl
  | cons line lines ih =>
    rw [written, List.flatMap_cons, ← written, ← ih]
    cases lines with
    | nil => simp [List.intercalate_cons_cons]
    | cons next lines =>
      rw [List.cons_append, List.cons_append, List.intercalate_cons_cons, List.append_assoc]

/-- Cells with pipes between them, and one more before and behind. -/
theorem fence_intercalate (pad first : List Char) (rest : List (List Char)) :
    '|' :: pad ++ (pad ++ '|' :: pad).intercalate (first :: rest) ++ pad ++ ['|'] =
      fence ((first :: rest).map fun cell => pad ++ cell ++ pad) := by
  induction rest generalizing first with
  | nil => simp [fence]
  | cons next rest ih =>
    have more := ih next
    rw [fence, List.cons_append, List.cons_append, List.cons_append, List.cons_inj_right] at more
    rw [List.intercalate_cons_cons, List.map_cons, fence, List.flatMap_cons, ← more]
    simp

/-- A row of texts between pipes. -/
def rowLine (texts : List String) : List Char := fence (texts.map fun text => padded text.toList)

theorem toList_row {texts : List String} (some : texts ≠ []) :
    ("| " ++ " | ".intercalate texts ++ " |").toList = rowLine texts := by
  obtain ⟨first, rest, rfl⟩ := List.exists_cons_of_ne_nil some
  have cells := fence_intercalate [' '] first.toList (rest.map String.toList)
  simpa [rowLine, padded, Function.comp_def] using cells

theorem toList_rules {texts : List String} (some : texts ≠ []) :
    ("|" ++ "|".intercalate texts ++ "|").toList = fence (texts.map String.toList) := by
  obtain ⟨first, rest, rfl⟩ := List.exists_cons_of_ne_nil some
  have cells := fence_intercalate [] first.toList (rest.map String.toList)
  simpa [Function.comp_def] using cells

/-! ## Tables -/

theorem unbroken_fence {cells : List (List Char)} :
    Unbroken (fence cells) ↔ ∀ cell ∈ cells, Unbroken cell := by
  have outside {c : Char} (other : c ≠ '|') : c ∉ fence cells ↔ ∀ cell ∈ cells, c ∉ cell := by
    simp [fence, other]
  rw [Unbroken, outside (by decide), outside (by decide)]
  exact forall₂_and.symm

theorem unbroken_padded {cs : List Char} : Unbroken (padded cs) ↔ Unbroken cs := by
  simp [Unbroken, padded]

/-- A written table is read line by line if it is read as so many lines at all. -/
theorem readTable_written_iff {lines : List (List Char)} {cells : List (List String)}
    (ends : ∀ line ∈ lines, line.getLast? ≠ some '\r') (length : cells.length = lines.length) :
    readTable (String.ofList (written lines)) = cells ↔
      List.Forall₂ (fun line row => Unbroken line ∧ readRow line = row) lines cells := by
  rw [readTable, String.toList_ofList]
  constructor
  · rintro rfl
    rw [List.length_map] at length
    have unbroken := unbroken_of_length ends length
    rw [readLines_of_unbroken ends unbroken, List.forall₂_map_right_iff, List.forall₂_same]
    exact fun line member => ⟨unbroken line member, rfl⟩
  · intro each
    obtain ⟨unbroken, read⟩ := (List.forall₂_and_left _ _).mp each
    rw [readLines_of_unbroken ends unbroken, ← List.forall₂_eq_eq_eq, List.forall₂_map_left_iff]
    exact read

theorem reads_row_iff {texts : List String} :
    (Unbroken (rowLine texts) ∧ readRow (rowLine texts) = texts.map cellText) ↔
      ∀ text ∈ texts, IsPlain text := by
  have cells := @readCells_row (texts.map String.toList)
  rw [List.map_map, List.map_map, List.forall_mem_map] at cells
  have read : readRow (rowLine texts) = texts.map cellText ↔ ∀ text ∈ texts, '|' ∉ text.toList := by
    rw [← cells, readRow]
    have same : texts.map cellText = (texts.map (unpadded ∘ String.toList)).map String.ofList :=
      (List.map_map).symm
    rw [same, List.map_inj_right fun _ _ => String.ofList_injective]
    rfl
  rw [read, rowLine, unbroken_fence, List.forall_mem_map]
  simp only [unbroken_padded]
  exact ⟨fun both text member => ⟨both.2 text member, both.1 text member⟩,
    fun plain => ⟨fun text member => (plain text member).2, fun text member => (plain text member).1⟩⟩

theorem rule_plain (header : Option Widget) :
    let cs := (rule header).toList
    Unbroken cs ∧ cs.getLast? ≠ some '\\' ∧ readPieces cs = [cs] ∧ unpadded cs = cs := by
  unfold rule
  split <;> decide +kernel

/-- The rules are read as they are. -/
theorem reads_rules (columns : Nat) (headers : List Widget) :
    Unbroken (fence ((rules columns headers).map String.toList)) ∧
      readRow (fence ((rules columns headers).map String.toList)) = rules columns headers := by
  have each {P : List Char → Prop} (all : ∀ header, P (rule header).toList) :
      ∀ cell ∈ (rules columns headers).map String.toList, P cell := by
    simp only [rules, List.map_map, List.forall_mem_map]
    exact fun column _ => all headers[column]?
  refine ⟨unbroken_fence.mpr (each fun header => (rule_plain header).1), ?_⟩
  rw [readRow, readCells_fence (each fun header => (rule_plain header).2.1),
    List.flatMap_congr (@each (fun cs => readPieces cs = [cs]) fun header => (rule_plain header).2.2.1),
    List.flatMap_singleton',
    List.map_congr_left (@each (fun cs => unpadded cs = id cs) fun header => (rule_plain header).2.2.2),
    List.map_id, List.map_map]
  exact List.map_id'' (fun _ => String.ofList_toList) _

/-- Texts filled up to a number of columns. -/
def filled (columns : Nat) (texts : List String) : List String :=
  texts ++ List.replicate (columns - texts.length) ""

theorem filled_ne_nil {columns : Nat} (some : columns ≠ 0) (texts : List String) :
    filled columns texts ≠ [] := by
  intro none
  have length := congrArg List.length none
  simp only [filled, List.length_append, List.length_replicate, List.length_nil] at length
  omega

theorem map_filled {texts : List String} {columns : Nat} (fits : texts.length ≤ columns) :
    (filled columns texts).map cellText = shownRow columns texts := by
  have each : filled columns texts = (List.range columns).map fun column => texts[column]?.getD "" := by
    refine List.ext_getElem ?_ fun column first second => ?_
    · rw [filled, List.length_append, List.length_replicate, List.length_map, List.length_range]
      omega
    · simp only [filled, List.getElem_append, List.getElem_map, List.getElem_range]
      split
      · next inside => rw [List.getElem?_eq_getElem inside, Option.getD_some]
      · next outside =>
        rw [List.getElem?_eq_none (Nat.not_lt.mp outside), Option.getD_none, List.getElem_replicate]
  rw [each, List.map_map]
  rfl

/-- A row is read as it was meant if its own texts are plain, since nothing stands in the others. -/
theorem reads_filled_iff {texts : List String} {columns : Nat} (fits : texts.length ≤ columns) :
    (Unbroken (rowLine (filled columns texts)) ∧
      readRow (rowLine (filled columns texts)) = shownRow columns texts) ↔ ∀ text ∈ texts, IsPlain text := by
  rw [← map_filled fits, reads_row_iff, filled, List.forall_mem_append]
  refine and_iff_left fun text member => ?_
  rw [List.eq_of_mem_replicate member]
  simp [IsPlain]

theorem row_eq_ok_iff {columns : Nat} {cells : List Widget} {line : String} :
    row columns cells = .ok line ↔ ∃ texts, cells.mapM cell = .ok texts ∧
      "| " ++ " | ".intercalate (filled columns texts) ++ " |" = line := by
  simp only [row, bind_eq_ok_iff, pure_eq_ok_iff, filled]

theorem exists_texts {rows : List (List Widget)} {lines : List String} {line : List String → String}
    (each : List.Forall₂ (fun row written => ∃ texts, row.mapM cell = .ok texts ∧ line texts = written)
      rows lines) :
    ∃ texts, rows.mapM (fun row => row.mapM cell) = .ok texts ∧ texts.map line = lines := by
  simp only [@mapM_eq_ok_iff _ _ _ fun row : List Widget => row.mapM cell]
  induction each with
  | nil => exact ⟨[], .nil, rfl⟩
  | cons first _ ih =>
    obtain ⟨texts, own, rfl⟩ := first
    obtain ⟨more, others, rfl⟩ := ih
    exact ⟨texts :: more, .cons own others, rfl⟩

theorem toList_join (lines : List String) :
    (String.join (lines.map (· ++ "\n"))).toList = written (lines.map String.toList) := by
  simp [written, String.toList_join, List.flatMap_map]

/-- The lines of a table that is rendered, below its heading. -/
def tableLines (columns : Nat) (headers : List Widget) (tops : List String) (lines : List (List String)) :
    List (List Char) :=
  rowLine (filled columns tops) :: fence ((rules columns headers).map String.toList)
    :: lines.map fun texts => rowLine (filled columns texts)

/-- The lines of a rendered table. -/
theorem exists_lines {caption : Caption} {headers : List Widget} {rows : List (List Widget)} {text : String}
    (some : columnsOf headers rows ≠ 0) (done : table caption headers rows = .ok text) :
    ∃ tops lines, headers.mapM cell = .ok tops ∧ rows.mapM (fun row => row.mapM cell) = .ok lines ∧
      text = String.join ((heading caption).map (· ++ "\n"))
        ++ String.ofList (written (tableLines (columnsOf headers rows) headers tops lines)) := by
  simp only [table, if_neg some, bind_eq_ok_iff, pure_eq_ok_iff, row_eq_ok_iff, @mapM_eq_ok_iff _ _ _ (row _)]
    at done
  obtain ⟨_, ⟨tops, top, rfl⟩, _, each, rfl⟩ := done
  obtain ⟨lines, own, rfl⟩ := exists_texts each
  refine ⟨tops, lines, top, own, String.toList_inj.mp ?_⟩
  have ruled : rules (columnsOf headers rows) headers ≠ [] := by simp [rules, some]
  have split (above below : List (List Char)) : written (above ++ below) = written above ++ written below :=
    List.flatMap_append
  have below : (lines.map fun texts =>
        "| " ++ " | ".intercalate (filled (columnsOf headers rows) texts) ++ " |").map String.toList =
      lines.map fun texts => rowLine (filled (columnsOf headers rows) texts) := by
    rw [List.map_map]
    exact List.map_congr_left fun texts _ => toList_row (filled_ne_nil some texts)
  rw [String.toList_append, toList_join, String.toList_ofList, String.toList_intercalate, tableLines, ← split,
    ← intercalate_concat, ← toList_row (filled_ne_nil some tops), ← toList_rules ruled, ← below]
  simp [rules]

/-- A written table is read as it was meant exactly if all texts in it are plain. -/
theorem readTable_tableLines_iff {columns : Nat} {headers : List Widget} {tops : List String}
    {lines : List (List String)} (top : tops.length ≤ columns)
    (each : ∀ texts ∈ lines, texts.length ≤ columns) :
    readTable (String.ofList (written (tableLines columns headers tops lines))) =
        shownRow columns tops :: rules columns headers :: lines.map (shownRow columns) ↔
      ∀ text ∈ tops ++ lines.flatten, IsPlain text := by
  have ends : ∀ line ∈ tableLines columns headers tops lines, line.getLast? ≠ some '\r' := by
    have fenced (cells : List (List Char)) : (fence cells).getLast? ≠ some '\r' := by
      rw [getLast?_fence]
      decide
    rw [tableLines, List.forall_mem_cons, List.forall_mem_cons, List.forall_mem_map]
    exact ⟨fenced _, fenced _, fun texts _ => fenced _⟩
  rw [readTable_written_iff ends (by simp [tableLines]), tableLines, List.forall₂_cons, List.forall₂_cons,
    List.forall₂_map_left_iff, List.forall₂_map_right_iff, List.forall₂_same,
    reads_filled_iff top, and_iff_right (reads_rules columns headers), List.forall_mem_append,
    List.forall_mem_flatten]
  exact and_congr_right fun _ => forall₂_congr fun texts member => reads_filled_iff (each texts member)

/-- What holds of all results holds of the result of each computation. -/
theorem forall_results_iff {α β ε : Type} {f : α → Except ε β} {P : β → Prop} {xs : List α} {ys : List β}
    (results : List.Forall₂ (fun x y => f x = .ok y) xs ys) :
    (∀ y ∈ ys, P y) ↔ ∀ x ∈ xs, ∀ y, f x = .ok y → P y := by
  induction results with
  | nil => exact iff_of_true (List.forall_mem_nil _) (List.forall_mem_nil _)
  | cons first _ ih => simp only [List.forall_mem_cons, ih, first, Except.ok.injEq, forall_eq']

/-- **A table is read as it was meant** exactly if the text of no cell holds a pipe or a line break: then it
is a line of headers, a line of rules and a line for each row, every line has a cell for each column, and a
cell shows the text in its place or nothing where its row is shorter. -/
theorem readsAsMeant_iff {caption : Caption} {headers : List Widget} {rows : List (List Widget)}
    {text : String} (some : columnsOf headers rows ≠ 0) (done : table caption headers rows = .ok text) :
    ReadsAsMeant caption headers rows text ↔
      ∀ shown ∈ headers ++ rows.flatten, ∀ text, cell shown = .ok text → IsPlain text := by
  obtain ⟨tops, lines, top, each, rfl⟩ := exists_lines some done
  have tops_each := mapM_eq_ok_iff.mp top
  have lines_each := (mapM_eq_ok_iff.mp each).imp fun _ _ own => mapM_eq_ok_iff.mp own
  have fits := le_columnsOf headers rows
  have narrow : ∀ texts ∈ lines, texts.length ≤ columnsOf headers rows := by
    refine forall_of_forall₂ ?_ ((List.forall₂_and_left _ _).mpr ⟨fits.2, lines_each⟩)
    rintro row texts ⟨fit, own⟩
    exact own.length_eq ▸ fit
  rw [← forall_results_iff (List.rel_append tops_each (List.rel_flatten lines_each)),
    ← readTable_tableLines_iff (tops_each.length_eq ▸ fits.1) narrow]
  constructor
  · rintro ⟨tops', lines', lower, top', each', same, reads⟩
    cases top.symm.trans top'
    cases each.symm.trans each'
    rwa [(String.append_right_inj _).mp same]
  · intro reads
    exact ⟨tops, lines, _, top, each, rfl, reads⟩

/-- A ragged table of plain texts. -/
theorem readsAsMeant_ragged :
    let text (value : String) : Widget := .string {} value none none
    columnsOf [text "Name", text "Count"] [[text "ada"], []] ≠ 0 ∧
      table {} [text "Name", text "Count"] [[text "ada"], []] =
        .ok "| Name | Count |\n|---|---|\n| ada |  |\n|  |  |\n" ∧
      ReadsAsMeant {} [text "Name", text "Count"] [[text "ada"], []]
        "| Name | Count |\n|---|---|\n| ada |  |\n|  |  |\n" := by
  intro text
  have some : columnsOf [text "Name", text "Count"] [[text "ada"], []] ≠ 0 := by decide
  have done : table {} [text "Name", text "Count"] [[text "ada"], []] =
      .ok "| Name | Count |\n|---|---|\n| ada |  |\n|  |  |\n" := by decide +kernel
  refine ⟨some, done, (readsAsMeant_iff some done).mpr ?_⟩
  simp [text, cell, decorate, withGlyph, IsPlain]

/-- The text of a cell that holds a pipe makes two cells. -/
theorem not_readsAsMeant :
    ¬∀ caption headers rows text, columnsOf headers rows ≠ 0 → table caption headers rows = .ok text →
      ReadsAsMeant caption headers rows text := by
  intro all
  let text (value : String) : Widget := .string {} value none none
  have done : table {} [text "h"] [[text "a|b"]] = .ok "| h |\n|---|\n| a|b |\n" := by decide +kernel
  obtain ⟨tops, lines, lower, top, each, same, reads⟩ :=
    all {} [text "h"] [[text "a|b"]] _ (by decide) done
  cases top
  cases each
  have whole : lower = "| h |\n|---|\n| a|b |\n" := (String.append_right_inj _).mp same.symm
  rw [whole] at reads
  exact absurd reads (by decide +kernel)

end IssueBoard.Render.Markdown
