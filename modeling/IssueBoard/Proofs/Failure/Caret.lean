import IssueBoard.Proofs.Calendar.Trouble
import IssueBoard.Proofs.Template.Reading

/-! # The caret below an error

A message in its context ends with the source and a caret on a line of its own. The caret is indented by the
place of the error, counted from the start of the source, so it stands below that place if the source is a
single line. A source that holds a line break puts the place on another line, or into another column, than
the caret points at.
-/

namespace IssueBoard

/-! ## Rows and columns -/

namespace Text

/-- How many lines of a text lie above a place. -/
def row (cs : List Char) (place : Nat) : Nat := (cs.take place).count '\n'

/-- How many characters follow the last line break of a text. -/
def lastLine (cs : List Char) : Nat := (cs.reverse.takeWhile (· != '\n')).length

/-- How many characters of the same line stand before a place. -/
def column (cs : List Char) (place : Nat) : Nat := lastLine (cs.take place)

/-- Whether a place of a text lies directly below another: on the next line and in the same column. -/
def IsBelow (cs : List Char) (lower upper : Nat) : Prop :=
  row cs lower = row cs upper + 1 ∧ column cs lower = column cs upper

/-- Whether a text ends with a source and, on a line of its own, a caret directly below a place of that
source. The place behind the source counts as one of its places. -/
def PointsAt (text source : List Char) (place : Nat) : Prop :=
  ∃ head indent, text = head ++ source ++ '\n' :: (indent ++ ['^']) ∧ (∀ c ∈ indent, c = ' ') ∧
    IsBelow text (text.length - 1) (head.length + place)

variable {front back head source indent rest : List Char} {place : Nat}

theorem not_mem_reverse_iff : (∀ c ∈ back.reverse, (c != '\n') = true) ↔ '\n' ∉ back := by
  simp only [List.mem_reverse, bne_iff_ne]
  exact ⟨fun other never => other _ never rfl, fun whole c member same => whole (same ▸ member)⟩

theorem lastLine_append (whole : '\n' ∉ back) : lastLine (front ++ back) = lastLine front + back.length := by
  rw [lastLine, List.reverse_append, List.takeWhile_append_of_pos (not_mem_reverse_iff.mpr whole),
    List.length_append, List.length_reverse, lastLine, Nat.add_comm]

theorem lastLine_break (whole : '\n' ∉ back) : lastLine (front ++ '\n' :: back) = back.length := by
  rw [lastLine, List.reverse_append, List.reverse_cons, List.append_assoc,
    List.takeWhile_append_of_pos (not_mem_reverse_iff.mpr whole), List.singleton_append,
    List.takeWhile_cons_of_neg (by decide), List.append_nil, List.length_reverse]

/-- What stands before a line break is not on the last line. -/
theorem lastLine_lt (front : List Char) (broken : '\n' ∈ back) : lastLine (front ++ back) < back.length := by
  obtain ⟨after, before, split, whole⟩ := List.eq_append_cons_of_mem (List.mem_reverse.mpr broken)
  have last : back = before.reverse ++ '\n' :: after.reverse := by
    rw [← List.reverse_reverse back, split, List.reverse_append, List.reverse_cons, List.append_assoc]
    rfl
  have whole' : '\n' ∉ after.reverse := fun never => whole (List.mem_reverse.mp never)
  rw [last, ← List.append_assoc, lastLine_break whole', List.length_append, List.length_cons]
  omega

theorem dropLast_caret (front indent : List Char) (c : Char) :
    (front ++ '\n' :: (indent ++ [c])).dropLast = front ++ '\n' :: indent := by
  rw [← List.cons_append, ← List.append_assoc, List.dropLast_concat]

/-- The last character of a text stands below all but its own line. -/
theorem row_last (single : '\n' ∉ indent) (c : Char) :
    row (front ++ '\n' :: (indent ++ [c])) ((front ++ '\n' :: (indent ++ [c])).length - 1) =
      front.count '\n' + 1 := by
  rw [row, ← List.dropLast_eq_take, dropLast_caret, List.count_append, List.count_cons_self,
    List.count_eq_zero.mpr single]

theorem column_last (front : List Char) (single : '\n' ∉ indent) (c : Char) :
    column (front ++ '\n' :: (indent ++ [c])) ((front ++ '\n' :: (indent ++ [c])).length - 1) =
      indent.length := by
  rw [column, ← List.dropLast_eq_take, dropLast_caret, lastLine_break single]

theorem take_within (within : place ≤ source.length) :
    (head ++ source ++ rest).take (head.length + place) = head ++ source.take place := by
  rw [List.append_assoc, List.take_length_add_append, List.take_append_of_le_length within]

end Text

open Text (PointsAt)

/-! ## The context of a message -/

namespace GrammarError

variable {e : GrammarError} {place : Nat}

theorem toList_messageInContext (known : e.position = some place) : e.messageInContext.toList =
    (e.message.toList ++ ['\n', ' ', ' ']) ++ e.source.toList ++
      '\n' :: (List.replicate (place + 2) ' ' ++ ['^']) := by
  have wider : List.replicate (place + 2) ' ' = [' ', ' '] ++ List.replicate place ' ' := by
    rw [Nat.add_comm, List.replicate_add]
    rfl
  simp only [messageInContext, known, String.toList_append, String.toList_ofList, wider, List.append_assoc]
  rfl

/-- The caret points at the place of an error exactly if the source holds no line break. -/
theorem pointsAt_iff (known : e.position = some place) (within : place ≤ e.source.toList.length) :
    PointsAt e.messageInContext.toList e.source.toList place ↔ '\n' ∉ e.source.toList := by
  have spaces : '\n' ∉ List.replicate (place + 2) ' ' := fun never => by
    cases List.eq_of_mem_replicate never
  have text := toList_messageInContext known
  generalize e.source.toList = source at *
  generalize e.messageInContext.toList = context at *
  constructor
  · rintro ⟨head, indent, split, blank, below, beside⟩ broken
    have unbroken : '\n' ∉ indent := fun never => by cases blank _ never
    -- The last line is as long in both readings of the text, so the source stands at the same place.
    have indentation : indent.length = place + 2 := by
      have caret := Text.column_last (head ++ source) unbroken '^'
      rw [← split, text, Text.column_last _ spaces, List.length_replicate] at caret
      exact caret.symm
    rw [split, Text.row_last unbroken, Text.row, Text.take_within within, List.count_append,
      List.count_append] at below
    rw [split, Text.column_last _ unbroken, Text.column, Text.take_within within, indentation] at beside
    have before : '\n' ∈ source.take place := by
      rw [← List.count_pos_iff] at broken ⊢
      omega
    have short := Text.lastLine_lt head before
    rw [← beside, List.length_take] at short
    omega
  · intro single
    have front : '\n' ∉ source.take place := fun never => single (List.mem_of_mem_take never)
    have indentation : Text.lastLine (e.message.toList ++ ['\n', ' ', ' ']) = 2 :=
      Text.lastLine_break (by decide)
    have above : source.count '\n' = 0 := List.count_eq_zero.mpr single
    have before : (source.take place).count '\n' = 0 := List.count_eq_zero.mpr front
    refine ⟨_, _, text, fun c member => List.eq_of_mem_replicate member, ?_, ?_⟩
    · rw [text, Text.row_last spaces, Text.row, Text.take_within within]
      simp only [List.count_append, above, before]
    · rw [text, Text.column_last _ spaces, List.length_replicate, Text.column, Text.take_within within,
        Text.lastLine_append front, indentation, List.length_take_of_le within, Nat.add_comm]

end GrammarError

/-! ## Errors of dates and templates -/

theorem Template.position_of_scan {source : String} {e : GrammarError} (failed : scan source = .error e) :
    e.source = source ∧ ∃ place, e.position = some place ∧ place ≤ source.toList.length := by
  obtain ⟨opener, ⟨⟨_, _, opens⟩, _⟩, rfl⟩ := scan_eq_error_iff.mp failed
  have within := opens.braces.lt_length
  exact ⟨rfl, opener, rfl, by omega⟩

theorem Calendar.position_of_evaluate {now : Instant} {source : String} {e : GrammarError}
    (failed : evaluate now source = .error (.grammar e)) :
    e.source = source ∧ ∃ place, e.position = some place ∧ place ≤ source.toList.length := by
  obtain ⟨troubled, -⟩ := evaluate_eq_grammar failed
  obtain ⟨before, rest, split, same, place, -⟩ := read_halts troubled
  refine ⟨same, before.length, place, ?_⟩
  rw [split, List.length_append]
  exact Nat.le_add_right _ _

/-- **The caret points at the error exactly if the source is a single line.** An error of a date expression
or of a template has a place in its source, or directly behind it. The message in its context ends with the
source and a caret line, and the caret stands below that place if the source holds no line break; if it
holds one, the caret stands below another place or below none. -/
theorem messageInContext_pointsAt {source : String} {e : GrammarError}
    (failed : (∃ now, Calendar.evaluate now source = .error (.grammar e)) ∨ Template.scan source = .error e) :
    ∃ place, e.position = some place ∧ place ≤ source.toList.length ∧
      (PointsAt e.messageInContext.toList source.toList place ↔ '\n' ∉ source.toList) := by
  have known : e.source = source ∧ ∃ place, e.position = some place ∧ place ≤ source.toList.length := by
    rcases failed with ⟨now, failed⟩ | failed
    · exact Calendar.position_of_evaluate failed
    · exact Template.position_of_scan failed
  obtain ⟨rfl, place, position, within⟩ := known
  exact ⟨place, position, within, GrammarError.pointsAt_iff position within⟩

/-- A date with a question mark behind it, and a template that ends with an opener. -/
theorem messageInContext_pointsAt_oneLine :
    let now := Calendar.Instant.midnight ⟨2020, 1, 1, by decide⟩
    let date : GrammarError := ⟨.operatorExpected, some 11, "2020-01-01 ? 1 day"⟩
    let template : GrammarError := ⟨.unterminatedExpression, some 2, "a \x7b\x7b"⟩
    (Calendar.evaluate now "2020-01-01 ? 1 day" = .error (.grammar date) ∧
      PointsAt date.messageInContext.toList "2020-01-01 ? 1 day".toList 11) ∧
    Template.scan "a \x7b\x7b" = .error template ∧
      PointsAt template.messageInContext.toList "a \x7b\x7b".toList 2 := by
  intro now date template
  have failed : Calendar.evaluate now "2020-01-01 ? 1 day" = .error (.grammar date) := by decide +kernel
  have failed' : Template.scan "a \x7b\x7b" = .error template := by decide +kernel
  obtain ⟨place, position, -, points⟩ := messageInContext_pointsAt (.inl ⟨now, failed⟩)
  obtain ⟨place', position', -, points'⟩ := messageInContext_pointsAt (.inr failed')
  cases position
  cases position'
  exact ⟨⟨failed, points.mpr (by decide)⟩, failed', points'.mpr (by decide)⟩

/-- A template of two lines with an opener at the start of the second: the caret stands four characters into
a line that has four, not below its start. -/
theorem not_pointsAt_secondLine :
    let e : GrammarError := ⟨.unterminatedExpression, some 2, "a\n\x7b\x7b b"⟩
    Template.scan "a\n\x7b\x7b b" = .error e ∧
      e.messageInContext =
        "unterminated expression, got '\x7b\x7b b'\n  a\n\x7b\x7b b\n    ^" ∧
      ¬ PointsAt e.messageInContext.toList "a\n\x7b\x7b b".toList 2 := by
  intro e
  refine ⟨by decide +kernel, by decide +kernel, fun points => ?_⟩
  exact (GrammarError.pointsAt_iff (e := e) rfl (by decide)).mp points (by decide)

end IssueBoard
