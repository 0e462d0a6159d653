import IssueBoard.Template
import Mathlib.Data.List.Infix

/-! # Scanning undoes writing

Segments that scanning can tell apart are written and scanned back without a change. These are exactly
the segments that scanning gives: its literals are not empty, hold no opening braces and never stand
side by side; the last brace before an expression belongs to the expression; and no expression ends in
a backslash, which would keep the closing braces from closing it.
-/

namespace IssueBoard.Template

/-- Whether a literal may stand before another segment. -/
def Joins (first next : Segment) : Prop :=
  first.isExpression = false →
    next.isExpression = true ∧ first.text.toList.getLast? ≠ some '{'

/-- Segments that can be told apart once they are written. -/
structure Writable (parts : List Segment) : Prop where
  literals : ∀ part ∈ parts, part.isExpression = false →
    part.text.toList ≠ [] ∧ ¬ ['{', '{'] <:+: part.text.toList
  expressions : ∀ part ∈ parts, part.isExpression = true →
    part.text.toList.getLast? ≠ some '\\'
  joints : parts.IsChain Joins

/-- The segments, each with the place where it is written as its position. -/
def placed (position : Nat) : List Segment → List Segment
  | [] => []
  | part :: rest => { part with position } :: placed (position + (written part).length) rest

/-! ## Literals -/

theorem literalRun_cons {c : Char} {cs : List Char} (apart : ∀ rest, c :: cs ≠ '{' :: '{' :: rest) :
    literalRun (c :: cs) = (c :: (literalRun cs).1, (literalRun cs).2) := by
  rw [literalRun.eq_def]
  split
  · next none => cases none
  · next rest opened => exact absurd opened (apart rest)
  · next first rest _ same =>
    obtain ⟨rfl, rfl⟩ := List.cons.inj same
    rfl

theorem not_infix_nil : ¬ ['{', '{'] <:+: ([] : List Char) := by simp

theorem not_opening_of_not_infix {c : Char} {cs : List Char} (free : ¬ ['{', '{'] <:+: c :: cs) :
    (∀ rest, c :: cs ≠ '{' :: '{' :: rest) ∧ ¬ ['{', '{'] <:+: cs := by
  refine ⟨?_, fun later => free (List.infix_cons later)⟩
  intro rest opened
  rw [opened] at free
  exact free (List.prefix_append ['{', '{'] rest).isInfix

/-- The quick test for expressions finds opening braces wherever they stand. -/
theorem hasOpening_iff {cs : List Char} : hasOpening cs = true ↔ ['{', '{'] <:+: cs := by
  fun_induction hasOpening cs with
  | case1 rest => exact iff_of_true rfl (List.prefix_append ['{', '{'] rest).isInfix
  | case2 c rest apart ih =>
    rw [ih, List.infix_cons_iff]
    refine ⟨Or.inr, fun opening => opening.resolve_left ?_⟩
    rintro ⟨tail, same⟩
    obtain ⟨rfl, second⟩ := List.cons.inj same
    exact apart _ rfl second.symm
  | case3 => exact iff_of_false Bool.false_ne_true not_infix_nil

/-- A text without opening braces is a literal as a whole. -/
theorem literalRun_of_free {cs : List Char} (free : ¬ ['{', '{'] <:+: cs) : literalRun cs = (cs, []) := by
  induction cs with
  | nil => rfl
  | cons c cs ih =>
    obtain ⟨apart, later⟩ := not_opening_of_not_infix free
    rw [literalRun_cons apart, ih later]

/-- A literal takes in what begins behind it, unless braces meet. -/
theorem literalRun_append_of_free {literal rest : List Char} (free : ¬ ['{', '{'] <:+: literal)
    (seam : literal.getLast? = some '{' → rest.head? ≠ some '{') :
    literalRun (literal ++ rest) = (literal ++ (literalRun rest).1, (literalRun rest).2) := by
  induction literal with
  | nil => rfl
  | cons c literal ih =>
    obtain ⟨apart, later⟩ := not_opening_of_not_infix free
    have apart' : ∀ tail, c :: (literal ++ rest) ≠ '{' :: '{' :: tail := by
      intro tail opened
      obtain ⟨rfl, second⟩ := List.cons.inj opened
      cases literal with
      | nil =>
        rw [List.nil_append] at second
        exact seam rfl (by rw [second]; rfl)
      | cons d literal =>
        obtain ⟨rfl, -⟩ := List.cons.inj second
        exact apart literal rfl
    have seam' : literal.getLast? = some '{' → rest.head? ≠ some '{' := by
      intro brace
      apply seam
      cases literal with
      | nil => cases brace
      | cons d literal => rwa [List.getLast?_cons_cons]
    rw [List.cons_append, literalRun_cons apart', ih later seam']
    rfl

/-- A literal ends at the first opening braces behind it. -/
theorem literalRun_append {literal : List Char} (free : ¬ ['{', '{'] <:+: literal)
    (ending : literal.getLast? ≠ some '{') (rest : List Char) :
    literalRun (literal ++ '{' :: '{' :: rest) = (literal, '{' :: '{' :: rest) := by
  have opened : literalRun ('{' :: '{' :: rest) = ([], '{' :: '{' :: rest) := by rw [literalRun]
  rw [literalRun_append_of_free free fun brace => absurd brace ending, opened, List.append_nil]

/-! ## Scanning what is written -/

/-- The segment of a literal, if there is any. -/
def literalAt (position : Nat) (literal : List Char) : List Segment :=
  if literal.isEmpty then [] else [⟨String.ofList literal, false, position⟩]

theorem segments_of_free {literal : List Char} (free : ¬ ['{', '{'] <:+: literal) (position : Nat) :
    segments position literal = .ok (literalAt position literal) := by
  rw [segments]
  split
  · rfl
  · next first second opened run =>
    rw [literalRun_of_free free] at run
    cases run

/-- At opening braces scanning goes on behind the closing ones, and fails if there are none. -/
theorem segments_opened {cs literal inside : List Char}
    (run : literalRun cs = (literal, '{' :: '{' :: inside)) (position : Nat) :
    segments position cs = (body? inside).elim (.error (position + literal.length)) fun found =>
      (segments (position + literal.length + 2 + (inside.length - found.2.length)) found.2).map fun after =>
        literalAt position literal ++
          ⟨String.ofList found.1, true, position + literal.length⟩ :: after := by
  rw [segments]
  split
  · next first run' =>
    rw [run] at run'
    cases run'
  · next first c opened run' =>
    rw [run] at run'
    obtain ⟨rfl, same⟩ := Prod.mk.inj run'
    obtain ⟨rfl, rfl⟩ := List.cons.inj same
    dsimp only
    split
    · next missing =>
      rw [List.drop_succ_cons, List.drop_zero] at missing
      rw [missing, Option.elim_none]
    · next source rest found =>
      rw [List.drop_succ_cons, List.drop_zero] at found
      rw [found, Option.elim_some, List.length_cons, Nat.add_sub_cancel]
      rfl

/-- A literal and an expression are scanned off the front of a template. -/
theorem segments_expression {literal source : List Char} (free : ¬ ['{', '{'] <:+: literal)
    (ending : literal.getLast? ≠ some '{') (closing : source.getLast? ≠ some '\\') (position : Nat)
    (rest : List Char) :
    segments position (literal ++ '{' :: '{' :: (escape source ++ '}' :: '}' :: rest)) =
      (segments (position + literal.length + (4 + (escape source).length)) rest).map fun after =>
        literalAt position literal ++
          ⟨String.ofList source, true, position + literal.length⟩ :: after := by
  have place : position + literal.length + 2 +
      ((escape source ++ '}' :: '}' :: rest).length - rest.length) =
        position + literal.length + (4 + (escape source).length) := by
    simp only [List.length_cons, List.length_append]
    omega
  rw [segments_opened (literalRun_append free ending _), body?_escape rest closing, Option.elim_some, place]

theorem length_written_expression {part : Segment} (expression : part.isExpression = true) :
    (written part).length = 4 + (escape part.text.toList).length := by
  rw [written, if_pos expression]
  simp only [List.length_append, List.length_cons, List.length_nil]
  omega

theorem Writable.tail {part : Segment} {rest : List Segment} (writable : Writable (part :: rest)) :
    Writable rest where
  literals other member := writable.literals other (List.mem_cons_of_mem part member)
  expressions other member := writable.expressions other (List.mem_cons_of_mem part member)
  joints := writable.joints.of_cons

theorem Writable.joins {part next : Segment} {rest : List Segment} (writable : Writable (part :: rest))
    (first : next ∈ rest.head?) : Joins part next := by
  cases rest with
  | nil => cases first
  | cons other rest =>
    cases first
    exact (List.isChain_cons_cons.mp writable.joints).1

/-- Scanning gives the segments that were written. A literal may have been written before them, as long
as they begin with an expression that it can be told from. -/
theorem segments_written {parts : List Segment} (writable : Writable parts) {literal : List Char}
    (free : ¬ ['{', '{'] <:+: literal) (before : literal ≠ [] → ∀ next ∈ parts.head?,
      next.isExpression = true ∧ literal.getLast? ≠ some '{') (position : Nat) :
    segments position (literal ++ parts.flatMap written) =
      .ok (literalAt position literal ++ placed (position + literal.length) parts) := by
  -- A literal is scanned together with the expression behind it, so it is carried along until one comes.
  induction parts generalizing literal position with
  | nil =>
    rw [List.flatMap_nil, List.append_nil, segments_of_free free, placed, List.append_nil]
  | cons part rest ih =>
    rw [List.flatMap_cons]
    cases kind : part.isExpression with
    | true =>
      have ending : literal.getLast? ≠ some '{' := by
        by_cases empty : literal = []
        · rw [empty]
          exact fun never => by cases never
        · exact (before empty part rfl).2
      have closing := writable.expressions part (List.mem_cons_self ..) kind
      have later := ih writable.tail not_infix_nil (fun never => absurd rfl never)
        (position + literal.length + (4 + (escape part.text.toList).length))
      have start : literal ++ (written part ++ rest.flatMap written) =
          literal ++ '{' :: '{' :: (escape part.text.toList ++ '}' :: '}' :: rest.flatMap written) := by
        simp [written, kind]
      rw [start, segments_expression free ending closing]
      rw [List.nil_append] at later
      rw [later, placed, length_written_expression kind, String.ofList_toList, kind]
      rfl
    | false =>
      obtain ⟨nonempty, free'⟩ := writable.literals part (List.mem_cons_self ..) kind
      have empty : literal = [] := by
        by_contra some
        have expression := (before some part rfl).1
        rw [kind] at expression
        cases expression
      have text : written part = part.text.toList := by
        rw [written, kind]
        rfl
      have later := ih writable.tail free' (fun _ next first => writable.joins first kind) position
      rw [empty, List.nil_append, text, later, placed, text, literalAt,
        List.isEmpty_eq_false_iff.mpr nonempty, String.ofList_toList, kind]
      rfl

/-! ## What scanning gives -/

/-- The characters before the first opening braces hold none, and the last of them is no brace. -/
theorem literalRun_spec (cs : List Char) : cs = (literalRun cs).1 ++ (literalRun cs).2 ∧
    ¬ ['{', '{'] <:+: (literalRun cs).1 ∧
    ((literalRun cs).2 ≠ [] → (literalRun cs).1.getLast? ≠ some '{' ∧
      ∃ rest, (literalRun cs).2 = '{' :: '{' :: rest) := by
  fun_induction literalRun cs with
  | case1 => exact ⟨rfl, by simp, fun never => absurd rfl never⟩
  | case2 rest => exact ⟨rfl, by simp, fun _ => ⟨fun never => (by cases never), rest, rfl⟩⟩
  | case3 c rest apart ih =>
    obtain ⟨split, free, opened⟩ := ih
    refine ⟨congrArg (c :: ·) split, ?_, fun more => ⟨?_, (opened more).2⟩⟩
    · intro within
      rcases List.infix_cons_iff.mp within with ⟨tail, same⟩ | within
      · obtain ⟨rfl, second⟩ := List.cons.inj same
        rw [← second] at split
        exact apart _ rfl split
      · exact free within
    · obtain ⟨ending, after, same⟩ := opened more
      cases run : (literalRun rest).1 with
      | nil =>
        rw [run, same, List.nil_append] at split
        rw [List.getLast?_singleton, ne_eq, Option.some.injEq]
        intro brace
        exact apart _ brace split
      | cons d run' =>
        rw [run] at ending
        rwa [List.getLast?_cons_cons]

/-- A body is empty only where closing braces stand at once. -/
theorem eq_of_body?_nil {cs after : List Char} (read : body? cs = some ([], after)) :
    cs = '}' :: '}' :: after := by
  rw [body?.eq_def] at read
  split at read
  · cases read
  · obtain ⟨_, -, same⟩ := Option.map_eq_some_iff.mp read
    cases same
  · cases read
    rfl
  · obtain ⟨_, -, same⟩ := Option.map_eq_some_iff.mp read
    cases same

/-- The source of an expression does not end in a backslash, which would have kept the closing braces
from closing it. -/
theorem getLast?_body? {cs source after : List Char} (read : body? cs = some (source, after)) :
    source.getLast? ≠ some '\\' := by
  fun_induction body? cs generalizing source with
  | case1 => cases read
  | case2 rest ih =>
    obtain ⟨⟨inner, after'⟩, found, same⟩ := Option.map_eq_some_iff.mp read
    obtain ⟨rfl, rfl⟩ := Prod.mk.inj same
    have ending := ih found
    cases inner with
    | nil => decide
    | cons d inner => rwa [List.getLast?_cons_cons]
  | case3 rest =>
    cases read
    exact fun never => by cases never
  | case4 c rest kept closed ih =>
    obtain ⟨⟨inner, after'⟩, found, same⟩ := Option.map_eq_some_iff.mp read
    obtain ⟨rfl, rfl⟩ := Prod.mk.inj same
    have ending := ih found
    cases inner with
    | nil =>
      rw [List.getLast?_singleton, ne_eq, Option.some.injEq]
      intro backslash
      exact kept _ backslash (eq_of_body?_nil found)
    | cons d inner => rwa [List.getLast?_cons_cons]

theorem writable_nil : Writable [] where
  literals part member := by cases member
  expressions part member := by cases member
  joints := .nil

theorem Writable.cons {part : Segment} {rest : List Segment} (writable : Writable rest)
    (literal : part.isExpression = false →
      part.text.toList ≠ [] ∧ ¬ ['{', '{'] <:+: part.text.toList)
    (expression : part.isExpression = true → part.text.toList.getLast? ≠ some '\\')
    (joins : ∀ next ∈ rest.head?, Joins part next) : Writable (part :: rest) where
  literals := List.forall_mem_cons.mpr ⟨literal, writable.literals⟩
  expressions := List.forall_mem_cons.mpr ⟨expression, writable.expressions⟩
  joints := by
    cases rest with
    | nil => exact .singleton part
    | cons next rest => exact List.isChain_cons_cons.mpr ⟨joins next rfl, writable.joints⟩

theorem writable_literalAt {literal : List Char} (free : ¬ ['{', '{'] <:+: literal) {position : Nat}
    {rest : List Segment} (writable : Writable rest) (joins : literal ≠ [] → ∀ next ∈ rest.head?,
      next.isExpression = true ∧ literal.getLast? ≠ some '{') :
    Writable (literalAt position literal ++ rest) := by
  rw [literalAt]
  split
  · exact writable
  · next nonempty =>
    rw [List.isEmpty_iff] at nonempty
    have same : (String.ofList literal).toList = literal := String.toList_ofList
    refine writable.cons ?_ ?_ ?_
    · intro _
      rw [same]
      exact ⟨nonempty, free⟩
    · intro never
      cases never
    · intro next first _
      rw [same]
      exact joins nonempty next first

/-- Whatever is scanned gives segments that can be told apart. -/
theorem writable_segments {position : Nat} {cs : List Char} {parts : List Segment}
    (scanned : segments position cs = .ok parts) : Writable parts := by
  fun_induction segments position cs generalizing parts with
  | case1 position cs literal run =>
    obtain ⟨split, free, -⟩ := literalRun_spec cs
    rw [run, List.append_nil] at split
    rw [run] at free
    obtain rfl := Except.ok.inj scanned
    have whole : Writable (literalAt position cs ++ []) :=
      writable_literalAt (split ▸ free) writable_nil (fun _ next never => by cases never)
    rwa [List.append_nil] at whole
  | case2 => cases scanned
  | case3 position cs literal c opened run start before source rest found shorter =>
    rename_i ih
    obtain ⟨-, free, joined⟩ := literalRun_spec cs
    rw [run] at free joined
    cases later : segments (start + 2 + (opened.length - 1 - rest.length)) rest with
    | error missing =>
      rw [later] at scanned
      cases scanned
    | ok after =>
      rw [later] at scanned
      obtain rfl := Except.ok.inj scanned
      have expression : Writable (⟨String.ofList source, true, start⟩ :: after) := by
        refine (ih later).cons (fun never => by cases never) ?_ ?_
        · intro _
          rw [String.toList_ofList]
          exact getLast?_body? found
        · intro next first never
          cases never
      refine writable_literalAt free expression ?_
      intro _ next first
      cases first
      exact ⟨rfl, (joined (List.cons_ne_nil c opened)).1⟩

/-! ## Round trips -/

theorem placed_eq_mapIdx (position : Nat) (parts : List Segment) :
    placed position parts = parts.mapIdx fun i part =>
      { part with position := position + ((parts.take i).flatMap written).length } := by
  induction parts generalizing position with
  | nil => rfl
  | cons part rest ih =>
    rw [placed, ih, List.mapIdx_cons]
    simp only [List.take_zero, List.flatMap_nil, List.length_nil, Nat.add_zero, List.take_succ_cons,
      List.flatMap_cons, List.length_append, Nat.add_assoc]

theorem scan_of_writable {parts : List Segment} (writable : Writable parts) :
    scan (write parts) = .ok (parts.mapIdx fun i part =>
      { part with position := (write (parts.take i)).length }) := by
  have scanned := segments_written writable not_infix_nil (fun never => absurd rfl never) 0
  rw [List.nil_append] at scanned
  rw [scan, write, String.toList_ofList, scanned, List.length_nil, Nat.zero_add, placed_eq_mapIdx]
  simp only [write, String.length_ofList, Nat.zero_add]
  rfl

theorem writable_of_scan {source : String} {parts : List Segment} (scanned : scan source = .ok parts) :
    Writable parts := by
  rw [scan] at scanned
  cases found : segments 0 source.toList with
  | error position =>
    rw [found] at scanned
    cases scanned
  | ok others =>
    rw [found] at scanned
    obtain rfl := Except.ok.inj scanned
    exact writable_segments found

/-- Writable segments are scanned as they were written, each with the length of what is written before
it as its position. Scanning gives nothing else than writable segments, so what has been scanned is
written and scanned again without a change of texts and kinds. -/
theorem scan_write :
    (∀ parts, Writable parts → scan (write parts) = .ok (parts.mapIdx fun i part =>
      { part with position := (write (parts.take i)).length })) ∧
    ∀ source parts, scan source = .ok parts → Writable parts ∧ ∃ again,
      scan (write parts) = .ok again ∧ again.map (fun part => (part.text, part.isExpression)) =
        parts.map fun part => (part.text, part.isExpression) := by
  refine ⟨fun parts => scan_of_writable, ?_⟩
  intro source parts scanned
  have writable := writable_of_scan scanned
  refine ⟨writable, _, scan_of_writable writable, ?_⟩
  refine List.ext_getElem? fun i => ?_
  rw [List.getElem?_map, List.getElem?_mapIdx, List.getElem?_map, Option.map_map]
  rfl

/-- Braces at every joint: before and inside an expression, behind an empty one and at the end. -/
def bracedParts : List Segment :=
  [⟨"a\x7bb", false, 0⟩, ⟨"\x7bx\x7d", true, 0⟩, ⟨"", true, 0⟩, ⟨"\x7dc\x7b", false, 0⟩]

theorem scan_write_braced :
    Writable bracedParts ∧ scan (write bracedParts) = .ok
      [⟨"a\x7bb", false, 0⟩, ⟨"\x7bx\x7d", true, 3⟩, ⟨"", true, 11⟩, ⟨"\x7dc\x7b", false, 15⟩] ∧
    ∃ parts again, scan "\x7b\x7ba\\\x7d\x7d\x7d" = .ok parts ∧ scan (write parts) = .ok again ∧
      again.map (fun part => (part.text, part.isExpression)) = [("a\x7d", true)] := by
  have writable : Writable bracedParts := ⟨by decide, by decide, by simp [bracedParts, Joins]⟩
  have scanned : scan "\x7b\x7ba\\\x7d\x7d\x7d" = .ok [⟨"a\x7d", true, 0⟩] := by decide +kernel
  refine ⟨writable, (scan_write.1 bracedParts writable).trans ?_, ?_⟩
  · decide +kernel
  · obtain ⟨-, again, read, same⟩ := scan_write.2 _ _ scanned
    exact ⟨_, again, scanned, read, same⟩

end IssueBoard.Template
