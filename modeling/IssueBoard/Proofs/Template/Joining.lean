import IssueBoard.Proofs.Template.Reading

/-! # Joining templates

Two templates that scan, one written behind the other, scan to the segments of both. Only the seam
needs care: a literal at the end of the first and one at the start of the second become a single
literal, and a brace on either side of the seam would make opening braces that neither template has.
-/

namespace IssueBoard.Template

/-- The segments of two templates, one behind the other. Literals that meet are one. -/
def joined : List Segment → List Segment → List Segment
  | [], later => later
  | [last], [] => [last]
  | [last], next :: later =>
    if last.isExpression || next.isExpression then last :: next :: later
    else { last with text := last.text ++ next.text } :: later
  | part :: other :: rest, later => part :: joined (other :: rest) later

/-- A segment of a template that stands further behind. -/
def moved (distance : Nat) (part : Segment) : Segment :=
  { part with position := part.position + distance }

variable {cs rest literal : List Char} {position : Nat} {first second : List Segment}

/-! ## Literals and bodies -/

theorem joined_cons {part : Segment} (more : first ≠ []) :
    joined (part :: first) second = part :: joined first second := by
  cases first with
  | nil => exact absurd rfl more
  | cons other rest => rfl

/-- Nothing is merged with an expression. -/
theorem joined_expression {part : Segment} (expression : part.isExpression = true) :
    joined (part :: first) second = part :: joined first second := by
  cases first with
  | nil =>
    cases second with
    | nil => rfl
    | cons next later => simp only [joined, expression, Bool.true_or, if_true]
  | cons other rest => rfl

theorem literalRun_append_of_opened {inside : List Char}
    (run : literalRun cs = (literal, '{' :: '{' :: inside)) (rest : List Char) :
    literalRun (cs ++ rest) = (literal, '{' :: '{' :: (inside ++ rest)) := by
  obtain ⟨split, free, opened⟩ := literalRun_spec cs
  rw [run] at split free opened
  obtain ⟨ending, -⟩ := opened (List.cons_ne_nil _ _)
  rw [split, List.append_assoc]
  exact literalRun_append free ending (inside ++ rest)

/-- The body of a span is read the same way whatever comes behind its closing braces. -/
theorem body?_append {source after : List Char} (read : body? cs = some (source, after))
    (rest : List Char) : body? (cs ++ rest) = some (source, after ++ rest) := by
  fun_induction body? cs generalizing source with
  | case1 => cases read
  | case2 tail ih =>
    obtain ⟨⟨inner, after'⟩, found, same⟩ := Option.map_eq_some_iff.mp read
    obtain ⟨rfl, rfl⟩ := Prod.mk.inj same
    rw [List.cons_append, List.cons_append, body?, ih found]
    rfl
  | case3 tail =>
    cases read
    rfl
  | case4 c tail kept closed ih =>
    obtain ⟨⟨inner, after'⟩, found, same⟩ := Option.map_eq_some_iff.mp read
    obtain ⟨rfl, rfl⟩ := Prod.mk.inj same
    cases tail with
    | nil => cases found
    | cons d tail =>
      rw [List.cons_append, body?_cons, ih found]
      · rfl
      · intro other escaped
        obtain ⟨backslash, more⟩ := List.cons.inj escaped
        exact kept tail backslash (by rw [(List.cons.inj more).1])
      · intro other ended
        obtain ⟨brace, more⟩ := List.cons.inj ended
        exact closed tail brace (by rw [(List.cons.inj more).1])

theorem body?_suffix {source after : List Char} (read : body? cs = some (source, after)) :
    after <:+ cs := by
  fun_induction body? cs generalizing source with
  | case1 => cases read
  | case2 tail ih =>
    obtain ⟨⟨inner, after'⟩, found, same⟩ := Option.map_eq_some_iff.mp read
    obtain ⟨-, rfl⟩ := Prod.mk.inj same
    exact (ih found).trans ((List.suffix_cons _ _).trans (List.suffix_cons _ _))
  | case3 tail =>
    cases read
    exact (List.suffix_cons _ _).trans (List.suffix_cons _ _)
  | case4 c tail kept closed ih =>
    obtain ⟨⟨inner, after'⟩, found, same⟩ := Option.map_eq_some_iff.mp read
    obtain ⟨-, rfl⟩ := Prod.mk.inj same
    exact (ih found).trans (List.suffix_cons _ _)

/-! ## Segments -/

/-- A literal is scanned off the front of a template, and scanning goes on at the opening braces. -/
theorem segments_run {opened : List Char} (run : literalRun cs = (literal, opened)) (position : Nat) :
    segments position cs =
      (segments (position + literal.length) opened).map (literalAt position literal ++ ·) := by
  obtain ⟨split, free, braces⟩ := literalRun_spec cs
  rw [run] at split free braces
  cases opened with
  | nil =>
    rw [List.append_nil] at split
    rw [split, segments_of_free free, segments_of_free not_infix_nil]
    exact congrArg Except.ok (List.append_nil _).symm
  | cons c opened =>
    obtain ⟨-, inside, same⟩ := braces (List.cons_ne_nil c opened)
    dsimp only at same
    rw [same] at run ⊢
    have again : literalRun ('{' :: '{' :: inside) = ([], '{' :: '{' :: inside) := rfl
    rw [segments_opened run, segments_opened again]
    cases body? inside with
    | none => rfl
    | some found =>
      simp only [Option.elim_some, List.length_nil, Nat.add_zero]
      cases segments (position + literal.length + 2 + (inside.length - found.2.length)) found.2 <;> rfl

/-- What is scanned behind the literal at the start of a template begins with an expression. -/
theorem isExpression_of_behind (scanned : segments position (literalRun cs).2 = .ok first) :
    ∀ part ∈ first.head?, part.isExpression = true := by
  intro part head
  obtain ⟨-, -, braces⟩ := literalRun_spec cs
  cases opened : (literalRun cs).2 with
  | nil =>
    rw [opened, segments_of_free not_infix_nil] at scanned
    cases scanned
    cases head
  | cons c tail =>
    obtain ⟨-, inside, same⟩ := braces (by simp [opened])
    have run : literalRun ('{' :: '{' :: inside) = ([], '{' :: '{' :: inside) := rfl
    rw [same, segments_opened run] at scanned
    cases read : body? inside with
    | none =>
      rw [read] at scanned
      cases scanned
    | some found =>
      rw [read, Option.elim_some] at scanned
      obtain ⟨after, -, rfl⟩ := map_eq_ok_iff.mp scanned
      cases head
      rfl

/-- Where a template ends in a literal and the next one begins with one, they are joined. -/
theorem joined_literalAt {text more : List Char} {position' : Nat} (place : text = [] → position' = position)
    (expression : ∀ part ∈ second.head?, part.isExpression = true) :
    joined (literalAt position text) (literalAt position' more ++ second) =
      literalAt position (text ++ more) ++ second := by
  cases text with
  | nil =>
    rw [place rfl]
    rfl
  | cons c text =>
    cases more with
    | nil =>
      cases second with
      | nil => simp [literalAt, joined]
      | cons next later => simp [literalAt, joined, expression next rfl]
    | cons d more => simp [literalAt, joined, String.append_assoc]

theorem joined_literalAt_expression {text : List Char} {part : Segment}
    (expression : part.isExpression = true) :
    joined (literalAt position text ++ part :: first) second =
      literalAt position text ++ part :: joined first second := by
  cases text with
  | nil => exact joined_expression expression
  | cons c text =>
    change joined (_ :: part :: first) second = _ :: part :: joined first second
    rw [joined_cons (List.cons_ne_nil part first), joined_expression expression]

theorem seam_of_suffix {after : List Char} (ends : after <:+ cs)
    (seam : cs.getLast? = some '{' → rest.head? ≠ some '{') :
    after.getLast? = some '{' → rest.head? ≠ some '{' := by
  intro brace
  apply seam
  obtain ⟨before, rfl⟩ := ends
  rw [List.getLast?_append, brace]
  rfl

/-- The two ways in which a text at a place scans: it is a literal, or a literal and a span come first
and what is behind them scans. -/
inductive Scans : Nat → List Char → List Segment → Prop
  | free {position : Nat} {cs : List Char} (free : ¬ ['{', '{'] <:+: cs) :
      Scans position cs (literalAt position cs)
  | span {position behind : Nat} {cs literal inside source after : List Char} {parts : List Segment}
      (run : literalRun cs = (literal, '{' :: '{' :: inside)) (found : body? inside = some (source, after))
      (place : behind = position + literal.length + 2 + (inside.length - after.length))
      (later : Scans behind after parts) :
      Scans position cs
        (literalAt position literal ++ ⟨String.ofList source, true, position + literal.length⟩ :: parts)

theorem scans_of_segments (scanned : segments position cs = .ok first) : Scans position cs first := by
  fun_induction segments position cs generalizing first with
  | case1 position cs literal run =>
    obtain ⟨split, free, -⟩ := literalRun_spec cs
    rw [run, List.append_nil] at split
    rw [run] at free
    obtain rfl : cs = literal := split
    obtain rfl := Except.ok.inj scanned
    exact .free free
  | case2 => cases scanned
  | case3 position cs literal c opened run start before source after found shorter =>
    rename_i ih
    obtain ⟨-, -, braces⟩ := literalRun_spec cs
    rw [run] at braces
    obtain ⟨-, inside, same⟩ := braces (List.cons_ne_nil c opened)
    cases same
    obtain ⟨parts, scannedAfter, rfl⟩ := map_eq_ok_iff.mp scanned
    exact .span run found rfl (ih scannedAfter)

/-- Two templates that scan, one behind the other, scan to the segments of both. -/
theorem segments_append (scanned : segments position cs = .ok first)
    (seam : cs.getLast? = some '{' → rest.head? ≠ some '{')
    (later : segments (position + cs.length) rest = .ok second) :
    segments position (cs ++ rest) = .ok (joined first second) := by
  -- The first template loses a span at each step, so the seam is met when its last literal is left.
  have scans := scans_of_segments scanned
  clear scanned
  induction scans with
  | @free position cs free =>
    rw [segments_run (show literalRun rest = ((literalRun rest).1, (literalRun rest).2) from rfl)] at later
    obtain ⟨parts, found, rfl⟩ := map_eq_ok_iff.mp later
    have place : position + (cs ++ (literalRun rest).1).length =
        position + cs.length + (literalRun rest).1.length := by
      rw [List.length_append, Nat.add_assoc]
    rw [segments_run (literalRun_append_of_free free seam), place, found]
    refine congrArg Except.ok (joined_literalAt ?_ (isExpression_of_behind found)).symm
    rintro rfl
    rfl
  | @span position behind cs literal inside source after parts run found reach _ ih =>
    obtain ⟨split, -, -⟩ := literalRun_spec cs
    rw [run] at split
    have ends : after <:+ cs := by
      rw [split]
      exact ((body?_suffix found).trans ((List.suffix_cons _ _).trans (List.suffix_cons _ _))).trans
        (List.suffix_append _ _)
    have length := congrArg List.length split
    have shorter := length_body found
    simp only [List.length_append, List.length_cons] at length
    have place : position + cs.length = behind + after.length := by omega
    have place' : position + literal.length + 2 + ((inside ++ rest).length - (after ++ rest).length) =
        behind := by
      simp only [List.length_append]
      omega
    rw [place] at later
    rw [segments_opened (literalRun_append_of_opened run rest), body?_append found, Option.elim_some,
      place', ih (seam_of_suffix ends seam) later]
    exact congrArg Except.ok (joined_literalAt_expression rfl).symm

/-! ## Places -/

/-- A template that stands further behind has the same segments at later places. -/
theorem segments_moved (scanned : segments position cs = .ok first) (distance : Nat) :
    segments (position + distance) cs = .ok (first.map (moved distance)) := by
  have scans := scans_of_segments scanned
  clear scanned
  induction scans with
  | @free position cs free =>
    rw [segments_of_free free, literalAt, literalAt]
    split <;> rfl
  | @span position behind cs literal inside source after parts run found reach _ ih =>
    have place : position + distance + literal.length + 2 + (inside.length - after.length) =
        behind + distance := by
      omega
    rw [segments_opened run, found, Option.elim_some, place, ih, List.map_append, List.map_cons, moved,
      Nat.add_right_comm]
    refine congrArg Except.ok (congrArg (· ++ _) ?_)
    rw [literalAt, literalAt]
    split <;> rfl

/-- Templates that scan are scanned together, unless a brace ends the one and begins the other. -/
theorem scan_append {source other : String} (scanned : scan source = .ok first)
    (later : scan other = .ok second)
    (seam : ¬ (source.toList.getLast? = some '{' ∧ other.toList.head? = some '{')) :
    scan (source ++ other) = .ok (joined first (second.map (moved source.toList.length))) := by
  rw [scan_eq_ok_iff] at scanned later ⊢
  rw [String.toList_append]
  apply segments_append scanned (fun ending start => seam ⟨ending, start⟩)
  exact segments_moved later _

end IssueBoard.Template
