import IssueBoard.Proofs.Outcome
import IssueBoard.Proofs.Template.RoundTrip
import Mathlib.Logic.Relation

/-! # Scanning reads from left to right

A template is read from left to right. Outside of a span the leftmost opening braces open one; inside,
an escaped brace is passed as a pair, and the first other closing braces close the span. This reading is
stated over the places of the text alone. Scanning fails exactly where the reading comes to an opener
that is never closed, and otherwise takes the text apart into slices that put it together again.
-/

namespace IssueBoard.Template

/-! ## The reading -/

/-- Whether two characters stand side by side at a place of a text. -/
def PairAt (source : List Char) (place : Nat) (first second : Char) : Prop :=
  source[place]? = some first ∧ source[place + 1]? = some second

/-- The leftmost opening braces from a place on. -/
structure Opens (source : List Char) (place opener : Nat) : Prop where
  le : place ≤ opener
  braces : PairAt source opener '{' '{'
  leftmost : ∀ other, place ≤ other → other < opener → ¬ PairAt source other '{' '{'

/-- A step inside of a span: over an escaped brace, or over one character that closes nothing. -/
inductive Passes (source : List Char) : Nat → Nat → Prop
  | escaped {place : Nat} (pair : PairAt source place '\\' '}') : Passes source place (place + 2)
  | single {place : Nat} (within : place < source.length) (plain : ¬ PairAt source place '\\' '}')
      (unclosed : ¬ PairAt source place '}' '}') : Passes source place (place + 1)

/-- The closing braces of the span that opens at a place. -/
structure Closes (source : List Char) (opener closer : Nat) : Prop where
  span : Relation.ReflTransGen (Passes source) (opener + 2) closer
  braces : PairAt source closer '}' '}'

/-- The places that the reading comes to outside of a span: the start and the end of each span. -/
inductive Outside (source : List Char) : Nat → Prop
  | start : Outside source 0
  | behind {place opener closer : Nat} (before : Outside source place)
      (opens : Opens source place opener) (closes : Closes source opener closer) :
      Outside source (closer + 2)

/-- The openers of spans that the reading comes to. -/
def Opener (source : List Char) (opener : Nat) : Prop :=
  ∃ place, Outside source place ∧ Opens source place opener

/-- An opener that is never closed. -/
def Unclosed (source : List Char) (opener : Nat) : Prop :=
  Opener source opener ∧ ∀ closer, ¬ Closes source opener closer

/-- A text without the backslashes that stand directly before a closing brace. -/
def unescape : List Char → List Char
  | [] => []
  | c :: rest =>
    if c = '\\' ∧ rest.head? = some '}' then unescape rest else c :: unescape rest

section Places
variable {source : List Char} {place opener closer : Nat}

/-! ## Places and slices -/

theorem PairAt.lt_length {first second : Char} (pair : PairAt source place first second) :
    place + 1 < source.length :=
  (List.getElem?_eq_some_iff.mp pair.2).1

theorem PairAt.drop_eq {first second : Char} (pair : PairAt source place first second) :
    source.drop place = first :: second :: source.drop (place + 2) := by
  obtain ⟨here, next⟩ := pair
  obtain ⟨within, rfl⟩ := List.getElem?_eq_some_iff.mp here
  obtain ⟨within', rfl⟩ := List.getElem?_eq_some_iff.mp next
  rw [List.drop_eq_getElem_cons within, List.drop_eq_getElem_cons within']

theorem pairAt_of_drop {first second : Char} {rest : List Char}
    (split : source.drop place = first :: second :: rest) : PairAt source place first second := by
  constructor
  · rw [← Nat.add_zero place, ← List.getElem?_drop, split]
    rfl
  · rw [← List.getElem?_drop, split]
    rfl

theorem drop_of_drop_cons {c : Char} {rest : List Char} (split : source.drop place = c :: rest) :
    source.drop (place + 1) = rest := by
  rw [← List.drop_drop, split, List.drop_succ_cons, List.drop_zero]

theorem lt_length_of_drop_cons {c : Char} {rest : List Char} (split : source.drop place = c :: rest) :
    place < source.length := by
  by_contra beyond
  rw [List.drop_eq_nil_of_le (Nat.le_of_not_lt beyond)] at split
  cases split

/-- A text holds opening braces exactly where they stand at one of its places. -/
theorem exists_pairAt_iff_infix : (∃ place, PairAt source place '{' '{') ↔ ['{', '{'] <:+: source := by
  constructor
  · rintro ⟨place, pair⟩
    refine ⟨source.take place, source.drop (place + 2), ?_⟩
    rw [List.append_assoc, List.cons_append, List.cons_append, List.nil_append, ← pair.drop_eq,
      List.take_append_drop]
  · rintro ⟨before, after, rfl⟩
    refine ⟨before.length, pairAt_of_drop (?_ : _ = '{' :: '{' :: after)⟩
    rw [List.append_assoc, List.drop_left]
    rfl

theorem exists_opens (opener : Nat) (ahead : place ≤ opener) (pair : PairAt source opener '{' '{') :
    ∃ first, Opens source place first := by
  induction opener using Nat.strong_induction_on with
  | _ opener ih =>
    by_cases leftmost : ∀ other, place ≤ other → other < opener → ¬ PairAt source other '{' '{'
    · exact ⟨opener, ahead, pair, leftmost⟩
    · push Not at leftmost
      obtain ⟨other, from', before, earlier⟩ := leftmost
      exact ih other before from' earlier

theorem Passes.lt {next : Nat} (step : Passes source place next) : place < next := by
  cases step <;> omega

theorem le_of_passes {next : Nat} (span : Relation.ReflTransGen (Passes source) place next) :
    place ≤ next := by
  induction span with
  | refl => exact Nat.le_refl _
  | tail _ step ih => exact ih.trans step.lt.le

theorem Closes.lt (closes : Closes source opener closer) : opener + 1 < closer :=
  le_of_passes closes.span

theorem Closes.le_length (closes : Closes source opener closer) : closer + 2 ≤ source.length :=
  closes.braces.lt_length

theorem Outside.le_length (outside : Outside source place) : place ≤ source.length := by
  cases outside with
  | start => exact Nat.zero_le _
  | behind _ _ closes => exact closes.le_length

theorem extract_append_drop {lower upper : Nat} (ordered : lower ≤ upper) :
    source.extract lower upper ++ source.drop upper = source.drop lower := by
  conv_rhs => rw [← List.take_append_drop (upper - lower) (source.drop lower), List.drop_drop,
    Nat.add_sub_cancel' ordered]

theorem extract_append {middle upper : Nat} (lower : place ≤ middle) (ordered : middle ≤ upper) :
    source.extract place middle ++ source.extract middle upper = source.extract place upper := by
  have split : upper - place = middle - place + (upper - middle) := by omega
  rw [List.extract, List.extract, List.extract, split, List.take_add, List.drop_drop,
    Nat.add_sub_cancel' lower]

theorem extract_self : source.extract place place = [] := by
  rw [List.extract, Nat.sub_self, List.take_zero]

theorem extract_cons (within : place < source.length) {upper : Nat} (before : place < upper) :
    source.extract place upper = source[place] :: source.extract (place + 1) upper := by
  rw [List.extract, List.extract, List.drop_eq_getElem_cons within,
    show upper - place = upper - (place + 1) + 1 by omega, List.take_succ_cons]

theorem PairAt.extract_eq {first second : Char} (pair : PairAt source place first second) {upper : Nat}
    (before : place + 2 ≤ upper) :
    source.extract place upper = first :: second :: source.extract (place + 2) upper := by
  rw [List.extract, List.extract, pair.drop_eq, show upper - place = upper - (place + 2) + 1 + 1 by omega,
    List.take_succ_cons, List.take_succ_cons]

theorem getElem?_of_head?_extract {c : Char} {upper : Nat}
    (first : (source.extract place upper).head? = some c) : source[place]? = some c := by
  rw [List.extract, List.head?_take] at first
  split at first
  · cases first
  · rwa [List.head?_drop] at first

/-- Reading a template is by cases on what follows: no opener, an unclosed one, or a span behind which
the reading goes on. -/
@[elab_as_elim]
theorem reading_induction {motive : Nat → Prop}
    (free : ∀ place, (∀ opener, ¬ Opens source place opener) → motive place)
    (unclosed : ∀ place opener, Opens source place opener → (∀ closer, ¬ Closes source opener closer) →
      motive place)
    (closed : ∀ place opener closer, Opens source place opener → Closes source opener closer →
      motive (closer + 2) → motive place) (place : Nat) : motive place := by
  induction rest : source.length - place using Nat.strong_induction_on generalizing place with
  | _ rest ih =>
    by_cases opened : ∃ opener, Opens source place opener
    · obtain ⟨opener, opens⟩ := opened
      by_cases shut : ∃ closer, Closes source opener closer
      · obtain ⟨closer, closes⟩ := shut
        have := opens.le
        have := closes.lt
        have := closes.le_length
        exact closed place opener closer opens closes (ih _ (by omega) (closer + 2) rfl)
      · exact unclosed place opener opens (not_exists.mp shut)
    · exact free place (not_exists.mp opened)

/-! ## What the scanner does at a place -/

/-- Up to the leftmost opening braces the text is a literal. -/
theorem Opens.literalRun_eq (opens : Opens source place opener) :
    literalRun (source.drop place) = (source.extract place opener, source.drop opener) := by
  obtain ⟨distance, rfl⟩ := Nat.exists_eq_add_of_le opens.le
  induction distance generalizing place with
  | zero =>
    rw [Nat.add_zero] at opens ⊢
    rw [opens.braces.drop_eq, extract_self]
    rfl
  | succ distance ih =>
    have within : place < source.length := by
      have := opens.braces.lt_length
      omega
    have later : Opens source (place + 1) (place + 1 + distance) := by
      refine ⟨Nat.le_add_right _ _, ?_, fun other from' before => ?_⟩
      · rw [Nat.add_assoc, Nat.add_comm 1]
        exact opens.braces
      · exact opens.leftmost other (by omega) (by omega)
    have apart : ∀ rest, source[place] :: source.drop (place + 1) ≠ '{' :: '{' :: rest := by
      intro rest opened
      rw [← List.drop_eq_getElem_cons within] at opened
      exact opens.leftmost place (Nat.le_refl place) (by omega) (pairAt_of_drop opened)
    have reach : place + (distance + 1) = place + 1 + distance := by omega
    rw [reach, List.drop_eq_getElem_cons within, literalRun_cons apart, ih later,
      extract_cons within (by omega)]

theorem not_infix_of_not_opens (free : ∀ opener, ¬ Opens source place opener) :
    ¬ ['{', '{'] <:+: source.drop place := by
  intro opened
  obtain ⟨distance, pair⟩ := exists_pairAt_iff_infix.mpr opened
  have split := pair.drop_eq
  rw [List.drop_drop] at split
  obtain ⟨opener, opens⟩ := exists_opens _ (Nat.le_add_right place distance) (pairAt_of_drop split)
  exact free opener opens

/-- The literal before an opener holds no opening braces. -/
theorem Opens.not_infix (opens : Opens source place opener) :
    ¬ ['{', '{'] <:+: source.extract place opener := by
  have free := (literalRun_spec (source.drop place)).2.1
  rwa [opens.literalRun_eq] at free

theorem body?_cons {c : Char} {cs : List Char} (plain : ∀ rest, c :: cs ≠ '\\' :: '}' :: rest)
    (unclosed : ∀ rest, c :: cs ≠ '}' :: '}' :: rest) :
    body? (c :: cs) = (body? cs).map fun (source, after) => (c :: source, after) := by
  rw [body?.eq_def]
  split
  · next none => cases none
  · next rest escaped => exact absurd escaped (plain rest)
  · next rest closed => exact absurd closed (unclosed rest)
  · next first rest _ _ same =>
    obtain ⟨rfl, rfl⟩ := List.cons.inj same
    rfl

theorem unescape_cons {c : Char} {rest : List Char} (plain : c = '\\' → rest.head? ≠ some '}') :
    unescape (c :: rest) = c :: unescape rest := by
  rw [unescape, if_neg fun escaped => plain escaped.1 escaped.2]

/-- The body of a span is read up to its closing braces, without the backslashes of escaped braces. -/
theorem body?_of_passes (span : Relation.ReflTransGen (Passes source) place closer)
    (braces : PairAt source closer '}' '}') :
    body? (source.drop place) = some (unescape (source.extract place closer), source.drop (closer + 2)) := by
  -- The induction takes the first step of the span off, as the reader does.
  induction span using Relation.ReflTransGen.head_induction_on with
  | refl =>
    rw [braces.drop_eq, extract_self]
    rfl
  | @head place next step later ih =>
    have beyond := le_of_passes later
    cases step with
    | escaped pair =>
      rw [pair.drop_eq, pair.extract_eq beyond, body?, ih]
      rfl
    | single within plain unclosed =>
      rw [List.drop_eq_getElem_cons within, extract_cons within beyond, body?_cons, ih, unescape_cons]
      · rfl
      · intro backslash brace
        refine plain ⟨List.getElem?_eq_some_iff.mpr ⟨within, backslash⟩, ?_⟩
        exact getElem?_of_head?_extract brace
      · intro rest escaped
        rw [← List.drop_eq_getElem_cons within] at escaped
        exact plain (pairAt_of_drop escaped)
      · intro rest closed
        rw [← List.drop_eq_getElem_cons within] at closed
        exact unclosed (pairAt_of_drop closed)

theorem Closes.body?_eq (closes : Closes source opener closer) :
    body? (source.drop (opener + 2)) =
      some (unescape (source.extract (opener + 2) closer), source.drop (closer + 2)) :=
  body?_of_passes closes.span closes.braces

/-- A body that is read ends at closing braces that the reading comes to. -/
theorem exists_passes_of_body? {body after : List Char}
    (read : body? (source.drop place) = some (body, after)) :
    ∃ closer, Relation.ReflTransGen (Passes source) place closer ∧ PairAt source closer '}' '}' := by
  generalize split : source.drop place = cs at read
  fun_induction body? cs generalizing place body with
  | case1 => cases read
  | case2 rest ih =>
    obtain ⟨⟨inner, after'⟩, found, same⟩ := Option.map_eq_some_iff.mp read
    obtain ⟨-, rfl⟩ := Prod.mk.inj same
    have pair := pairAt_of_drop split
    rw [pair.drop_eq] at split
    obtain ⟨-, split⟩ := List.cons.inj split
    obtain ⟨closer, span, braces⟩ := ih (List.cons.inj split).2 found
    exact ⟨closer, span.head (.escaped pair), braces⟩
  | case3 rest => exact ⟨place, .refl, pairAt_of_drop split⟩
  | case4 c rest plain unclosed ih =>
    obtain ⟨⟨inner, after'⟩, found, same⟩ := Option.map_eq_some_iff.mp read
    obtain ⟨-, rfl⟩ := Prod.mk.inj same
    have step : Passes source place (place + 1) := by
      refine .single (lt_length_of_drop_cons split) (fun escaped => ?_) (fun closed => ?_)
      · obtain ⟨first, second⟩ := List.cons.inj (split.symm.trans escaped.drop_eq)
        exact plain _ first second
      · obtain ⟨first, second⟩ := List.cons.inj (split.symm.trans closed.drop_eq)
        exact unclosed _ first second
    obtain ⟨closer, span, braces⟩ := ih (drop_of_drop_cons split) found
    exact ⟨closer, span.head step, braces⟩

theorem body?_eq_none (endless : ∀ closer, ¬ Closes source opener closer) :
    body? (source.drop (opener + 2)) = none := by
  cases read : body? (source.drop (opener + 2)) with
  | none => rfl
  | some found =>
    obtain ⟨closer, span, braces⟩ := exists_passes_of_body? read
    exact absurd ⟨span, braces⟩ (endless closer)

theorem segments_free (free : ∀ opener, ¬ Opens source place opener) :
    segments place (source.drop place) = .ok (literalAt place (source.drop place)) :=
  segments_of_free (not_infix_of_not_opens free) place

theorem length_extract {upper : Nat} (ordered : place ≤ upper) (within : upper ≤ source.length) :
    place + (source.extract place upper).length = upper := by
  rw [List.extract, List.length_take, List.length_drop]
  omega

theorem Opens.run (opens : Opens source place opener) : literalRun (source.drop place) =
    (source.extract place opener, '{' :: '{' :: source.drop (opener + 2)) := by
  rw [opens.literalRun_eq, opens.braces.drop_eq]

theorem Opens.length_literal (opens : Opens source place opener) :
    place + (source.extract place opener).length = opener :=
  length_extract opens.le (Nat.le_of_succ_le opens.braces.lt_length.le)

theorem segments_unclosed (opens : Opens source place opener)
    (endless : ∀ closer, ¬ Closes source opener closer) :
    segments place (source.drop place) = .error opener := by
  rw [segments_opened opens.run, body?_eq_none endless, Option.elim_none, opens.length_literal]

theorem segments_closed (opens : Opens source place opener) (closes : Closes source opener closer) :
    segments place (source.drop place) =
      (segments (closer + 2) (source.drop (closer + 2))).map fun after =>
        literalAt place (source.extract place opener) ++
          ⟨String.ofList (unescape (source.extract (opener + 2) closer)), true, opener⟩ :: after := by
  have behind : opener + 2 + ((source.drop (opener + 2)).length - (source.drop (closer + 2)).length) =
      closer + 2 := by
    have := closes.lt
    have := closes.le_length
    rw [List.length_drop, List.length_drop]
    omega
  rw [segments_opened opens.run, closes.body?_eq, Option.elim_some, opens.length_literal, behind]

/-! ## Failure -/

/-- From every place that the reading comes to, scanning fails as it does from the start. -/
theorem segments_outside (outside : Outside source place) (missing : Nat) :
    segments 0 source = .error missing ↔ segments place (source.drop place) = .error missing := by
  induction outside with
  | start => rfl
  | behind _ opens closes ih =>
    rw [ih, segments_closed opens closes]
    exact map_eq_error_iff

theorem unclosed_of_segments {missing : Nat} (outside : Outside source place)
    (failed : segments place (source.drop place) = .error missing) : Unclosed source missing := by
  induction place using @reading_induction source with
  | free place free =>
    rw [segments_free free] at failed
    cases failed
  | unclosed place opener opens endless =>
    rw [segments_unclosed opens endless] at failed
    cases failed
    exact ⟨⟨place, outside, opens⟩, endless⟩
  | closed place opener closer opens closes ih =>
    rw [segments_closed opens closes] at failed
    exact ih (.behind outside opens closes) (map_eq_error_iff.mp failed)

theorem segments_eq_error_iff {missing : Nat} :
    segments 0 source = .error missing ↔ Unclosed source missing := by
  constructor
  · exact unclosed_of_segments .start
  · rintro ⟨⟨place, outside, opens⟩, endless⟩
    exact (segments_outside outside missing).mpr (segments_unclosed opens endless)

/-! ## The text before an unclosed opener -/

section Prefix
variable {bound : Nat}

theorem getElem?_of_take {c : Char} (found : (source.take bound)[place]? = some c) :
    source[place]? = some c := by
  rw [List.getElem?_take] at found
  split at found
  · exact found
  · cases found

theorem PairAt.of_take {first second : Char} (pair : PairAt (source.take bound) place first second) :
    PairAt source place first second :=
  ⟨getElem?_of_take pair.1, getElem?_of_take pair.2⟩

theorem PairAt.take {first second : Char} (pair : PairAt source place first second)
    (within : place + 2 ≤ bound) : PairAt (source.take bound) place first second := by
  constructor
  · rw [List.getElem?_take, if_pos (by omega)]
    exact pair.1
  · rw [List.getElem?_take, if_pos (by omega)]
    exact pair.2

theorem Opens.take (opens : Opens source place opener) (within : opener + 2 ≤ bound) :
    Opens (source.take bound) place opener where
  le := opens.le
  braces := opens.braces.take within
  leftmost other from' before pair := opens.leftmost other from' before pair.of_take

theorem Passes.take {next : Nat} (step : Passes source place next) (within : next ≤ bound) :
    Passes (source.take bound) place next := by
  cases step with
  | escaped pair => exact .escaped (pair.take within)
  | single inside plain unclosed =>
    refine .single ?_ (fun pair => plain pair.of_take) (fun pair => unclosed pair.of_take)
    rw [List.length_take]
    omega

theorem Closes.take (closes : Closes source opener closer) (within : closer + 2 ≤ bound) :
    Closes (source.take bound) opener closer := by
  obtain ⟨span, braces⟩ := closes
  refine ⟨?_, braces.take within⟩
  replace within : closer ≤ bound := by omega
  clear braces
  induction span with
  | refl => exact .refl
  | tail _ step ih => exact (ih (step.lt.le.trans within)).tail (step.take within)

theorem Outside.take (outside : Outside source place) (within : place ≤ bound) :
    Outside (source.take bound) place := by
  induction outside with
  | start => exact .start
  | behind _ opens closes ih =>
    have := opens.le
    have := closes.lt
    exact .behind (ih (by omega)) (opens.take (by omega)) (closes.take within)

end Prefix

/-- Nothing before an unclosed opener fails. -/
theorem Unclosed.segments_take (unclosed : Unclosed source opener) :
    ∃ parts, segments 0 (source.take opener) = .ok parts := by
  obtain ⟨⟨place, outside, opens⟩, -⟩ := unclosed
  -- The reading of the shorter text comes to the same place, and finds no opener behind it.
  have free : ∀ other, ¬ Opens (source.take opener) place other := by
    intro other earlier
    have within := earlier.braces.lt_length
    rw [List.length_take] at within
    exact opens.leftmost other earlier.le (by omega) earlier.braces.of_take
  cases scanned : segments 0 (source.take opener) with
  | ok parts => exact ⟨parts, rfl⟩
  | error missing =>
    rw [segments_outside (outside.take opens.le), segments_free free] at scanned
    cases scanned

/-! ## Success -/

/-- Where the segment before these ends: at the first of them, or at the end of the text. -/
def upTo (source : List Char) : List Segment → Nat
  | [] => source.length
  | next :: _ => next.position

/-- The slices of a text that segments stand for, each from its position to the next. -/
def slices (source : List Char) : List Segment → List (List Char)
  | [] => []
  | part :: rest => source.extract part.position (upTo source rest) :: slices source rest

/-- What a segment makes of its slice of a text. A literal is the slice itself; an expression is the body
of the span that the slice is, without the backslashes before closing braces. -/
structure Holds (source : List Char) (part : Segment) (slice : List Char) : Prop where
  literal : part.isExpression = false → part.text.toList = slice ∧ ¬ ['{', '{'] <:+: slice
  expression : part.isExpression = true → Opener source part.position ∧
    ∃ body, slice = ['{', '{'] ++ body ++ ['}', '}'] ∧ part.text.toList = unescape body ∧
      Closes source part.position (part.position + 2 + body.length)

/-- Segments that take a text apart from a place on. -/
structure CoversFrom (source : List Char) (place : Nat) (parts : List Segment) : Prop where
  starts : upTo source parts = place
  increasing : (parts.map (·.position)).Pairwise (· < ·)
  whole : (slices source parts).flatten = source.drop place
  holds : List.Forall₂ (Holds source) parts (slices source parts)

theorem coversFrom_nil : CoversFrom source source.length [] where
  starts := rfl
  increasing := .nil
  whole := List.drop_length.symm
  holds := .nil

theorem CoversFrom.cons {part : Segment} {rest : List Segment} {stop : Nat}
    (covers : CoversFrom source stop rest) (before : part.position < stop)
    (holds : Holds source part (source.extract part.position stop)) :
    CoversFrom source part.position (part :: rest) where
  starts := rfl
  increasing := by
    obtain ⟨starts, increasing, -, -⟩ := covers
    refine List.pairwise_cons.mpr ⟨?_, increasing⟩
    cases rest with
    | nil => exact List.forall_mem_nil _
    | cons next rest =>
      obtain rfl : next.position = stop := starts
      have later := (List.pairwise_cons.mp increasing).1
      exact List.forall_mem_cons.mpr ⟨before, fun other member => before.trans (later other member)⟩
  whole := by
    rw [slices, covers.starts, List.flatten_cons, covers.whole, extract_append_drop before.le]
  holds := by
    rw [slices, covers.starts]
    exact .cons holds covers.holds

theorem CoversFrom.literalAt {rest : List Segment} {stop : Nat} (covers : CoversFrom source stop rest)
    (ordered : place ≤ stop) (within : stop ≤ source.length)
    (free : ¬ ['{', '{'] <:+: source.extract place stop) :
    CoversFrom source place (literalAt place (source.extract place stop) ++ rest) := by
  have reach := length_extract ordered within
  rw [Template.literalAt]
  split
  · next empty =>
    rw [List.isEmpty_iff.mp empty, List.length_nil, Nat.add_zero] at reach
    rwa [List.nil_append, reach]
  · next nonempty =>
    rw [List.isEmpty_iff, ← List.length_eq_zero_iff] at nonempty
    have ahead : place < stop := by omega
    have holds : Holds source ⟨String.ofList (source.extract place stop), false, place⟩
        (source.extract place stop) :=
      ⟨fun _ => ⟨String.toList_ofList, free⟩, fun never => by cases never⟩
    exact covers.cons ahead holds

theorem Opens.holds (outside : Outside source place) (opens : Opens source place opener)
    (closes : Closes source opener closer) :
    Holds source ⟨String.ofList (unescape (source.extract (opener + 2) closer)), true, opener⟩
      (source.extract opener (closer + 2)) where
  literal never := by cases never
  expression _ := by
    have ahead := closes.lt
    have ended := closes.le_length
    refine ⟨⟨place, outside, opens⟩, source.extract (opener + 2) closer, ?_, String.toList_ofList, ?_⟩
    · rw [opens.braces.extract_eq (by omega), ← extract_append ahead (Nat.le_add_right closer 2),
        closes.braces.extract_eq (Nat.le_refl _), extract_self]
      rfl
    · rwa [length_extract ahead (by omega)]

/-- What is scanned takes the text apart. -/
theorem coversFrom_segments {parts : List Segment} (outside : Outside source place)
    (scanned : segments place (source.drop place) = .ok parts) : CoversFrom source place parts := by
  induction place using @reading_induction source generalizing parts with
  | free place free =>
    rw [segments_free free] at scanned
    cases scanned
    have whole : source.extract place source.length = source.drop place := by
      rw [List.extract, ← List.length_drop, List.take_length]
    have covers := coversFrom_nil.literalAt outside.le_length (Nat.le_refl _)
      (whole ▸ not_infix_of_not_opens free)
    rwa [whole, List.append_nil] at covers
  | unclosed place opener opens endless =>
    rw [segments_unclosed opens endless] at scanned
    cases scanned
  | closed place opener closer opens closes ih =>
    rw [segments_closed opens closes] at scanned
    obtain ⟨after, later, rfl⟩ := map_eq_ok_iff.mp scanned
    have ended := closes.le_length
    have ahead : opener < closer + 2 := by
      have := closes.lt
      omega
    have span : CoversFrom source opener _ :=
      (ih (.behind outside opens closes) later).cons ahead (opens.holds outside closes)
    exact span.literalAt opens.le (ahead.le.trans ended) opens.not_infix

/-! ## The quick test -/

theorem isExpression_of_mem_literalAt {literal : List Char} {part : Segment}
    (member : part ∈ literalAt place literal) : part.isExpression = false := by
  rw [literalAt] at member
  split at member
  · cases member
  · rw [List.mem_singleton.mp member]

/-- Where there is an opener, scanning does not succeed without an expression. -/
theorem Opens.exists_expression {parts : List Segment} (opens : Opens source place opener)
    (scanned : segments place (source.drop place) = .ok parts) :
    ∃ part ∈ parts, part.isExpression = true := by
  by_cases shut : ∃ closer, Closes source opener closer
  · obtain ⟨closer, closes⟩ := shut
    rw [segments_closed opens closes] at scanned
    obtain ⟨after, -, rfl⟩ := map_eq_ok_iff.mp scanned
    exact ⟨_, List.mem_append_right _ (List.mem_cons_self ..), rfl⟩
  · rw [segments_unclosed opens (not_exists.mp shut)] at scanned
    cases scanned

theorem hasOpening_iff_segments : hasOpening source = true ↔
    (∃ missing, segments 0 source = .error missing) ∨
      ∃ parts, segments 0 source = .ok parts ∧ ∃ part ∈ parts, part.isExpression = true := by
  rw [hasOpening_iff]
  constructor
  · intro opened
    obtain ⟨opener, pair⟩ := exists_pairAt_iff_infix.mpr opened
    obtain ⟨first, opens⟩ := exists_opens opener (Nat.zero_le opener) pair
    cases scanned : segments 0 source with
    | error missing => exact .inl ⟨missing, rfl⟩
    | ok parts => exact .inr ⟨parts, rfl, opens.exists_expression scanned⟩
  · intro outcome
    by_contra free
    rw [segments_of_free free] at outcome
    obtain ⟨missing, never⟩ | ⟨parts, scanned, part, member, expression⟩ := outcome
    · cases never
    · cases scanned
      rw [isExpression_of_mem_literalAt member] at expression
      cases expression

end Places

/-! ## Exact scanning -/

theorem scan_eq_error_iff {source : String} {error : GrammarError} : scan source = .error error ↔
    ∃ opener, Unclosed source.toList opener ∧
      error = { cause := .unterminatedExpression, position := some opener, source } := by
  rw [scan, mapError_eq_error_iff]
  exact exists_congr fun opener => and_congr segments_eq_error_iff eq_comm

theorem scan_eq_ok_iff {source : String} {parts : List Segment} :
    scan source = .ok parts ↔ segments 0 source.toList = .ok parts := mapError_eq_ok_iff

/-- Scanning fails exactly where reading from left to right comes to an opener that is never closed, with
that opener as the position; the text before it is scanned, and the message quotes the rest. Otherwise the
segments start at the start of the text, each behind the one before it, and their slices are the text:
literals as they stand, expressions between braces and without the backslashes before closing braces. The
quick test for expressions tells whether scanning fails or gives an expression. -/
theorem scan_exact (source : String) :
    (∀ error, scan source = .error error ↔ ∃ opener, Unclosed source.toList opener ∧
      error = { cause := .unterminatedExpression, position := some opener, source }) ∧
    (∀ error opener, scan source = .error error → error.position = some opener →
      (∃ parts, scan (String.ofList (source.toList.take opener)) = .ok parts) ∧
      error.message =
        "unterminated expression, got '" ++ String.ofList (source.toList.drop opener) ++ "'") ∧
    (∀ parts, scan source = .ok parts →
      (source ≠ "" → parts.head?.map (·.position) = some 0) ∧
      (parts.map (·.position)).Pairwise (· < ·) ∧
      (slices source.toList parts).flatten = source.toList ∧
      List.Forall₂ (Holds source.toList) parts (slices source.toList parts)) ∧
    (hasExpressions source = true ↔ (∃ error, scan source = .error error) ∨
      ∃ parts, scan source = .ok parts ∧ ∃ part ∈ parts, part.isExpression = true) := by
  refine ⟨fun error => scan_eq_error_iff, ?_, ?_, ?_⟩
  · intro error opener failed place
    obtain ⟨opener', unclosed, rfl⟩ := scan_eq_error_iff.mp failed
    cases place
    obtain ⟨parts, scanned⟩ := unclosed.segments_take
    refine ⟨⟨parts, ?_⟩, rfl⟩
    rw [scan_eq_ok_iff, String.toList_ofList]
    exact scanned
  · intro parts scanned
    obtain ⟨starts, increasing, whole, holds⟩ :=
      coversFrom_segments .start (scan_eq_ok_iff.mp scanned)
    refine ⟨fun nonempty => ?_, increasing, whole, holds⟩
    cases parts with
    | nil => exact absurd (String.toList_eq_nil_iff.mp (List.length_eq_zero_iff.mp starts)) nonempty
    | cons first rest => exact congrArg some starts
  · rw [hasExpressions, hasOpening_iff_segments]
    simp only [scan_eq_ok_iff, scan_eq_error_iff, segments_eq_error_iff]
    refine or_congr_left ⟨?_, ?_⟩
    · rintro ⟨missing, unclosed⟩
      exact ⟨_, missing, unclosed, rfl⟩
    · rintro ⟨error, missing, unclosed, -⟩
      exact ⟨missing, unclosed⟩

/-- An escaped brace before the closing braces of a span, and a second span that is never closed. -/
theorem scan_exact_escapedBrace :
    (∃ parts, scan "a\x7b\x7bb\\\x7d\x7d\x7d" = .ok parts ∧
      (slices "a\x7b\x7bb\\\x7d\x7d\x7d".toList parts).flatten = "a\x7b\x7bb\\\x7d\x7d\x7d".toList) ∧
    ∃ error, scan "a\x7b\x7bb\\\x7d\x7d\x7d\x7b\x7bc" = .error error ∧ error.position = some 8 ∧
      error.message = "unterminated expression, got '\x7b\x7bc'" := by
  have scanned : scan "a\x7b\x7bb\\\x7d\x7d\x7d" = .ok [⟨"a", false, 0⟩, ⟨"b\x7d", true, 1⟩] := by
    decide +kernel
  have failed : scan "a\x7b\x7bb\\\x7d\x7d\x7d\x7b\x7bc" =
      .error ⟨.unterminatedExpression, some 8, "a\x7b\x7bb\\\x7d\x7d\x7d\x7b\x7bc"⟩ := by
    decide +kernel
  constructor
  · exact ⟨_, scanned, ((scan_exact _).2.2.1 _ scanned).2.2.1⟩
  · refine ⟨_, failed, rfl, ((scan_exact _).2.1 _ _ failed rfl).2.trans ?_⟩
    decide +kernel

end IssueBoard.Template
