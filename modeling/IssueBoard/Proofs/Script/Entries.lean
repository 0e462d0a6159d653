import IssueBoard.Proofs.Script.Indenting

/-! # Entries of indented sources

An indented source has the lines and tokens of the source, in other columns.
-/

namespace IssueBoard.Script

/-! ## Blanks at the start of a line -/

section

variable {column : Column} {held : Nat}

/-- Whether a character is a blank between tokens. -/
def isSpacing (c : Char) : Bool := c == ' ' || c == '\t' || c == '\x0c'

theorem isSpacing_iff {c : Char} : isSpacing c = true ↔ c = ' ' ∨ c = '\t' ∨ c = '\x0c' := by
  simp only [isSpacing, Bool.or_eq_true, beq_iff_eq, or_assoc]

theorem indentation_blanks {blanks : List Char} (spacing : ∀ c ∈ blanks, isSpacing c = true)
    (cs : List Char) :
    ∃ column', reads (indentation column held) (blanks ++ cs) = reads (indentation column' held) cs := by
  induction blanks generalizing column with
  | nil => exact ⟨column, rfl⟩
  | cons c blanks ih =>
    obtain ⟨here, others⟩ := List.forall_mem_cons.mp spacing
    rw [List.cons_append]
    rcases isSpacing_iff.mp here with rfl | rfl | rfl
    · rw [indentation_space]
      exact ih others
    · rw [indentation_tab]
      exact ih others
    · rw [indentation_page]
      exact ih others

theorem isSpacing_replicate (m : Nat) : ∀ c ∈ List.replicate m ' ', isSpacing c = true := by
  intro c mem
  rw [List.eq_of_mem_replicate mem]
  rfl

/-- Behind its blanks, a line of an indented source is that of the source. -/
theorem indentation_indented (k : Nat) (cs : List Char) (column column' : Column) (held held' : Nat) :
    Option.Rel (fun found found' => found'.2 = indented k false found.2)
      (reads (indentation column held) cs) (reads (indentation column' held') (indented k false cs)) := by
  rcases cs with _ | ⟨c, rest⟩
  · exact .some rfl
  by_cases space : c = ' '
  · subst space
    rw [indented_cons k (by decide), indentation_space, indentation_space]
    exact indentation_indented k rest ..
  by_cases tab : c = '\t'
  · subst tab
    rw [indented_cons k (by decide), indentation_tab, indentation_tab]
    exact indentation_indented k rest ..
  by_cases page : c = '\x0c'
  · subst page
    rw [indented_cons k (by decide), indentation_page, indentation_page]
    exact indentation_indented k rest ..
  by_cases joined : c = '\\' ∧ rest.head? = some '\n'
  · obtain ⟨rfl, feed⟩ := joined
    obtain ⟨rest, rfl⟩ := List.head?_eq_some_iff.mp feed
    rw [indented_cons k (by decide), indented_feed, indentation_joined, indentation_joined, isEmpty_indented]
    split
    · exact .none
    · obtain ⟨m, -, same⟩ := exists_indented_true k rest
      obtain ⟨column', spaces⟩ := indentation_blanks (isSpacing_replicate m) (indented k false rest)
      rw [same, spaces]
      exact indentation_indented k rest ..
  have alone : c ≠ '\\' ∨ rest.head? ≠ some '\n' := by rwa [not_and_or] at joined
  rw [indentation_other space tab page alone]
  cases feed : isFeed c with
  | true =>
    cases isFeed_iff.mp feed
    rw [indented_feed, indentation_other space tab page (.inl (by decide))]
    exact .some rfl
  | false =>
    rw [indented_cons k feed, indentation_other space tab page (by rwa [head_indented])]
    exact .some (indented_cons k feed rest).symm
termination_by cs.length

end

/-! ## Entries -/

/-- The blanks at the start of a line of an indented source. -/
def padded (k : Nat) (blanks : List Char) : List Char := List.replicate k ' ' ++ spread k blanks

theorem indented_blanks (k : Nat) (blanks : List Char) {rest : List Char} (filled : rest ≠ []) :
    indented k false (blanks ++ rest) = spread k blanks ++ indented k false rest := by
  induction blanks with
  | nil => rfl
  | cons c blanks ih =>
    rw [List.cons_append]
    cases feed : isFeed c with
    | true =>
      cases isFeed_iff.mp feed
      rw [indented_feed, indented_true k (by simp [filled]), ih, spread_feed]
      simp
    | false => rw [indented_cons k feed, ih, spread_cons k feed, List.cons_append]

/-- Whether an entry of an indented source is that of the source. A text over several lines may be another
one. -/
inductive Entry.Shifted (k : Nat) : Entry → Entry → Prop
  | line (blanks : List Char) : Shifted k (.line blanks) (.line (padded k blanks))
  | token (t : Token) (spelling spelling' : List Char) : Shifted k (.token t spelling) (.token t spelling')
  | text (s s' : String) {spelling : List Char} (spelling' : List Char) (broken : '\n' ∈ spelling) :
    Shifted k (.token (.text s) spelling) (.token (.text s') spelling')

/-- Whether the entries of an indented source are those of the source. -/
abbrev AllShifted (k : Nat) (entries entries' : Option (List Entry)) : Prop :=
  Option.Rel (List.Forall₂ (Entry.Shifted k)) entries entries'

theorem AllShifted.cons {k : Nat} {entries entries' : Option (List Entry)} {entry entry' : Entry}
    (first : entry.Shifted k entry') (others : AllShifted k entries entries') :
    AllShifted k (entries.map (entry :: ·)) (entries'.map (entry' :: ·)) := by
  cases others with
  | none => exact .none
  | some others => exact .some (.cons first others)

theorem entriesFrom_spaces (brackets : List Mark) (m : Nat) (cs : List Char) :
    entriesFrom false brackets (List.replicate m ' ' ++ cs) = entriesFrom false brackets cs := by
  induction m with
  | zero => rfl
  | succ m ih => rw [List.replicate_succ, List.cons_append, entriesFrom_blank _ _ (.inl rfl), ih]

theorem isTail_of_nil {cs : List Char} (none : cs = []) : IsTail isFeed cs := by
  rw [none]
  exact nofun

theorem isTail_toLineEnd (cs : List Char) : IsTail isFeed (toLineEnd cs).1 := by
  intro c first
  have stop := List.head?_dropWhile_not (· != '\n') cs
  rw [show (cs.dropWhile (· != '\n')).head? = some c from first] at stop
  simpa [isFeed] using stop

theorem toLineEnd_indented (k : Nat) (cs : List Char) :
    (toLineEnd (indented k false cs)).1 = indented k false (toLineEnd cs).1 := by
  have left := read_indented k (fun tail ends => stays_readRun (p := (· != '\n')) rfl ends) cs
  simp only [readRun, Option.map_some, Option.some.injEq, Prod.mk.injEq] at left
  exact left.2

/-- A token of an indented source is that of the source, and so is what stands behind it. -/
theorem entriesFrom_indented_token {k : Nat} {brackets : List Mark} {c : Char} {rest : List Char}
    (feed : isFeed c = false) (hash : c ≠ '#') (joined : c ≠ '\\' ∨ rest.head? ≠ some '\n')
    (blank : ¬(c = ' ' ∨ c = '\t' ∨ c = '\x0c'))
    (behind : ∀ brackets after, after.length < (c :: rest).length →
      AllShifted k (entriesFrom false brackets after) (entriesFrom false brackets (indented k false after))) :
    AllShifted k (entriesFrom false brackets (c :: rest))
      (entriesFrom false brackets (indented k false (c :: rest))) := by
  simp only [not_or] at blank
  have newline : c ≠ '\n' := by simpa [isFeed] using feed
  rw [indented_cons k feed,
    entriesFrom_token brackets rest newline hash joined blank.1 blank.2.1 blank.2.2,
    entriesFrom_token brackets (indented k false rest) newline hash (by rwa [head_indented]) blank.1 blank.2.1
      blank.2.2]
  have same := reread_token k c feed rest
  generalize reads token? (c :: indented k false rest) = found' at same ⊢
  cases found : reads token? (c :: rest) with
  | none =>
    rw [found] at same
    cases same
    exact .none
  | some first =>
    rw [found] at same
    obtain ⟨t, after⟩ := first
    have shorter : after.length < (c :: rest).length := reads_eq_some found
    cases same with
    | @some _ first' same =>
    obtain ⟨t', after'⟩ := first'
    obtain ⟨left, used, whole, same⟩ := same
    dsimp only at left whole same
    subst left
    have nested : nestToken t' brackets = nestToken t brackets := by
      obtain rfl | ⟨⟨s, s', rfl, rfl⟩, -⟩ := same <;> rfl
    simp only [Option.bind_some, whole, take_blanks, nested]
    cases nestToken t brackets with
    | none => exact .none
    | some brackets =>
      refine (behind brackets after shorter).cons ?_
      obtain rfl | ⟨⟨s, s', rfl, rfl⟩, broken⟩ := same
      · exact .token _ _ _
      · exact .text _ _ _ broken

/-- A line of an indented source is that of the source behind more blanks, and so is what stands below. -/
theorem entriesFrom_indented_line {k m : Nat} {brackets : List Mark} {cs : List Char}
    (start : m = k ∨ IsTail isFeed cs)
    (below : ∀ m rest, rest.length < cs.length → m = k ∨ IsTail isFeed rest →
      AllShifted k (entriesFrom true brackets rest)
        (entriesFrom true brackets (List.replicate m ' ' ++ indented k false rest)))
    (code : ∀ rest, rest.length ≤ cs.length →
      AllShifted k (entriesFrom false brackets rest) (entriesFrom false brackets (indented k false rest))) :
    AllShifted k (entriesFrom true brackets cs)
      (entriesFrom true brackets (List.replicate m ' ' ++ indented k false cs)) := by
  obtain ⟨column, spaces⟩ : ∃ column,
      reads (indentation ⟨0, 0⟩ 0) (List.replicate m ' ' ++ indented k false cs) =
        reads (indentation column 0) (indented k false cs) := indentation_blanks (isSpacing_replicate m) _
  have same := indentation_indented k cs ⟨0, 0⟩ column 0 0
  rw [← spaces] at same
  rw [entriesFrom_true, entriesFrom_true]
  generalize reads (indentation ⟨0, 0⟩ 0) (List.replicate m ' ' ++ indented k false cs) = found' at same ⊢
  cases found : reads (indentation ⟨0, 0⟩ 0) cs with
  | none =>
    rw [found] at same
    cases same
    exact .none
  | some line =>
    rw [found] at same
    obtain ⟨column, rest⟩ := line
    have within : rest.length ≤ cs.length := reads_eq_some found
    obtain ⟨blanks, whole, -, -⟩ := indentation_eq_some cs _ _ found
    cases same with
    | @some _ line' same =>
    obtain ⟨column', rest'⟩ := line'
    cases same
    simp only [Option.bind_some]
    rcases rest with _ | ⟨c, rest⟩
    · exact .some .nil
    cases feed : isFeed c with
    | true =>
      cases isFeed_iff.mp feed
      obtain ⟨m, width, same⟩ := exists_indented_true k rest
      rw [indented_feed, same]
      exact below m rest within (width.imp_right isTail_of_nil)
    | false =>
      rw [indented_cons k feed]
      by_cases hash : c = '#'
      -- Behind a comment comes the end of its line, where it plays no role that no spaces were put.
      · subst hash
        have same := below 0 (toLineEnd rest).1 (Nat.lt_of_le_of_lt (toLineEnd rest).2 within)
          (.inr (isTail_toLineEnd rest))
        rwa [List.replicate_zero, List.nil_append, ← toLineEnd_indented] at same
      · have other (cs blanks : List Char) : entriesBehind brackets blanks (c :: cs) =
            (entriesFrom false brackets (c :: cs)).map (.line blanks :: ·) := by
          rw [entriesBehind]
          · rintro rfl
            cases feed
          · exact hash
        have width : m = k := by
          rcases start with same | ends
          · exact same
          rcases nil_or_feed ends with none | ⟨more, feeds⟩
          · rw [none] at within
            cases within
          · rw [feeds, indentation_other (by decide) (by decide) (by decide) (.inl (by decide))] at found
            cases found
            cases feed
        rw [other, other, ← indented_cons k feed, whole, take_blanks,
          indented_blanks k blanks (List.cons_ne_nil c rest), ← List.append_assoc, take_blanks, width]
        exact (code (c :: rest) within).cons (.line blanks)

/-- The entries of an indented source are those of the source. -/
theorem entriesFrom_indented (k : Nat) (lineStart : Bool) (brackets : List Mark) (m : Nat) (cs : List Char) :
    (lineStart = true → m = k ∨ IsTail isFeed cs) → AllShifted k (entriesFrom lineStart brackets cs)
      (entriesFrom lineStart brackets (List.replicate m ' ' ++ indented k false cs)) := by
  cases lineStart with
  | true =>
    intro start
    exact entriesFrom_indented_line (start rfl)
      (fun m rest _ start => entriesFrom_indented k true brackets m rest fun _ => start)
      (fun rest _ => entriesFrom_indented k false brackets 0 rest nofun)
  | false =>
    rintro -
    rw [entriesFrom_spaces]
    rcases cs with _ | ⟨c, rest⟩
    · rw [indented, entriesFrom_nil]
      split
      · exact .some .nil
      · exact .none
    cases feed : isFeed c with
    | true =>
      cases isFeed_iff.mp feed
      obtain ⟨m, width, same⟩ := exists_indented_true k rest
      rw [indented_feed, entriesFrom_newline, entriesFrom_newline, same]
      split
      · exact (entriesFrom_indented k true brackets m rest fun _ => width.imp_right isTail_of_nil).cons
          (.token _ _ _)
      · exact entriesFrom_indented k false brackets m rest nofun
    | false =>
      by_cases hash : c = '#'
      · subst hash
        rw [indented_cons k feed, entriesFrom_comment, entriesFrom_comment, toLineEnd_indented]
        have shorter := (toLineEnd rest).2
        exact entriesFrom_indented k false brackets 0 (toLineEnd rest).1 nofun
      by_cases joined : c = '\\' ∧ rest.head? = some '\n'
      · obtain ⟨rfl, newline⟩ := joined
        obtain ⟨rest, rfl⟩ := List.head?_eq_some_iff.mp newline
        rw [indented_cons k feed, indented_feed, entriesFrom_joined, entriesFrom_joined, isEmpty_indented]
        obtain ⟨m, -, same⟩ := exists_indented_true k rest
        split
        · exact .none
        · rw [same]
          exact entriesFrom_indented k false brackets m rest nofun
      by_cases blank : c = ' ' ∨ c = '\t' ∨ c = '\x0c'
      · rw [indented_cons k feed, entriesFrom_blank _ _ blank, entriesFrom_blank _ _ blank]
        exact entriesFrom_indented k false brackets 0 rest nofun
      rw [not_and_or] at joined
      exact entriesFrom_indented_token feed hash joined blank
        fun brackets after _ => entriesFrom_indented k false brackets 0 after nofun
termination_by 2 * cs.length + lineStart.toNat
decreasing_by
  all_goals subst_vars
  all_goals simp only [List.length_cons, Bool.toNat_true, Bool.toNat_false] at *
  all_goals omega

/-- No entry is a change of the indentation. -/
theorem entriesFrom_plain {lineStart : Bool} {brackets : List Mark} {cs : List Char} {entries : List Entry}
    (found : entriesFrom lineStart brackets cs = some entries) : ∀ entry ∈ entries, entry.IsPlain := by
  fun_induction entriesFrom lineStart brackets cs generalizing entries
  case case1 | case7 | case11 => cases found
  case case2 | case6 => cases found; exact List.forall_mem_nil _
  case case3 ih | case4 ih | case9 ih | case10 ih | case12 ih | case13 ih => exact ih found
  case case5 ih =>
    obtain ⟨others, own, rfl⟩ := Option.map_eq_some_iff.mp found
    exact List.forall_mem_cons.mpr ⟨trivial, ih own⟩
  case case8 ih =>
    obtain ⟨others, own, rfl⟩ := Option.map_eq_some_iff.mp found
    exact List.forall_mem_cons.mpr ⟨⟨by decide, by decide⟩, ih own⟩
  case case14 ih =>
    obtain ⟨⟨t, after, shorter⟩, first, found⟩ := Option.bind_eq_some_iff.mp found
    obtain ⟨brackets, -, found⟩ := Option.bind_eq_some_iff.mp found
    obtain ⟨others, own, same⟩ := Option.bind_eq_some_iff.mp found
    cases same
    have plain : t.isLayout = false := token_plain (by rw [reads, first]; rfl)
    refine List.forall_mem_cons.mpr ⟨⟨?_, ?_⟩, ih after shorter brackets own⟩
    all_goals
      rintro rfl
      cases plain

/-- What is behind something that ends in a line ends like the whole. -/
theorem ends_behind (used : List Char) {rest : List Char} (last : used.getLast? ≠ some '\n')
    (ends : (used ++ rest).getLast? = some '\n') : rest.getLast? = some '\n' := by
  cases rest with
  | nil =>
    rw [List.append_nil] at ends
    exact absurd ends last
  | cons c rest => rwa [List.getLast?_append_of_ne_nil _ (List.cons_ne_nil c rest)] at ends

theorem ends_of_suffix {cs rest : List Char} (ends : cs = [] ∨ cs.getLast? = some '\n')
    (within : rest <:+ cs) : rest = [] ∨ rest.getLast? = some '\n' := by
  obtain ⟨used, rfl⟩ := within
  rcases ends with none | ends
  · exact .inl (List.append_eq_nil_iff.mp none).2
  · cases rest with
    | nil => exact .inl rfl
    | cons c rest => exact .inr (by rwa [List.getLast?_append_of_ne_nil _ (List.cons_ne_nil c rest)] at ends)

theorem suffix_of_indentation {column found : Column} {held : Nat} {cs : List Char} {rest : Rest cs}
    (line : indentation column held cs = some (found, rest)) : rest.1 <:+ cs := by
  obtain ⟨blanks, whole, -⟩ := indentation_eq_some cs column held (by rw [reads, line]; rfl)
  exact ⟨blanks, whole.symm⟩

theorem EndsInNewline.cons (entry : Entry) {entries : List Entry} (ends : EndsInNewline entries) :
    EndsInNewline (entry :: entries) := by
  obtain ⟨spelling, last⟩ := ends
  refine ⟨spelling, ?_⟩
  rw [List.getLast?_cons, last]
  rfl

/-- What stands in a text of which the last line has an end ends there too. -/
theorem entriesFrom_ends {lineStart : Bool} {brackets : List Mark} {cs : List Char} {entries : List Entry}
    (ends : lineStart = true ∧ cs = [] ∨ cs.getLast? = some '\n')
    (found : entriesFrom lineStart brackets cs = some entries) :
    lineStart = true ∧ entries = [] ∨ EndsInNewline entries := by
  fun_induction entriesFrom lineStart brackets cs generalizing entries
  case case1 | case7 | case11 => cases found
  case case2 => cases found; exact .inl ⟨rfl, rfl⟩
  case case3 line ih =>
    have within := (List.suffix_cons '\n' _).trans (suffix_of_indentation line)
    exact ih ((ends_of_suffix (ends.imp_left And.right) within).imp_left (⟨rfl, ·⟩)) found
  case case4 line ih =>
    have within := ((List.dropWhile_suffix (· != '\n')).trans (List.suffix_cons '#' _)).trans
      (suffix_of_indentation line)
    exact ih ((ends_of_suffix (ends.imp_left And.right) within).imp_left (⟨rfl, ·⟩)) found
  case case5 line ih =>
    obtain ⟨others, own, rfl⟩ := Option.map_eq_some_iff.mp found
    have last := (ends_of_suffix (ends.imp_left And.right) (suffix_of_indentation line)).resolve_left
      (List.cons_ne_nil _ _)
    obtain ⟨never, -⟩ | newline := ih (.inr last) own
    · cases never
    · exact .inr (newline.cons _)
  case case6 start _ =>
    obtain ⟨never, -⟩ | never := ends
    · exact absurd never start
    · cases never
  case case8 start rest _ ih =>
    obtain ⟨others, own, rfl⟩ := Option.map_eq_some_iff.mp found
    have last := ends.resolve_left fun never => start never.1
    obtain ⟨-, rfl⟩ | newline := ih ((ends_of_suffix (.inr last) (List.suffix_cons _ rest)).imp_left (⟨rfl, ·⟩)) own
    · exact .inr ⟨_, rfl⟩
    · exact .inr (newline.cons _)
  case case9 start rest inside ih =>
    have last := ends.resolve_left fun never => start never.1
    obtain rfl | last := ends_of_suffix (.inr last) (List.suffix_cons _ rest)
    · rw [entriesFrom_nil, if_neg inside] at found
      cases found
    · exact (ih (.inr last) found).imp_left fun never => absurd never.1 Bool.false_ne_true
  case case10 start rest ih =>
    have last := ends_behind ['#'] (by decide) (ends.resolve_left fun never => start never.1)
    rw [← List.takeWhile_append_dropWhile (p := (· != '\n')) (l := rest)] at last
    have last := ends_behind _ (fun feed => ?_) last
    · exact (ih (.inr last) found).imp_left fun never => absurd never.1 Bool.false_ne_true
    · have other := List.all_eq_true.mp List.all_takeWhile _ (List.mem_of_getLast? feed)
      cases other
  case case12 start rest filled ih =>
    have last := ends.resolve_left fun never => start never.1
    have within : rest <:+ '\\' :: '\n' :: rest := (List.suffix_cons _ rest).trans (List.suffix_cons _ _)
    have last := (ends_of_suffix (.inr last) within).resolve_left (by simpa using filled)
    exact (ih (.inr last) found).imp_left fun never => absurd never.1 Bool.false_ne_true
  case case13 start c rest feed hash joined blank ih =>
    have last := ends.resolve_left fun never => start never.1
    have last := ends_behind [c] (by simpa using feed) last
    exact (ih (.inr last) found).imp_left fun never => absurd never.1 Bool.false_ne_true
  case case14 start c rest feed hash joined blank ih =>
    have last := ends.resolve_left fun never => start never.1
    obtain ⟨⟨t, after, shorter⟩, first, found⟩ := Option.bind_eq_some_iff.mp found
    obtain ⟨brackets, -, found⟩ := Option.bind_eq_some_iff.mp found
    obtain ⟨others, own, same⟩ := Option.bind_eq_some_iff.mp found
    cases same
    have first : reads token? (c :: rest) = some (t, after) := by rw [reads, first]; rfl
    obtain ⟨used, whole, inside⟩ := stopsInside_token (by simpa [isFeed] using feed) first
    rw [whole] at last
    obtain ⟨never, -⟩ | newline := ih after shorter brackets (.inr (ends_behind used inside last)) own
    · cases never
    · exact .inr (newline.cons _)

/-- A source with code starts with a line of it, and the line with a token. -/
theorem entriesFrom_lineStart {brackets : List Mark} {cs : List Char} {entries : List Entry}
    (found : entriesFrom true brackets cs = some entries) (code : entries ≠ []) :
    ∃ blanks t spelling others, entries = .line blanks :: .token t spelling :: others := by
  induction size : cs.length using Nat.strongRecOn generalizing cs with
  | _ n ih =>
    subst size
    rw [entriesFrom_true] at found
    obtain ⟨⟨column, rest⟩, line, found⟩ := Option.bind_eq_some_iff.mp found
    have within : rest.length ≤ cs.length := reads_eq_some line
    dsimp only at found
    rw [entriesBehind.eq_def] at found
    split at found
    next => cases found; exact absurd rfl code
    next more => exact ih _ within found rfl
    next more => exact ih _ (Nat.lt_of_le_of_lt (toLineEnd more).2 within) found rfl
    next c more feed hash =>
      obtain ⟨others, own, rfl⟩ := Option.map_eq_some_iff.mp found
      obtain ⟨blanks, -, -, stop⟩ := indentation_eq_some cs _ _ line
      obtain ⟨space, tab, page, joined⟩ := stop c more rfl
      rw [entriesFrom_token brackets more feed hash joined space tab page] at own
      obtain ⟨⟨t, after⟩, -, found⟩ := Option.bind_eq_some_iff.mp own
      obtain ⟨brackets, -, found⟩ := Option.bind_eq_some_iff.mp found
      obtain ⟨others, -, rfl⟩ := Option.map_eq_some_iff.mp found
      exact ⟨_, t, _, others, rfl⟩

end IssueBoard.Script
