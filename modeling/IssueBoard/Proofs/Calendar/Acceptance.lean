import IssueBoard.Proofs.Calendar.Amounts

/-! # Reading accepts the grammar

A text is read to its end exactly if it is a date expression, and then as what the grammar says. A base
is told from its first digits and the mark behind them, and what follows a base or an adjustment begins
with a blank or a sign.
-/

namespace IssueBoard.Calendar

open Text (dropWhile_append takeWhile_append isDigit_of_isBlank)

variable {cs rest text tail gap : List Char}

/-! ## Adjustments -/

theorem readAdjustments_blank {optional : Bool} (blank : Text.dropBlank cs = []) :
    readAdjustments optional cs = ([], none) := by
  rw [readAdjustments]
  split
  · rfl
  · next more =>
    rw [blank] at more
    cases more

/-- Behind a sign an adjustment is read, or reading stops. -/
theorem readAdjustments_signed {optional negative : Bool} {inner : List Char}
    (nonempty : Text.dropBlank cs ≠ [])
    (signed : sign? optional (Text.dropBlank cs) = some (negative, inner)) :
    readAdjustments optional cs =
      match amount? inner with
      | none => ([], some (.adjustmentExpected, inner))
      | some (amount, rest) =>
        (⟨negative, amount⟩ :: (readAdjustments false rest).1, (readAdjustments false rest).2) := by
  rw [readAdjustments]
  split
  · next empty => exact absurd empty nonempty
  · next first after more =>
    rw [more] at signed
    split
    · next unsigned =>
      rw [unsigned] at signed
      cases signed
    · next negative' inner' signed' =>
      rw [signed'] at signed
      obtain ⟨rfl, rfl⟩ := Prod.mk.inj (Option.some.inj signed)
      split
      · next unread => simp only [unread]
      · next amount rest read => simp only [read]

theorem readAdjustments_step {optional negative : Bool} {amount : Amount} {inner : List Char}
    (nonempty : Text.dropBlank cs ≠ [])
    (signed : sign? optional (Text.dropBlank cs) = some (negative, inner))
    (read : amount? inner = some (amount, rest)) :
    readAdjustments optional cs =
      (⟨negative, amount⟩ :: (readAdjustments false rest).1, (readAdjustments false rest).2) := by
  rw [readAdjustments_signed nonempty signed, read]

/-- What may follow a base or an adjustment. -/
theorem AdjustmentsText.begins {adjustments : List Adjustment}
    (grammar : AdjustmentsText adjustments text) :
    ∀ c ∈ text.head?, Text.isBlank c = true ∨ c = '+' ∨ c = '-' := by
  intro c first
  cases grammar with
  | nil blanks => exact .inl (blanks c (List.mem_of_mem_head? first))
  | @cons adjustment rest gap inner text tail blanks innerBlanks amount others =>
    refine head?_blanks_append (P := fun c => Text.isBlank c = true ∨ c = '+' ∨ c = '-') blanks
      (fun c blank => .inl blank) ?_ c first
    intro c sign
    cases sign
    rw [Adjustment.sign]
    split
    · exact .inr (.inr rfl)
    · exact .inr (.inl rfl)

theorem AdjustmentsText.not_begins {adjustments : List Adjustment}
    (grammar : AdjustmentsText adjustments text) {c : Char} (visible : Text.isBlank c = false)
    (notPlus : c ≠ '+') (notMinus : c ≠ '-') : c ∉ text.head? := by
  intro first
  rcases grammar.begins c first with blank | plus | minus
  · rw [visible] at blank
    cases blank
  · exact notPlus plus
  · exact notMinus minus

theorem isBlank_sign (adjustment : Adjustment) : Text.isBlank adjustment.sign = false := by
  rw [Adjustment.sign]
  split <;> decide

theorem sign?_complete (optional : Bool) (adjustment : Adjustment) {inner : List Char}
    (blanks : Blanks inner) (visible : ∀ c ∈ rest.head?, Text.isBlank c = false) :
    sign? optional (adjustment.sign :: (inner ++ rest)) = some (adjustment.negative, rest) := by
  rcases adjustment with ⟨_ | _, amount⟩
  · exact congrArg (fun rest => some (false, rest)) (dropBlank_append blanks visible)
  · exact congrArg (fun rest => some (true, rest)) (dropBlank_append blanks visible)

/-- Adjustments are read to the end, whether the first sign may be left out or not. -/
theorem readAdjustments_complete {adjustments : List Adjustment}
    (grammar : AdjustmentsText adjustments text) (optional : Bool) :
    readAdjustments optional text = (adjustments, none) := by
  induction grammar generalizing optional with
  | @nil gap blanks =>
    apply readAdjustments_blank
    rw [← List.append_nil gap]
    exact dropBlank_append blanks (by simp)
  | @cons adjustment rest gap inner text tail blanks innerBlanks amount others ih =>
    have start : Text.dropBlank (gap ++ adjustment.sign :: (inner ++ (text ++ tail))) =
        adjustment.sign :: (inner ++ (text ++ tail)) := by
      refine dropBlank_append blanks ?_
      intro c first
      cases first
      exact isBlank_sign adjustment
    have signed := sign?_complete optional adjustment innerBlanks
      (visible_of_digit (amount.head?_append tail))
    have stop := others.not_begins (c := 's') (by decide) (by decide) (by decide)
    rw [← start] at signed
    rw [readAdjustments_step (by rw [start]; exact List.cons_ne_nil _ _) signed
      (amount?_complete amount stop), ih false]

theorem sign?_sound {optional negative : Bool} (read : sign? optional cs = some (negative, rest)) :
    (∃ inner, Blanks inner ∧ ∀ amount, cs = (Adjustment.mk negative amount).sign :: (inner ++ rest)) ∨
      optional = true ∧ negative = false ∧ rest = cs := by
  rw [sign?.eq_def] at read
  split at read
  · next after =>
    obtain ⟨rfl, rfl⟩ := Prod.mk.inj (Option.some.inj read)
    obtain ⟨inner, blanks, split⟩ := exists_blanks after
    exact .inl ⟨inner, blanks, fun _ => congrArg _ split⟩
  · next after =>
    obtain ⟨rfl, rfl⟩ := Prod.mk.inj (Option.some.inj read)
    obtain ⟨inner, blanks, split⟩ := exists_blanks after
    exact .inl ⟨inner, blanks, fun _ => congrArg _ split⟩
  · split at read
    · next allowed =>
      obtain ⟨rfl, rfl⟩ := Prod.mk.inj (Option.some.inj read)
      exact .inr ⟨allowed, rfl, rfl⟩
    · cases read

/-- What is read to the end is adjustments. Where the first sign may be left out, the text may begin
with an amount instead. -/
theorem readAdjustments_sound {optional : Bool} {adjustments : List Adjustment}
    (read : readAdjustments optional cs = (adjustments, none)) :
    AdjustmentsText adjustments cs ∨ optional = true ∧ ∃ gap amount text rest tail, Blanks gap ∧
      AmountText amount text ∧ AdjustmentsText rest tail ∧ adjustments = ⟨false, amount⟩ :: rest ∧
        cs = gap ++ (text ++ tail) := by
  -- Only the very first sign can be missing: whatever comes behind is read with its sign.
  fun_induction readAdjustments optional cs generalizing adjustments with
  | case1 optional cs blank =>
    obtain rfl := (Prod.mk.inj read).1
    obtain ⟨gap, blanks, split⟩ := exists_blanks cs
    rw [blank, List.append_nil] at split
    exact .inl (split ▸ .nil blanks)
  | case2 => cases read
  | case3 => cases read
  | case4 optional cs c after more negative inner signed amount rest found shorter others stop later ih =>
    obtain ⟨rfl, rfl⟩ := Prod.mk.inj read
    obtain ⟨text, grammar, rfl⟩ := amount?_sound found
    have tail : AdjustmentsText others rest := (ih later).resolve_right (fun never => by cases never.1)
    obtain ⟨gap, blanks, split⟩ := exists_blanks cs
    rw [more] at split
    rcases sign?_sound signed with ⟨inner, innerBlanks, same⟩ | ⟨allowed, rfl, same⟩
    · rw [split, same amount]
      exact .inl (.cons blanks innerBlanks grammar tail)
    · rw [← same] at split
      exact .inr ⟨allowed, gap, amount, text, others, rest, blanks, grammar, tail, rfl, split⟩

/-! ## Bases -/

theorem calendarDay?_leads {found : Nat × Nat × Nat} (read : calendarDay? cs = some (found, rest)) :
    (cs.takeWhile Text.isDigit).length = 4 ∧ (cs.dropWhile Text.isDigit).head? = some '-' := by
  obtain ⟨text, calendar, rfl⟩ := calendarDay?_eq_some_iff.mp read
  obtain ⟨digits, after, number, length, rfl⟩ := calendar.begins
  have hyphen := head?_cons_mark '-' (after ++ rest) (by decide)
  rw [List.append_assoc, List.cons_append, takeWhile_append number hyphen,
    dropWhile_append number hyphen]
  exact ⟨length, rfl⟩

theorem clock?_leads {found : Nat × Nat × Nat} (read : clock? cs = some (found, rest)) :
    (cs.takeWhile Text.isDigit).length = 2 ∧ (cs.dropWhile Text.isDigit).head? = some ':' := by
  obtain ⟨text, clock, rfl⟩ := clock?_eq_some_iff.mp read
  obtain ⟨digits, after, number, length, rfl⟩ := clock.begins
  have colon := head?_cons_mark ':' (after ++ rest) (by decide)
  rw [List.append_assoc, List.cons_append, takeWhile_append number colon,
    dropWhile_append number colon]
  exact ⟨length, rfl⟩

theorem moment?_of_no_day (noDay : calendarDay? cs = none) : moment? cs = none := by
  rw [moment?, noDay]
  rfl

theorem word?_startOfMonth (first : 's' ∉ cs.head?) : word? "startOfMonth".toList cs = none := by
  rw [Option.eq_none_iff_forall_ne_some]
  intro after read
  rw [word?_eq_some_iff] at read
  rw [read] at first
  exact first rfl

/-- A text that begins with no base is read from the current instant. -/
theorem readBase_now (first : 's' ∉ cs.head?) (noDay : (cs.takeWhile Text.isDigit).length = 4 →
      (cs.dropWhile Text.isDigit).head? ≠ some '-')
    (noClock : (cs.takeWhile Text.isDigit).length = 2 →
      (cs.dropWhile Text.isDigit).head? ≠ some ':') : readBase cs = (.now, cs) := by
  have day : calendarDay? cs = none := by
    rw [Option.eq_none_iff_forall_ne_some]
    intro found read
    exact noDay (calendarDay?_leads read).1 (calendarDay?_leads read).2
  have clock : clock? cs = none := by
    rw [Option.eq_none_iff_forall_ne_some]
    intro found read
    exact noClock (clock?_leads read).1 (clock?_leads read).2
  rw [readBase, word?_startOfMonth first, moment?_of_no_day day, day, clock]

theorem word?_startOfMonth_of_digit (digit : ∀ c ∈ cs.head?, Text.isDigit c = true) :
    word? "startOfMonth".toList cs = none :=
  word?_startOfMonth fun first => absurd (digit 's' first) (by decide)

/-- A base that stands in the text is read, and nothing else. -/
theorem readBase_complete {base : Base} {adjustments : List Adjustment} (grammar : BaseText base text)
    (written : base ≠ .now) (others : AdjustmentsText adjustments tail) :
    readBase (text ++ tail) = (base, tail) := by
  cases grammar with
  | startOfMonth => rw [readBase, word?_eq_some_iff.mpr rfl]
  | @moment year month day hour minute second date time calendar clock =>
    have found : moment? (date ++ 'T' :: (time ++ ['Z']) ++ tail) =
        some (.moment year month day hour minute second, tail) :=
      moment?_eq_some_iff.mpr ⟨_, _, _, _, _, _, date, time, calendar, clock, rfl, by simp⟩
    have digit := calendar.head?_append ('T' :: (time ++ ['Z']) ++ tail)
    rw [← List.append_assoc] at digit
    rw [readBase, word?_startOfMonth_of_digit digit, found]
  | @day year month day date calendar =>
    have found : calendarDay? (text ++ tail) = some ((year, month, day), tail) :=
      calendarDay?_eq_some_iff.mpr ⟨text, calendar, rfl⟩
    -- A moment begins with the same date, but then a `T` would have to follow it.
    have noMoment : moment? (text ++ tail) = none := by
      rw [Option.eq_none_iff_forall_ne_some]
      rintro ⟨base, after⟩ read
      obtain ⟨_, _, _, _, _, _, date, time, calendar', _, -, split⟩ := moment?_eq_some_iff.mp read
      rw [calendarDay?_eq_some_iff.mpr ⟨date, calendar', split⟩, Option.some.injEq, Prod.mk.injEq] at found
      refine others.not_begins (c := 'T') (by decide) (by decide) (by decide) ?_
      rw [← found.2]
      rfl
    rw [readBase, word?_startOfMonth_of_digit (calendar.head?_append tail), noMoment, found]
  | @timeOfDay hour minute second time clock =>
    have found : clock? (text ++ tail) = some ((hour, minute, second), tail) :=
      clock?_eq_some_iff.mpr ⟨text, clock, rfl⟩
    -- The first digits are followed by a colon here, and by a hyphen in a date.
    have noDay : calendarDay? (text ++ tail) = none := by
      rw [Option.eq_none_iff_forall_ne_some]
      intro day read
      have hyphen := (calendarDay?_leads read).2
      rw [(clock?_leads found).2] at hyphen
      cases hyphen
    rw [readBase, word?_startOfMonth_of_digit (clock.head?_append tail), moment?_of_no_day noDay,
      noDay, found]
  | now => exact absurd rfl written

theorem readBase_sound {base : Base} (read : readBase cs = (base, rest)) :
    (∃ text, BaseText base text ∧ cs = text ++ rest) ∧ (base = .now → clock? cs = none) := by
  rw [readBase] at read
  split at read
  · next begins =>
    obtain ⟨rfl, rfl⟩ := Prod.mk.inj read
    exact ⟨⟨_, .startOfMonth, word?_eq_some_iff.mp begins⟩, fun never => by cases never⟩
  · split at read
    · next found moment =>
      subst read
      obtain ⟨_, _, _, _, _, _, date, time, calendar, clock, rfl, split⟩ := moment?_eq_some_iff.mp moment
      exact ⟨⟨_, .moment calendar clock, by simp [split]⟩, fun never => by cases never⟩
    · split at read
      · next found =>
        obtain ⟨rfl, rfl⟩ := Prod.mk.inj read
        obtain ⟨text, calendar, split⟩ := calendarDay?_eq_some_iff.mp found
        exact ⟨⟨text, .day calendar, split⟩, fun never => by cases never⟩
      · split at read
        · next found =>
          obtain ⟨rfl, rfl⟩ := Prod.mk.inj read
          obtain ⟨text, clock, split⟩ := clock?_eq_some_iff.mp found
          exact ⟨⟨text, .timeOfDay clock, split⟩, fun never => by cases never⟩
        · next none =>
          obtain ⟨rfl, rfl⟩ := Prod.mk.inj read
          exact ⟨⟨[], .now, rfl⟩, fun _ => none⟩

/-! ## Expressions -/

theorem dropBlank_blanks_append (blanks : Blanks gap) (cs : List Char) :
    Text.dropBlank (gap ++ cs) = Text.dropBlank cs := by
  obtain ⟨inner, innerBlanks, split⟩ := exists_blanks cs
  have all : Blanks (gap ++ inner) := by
    intro c member
    rcases List.mem_append.mp member with first | second
    · exact blanks c first
    · exact innerBlanks c second
  calc
    Text.dropBlank (gap ++ cs) = Text.dropBlank (gap ++ inner ++ Text.dropBlank cs) := by
      rw [List.append_assoc, ← split]
    _ = Text.dropBlank cs := dropBlank_append all fun c first => isBlank_head?_dropBlank cs first

theorem BaseText.visible {base : Base} (grammar : BaseText base text) (written : base ≠ .now)
    (tail : List Char) : ∀ c ∈ (text ++ tail).head?, Text.isBlank c = false := by
  cases grammar with
  | startOfMonth =>
    intro c first
    cases first
    decide
  | moment calendar clock =>
    rw [List.append_assoc]
    exact visible_of_digit (calendar.head?_append _)
  | day calendar => exact visible_of_digit (calendar.head?_append tail)
  | timeOfDay clock => exact visible_of_digit (clock.head?_append tail)
  | now => exact absurd rfl written

theorem AdjustmentsText.dropBlank {adjustments : List Adjustment}
    (grammar : AdjustmentsText adjustments text) : AdjustmentsText adjustments (Text.dropBlank text) := by
  cases grammar with
  | nil blanks =>
    rw [← List.append_nil text, dropBlank_blanks_append blanks]
    exact .nil blanks_nil
  | @cons adjustment rest gap inner text tail blanks innerBlanks amount others =>
    rw [dropBlank_blanks_append blanks, Text.dropBlank, List.dropWhile_cons, isBlank_sign]
    exact .cons blanks_nil innerBlanks amount others

/-- Where no base is written, adjustments are read from the current instant. -/
theorem readBase_adjustments {adjustments : List Adjustment} (grammar : AdjustmentsText adjustments text) :
    readBase (Text.dropBlank text) = (.now, Text.dropBlank text) := by
  have sign : ∀ c ∈ (Text.dropBlank text).head?, c = '+' ∨ c = '-' := by
    intro c first
    rcases grammar.dropBlank.begins c first with blank | sign
    · rw [isBlank_head?_dropBlank text first] at blank
      cases blank
    · exact sign
  have noDigit : (Text.dropBlank text).takeWhile Text.isDigit = [] := by
    cases start : Text.dropBlank text with
    | nil => rfl
    | cons c rest =>
      rw [start] at sign
      rcases sign c rfl with rfl | rfl <;> rfl
  refine readBase_now ?_ ?_ ?_
  · intro first
    rcases sign 's' first with never | never <;> cases never
  · intro four
    rw [noDigit] at four
    cases four
  · intro two
    rw [noDigit] at two
    cases two

/-- A number with a unit is no base. -/
theorem readBase_quantity {digits : List Char} {unit : TimeUnit}
    (grammar : AmountText (.quantity digits unit) text) (tail : List Char) :
    readBase (text ++ tail) = (.now, text ++ tail) := by
  cases grammar with
  | @quantity _ gap ending _ nonempty number blanks plural =>
    have word := word_head unit (ending ++ tail)
    have stop := head?_blanks_append blanks (fun c => isDigit_of_isBlank) fun c first => (word c first).2
    have marks : ∀ c ∈ (gap ++ (unit.word ++ (ending ++ tail))).head?, c ≠ '-' ∧ c ≠ ':' := by
      refine head?_blanks_append (P := fun c => c ≠ '-' ∧ c ≠ ':') blanks ?_ ?_
      · intro c blank
        refine ⟨?_, ?_⟩
        · rintro rfl
          exact absurd blank (by decide)
        · rintro rfl
          exact absurd blank (by decide)
      · intro c first
        cases unit <;> cases first <;> decide
    simp only [List.append_assoc]
    have digit := head?_digits number (List.length_pos_iff.mpr nonempty)
      (gap ++ (unit.word ++ (ending ++ tail)))
    refine readBase_now (fun first => absurd (digit 's' first) (by decide)) ?_ ?_
    · intro _
      rw [dropWhile_append number stop]
      exact fun hyphen => (marks '-' hyphen).1 rfl
    · intro _
      rw [dropWhile_append number stop]
      exact fun colon => (marks ':' colon).2 rfl

theorem sign?_unsigned (first : ∀ c ∈ cs.head?, c ≠ '+' ∧ c ≠ '-') : sign? true cs = some (false, cs) := by
  rw [sign?.eq_def]
  split
  · exact absurd rfl (first '+' rfl).1
  · exact absurd rfl (first '-' rfl).2
  · rfl

theorem sign?_digit (digit : ∀ c ∈ cs.head?, Text.isDigit c = true) : sign? true cs = some (false, cs) := by
  apply sign?_unsigned
  intro c first
  constructor
  · rintro rfl
    exact absurd (digit _ first) (by decide)
  · rintro rfl
    exact absurd (digit _ first) (by decide)

theorem readAdjustments_unsigned {digits : List Char} {unit : TimeUnit} {adjustments : List Adjustment}
    (grammar : AmountText (.quantity digits unit) text) (others : AdjustmentsText adjustments tail) :
    readAdjustments true (text ++ tail) = (⟨false, .quantity digits unit⟩ :: adjustments, none) := by
  have start : Text.dropBlank (text ++ tail) = text ++ tail :=
    dropBlank_of_visible (visible_of_digit (grammar.head?_append tail))
  have stop := others.not_begins (c := 's') (by decide) (by decide) (by decide)
  have signed : sign? true (Text.dropBlank (text ++ tail)) = some (false, text ++ tail) := by
    rw [start]
    exact sign?_digit (grammar.head?_append tail)
  have nonempty : Text.dropBlank (text ++ tail) ≠ [] := by
    rw [start]
    exact List.append_ne_nil_of_left_ne_nil grammar.ne_nil tail
  rw [readAdjustments_step nonempty signed (amount?_complete grammar stop),
    readAdjustments_complete others false]

/-- Every date expression is read to its end. -/
theorem read_complete {source : String} {base : Base} {adjustments : List Adjustment}
    (grammar : ExpressionText base adjustments source.toList) :
    read source = ⟨base, adjustments, none⟩ := by
  have reading {rest : List Char} (start : readBase (Text.dropBlank source.toList) = (base, rest))
      (done : readAdjustments (base == .now) rest = (adjustments, none)) :
      read source = ⟨base, adjustments, none⟩ := by
    simp only [read, start, done, Option.map_none]
  generalize source.toList = cs at grammar reading
  cases grammar with
  | @signed _ _ gap text tail blanks written others =>
    rw [dropBlank_blanks_append blanks] at reading
    by_cases unwritten : base = .now
    · subst unwritten
      cases written
      exact reading (readBase_adjustments others) (readAdjustments_complete others.dropBlank _)
    · have start : Text.dropBlank (text ++ tail) = text ++ tail :=
        dropBlank_of_visible (written.visible unwritten tail)
      rw [start] at reading
      exact reading (readBase_complete written unwritten others) (readAdjustments_complete others _)
  | @unsigned digits unit rest gap text tail blanks amount others =>
    have start : Text.dropBlank (text ++ tail) = text ++ tail :=
      dropBlank_of_visible (visible_of_digit (amount.head?_append tail))
    rw [dropBlank_blanks_append blanks, start] at reading
    exact reading (readBase_quantity amount tail) (readAdjustments_unsigned amount others)

/-- What is read to its end is a date expression. -/
theorem read_sound {source : String} (done : (read source).trouble = none) :
    ExpressionText (read source).base (read source).adjustments source.toList := by
  obtain ⟨gap, blanks, whole⟩ := exists_blanks source.toList
  rcases start : readBase (Text.dropBlank source.toList) with ⟨base, rest⟩
  rcases more : readAdjustments (base == .now) rest with ⟨adjustments, trouble⟩
  obtain ⟨⟨text, written, split⟩, noClock⟩ := readBase_sound start
  have reading : read source = ⟨base, adjustments, (read source).trouble⟩ := by
    simp only [read, start, more]
  have untroubled : trouble = none := by
    simp only [read, start, more, Option.map_eq_none_iff] at done
    exact done
  rw [untroubled] at more
  rw [reading, whole, split]
  rcases readAdjustments_sound more with signed | ⟨allowed, inner, amount, number, others, tail, more⟩
  · exact .signed blanks written signed
  · obtain ⟨innerBlanks, grammar, later, rfl, rfl⟩ := more
    have current : base = .now := beq_iff_eq.mp allowed
    subst current
    cases written
    obtain rfl : inner = [] := by
      apply innerBlanks.eq_nil
      rw [List.nil_append] at split
      rw [← split]
      exact fun c first => isBlank_head?_dropBlank source.toList first
    cases grammar with
    | quantity unit nonempty digits wordBlanks plural =>
      have grammar := ExpressionText.unsigned blanks
        (.quantity unit nonempty digits wordBlanks plural) later
      exact grammar
    | clock clock =>
      -- Hours, minutes and seconds would have been read as the base.
      have found := clock?_eq_some_iff.mpr ⟨_, clock, split⟩
      rw [noClock rfl] at found
      cases found

theorem read_eq_iff {source : String} {base : Base} {adjustments : List Adjustment} :
    read source = ⟨base, adjustments, none⟩ ↔ ExpressionText base adjustments source.toList := by
  constructor
  · intro reading
    have done : (read source).trouble = none := by rw [reading]
    have grammar := read_sound done
    rw [reading] at grammar
    exact grammar
  · exact read_complete

end IssueBoard.Calendar
