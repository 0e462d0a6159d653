import IssueBoard.Proofs.Calendar.Denotation

/-! # Where reading a date expression stops

A text that is no date expression is reported at the first place where it cannot go on as one. What stands
before that place is a date expression of its own, perhaps with a sign behind it, although it is read
without what follows; and what stands there begins neither with a blank nor with what is missing.
-/

namespace IssueBoard.Calendar

variable {cs rest text tail gap before : List Char}

/-! ## Adjustments -/

/-- The texts of adjustments of which the first may go without a sign. -/
inductive LeadingText (optional : Bool) : List Adjustment → List Char → Prop
  | signed {adjustments : List Adjustment} {text : List Char} (all : AdjustmentsText adjustments text) :
      LeadingText optional adjustments text
  | unsigned {amount : Amount} {adjustments : List Adjustment} {gap text tail : List Char}
      (allowed : optional = true) (blanks : Blanks gap) (number : AmountText amount text)
      (others : AdjustmentsText adjustments tail) :
      LeadingText optional (⟨false, amount⟩ :: adjustments) (gap ++ (text ++ tail))

/-- How reading stops before `rest`, when what has been read in full is described by `Read`: a sign is
missing, or an adjustment behind a sign, or an adjustment at a start where the sign may go. -/
inductive Halts (bare : Prop) (Read : List Char → Prop) (rest : List Char) :
    GrammarCause → List Char → Prop
  | operator {before : List Char} {c : Char} (read : Read before) (first : c ∈ rest.head?)
      (plus : c ≠ '+') (minus : c ≠ '-') : Halts bare Read rest .operatorExpected before
  | adjustment {text inner : List Char} {sign : Char} (read : Read text) (signed : sign = '+' ∨ sign = '-')
      (blanks : Blanks inner) (nothing : amount? rest = none) :
      Halts bare Read rest .adjustmentExpected (text ++ sign :: inner)
  | start {before : List Char} (allowed : bare) (blanks : Blanks before) (nothing : amount? rest = none) :
      Halts bare Read rest .adjustmentExpected before

/-- What stands before a text that is read changes nothing about how reading stops. -/
theorem Halts.prepend {bare bare' : Prop} {Read Read' : List Char → Prop} {cause : GrammarCause}
    {front : List Char} (halts : Halts bare Read rest cause before)
    (read : ∀ text, text <+: before → Read text → Read' (front ++ text))
    (start : bare → bare' ∧ Blanks front) : Halts bare' Read' rest cause (front ++ before) := by
  cases halts with
  | operator whole first plus minus =>
    exact .operator (read before List.prefix_rfl whole) first plus minus
  | @adjustment text inner sign whole signed blanks nothing =>
    rw [← List.append_assoc]
    exact .adjustment (read text (List.prefix_append _ _) whole) signed blanks nothing
  | start allowed blanks nothing =>
    obtain ⟨allowed', blanks'⟩ := start allowed
    exact .start allowed' (List.forall_mem_append.mpr ⟨blanks', blanks⟩) nothing

theorem LeadingText.adjustments {adjustments : List Adjustment}
    (leading : LeadingText false adjustments text) : AdjustmentsText adjustments text := by
  cases leading with
  | signed all => exact all
  | unsigned never => cases never

/-- No sign is missing where it may go. -/
theorem sign?_eq_none {optional : Bool} (unsigned : sign? optional cs = none) :
    optional = false ∧ ∀ c ∈ cs.head?, c ≠ '+' ∧ c ≠ '-' := by
  rw [sign?.eq_def] at unsigned
  split at unsigned
  · cases unsigned
  · cases unsigned
  · next plus minus =>
    split at unsigned
    · cases unsigned
    · next required =>
      refine ⟨Bool.eq_false_iff.mpr required, ?_⟩
      intro c first
      obtain ⟨tail, rfl⟩ := List.head?_eq_some_iff.mp first
      constructor
      · rintro rfl
        exact plus tail rfl
      · rintro rfl
        exact minus tail rfl

/-- An adjustment that is read takes something off the front, behind which more adjustments may stand. -/
theorem exists_leading {optional negative : Bool} {amount : Amount} {inner : List Char}
    (signed : sign? optional (Text.dropBlank cs) = some (negative, inner))
    (read : amount? inner = some (amount, rest)) : ∃ front, cs = front ++ rest ∧
      ∀ adjustments tail, AdjustmentsText adjustments tail →
        LeadingText optional (⟨negative, amount⟩ :: adjustments) (front ++ tail) := by
  obtain ⟨text, grammar, rfl⟩ := amount?_sound read
  obtain ⟨gap, blanks, split⟩ := exists_blanks cs
  rcases sign?_sound signed with ⟨inner, innerBlanks, same⟩ | ⟨allowed, rfl, same⟩
  · refine ⟨gap ++ (Adjustment.mk negative amount).sign :: (inner ++ text), ?_, ?_⟩
    · rw [split, same amount]
      simp only [List.append_assoc, List.cons_append]
    · intro adjustments tail others
      have grammar : AdjustmentsText (⟨negative, amount⟩ :: adjustments) _ :=
        .cons blanks innerBlanks grammar others
      simp only [List.append_assoc, List.cons_append]
      exact .signed grammar
  · refine ⟨gap ++ text, ?_, ?_⟩
    · rw [split, ← same, List.append_assoc]
    · intro adjustments tail others
      rw [List.append_assoc]
      exact .unsigned allowed blanks grammar others

theorem visible_of_sign {optional negative : Bool} (signed : sign? optional cs = some (negative, rest))
    (visible : ∀ c ∈ cs.head?, Text.isBlank c = false) : ∀ c ∈ rest.head?, Text.isBlank c = false := by
  rw [sign?.eq_def] at signed
  split at signed
  · cases signed
    exact fun c first => isBlank_head?_dropBlank _ first
  · cases signed
    exact fun c first => isBlank_head?_dropBlank _ first
  · split at signed
    · cases signed
      exact visible
    · cases signed

/-- Where adjustments cannot be read any further. -/
theorem readAdjustments_halts {optional : Bool} {adjustments : List Adjustment} {cause : GrammarCause}
    (read : readAdjustments optional cs = (adjustments, some (cause, rest))) :
    ∃ before, cs = before ++ rest ∧ (∀ c ∈ rest.head?, Text.isBlank c = false) ∧
      Halts (optional = true) (LeadingText optional adjustments) rest cause before := by
  fun_induction readAdjustments optional cs generalizing adjustments with
  | case1 => cases read
  | case2 optional cs c after more unsigned =>
    obtain ⟨rfl, stopped⟩ := Prod.mk.inj read
    cases stopped
    obtain ⟨gap, blanks, split⟩ := exists_blanks cs
    rw [more] at split
    obtain ⟨-, first⟩ := sign?_eq_none unsigned
    refine ⟨gap, split, ?_, ?_⟩
    · rw [← more]
      exact fun c first => isBlank_head?_dropBlank cs first
    · exact .operator (.signed (.nil blanks)) rfl (first c rfl).1 (first c rfl).2
  | case3 optional cs c after more negative inner signed unread =>
    obtain ⟨rfl, stopped⟩ := Prod.mk.inj read
    obtain ⟨rfl, rfl⟩ := Prod.mk.inj (Option.some.inj stopped)
    obtain ⟨gap, blanks, split⟩ := exists_blanks cs
    have visible : ∀ c ∈ inner.head?, Text.isBlank c = false := by
      apply visible_of_sign signed
      rw [← more]
      exact fun c first => isBlank_head?_dropBlank cs first
    rw [more] at split
    rcases sign?_sound signed with ⟨innerGap, innerBlanks, same⟩ | ⟨allowed, rfl, same⟩
    · let sign := (Adjustment.mk negative (.clock 0 0 0)).sign
      refine ⟨gap ++ sign :: innerGap, ?_, visible, ?_⟩
      · rw [split, same (.clock 0 0 0), List.append_assoc, List.cons_append]
      · refine .adjustment (.signed (.nil blanks)) ?_ innerBlanks unread
        cases negative with
        | false => exact .inl rfl
        | true => exact .inr rfl
    · exact ⟨gap, by rw [split, same], visible, .start allowed blanks unread⟩
  | case4 optional cs c after more negative inner signed amount behind found shorter others stop later ih =>
    obtain ⟨rfl, rfl⟩ := Prod.mk.inj read
    rw [← more] at signed
    obtain ⟨front, split, leading⟩ := exists_leading signed found
    obtain ⟨before, split', visible, halts⟩ := ih later
    refine ⟨front ++ before, ?_, visible, ?_⟩
    · rw [split, split', List.append_assoc]
    · exact halts.prepend (fun text _ read => leading _ text read.adjustments) (fun never => by cases never)

/-! ## Expressions -/

/-- A base and the adjustments behind it are an expression, if the base is the one that is read there. -/
theorem LeadingText.expression {base : Base} {adjustments : List Adjustment} {more : List Char}
    (blanks : Blanks gap) (written : BaseText base text)
    (visible : ∀ c ∈ (text ++ (before ++ more)).head?, Text.isBlank c = false)
    (noClock : base = .now → clock? (text ++ (before ++ more)) = none)
    (leading : LeadingText (base == .now) adjustments before) :
    ExpressionText base adjustments (gap ++ (text ++ before)) := by
  cases leading with
  | signed all => exact .signed blanks written all
  | @unsigned amount adjustments inner number tail allowed innerBlanks grammar others =>
    obtain rfl : base = .now := beq_iff_eq.mp allowed
    cases written
    obtain rfl : inner = [] := by
      apply innerBlanks.eq_nil
      rwa [List.nil_append, List.append_assoc] at visible
    cases grammar with
    | quantity unit nonempty digits wordBlanks plural =>
      have grammar := ExpressionText.unsigned blanks
        (.quantity unit nonempty digits wordBlanks plural) others
      exact grammar
    | clock clock =>
      -- Hours, minutes and seconds would have been read as the base.
      have none := noClock rfl
      rw [List.nil_append, List.nil_append, List.append_assoc,
        clock?_eq_some_iff.mpr ⟨number, clock, rfl⟩] at none
      cases none

/-- Where an expression cannot be read any further. -/
theorem read_halts {source : String} {error : GrammarError} (troubled : (read source).trouble = some error) :
    ∃ before rest, source.toList = before ++ rest ∧ error.source = source ∧
      error.position = some before.length ∧ (∀ c ∈ rest.head?, Text.isBlank c = false) ∧
      Halts ((read source).base = .now)
        (ExpressionText (read source).base (read source).adjustments) rest error.cause before := by
  obtain ⟨gap, blanks, whole⟩ := exists_blanks source.toList
  rcases start : readBase (Text.dropBlank source.toList) with ⟨base, behind⟩
  rcases more : readAdjustments (base == .now) behind with ⟨adjustments, trouble⟩
  obtain ⟨⟨text, written, split⟩, noClock⟩ := readBase_sound start
  have reading : read source = ⟨base, adjustments, (read source).trouble⟩ := by
    simp only [read, start, more]
  simp only [read, start, more, Option.map_eq_some_iff] at troubled
  obtain ⟨⟨cause, rest⟩, rfl, rfl⟩ := troubled
  obtain ⟨before, split', visible, halts⟩ := readAdjustments_halts more
  have whole' : source.toList = gap ++ (text ++ before) ++ rest := by
    rw [whole, split, split']
    simp only [List.append_assoc]
  refine ⟨gap ++ (text ++ before), rest, whole', rfl, ?_, visible, ?_⟩
  · rw [whole', List.length_append, Nat.add_sub_cancel]
  · rw [reading, ← List.append_assoc]
    refine halts.prepend ?_ ?_
    · rintro read ⟨later, rfl⟩ leading
      rw [split', List.append_assoc] at split
      rw [List.append_assoc]
      have visible : ∀ c ∈ (text ++ (read ++ (later ++ rest))).head?, Text.isBlank c = false := by
        rw [← split]
        exact fun c first => isBlank_head?_dropBlank _ first
      refine leading.expression blanks written visible ?_
      rw [← split]
      exact noClock
    · intro allowed
      obtain rfl : base = .now := beq_iff_eq.mp allowed
      cases written
      rw [List.append_nil]
      exact ⟨rfl, blanks⟩

/-- No adjustment stands where none can be read. -/
theorem not_amountText_of_amount? (nothing : amount? rest = none) (amount : Amount) (text tail : List Char)
    (grammar : AmountText amount text) : rest ≠ text ++ tail := by
  rintro rfl
  cases grammar with
  | quantity unit nonempty number blanks plural =>
    simp only [List.append_assoc, amount?, quantity?_word unit nonempty number blanks] at nothing
    cases nothing
  | clock clock =>
    rw [amount?, quantity?_clock clock, clock?_eq_some_iff.mpr ⟨_, clock, rfl⟩] at nothing
    cases nothing

/-! ## Errors -/

/-- An error of the grammar is reported when all that stands before it has been reckoned. -/
theorem evaluate_eq_grammar {now : Instant} {source : String} {error : GrammarError}
    (failed : evaluate now source = .error (.grammar error)) : (read source).trouble = some error ∧
      ∃ start reached, (read source).base.instant now = .ok start ∧
        adjust start (read source).adjustments = .ok reached := by
  rw [evaluate] at failed
  rcases bind_eq_error_iff.mp failed with never | ⟨start, started, failed⟩
  · obtain ⟨_, -, never⟩ := mapError_eq_error_iff.mp never
    cases never
  · rcases bind_eq_error_iff.mp failed with never | ⟨reached, done, failed⟩
    · obtain ⟨_, -, never⟩ := mapError_eq_error_iff.mp never
      cases never
    · refine ⟨?_, start, reached, mapError_eq_ok_iff.mp started, mapError_eq_ok_iff.mp done⟩
      split at failed
      · next error' troubled =>
        cases failed
        exact troubled
      · cases failed

theorem evaluate_of_expression {now start reached : Instant} {base : Base} {adjustments : List Adjustment}
    (grammar : ExpressionText base adjustments text) (started : base.instant now = .ok start)
    (done : adjust start adjustments = .ok reached) :
    evaluate now (String.ofList text) = .ok reached := by
  have reading : read (String.ofList text) = ⟨base, adjustments, none⟩ := by
    apply read_complete
    rwa [String.toList_ofList]
  rw [evaluate_of_reading reading, started]
  exact mapError_eq_ok_iff.mpr done

/-- **An error of the grammar points at the first place that cannot be read.** The place lies within the
text or at its end, no blank stands there, and the message quotes the text from there on. If a sign is
missing, something other than a sign stands there, and the text before the place denotes an instant. If an
adjustment is missing, none begins there, and before the place there are only blanks, or a text that
denotes an instant, one sign and perhaps blanks. -/
theorem evaluate_grammarError (now : Instant) (source : String) (error : GrammarError)
    (failed : evaluate now source = .error (.grammar error)) :
    error.source = source ∧ ∃ place, error.position = some place ∧ place ≤ source.toList.length ∧
      (∀ c ∈ source.toList[place]?, Text.isBlank c = false) ∧
      (error.cause = .operatorExpected ∧
          error.message = "operator expected, got '" ++ String.ofList (source.toList.drop place) ++ "'" ∧
          (∃ c, source.toList[place]? = some c ∧ c ≠ '+' ∧ c ≠ '-') ∧
          (∃ reached, evaluate now (String.ofList (source.toList.take place)) = .ok reached) ∨
        error.cause = .adjustmentExpected ∧
          error.message =
            "date adjustment expected, got '" ++ String.ofList (source.toList.drop place) ++ "'" ∧
          (Blanks (source.toList.take place) ∨ ∃ before sign inner,
            source.toList.take place = before ++ sign :: inner ∧ (sign = '+' ∨ sign = '-') ∧ Blanks inner ∧
              ∃ reached, evaluate now (String.ofList before) = .ok reached) ∧
          ∀ amount text tail, AmountText amount text → source.toList.drop place ≠ text ++ tail) := by
  obtain ⟨troubled, start, reached, started, done⟩ := evaluate_eq_grammar failed
  obtain ⟨before, rest, whole, rfl, place, visible, halts⟩ := read_halts troubled
  have front : error.source.toList.take before.length = before := by rw [whole, List.take_left]
  have behind : error.source.toList.drop before.length = rest := by rw [whole, List.drop_left]
  have here : error.source.toList[before.length]? = rest.head? := by
    rw [← behind, List.head?_drop]
  have within : before.length ≤ error.source.toList.length := by
    rw [whole, List.length_append]
    exact Nat.le_add_right _ _
  have remainder : error.remainder = String.ofList rest := by
    rw [GrammarError.remainder, place, Option.getD_some, behind]
  refine ⟨rfl, before.length, place, within, by rwa [here], ?_⟩
  rw [front, behind, here]
  rcases error with ⟨cause, position, source⟩
  dsimp only at *
  cases halts with
  | operator grammar first plus minus =>
    refine .inl ⟨rfl, ?_, ⟨_, first, plus, minus⟩, reached, evaluate_of_expression grammar started done⟩
    rw [GrammarError.message, remainder]
  | adjustment grammar signed blanks nothing =>
    refine .inr ⟨rfl, ?_, .inr ⟨_, _, _, rfl, signed, blanks, reached, ?_⟩, not_amountText_of_amount? nothing⟩
    · rw [GrammarError.message, remainder]
    · exact evaluate_of_expression grammar started done
  | start _ blanks nothing =>
    refine .inr ⟨rfl, ?_, .inl blanks, not_amountText_of_amount? nothing⟩
    rw [GrammarError.message, remainder]

/-- A second number without a sign, and a unit that there is not. -/
theorem evaluate_grammarError_weeks :
    let now := Instant.midnight ⟨2021, 1, 1, by decide⟩
    let unsigned : GrammarError := ⟨.operatorExpected, some 6, "1 day 1 day"⟩
    let unknown : GrammarError := ⟨.adjustmentExpected, some 8, "1 day + 2 weeks"⟩
    (evaluate now "1 day 1 day" = .error (.grammar unsigned) ∧
      unsigned.message = "operator expected, got '1 day'" ∧ ∃ reached, evaluate now "1 day " = .ok reached) ∧
    evaluate now "1 day + 2 weeks" = .error (.grammar unknown) ∧
      unknown.message = "date adjustment expected, got '2 weeks'" ∧
      ∀ amount text tail, AmountText amount text → "2 weeks".toList ≠ text ++ tail := by
  intro now unsigned unknown
  have failed : evaluate now "1 day 1 day" = .error (.grammar unsigned) := by decide +kernel
  have failed' : evaluate now "1 day + 2 weeks" = .error (.grammar unknown) := by decide +kernel
  constructor
  · obtain ⟨-, place, same, -, -, outcome⟩ := evaluate_grammarError now _ _ failed
    cases same
    rcases outcome with ⟨-, message, -, accepted⟩ | ⟨never, -⟩
    · exact ⟨failed, message, accepted⟩
    · cases never
  · obtain ⟨-, place, same, -, -, outcome⟩ := evaluate_grammarError now _ _ failed'
    cases same
    rcases outcome with ⟨never, -⟩ | ⟨-, message, -, nothing⟩
    · cases never
    · exact ⟨failed', message, nothing⟩

end IssueBoard.Calendar
