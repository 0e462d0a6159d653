import IssueBoard.Proofs.Script.Characters
import IssueBoard.Proofs.Script.Layout

/-! # Indented sources

Spaces in front of every line of a source change the columns of its lines, and nothing else that is read from
it, unless a text literal goes over the end of a line.
-/

namespace IssueBoard.Script

variable {α β : Type}

/-- A text is its first line and what stands behind it. -/
theorem exists_line (cs : List Char) :
    ∃ line tail, cs = line ++ tail ∧ (∀ c ∈ line, isFeed c = false) ∧ IsTail isFeed tail := by
  induction cs with
  | nil => exact ⟨[], [], rfl, List.forall_mem_nil _, nofun⟩
  | cons c cs ih =>
    cases feed : isFeed c with
    | true =>
      refine ⟨[], c :: cs, rfl, List.forall_mem_nil _, fun t same => ?_⟩
      cases same
      exact feed
    | false =>
      obtain ⟨line, tail, rfl, inside, ends⟩ := ih
      exact ⟨c :: line, tail, rfl, List.forall_mem_cons.mpr ⟨feed, inside⟩, ends⟩

/-! ## Spaces in front of lines -/

/-- A text with spaces put in front of each of its lines. -/
def indented (k : Nat) : (lineStart : Bool) → List Char → List Char
  | _, [] => []
  | lineStart, c :: rest =>
    (if lineStart then List.replicate k ' ' else []) ++ c :: indented k (isFeed c) rest

section

variable (k : Nat)

theorem indented_feed (rest : List Char) :
    indented k false ('\n' :: rest) = '\n' :: indented k true rest := rfl

theorem indented_cons {c : Char} (other : isFeed c = false) (rest : List Char) :
    indented k false (c :: rest) = c :: indented k false rest := by
  rw [indented, other]
  rfl

theorem indented_true {cs : List Char} (filled : cs ≠ []) :
    indented k true cs = List.replicate k ' ' ++ indented k false cs := by
  cases cs with
  | nil => exact absurd rfl filled
  | cons c rest => rfl

/-- The spaces at the start of the line are those that are put there, or there is no line. -/
theorem exists_indented_true (cs : List Char) :
    ∃ m, (m = k ∨ cs = []) ∧ indented k true cs = List.replicate m ' ' ++ indented k false cs := by
  by_cases filled : cs = []
  · exact ⟨0, .inr filled, by rw [filled]; rfl⟩
  · exact ⟨k, .inl rfl, indented_true k filled⟩

theorem indented_append {line : List Char} (inside : ∀ c ∈ line, isFeed c = false) (rest : List Char) :
    indented k false (line ++ rest) = line ++ indented k false rest := by
  induction line with
  | nil => rfl
  | cons c line ih =>
    obtain ⟨here, inside⟩ := List.forall_mem_cons.mp inside
    rw [List.cons_append, indented_cons k here, ih inside, List.cons_append]

theorem head_indented (cs : List Char) : (indented k false cs).head? = cs.head? := by
  cases cs <;> rfl

theorem isEmpty_indented (lineStart : Bool) (cs : List Char) :
    (indented k lineStart cs).isEmpty = cs.isEmpty := by
  cases cs with
  | nil => rfl
  | cons c rest => cases lineStart <;> simp [indented]

theorem isTail_indented {tail : List Char} (ends : IsTail isFeed tail) :
    IsTail isFeed (indented k false tail) := by
  rw [IsTail, head_indented]
  exact ends

/-- What a reader leaves that stays in the line. -/
theorem takes_of_stays {read : Reader Char α}
    (stays : ∀ tail, IsTail isFeed tail → ∀ cs, Stays isFeed tail read cs) {cs rest : List Char} {x : α}
    (found : read cs = some (x, rest)) : Takes isFeed cs rest :=
  (stays [] nofun cs).left x rest found

/-- A reader that stays in the line does not see spaces in front of other lines. -/
theorem read_indented {read : Reader Char α}
    (stays : ∀ tail, IsTail isFeed tail → ∀ cs, Stays isFeed tail read cs) (cs : List Char) :
    read (indented k false cs) = (read cs).map fun (x, rest) => (x, indented k false rest) := by
  obtain ⟨line, tail, rfl, inside, ends⟩ := exists_line cs
  rw [indented_append k inside, (stays _ (isTail_indented k ends) line).append, (stays _ ends line).append]
  rcases found : read line with _ | ⟨x, rest⟩
  · rfl
  · obtain ⟨used, -, rfl⟩ := takes_of_stays stays found
    simp [grow, indented_append k (List.forall_mem_append.mp inside).2]

end

/-! ## Text literals -/

/-- A text with spaces put behind each end of a line. -/
def spread (k : Nat) (cs : List Char) : List Char :=
  cs.flatMap fun c => if isFeed c then c :: List.replicate k ' ' else [c]

section

variable (k : Nat)

theorem spread_feed (cs : List Char) :
    spread k ('\n' :: cs) = '\n' :: (List.replicate k ' ' ++ spread k cs) := rfl

theorem spread_cons {c : Char} (other : isFeed c = false) (cs : List Char) :
    spread k (c :: cs) = c :: spread k cs := by
  simp [spread, other]

theorem spread_append (cs rest : List Char) : spread k (cs ++ rest) = spread k cs ++ spread k rest :=
  List.flatMap_append ..

theorem spread_eq_self {cs : List Char} (inside : ∀ c ∈ cs, isFeed c = false) : spread k cs = cs := by
  induction cs with
  | nil => rfl
  | cons c cs ih =>
    obtain ⟨here, inside⟩ := List.forall_mem_cons.mp inside
    rw [spread_cons k here, ih inside]

variable {quote : Char} {triple : Bool}

theorem textBody_escape (c : Char) (rest : List Char) : reads (textBody? quote triple) ('\\' :: c :: rest) =
    ((fun body => '\\' :: c :: body) <$> reads (textBody? quote triple)) rest := by
  rw [reads, textBody?]
  exact bare_map (textBody? quote triple) fun _ _ => rfl

theorem textBody_cons {c : Char} {rest : List Char} (plain : c ≠ '\\' ∨ rest = []) :
    reads (textBody? quote triple) (c :: rest) =
      if c == quote then
        if triple then
          if rest.take 2 == [quote, quote] then some ([], rest.drop 2)
          else ((c :: ·) <$> reads (textBody? quote triple)) rest
        else some ([], rest)
      else if c == '\n' && !triple then none
      else ((c :: ·) <$> reads (textBody? quote triple)) rest := by
  rw [reads, textBody?]
  · split
    · split
      · split
        · rfl
        · exact bare_map (textBody? quote triple) fun _ _ => rfl
      · rfl
    · split
      · rfl
      · exact bare_map (textBody? quote triple) fun _ _ => rfl
  · rintro d more rfl rfl
    rcases plain with never | never
    · exact never rfl
    · cases never

/-- Spaces are a part of any body that they stand in. -/
theorem textBody_spaces (space : quote ≠ ' ') (m : Nat) (cs : List Char) :
    reads (textBody? quote triple) (List.replicate m ' ' ++ cs) =
      (reads (textBody? quote triple) cs).map fun (body, rest) => (List.replicate m ' ' ++ body, rest) := by
  induction m with
  | zero => simp
  | succ m ih =>
    rw [List.replicate_succ, List.cons_append, textBody_cons (.inl (by decide)),
      if_neg (by simpa using space.symm), if_neg nofun]
    simp only [Functor.map, StateT.map, ih]
    cases reads (textBody? quote triple) cs <;> rfl

theorem textBody_indented_true (space : quote ≠ ' ') (cs : List Char) :
    reads (textBody? quote triple) (indented k true cs) =
      (reads (textBody? quote triple) (indented k false cs)).map fun (body, rest) =>
        (List.replicate k ' ' ++ body, rest) := by
  cases cs with
  | nil => simp [indented, reads, textBody?, bare]
  | cons c cs => rw [indented_true k (List.cons_ne_nil c cs), textBody_spaces space]

theorem take_indented (feed : isFeed quote = false) (rest : List Char) :
    ((indented k false rest).take 2 == [quote, quote]) = (rest.take 2 == [quote, quote]) := by
  rcases rest with _ | ⟨c, _ | ⟨d, rest⟩⟩
  · rfl
  · cases isFeed c <;> rfl
  · cases here : isFeed c with
    | true =>
      have other : (c == quote) = false := by
        rw [beq_eq_false_iff_ne]
        rintro rfl
        exact absurd feed (by simp [here])
      simp [indented, other]
    | false => simp [indented, here]

/-- What is read of a body, with spaces behind the ends of lines. -/
def widened (found : Option (List Char × List Char)) : Option (List Char × List Char) :=
  found.map fun (body, rest) => (spread k body, indented k false rest)

/-- A body goes on behind some characters of it as it did. -/
theorem textBody_behind (space : quote ≠ ' ') {word rest : List Char} (inside : ∀ d ∈ word, isFeed d = false)
    (c : Char) (same : reads (textBody? quote triple) (indented k false rest) =
      widened k (reads (textBody? quote triple) rest)) :
    ((fun body => word ++ c :: body) <$> reads (textBody? quote triple)) (indented k (isFeed c) rest) =
      widened k (((fun body => word ++ c :: body) <$> reads (textBody? quote triple)) rest) := by
  have spread_word (body : List Char) : spread k (word ++ c :: body) = word ++ spread k (c :: body) := by
    rw [spread_append, spread_eq_self k inside]
  cases here : isFeed c with
  | true =>
    cases isFeed_iff.mp here
    simp only [Functor.map, StateT.map, textBody_indented_true k space, same, widened]
    cases reads (textBody? quote triple) rest with
    | none => rfl
    | some => simp [spread_word, spread_feed]
  | false =>
    simp only [Functor.map, StateT.map, same, widened]
    cases reads (textBody? quote triple) rest with
    | none => rfl
    | some => simp [spread_word, spread_cons k here]

/-- A body is closed where it was, and has spaces behind the ends of its lines. -/
theorem textBody_indented (feed : isFeed quote = false) (space : quote ≠ ' ') (cs : List Char) :
    reads (textBody? quote triple) (indented k false cs) = widened k (reads (textBody? quote triple) cs) := by
  rcases cs with _ | ⟨c, rest⟩
  · simp [indented, reads, textBody?, bare, widened]
  by_cases escape : c = '\\' ∧ rest ≠ []
  · obtain ⟨rfl, filled⟩ := escape
    obtain ⟨c, rest, rfl⟩ := List.exists_cons_of_ne_nil filled
    change reads (textBody? quote triple) ('\\' :: c :: indented k (isFeed c) rest) = _
    rw [textBody_escape, textBody_escape]
    have slash : ∀ d ∈ ['\\'], isFeed d = false := List.forall_mem_singleton.mpr rfl
    exact textBody_behind k space slash c (textBody_indented feed space rest)
  have plain : c ≠ '\\' ∨ rest = [] := by rwa [not_and_or, not_not] at escape
  have plain' : c ≠ '\\' ∨ indented k (isFeed c) rest = [] := plain.imp_right fun same => by rw [same]; rfl
  have step : ((c :: ·) <$> reads (textBody? quote triple)) (indented k (isFeed c) rest) =
      widened k (((c :: ·) <$> reads (textBody? quote triple)) rest) :=
    textBody_behind k space (List.forall_mem_nil _) c (textBody_indented feed space rest)
  change reads (textBody? quote triple) (c :: indented k (isFeed c) rest) = _
  rw [textBody_cons plain, textBody_cons plain']
  by_cases closes : c == quote
  · cases beq_iff_eq.mp closes
    rw [feed] at step ⊢
    rw [if_pos closes, if_pos closes, take_indented k feed]
    split
    · split
      next closed =>
        obtain ⟨rest, rfl⟩ : ∃ more, rest = quote :: quote :: more := by
          rw [beq_iff_eq] at closed
          rcases rest with _ | ⟨d, _ | ⟨e, more⟩⟩ <;> cases closed
          exact ⟨more, rfl⟩
        rw [indented_cons k feed, indented_cons k feed]
        rfl
      next => exact step
    · rfl
  · rw [if_neg closes, if_neg closes]
    split
    · rfl
    · exact step
termination_by cs.length

end

/-- A body stands at the front of what it is read from, and behind it there are quotes. -/
theorem textBody_prefix {quote : Char} {triple : Bool} {cs body rest : List Char}
    (found : reads (textBody? quote triple) cs = some (body, rest)) :
    ∃ closing, cs = body ++ closing ++ rest ∧ closing.getLast? = some quote := by
  induction size : cs.length using Nat.strongRecOn generalizing cs body with
  | _ n ih =>
    subst size
    rcases cs with _ | ⟨c, cs⟩
    · simp [reads, textBody?, bare] at found
    have step {f : List Char → List Char} {cs' : List Char} (shorter : cs'.length < (c :: cs).length)
        (found : (f <$> reads (textBody? quote triple)) cs' = some (body, rest)) :
        ∃ inner closing, f inner = body ∧ cs' = inner ++ closing ++ rest ∧ closing.getLast? = some quote := by
      obtain ⟨⟨inner, after⟩, own, same⟩ := Option.bind_eq_some_iff.mp found
      cases same
      obtain ⟨closing, same⟩ := ih _ shorter own rfl
      exact ⟨inner, closing, rfl, same⟩
    by_cases escape : c = '\\' ∧ cs ≠ []
    · obtain ⟨rfl, filled⟩ := escape
      obtain ⟨d, cs, rfl⟩ := List.exists_cons_of_ne_nil filled
      rw [textBody_escape] at found
      obtain ⟨inner, closing, rfl, rfl, last⟩ := step (Nat.lt_succ_of_lt (Nat.lt_succ_self _)) found
      exact ⟨closing, rfl, last⟩
    rw [textBody_cons (by rwa [not_and_or, not_not] at escape)] at found
    split at found
    next closes =>
      cases beq_iff_eq.mp closes
      split at found
      · split at found
        next closed =>
          cases found
          refine ⟨quote :: cs.take 2, by simp, ?_⟩
          rw [beq_iff_eq.mp closed]
          rfl
        next =>
          obtain ⟨inner, closing, rfl, rfl, last⟩ := step (Nat.lt_succ_self _) found
          exact ⟨closing, rfl, last⟩
      · cases found
        exact ⟨[quote], rfl, rfl⟩
    next =>
      split at found
      · cases found
      · obtain ⟨inner, closing, rfl, rfl, last⟩ := step (Nat.lt_succ_self _) found
        exact ⟨closing, rfl, last⟩

section

variable (k : Nat)

theorem unescape_spaces (m : Nat) (cs : List Char) :
    (unescape (List.replicate m ' ' ++ cs)).isSome = (unescape cs).isSome := by
  induction m with
  | zero => rfl
  | succ m ih =>
    rw [List.replicate_succ, List.cons_append, unescape, Option.isSome_map, ih]
    intro _ _ slash
    exact absurd slash (by decide)

end

/-- The end of a line is a part of no number. -/
theorem hexChar_feed {digits : List Char} (feed : '\n' ∈ digits) : Text.hexChar? digits = none := by
  have stuck (digits : List Char) :
      digits.foldl (fun value c => do return 16 * (← value) + (← Text.hexValue? c)) none = none := by
    induction digits with
    | nil => rfl
    | cons c digits ih => exact ih
  obtain ⟨before, behind, rfl⟩ := List.append_of_mem feed
  rw [Text.hexChar?, Text.hexNumber?, List.foldl_append, List.foldl_cons]
  have here (value : Option Nat) : (do return 16 * (← value) + (← Text.hexValue? '\n')) = none := by
    cases value <;> rfl
  rw [here, stuck]
  rfl

section

variable (k : Nat)

/-- The first characters of a body are the same up to the first end of a line. -/
theorem take_spread (n : Nat) (cs : List Char) :
    '\n' ∈ cs.take n ∧ '\n' ∈ (spread k cs).take n ∨
      (spread k cs).take n = cs.take n ∧ (spread k cs).drop n = spread k (cs.drop n) := by
  induction n generalizing cs with
  | zero => exact .inr ⟨rfl, rfl⟩
  | succ n ih =>
    cases cs with
    | nil => exact .inr ⟨rfl, rfl⟩
    | cons c cs =>
      cases here : isFeed c with
      | true =>
        cases isFeed_iff.mp here
        exact .inl ⟨List.mem_cons_self, List.mem_cons_self⟩
      | false =>
        rw [spread_cons k here]
        obtain ⟨inside, inside'⟩ | ⟨take, drop⟩ := ih cs
        · exact .inl ⟨List.mem_cons_of_mem _ inside, List.mem_cons_of_mem _ inside'⟩
        · exact .inr ⟨by rw [List.take_succ_cons, List.take_succ_cons, take], drop⟩

theorem octal_spread (cs : List Char) :
    ((spread k cs).take 2).takeWhile (isDigitOf 8) = (cs.take 2).takeWhile (isDigitOf 8) ∧
      (spread k cs).drop ((cs.take 2).takeWhile (isDigitOf 8)).length =
        spread k (cs.drop ((cs.take 2).takeWhile (isDigitOf 8)).length) := by
  constructor
  · rcases cs with _ | ⟨c, _ | ⟨d, cs⟩⟩
    · rfl
    · cases here : isFeed c with
      | true => cases isFeed_iff.mp here; rfl
      | false => rw [spread_cons k here]; rfl
    · cases here : isFeed c with
      | true => cases isFeed_iff.mp here; rfl
      | false =>
        rw [spread_cons k here]
        cases next : isFeed d with
        | true => cases isFeed_iff.mp next; rfl
        | false => rw [spread_cons k next]; rfl
  · have plain : ∀ c ∈ (cs.take 2).takeWhile (isDigitOf 8), isFeed c = false := by
      intro c mem
      have digit := List.all_eq_true.mp List.all_takeWhile c mem
      rw [Bool.eq_false_iff, ne_eq, isFeed_iff]
      rintro rfl
      cases digit
    obtain ⟨more, same⟩ := (List.takeWhile_prefix (isDigitOf 8)).trans (List.take_prefix 2 cs)
    revert plain same
    generalize (cs.take 2).takeWhile (isDigitOf 8) = digits
    rintro plain rfl
    rw [spread_append, spread_eq_self k plain, List.drop_left, List.drop_left]

/-- Spaces behind the ends of its lines break no escape of a body. -/
theorem unescape_spread (cs : List Char) : (unescape (spread k cs)).isSome = (unescape cs).isSome := by
  have slash : isFeed '\\' = false := by decide
  have plain {c : Char} (other : ¬(c == '\n') = true) : isFeed c = false := Bool.eq_false_iff.mpr other
  fun_induction unescape cs with
  | case1 => simp [spread, unescape]
  | case2 c rest feed ih =>
    cases beq_iff_eq.mp feed
    rw [spread_cons k slash, spread_feed, unescape, if_pos feed, unescape_spaces, ih]
  | case3 c rest other meant found ih =>
    rw [spread_cons k slash, spread_cons k (plain other), unescape, if_neg other, found]
    simp [ih]
  | case4 c rest other width found long named ih =>
    rw [spread_cons k slash, spread_cons k (plain other), unescape, if_neg other,
      Option.eq_none_iff_forall_ne_some.mpr named, found]
    dsimp only
    -- Digits that go over the end of a line are no digits, with spaces or without.
    obtain ⟨inside, inside'⟩ | ⟨take, drop⟩ := take_spread k width rest
    · rw [hexChar_feed inside, hexChar_feed inside']
      split <;> rfl
    · rw [take, drop, if_pos long]
      cases Text.hexChar? (rest.take width) with
      | none => rfl
      | some meant =>
        revert ih
        cases unescape (spread k (rest.drop width)) <;> cases unescape (rest.drop width) <;> simp
  | case5 c rest other width found short named =>
    rw [spread_cons k slash, spread_cons k (plain other), unescape, if_neg other,
      Option.eq_none_iff_forall_ne_some.mpr named, found]
    dsimp only
    obtain ⟨inside, inside'⟩ | ⟨take, drop⟩ := take_spread k width rest
    · rw [hexChar_feed inside']
      split <;> rfl
    · rw [take, if_neg short]
  | case6 c rest other octal digits named wide ih =>
    rw [spread_cons k slash, spread_cons k (plain other), unescape, if_neg other,
      Option.eq_none_iff_forall_ne_some.mpr named, Option.eq_none_iff_forall_ne_some.mpr wide]
    dsimp only
    obtain ⟨same, drop⟩ := octal_spread k rest
    rw [if_pos octal, Option.isSome_map, Option.isSome_map, same]
    exact (congrArg (fun cs => (unescape cs).isSome) drop).trans ih
  | case7 c rest other octal is named wide =>
    rw [spread_cons k slash, spread_cons k (plain other), unescape, if_neg other,
      Option.eq_none_iff_forall_ne_some.mpr named, Option.eq_none_iff_forall_ne_some.mpr wide]
    dsimp only
    rw [if_neg octal, if_pos is]
  | case8 c rest other octal is named wide ih =>
    rw [spread_cons k slash, spread_cons k (plain other), unescape, if_neg other,
      Option.eq_none_iff_forall_ne_some.mpr named, Option.eq_none_iff_forall_ne_some.mpr wide]
    dsimp only
    rw [if_neg octal, if_neg is]
    simp [ih]
  | case9 c rest single ih =>
    cases here : isFeed c with
    | true =>
      cases isFeed_iff.mp here
      rw [spread_feed, unescape, Option.isSome_map, Option.isSome_map, unescape_spaces, ih]
      exact nofun
    | false =>
      rw [spread_cons k here, unescape, Option.isSome_map, Option.isSome_map, ih]
      rintro d more rfl same
      cases rest with
      | nil => cases same
      | cons e rest => exact single e rest rfl rfl

end

/-! ## Tokens -/

theorem reads_text (raw : Bool) (quote : Char) (rest : List Char) : reads (text? raw) (quote :: rest) =
    (reads (textBody? quote (rest.take 2 == [quote, quote]))
      (if rest.take 2 == [quote, quote] then rest.drop 2 else rest)).bind fun (body, after) =>
        (if raw then some body else unescape body).map fun content =>
          (.text (String.ofList content), after) := by
  rw [reads, text?]
  simp only [reads, bind]
  generalize textBody? quote (rest.take 2 == [quote, quote])
    (if rest.take 2 == [quote, quote] then rest.drop 2 else rest) = found
  rcases found with _ | ⟨body, after⟩
  · rfl
  · cases raw with
    | true => rfl
    | false => cases same : unescape body <;> simp [bare, same, Rest.behind, Rest.trans]

/-- Whether a character opens a text. -/
def isQuote (c : Char) : Bool := c == '"' || c == '\x27'

/-- What the characters at the start of a name mean if a quote stands right behind them. -/
def quotedLetters? (c : Char) (cs : List Char) : Option (Option Bool) :=
  if (cs.dropWhile continuesName).head?.any isQuote then textLetters? (c :: cs.takeWhile continuesName)
  else none

theorem reads_nameOrText (c : Char) (cs : List Char) : reads nameOrText? (c :: cs) =
    match quotedLetters? c cs with
    | some (some raw) => reads (text? raw) (cs.dropWhile continuesName)
    | some none => none
    | none => (wordOrName? (String.ofList (c :: cs.takeWhile continuesName))).map
        (·, cs.dropWhile continuesName) := by
  rw [reads, nameOrText?]
  change bare (match quotedLetters? c cs with
    | some (some raw) => _
    | some none => _
    | none => _) = _
  rcases quotedLetters? c cs with _ | _ | raw
  · simp only
    cases wordOrName? (String.ofList (c :: cs.takeWhile continuesName)) <;> rfl
  · rfl
  · exact bare_last fun _ _ _ => rfl

theorem reads_token (c : Char) (rest : List Char) : reads token? (c :: rest) =
    if c == '"' || c == '\x27' then reads (text? false) (c :: rest)
    else if startsName c then reads nameOrText? (c :: rest)
    else if c.isDigit || (c == '.' && rest.head?.any Char.isDigit) then
      (reads number? (c :: rest)).filter fun (_, after) => after.length < (c :: rest).length
    else (Token.mark <$> reads mark?) (c :: rest) := by
  rw [reads, token?]
  split
  · rfl
  split
  · rfl
  split
  · rw [reads]
    rcases number? (c :: rest) with _ | ⟨token, after⟩
    · rfl
    · simp only [bare, Option.map_some, Option.filter_some, decide_eq_true_eq]
      split <;> rfl
  · exact bare_map mark? fun _ _ => rfl

/-! ### No token is a change of the indentation -/

section

variable {cs rest : List Char} {t : Token}

theorem decimalToken_plain {whole : List Char} {fraction : Option (List Char)} {exponent : Option Int}
    (found : decimalToken? whole fraction exponent = some t) : t.isLayout = false := by
  rw [decimalToken?] at found
  split at found
  · split at found
    · cases found
    · split at found
      · cases found
      · cases found
        rfl
  · cases found
    rfl

theorem number_plain (found : reads number? cs = some (t, rest)) : t.isLayout = false := by
  have decimal (found : reads decimalNumber? cs = some (t, rest)) : t.isLayout = false := by
    rw [reads_decimalNumber] at found
    obtain ⟨_, _, -, found⟩ := bind_eq_some found
    obtain ⟨_, _, -, found⟩ := bind_eq_some found
    obtain ⟨_, _, -, found⟩ := bind_eq_some found
    obtain ⟨_, _, -, found⟩ := bind_eq_some found
    obtain ⟨_, _, -, found⟩ := bind_eq_some found
    exact decimalToken_plain (given_eq_some found)
  by_cases based : ∃ letter more base, cs = '0' :: letter :: more ∧ baseOf? letter = some base
  · obtain ⟨letter, more, base, rfl, is⟩ := based
    rw [number_based is, reads_basedNumber] at found
    obtain ⟨_, _, -, found⟩ := bind_eq_some found
    obtain ⟨digits, _, -, found⟩ := bind_eq_some found
    obtain ⟨_, _, -, found⟩ := bind_eq_some found
    have found := given_eq_some found
    split at found <;> cases found
    rfl
  · refine decimal ((number_decimal fun letter more same => ?_).symm.trans found)
    rw [Option.eq_none_iff_forall_ne_some]
    exact fun base is => based ⟨letter, more, base, same, is⟩

theorem wordOrName_plain {name : String} (found : wordOrName? name = some t) : t.isLayout = false := by
  rw [wordOrName?] at found
  split at found
  · cases found
    rfl
  · split at found
    · cases found
      rfl
    · split at found <;> cases found
      rfl

theorem text_plain {raw : Bool} (found : reads (text? raw) cs = some (t, rest)) : ∃ s, t = .text s := by
  cases cs with
  | nil => cases found
  | cons quote cs =>
    rw [reads_text] at found
    obtain ⟨⟨body, after⟩, -, found⟩ := Option.bind_eq_some_iff.mp found
    obtain ⟨content, -, same⟩ := Option.map_eq_some_iff.mp found
    cases same
    exact ⟨_, rfl⟩

theorem token_plain (found : reads token? cs = some (t, rest)) : t.isLayout = false := by
  cases cs with
  | nil => cases found
  | cons c cs =>
    rw [reads_token] at found
    split at found
    · obtain ⟨s, rfl⟩ := text_plain found
      rfl
    split at found
    · rw [reads_nameOrText] at found
      split at found
      · obtain ⟨s, rfl⟩ := text_plain found
        rfl
      · cases found
      · obtain ⟨own, named, same⟩ := Option.map_eq_some_iff.mp found
        cases same
        exact wordOrName_plain named
    split at found
    · exact number_plain (Option.eq_some_of_filter_eq_some found)
    · obtain ⟨mark, -, rfl⟩ := map_eq_some found
      rfl

end

/-! ### No token ends with the end of a line -/

/-- Whether what a reader has taken does not end with the end of a line. -/
def StopsInside (cs rest : List Char) : Prop := ∃ used, cs = used ++ rest ∧ used.getLast? ≠ some '\n'

theorem StopsInside.behind {before cs rest : List Char} (inside : ∀ c ∈ before, isFeed c = false)
    (stops : StopsInside cs rest) : StopsInside (before ++ cs) rest := by
  obtain ⟨used, rfl, last⟩ := stops
  refine ⟨before ++ used, (List.append_assoc ..).symm, ?_⟩
  rw [List.getLast?_append]
  cases found : used.getLast? with
  | some c => rwa [found] at last
  | none =>
    intro feed
    exact absurd (inside _ (List.mem_of_getLast? feed)) (by decide)

theorem stopsInside_of_takes {cs rest : List Char} (takes : Takes isFeed cs rest) : StopsInside cs rest := by
  obtain ⟨used, inside, rfl⟩ := takes
  refine ⟨used, rfl, fun feed => ?_⟩
  exact absurd (inside _ (List.mem_of_getLast? feed)) (by decide)

/-- A text ends with a quote. -/
theorem stopsInside_text {raw : Bool} {quote : Char} {rest after : List Char} {t : Token}
    (is : isQuote quote = true) (found : reads (text? raw) (quote :: rest) = some (t, after)) :
    StopsInside (quote :: rest) after := by
  rw [reads_text] at found
  obtain ⟨⟨body, left⟩, closed, found⟩ := Option.bind_eq_some_iff.mp found
  obtain ⟨content, -, same⟩ := Option.map_eq_some_iff.mp found
  cases same
  obtain ⟨closing, start, last⟩ := textBody_prefix closed
  obtain ⟨before, whole⟩ : (body ++ closing ++ after) <:+ rest := by
    rw [← start]
    split
    · exact List.drop_suffix 2 rest
    · exact List.suffix_rfl
  refine ⟨quote :: before ++ body ++ closing, by simp [← whole], ?_⟩
  rw [List.getLast?_append, last]
  rintro ⟨⟩
  cases is

theorem stopsInside_token {c : Char} {rest after : List Char} {t : Token} (feed : isFeed c = false)
    (found : reads token? (c :: rest) = some (t, after)) : StopsInside (c :: rest) after := by
  rw [reads_token] at found
  split at found
  next quoted => exact stopsInside_text quoted found
  split at found
  next =>
    have inside : ∀ d ∈ c :: rest.takeWhile continuesName, isFeed d = false := by
      refine List.forall_mem_cons.mpr ⟨feed, fun d mem => ?_⟩
      have name := List.all_eq_true.mp List.all_takeWhile d mem
      rw [Bool.eq_false_iff, ne_eq, isFeed_iff]
      rintro rfl
      exact absurd name (by decide)
    have whole : c :: rest = (c :: rest.takeWhile continuesName) ++ rest.dropWhile continuesName := by
      rw [List.cons_append, List.takeWhile_append_dropWhile]
    rw [reads_nameOrText] at found
    split at found
    next raw kind =>
      rw [quotedLetters?] at kind
      split at kind
      next quoted =>
        obtain ⟨quote, more, left⟩ : ∃ quote more, rest.dropWhile continuesName = quote :: more := by
          cases left : rest.dropWhile continuesName with
          | nil => rw [left] at quoted; cases quoted
          | cons quote more => exact ⟨quote, more, rfl⟩
        rw [left] at quoted whole found
        rw [whole]
        exact (stopsInside_text quoted found).behind inside
      next => cases kind
    next => cases found
    next =>
      obtain ⟨own, -, same⟩ := Option.map_eq_some_iff.mp found
      cases same
      exact stopsInside_of_takes ⟨_, inside, whole⟩
  split at found
  next =>
    exact stopsInside_of_takes (takes_of_stays (fun tail ends => stays_number ends)
      (Option.eq_some_of_filter_eq_some found))
  next =>
    obtain ⟨mark, own, -⟩ := map_eq_some found
    exact stopsInside_of_takes (takes_of_stays (fun tail ends => stays_mark ends) own)

/-! ### Tokens of an indented source -/

theorem rel_mono {r r' : α → β → Prop} (more : ∀ x y, r x y → r' x y) {found : Option α} {found' : Option β}
    (rel : Option.Rel r found found') : Option.Rel r' found found' := by
  cases rel with
  | none => exact .none
  | some same => exact .some (more _ _ same)

/-- Whether what is read from an indented source is what is read from the source, with the same left. A text
over several lines may be another one. -/
def Reread (k : Nat) (cs : List Char) (found found' : Token × List Char) : Prop :=
  found'.2 = indented k false found.2 ∧ ∃ used, cs = used ++ found.2 ∧
    (found'.1 = found.1 ∨ (∃ s s', found.1 = .text s ∧ found'.1 = .text s') ∧ '\n' ∈ used)

section

variable (k : Nat)

theorem Reread.behind {k : Nat} {before cs : List Char} {found found' : Token × List Char}
    (same : Reread k cs found found') : Reread k (before ++ cs) found found' := by
  obtain ⟨left, used, rfl, same⟩ := same
  refine ⟨left, before ++ used, (List.append_assoc ..).symm, same.imp_right fun ⟨texts, feed⟩ => ⟨texts, ?_⟩⟩
  exact List.mem_append_right before feed

theorem reread_of_stays {read : Reader Char Token}
    (stays : ∀ tail, IsTail isFeed tail → ∀ cs, Stays isFeed tail read cs) (cs : List Char) :
    Option.Rel (Reread k cs) (read cs) (read (indented k false cs)) := by
  rw [read_indented k stays]
  cases found : read cs with
  | none => exact .none
  | some found =>
    obtain ⟨used, -, same⟩ := takes_of_stays stays found
    exact .some ⟨rfl, used, same, .inl rfl⟩

omit k in
theorem isFeed_of_isQuote {c : Char} (is : isQuote c = true) : isFeed c = false := by
  rw [isQuote, Bool.or_eq_true, beq_iff_eq, beq_iff_eq] at is
  rcases is with rfl | rfl <;> rfl

/-- The body of a text starts behind one quote or three, wherever its lines go. -/
theorem exists_start {quote : Char} (feed : isFeed quote = false) (rest : List Char) :
    ∃ before start, rest = before ++ start ∧
      (if rest.take 2 == [quote, quote] then rest.drop 2 else rest) = start ∧
      (if rest.take 2 == [quote, quote] then (indented k false rest).drop 2 else indented k false rest) =
        indented k false start := by
  split
  next triple =>
    rw [beq_iff_eq] at triple
    obtain ⟨more, rfl⟩ : ∃ more, rest = quote :: quote :: more := by
      rcases rest with _ | ⟨c, _ | ⟨d, more⟩⟩ <;> cases triple
      exact ⟨more, rfl⟩
    exact ⟨[quote, quote], more, rfl, rfl, by rw [indented_cons k feed, indented_cons k feed]; rfl⟩
  next => exact ⟨[], rest, rfl, rfl, rfl⟩

/-- What a body stands for, which may be nothing. -/
def textContent? (raw : Bool) (body : List Char) : Option (List Char) :=
  if raw then some body else unescape body

theorem content_spread (raw : Bool) (body : List Char) :
    (textContent? raw (spread k body)).isSome = (textContent? raw body).isSome := by
  cases raw with
  | true => rfl
  | false => exact unescape_spread k body

theorem reread_text (raw : Bool) {quote : Char} (is : isQuote quote = true) (rest : List Char) :
    Option.Rel (Reread k (quote :: rest)) (reads (text? raw) (quote :: rest))
      (reads (text? raw) (quote :: indented k false rest)) := by
  have feed := isFeed_of_isQuote is
  have space : quote ≠ ' ' := by
    rintro rfl
    cases is
  obtain ⟨before, start, whole, here, here'⟩ := exists_start k feed rest
  rw [reads_text, reads_text, take_indented k feed, here, here', textBody_indented k feed space]
  cases found : reads (textBody? quote (rest.take 2 == [quote, quote])) start with
  | none => exact .none
  | some closed =>
    obtain ⟨body, after⟩ := closed
    obtain ⟨closing, rfl, -⟩ := textBody_prefix found
    have used : quote :: rest = (quote :: before ++ body ++ closing) ++ after := by
      rw [whole]
      simp
    have same := content_spread k raw body
    change Option.Rel _
      ((textContent? raw body).map fun content => (Token.text (String.ofList content), after))
      ((textContent? raw (spread k body)).map fun content =>
        (Token.text (String.ofList content), indented k false after))
    by_cases broken : '\n' ∈ body
    · cases content : textContent? raw body with
      | none =>
        rw [content, Option.isSome_none, Option.isSome_eq_false_iff, Option.isNone_iff_eq_none] at same
        rw [same]
        exact .none
      | some s =>
        rw [content, Option.isSome_some, Option.isSome_iff_exists] at same
        obtain ⟨s', content'⟩ := same
        rw [content']
        exact .some ⟨rfl, _, used, .inr ⟨⟨_, _, rfl, rfl⟩, by simp [broken]⟩⟩
    · have plain : spread k body = body := spread_eq_self k fun c mem => by
        rw [Bool.eq_false_iff, ne_eq, isFeed_iff]
        rintro rfl
        exact broken mem
      rw [plain]
      cases textContent? raw body with
      | none => exact .none
      | some s => exact .some ⟨rfl, _, used, .inl rfl⟩

theorem reread_nameOrText (c : Char) (rest : List Char) :
    Option.Rel (Reread k (c :: rest)) (reads nameOrText? (c :: rest))
      (reads nameOrText? (c :: indented k false rest)) := by
  have letters := read_indented k (fun tail ends => stays_readRun (p := continuesName) (by decide) ends) rest
  simp only [readRun, Option.map_some, Option.some.injEq, Prod.mk.injEq] at letters
  have same : quotedLetters? c (indented k false rest) = quotedLetters? c rest := by
    rw [quotedLetters?, quotedLetters?, letters.1, letters.2, head_indented]
  have whole : c :: rest = (c :: rest.takeWhile continuesName) ++ rest.dropWhile continuesName := by
    rw [List.cons_append, List.takeWhile_append_dropWhile]
  rw [reads_nameOrText, reads_nameOrText, same, letters.1, letters.2]
  rcases kind : quotedLetters? c rest with _ | _ | raw
  · cases wordOrName? (String.ofList (c :: rest.takeWhile continuesName)) with
    | none => exact .none
    | some t => exact .some ⟨rfl, _, whole, .inl rfl⟩
  · exact .none
  · rw [quotedLetters?] at kind
    split at kind
    next quoted =>
      obtain ⟨quote, more, found⟩ : ∃ quote more, rest.dropWhile continuesName = quote :: more := by
        cases found : rest.dropWhile continuesName with
        | nil => rw [found] at quoted; cases quoted
        | cons quote more => exact ⟨quote, more, rfl⟩
      rw [found] at quoted whole
      have is : isQuote quote = true := quoted
      rw [whole, found, indented_cons k (isFeed_of_isQuote is)]
      exact rel_mono (fun _ _ => Reread.behind) (reread_text k raw is more)
    next => cases kind

theorem reread_token (c : Char) (feed : isFeed c = false) (rest : List Char) :
    Option.Rel (Reread k (c :: rest)) (reads token? (c :: rest))
      (reads token? (c :: indented k false rest)) := by
  rw [reads_token, reads_token, head_indented]
  split
  next quoted => exact reread_text k false quoted rest
  split
  next => exact reread_nameOrText k c rest
  rw [← indented_cons k feed]
  split
  next =>
    have stays (tail : List Char) (ends : IsTail isFeed tail) := stays_number ends
    rw [read_indented k stays]
    cases found : reads number? (c :: rest) with
    | none => exact .none
    | some number =>
      obtain ⟨used, inside, same⟩ := takes_of_stays stays found
      have size : number.2.length < (c :: rest).length ↔
          (indented k false number.2).length < (indented k false (c :: rest)).length := by
        rw [same, indented_append k inside, List.length_append, List.length_append]
        omega
      simp only [Option.map_some, Option.filter_some, decide_eq_true_eq, ← size]
      split
      · exact .some ⟨rfl, used, same, .inl rfl⟩
      · exact .none
  next =>
    exact reread_of_stays k (fun tail ends cs => (stays_mark ends cs).map _) (c :: rest)

end

end IssueBoard.Script
