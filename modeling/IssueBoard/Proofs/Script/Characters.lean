import IssueBoard.Proofs.Reader
import IssueBoard.Script.Token
import Mathlib.Data.List.Find

/-! # Tokens end at the end of a line

Numbers, names and marks are read without a look behind the end of the line, and none of them is a token of
the layout.
-/

namespace IssueBoard.Script

variable {α β : Type}

/-- Whether a character is the end of a line. -/
def isFeed (c : Char) : Bool := c == '\n'

theorem isFeed_iff {c : Char} : isFeed c = true ↔ c = '\n' := beq_iff_eq

/-- What stands behind a line is nothing, or the end of the line. -/
theorem nil_or_feed {tail : List Char} (ends : IsTail isFeed tail) :
    tail = [] ∨ ∃ more, tail = '\n' :: more := by
  cases tail with
  | nil => exact .inl rfl
  | cons c more =>
    cases isFeed_iff.mp (ends c rfl)
    exact .inr ⟨more, rfl⟩

/-! ## Digits -/

section

variable {p : Char → Bool}

theorem digitRun_nil : reads (digitRun? p) [] = some ([], []) := by
  rw [reads, digitRun?]
  rfl

theorem digitRun_joined (c : Char) (rest : List Char) : reads (digitRun? p) ('_' :: c :: rest) =
    if p c then ((c :: ·) <$> reads (digitRun? p)) rest else none := by
  rw [reads, digitRun?]
  split
  · exact bare_map (digitRun? p) fun _ _ => rfl
  · rfl

theorem digitRun_cons {c : Char} {rest : List Char} (single : c ≠ '_') : reads (digitRun? p) (c :: rest) =
    if p c then ((c :: ·) <$> reads (digitRun? p)) rest else some ([], c :: rest) := by
  rw [reads, digitRun?, if_neg (by simpa using single)]
  · split
    · exact bare_map (digitRun? p) fun _ _ => rfl
    · rfl
  · exact fun _ _ same => absurd same single

variable {tail : List Char}

theorem stays_digitRun (feed : p '\n' = false) (ends : IsTail isFeed tail) (cs : List Char) :
    Stays isFeed tail (reads (digitRun? p)) cs := by
  have digit {c : Char} (is : p c = true) : isFeed c = false := by
    rw [Bool.eq_false_iff, ne_eq, isFeed_iff]
    rintro rfl
    exact absurd feed (by simp [is])
  induction cs using digitRun?.induct p with
  | case1 =>
    refine Leaves.of_eq ?_ digitRun_nil (Stays.pure [])
    rcases nil_or_feed ends with rfl | ⟨more, rfl⟩
    · exact digitRun_nil
    · rw [List.nil_append, digitRun_cons (by decide), feed]
      rfl
  | case2 c rest is ih =>
    refine Leaves.of_eq ?_ ?_ ((ih.map (c :: ·)).mono fun _ takes => .cons rfl (.cons (digit is) takes))
    all_goals exact (digitRun_joined c _).trans (if_pos is)
  | case3 c rest is =>
    refine Leaves.of_none ?_ ?_
    all_goals exact (digitRun_joined c _).trans (if_neg is)
  | case4 c rest joined single =>
    cases beq_iff_eq.mp single
    cases rest with
    | cons c rest => exact absurd rfl fun same => joined c rest same rfl
    | nil =>
      have part : reads (digitRun? p) ['_'] = none := by rw [reads, digitRun?]; rfl; simp
      refine Leaves.of_none ?_ part
      rcases nil_or_feed ends with rfl | ⟨more, rfl⟩
      · exact part
      · exact (digitRun_joined _ _).trans (if_neg (by simp [feed]))
  | case5 c rest joined single is ih =>
    have single : c ≠ '_' := by simpa using single
    refine Leaves.of_eq ?_ ?_ ((ih.map (c :: ·)).mono fun _ takes => .cons (digit is) takes)
    all_goals exact (digitRun_cons single).trans (if_pos is)
  | case6 c rest joined single is =>
    have single : c ≠ '_' := by simpa using single
    refine Leaves.of_eq ?_ ?_ (Stays.pure [])
    all_goals exact (digitRun_cons single).trans (if_neg is)

end

/-! ## Numbers -/

section

variable {tail : List Char} (ends : IsTail isFeed tail) (cs : List Char)

include ends

theorem head_any_append {p : Char → Bool} (feed : p '\n' = false) :
    (cs ++ tail).head?.any p = cs.head?.any p := by
  rcases nil_or_feed ends with rfl | ⟨more, rfl⟩
  · rw [List.append_nil]
  · cases cs with
    | nil => exact feed
    | cons => rfl

theorem head_beq_append {c : Char} (other : c ≠ '\n') :
    ((cs ++ tail).head? == some c) = (cs.head? == some c) := by
  rcases nil_or_feed ends with rfl | ⟨more, rfl⟩
  · rw [List.append_nil]
  · cases cs with
    | nil => exact beq_false_of_ne fun same => other (Option.some.inj same).symm
    | cons => rfl

/-- A word stands at the front of a text if it stands at the front of its first line. -/
theorem isPrefixOf_append {word : List Char} (inside : '\n' ∉ word) :
    word.isPrefixOf (cs ++ tail) = word.isPrefixOf cs := by
  rcases nil_or_feed ends with rfl | ⟨more, rfl⟩
  · rw [List.append_nil]
  induction word generalizing cs with
  | nil => cases cs <;> rfl
  | cons c word ih =>
    rw [List.mem_cons, not_or] at inside
    cases cs with
    | nil => simp [List.isPrefixOf, Ne.symm inside.1]
    | cons d cs => rw [List.cons_append, List.isPrefixOf, List.isPrefixOf, ih cs inside.2]

theorem endsNumber_append : endsNumber (cs ++ tail) = endsNumber cs := by
  have words : ∀ word ∈ wordsBehindNumber, '\n' ∉ word := by decide
  rw [endsNumber, endsNumber, head_any_append ends cs (by decide)]
  congr 1
  rw [Bool.eq_iff_iff, List.any_eq_true, List.any_eq_true]
  refine exists_congr fun word => and_congr_right fun mem => ?_
  rw [isPrefixOf_append ends cs (words word mem)]

end

/-- Whether a number of some base may start with these characters. -/
def startsBased (base : Nat) (cs : List Char) : Bool := cs.head?.any fun c => c == '_' || isDigitOf base c

/-- Whether a number of some base may end before these characters. -/
def endsBased (cs : List Char) : Bool := endsNumber cs && !cs.head?.any Char.isDigit

theorem reads_basedNumber (base : Nat) : reads (basedNumber? base) = do
    checked (startsBased base)
    let digits ← reads (digitRun? (isDigitOf base))
    checked endsBased
    return (← given (if digits.isEmpty then none else some (.integer (valueInBase base digits)))) := by
  funext cs
  rw [reads, basedNumber?, checked_bind, startsBased]
  cases cs.head?.any fun c => c == '_' || isDigitOf base c with
  | false => rfl
  | true =>
    refine bare_bind fun digits rest _ => ?_
    rw [checked_bind, endsBased]
    dsimp only
    cases digits.isEmpty <;> cases endsNumber rest <;> cases rest.head?.any Char.isDigit <;> rfl

/-- The number with these digits, if there is one. -/
def decimalToken? (whole : List Char) (fraction : Option (List Char)) (exponent : Option Int) :
    Option Token :=
  if fraction.isNone && exponent.isNone then
    if whole.head? == some '0' && whole.any (· != '0') then none
    else if integerDigitLimit < whole.length then none
    else some (.integer (Text.digitsValue whole))
  else some (.real (Binary64.ofDecimal false (Text.digitsValue (whole ++ fraction.getD []))
    (exponent.getD 0 - (fraction.getD []).length)))

theorem reads_decimalNumber : reads decimalNumber? = do
    checked fun cs => !(cs.head? == some '_')
    let whole ← reads (digitRun? Char.isDigit)
    let fraction ← reads fraction?
    let exponent ← reads exponent?
    checked endsNumber
    return (← given (decimalToken? whole fraction exponent)) := by
  funext cs
  rw [reads, decimalNumber?, checked_bind]
  cases cs.head? == some '_' with
  | true => rfl
  | false =>
    refine bare_bind fun whole rest _ => ?_
    refine bare_bind fun fraction rest _ => ?_
    refine bare_bind fun exponent rest _ => ?_
    rw [checked_bind, given, decimalToken?]
    dsimp only [Rest.trans]
    cases endsNumber rest with
    | false => rfl
    | true =>
      cases fraction.isNone && exponent.isNone with
      | false => rfl
      | true =>
        cases whole.head? == some '0' && whole.any (· != '0') with
        | true => rfl
        | false => by_cases long : integerDigitLimit < whole.length <;> simp [long, bare]

theorem fraction_point (rest : List Char) : reads fraction? ('.' :: rest) =
    if rest.head? == some '_' then (pure (some []) : Reader Char _) rest
    else (some <$> reads (digitRun? Char.isDigit)) rest := by
  rw [reads, fraction?]
  split
  · rfl
  · exact bare_map (digitRun? Char.isDigit) fun _ _ => rfl

theorem fraction_none {cs : List Char} (other : cs.head? ≠ some '.') :
    reads fraction? cs = some (none, cs) := by
  rw [reads, fraction?]
  · rfl
  · rintro rest rfl
    exact other rfl

/-- Whether a letter marks an exponent. -/
def isExponentMark (c : Char) : Bool := c == 'e' || c == 'E'

/-- Whether a character is the sign of an exponent. -/
def isExponentSign (c : Char) : Bool := c == '+' || c == '-'

section

variable {mark sign : Char} (isMark : isExponentMark mark = true) (rest : List Char)

include isMark

theorem exponent_signed (isSign : isExponentSign sign = true) : reads exponent? (mark :: sign :: rest) =
    (checked (fun cs => cs.head?.any Char.isDigit) >>= fun _ => (fun digits =>
      some (if sign == '-' then -(Text.digitsValue digits : Int) else Text.digitsValue digits)) <$>
        reads (digitRun? Char.isDigit)) rest := by
  rw [isExponentMark] at isMark
  rw [isExponentSign] at isSign
  rw [reads, checked_bind]
  cases rest with
  | nil =>
    have digit : sign.isDigit = false := by
      simp only [Bool.or_eq_true, beq_iff_eq] at isSign
      rcases isSign with rfl | rfl <;> rfl
    rw [exponent?, if_pos isMark, digit, if_neg Bool.false_ne_true, if_pos isSign]
    rfl
  | cons digit more =>
    rw [exponent?, if_pos isMark]
    dsimp only
    rw [if_pos isSign]
    cases is : digit.isDigit with
    | false => rw [if_neg Bool.false_ne_true, List.head?_cons, Option.any_some, is]; rfl
    | true =>
      rw [if_pos rfl, List.head?_cons, Option.any_some, is, if_pos rfl]
      exact bare_map (digitRun? Char.isDigit) fun _ _ => rfl

theorem exponent_unsigned (isDigit : sign.isDigit = true) : reads exponent? (mark :: sign :: rest) =
    ((fun digits => some (Text.digitsValue digits : Int)) <$> reads (digitRun? Char.isDigit))
      (sign :: rest) := by
  rw [isExponentMark] at isMark
  rw [reads]
  have plain : ¬(sign == '+' || sign == '-') = true := by
    simp only [Bool.or_eq_true, beq_iff_eq]
    rintro (rfl | rfl) <;> cases isDigit
  cases rest with
  | nil =>
    have run : reads (digitRun? Char.isDigit) [sign] = some ([sign], []) := by
      have single : sign ≠ '_' := by
        rintro rfl
        cases isDigit
      rw [digitRun_cons single, if_pos isDigit]
      simp [Functor.map, StateT.map, digitRun_nil]
    rw [exponent?, if_pos isMark, if_pos isDigit]
    simp only [Functor.map, StateT.map, run]
    rfl
  | cons digit more =>
    rw [exponent?, if_pos isMark]
    dsimp only
    rw [if_neg plain, if_pos isDigit]
    exact bare_map (digitRun? Char.isDigit) fun _ _ => rfl

theorem exponent_bare (other : rest.head?.any (fun c => isExponentSign c || c.isDigit) = false) :
    reads exponent? (mark :: rest) = some (none, mark :: rest) := by
  rw [isExponentMark] at isMark
  rcases rest with _ | ⟨sign, _ | ⟨digit, more⟩⟩
  · rw [reads, exponent?, if_pos isMark]
    rfl
  · simp only [List.head?_cons, Option.any_some, isExponentSign, Bool.or_eq_false_iff] at other
    simp [reads, exponent?, isMark, other, bare, Rest.all]
  · simp only [List.head?_cons, Option.any_some, isExponentSign, Bool.or_eq_false_iff] at other
    simp [reads, exponent?, isMark, other, bare, Rest.all]

omit isMark in
theorem exponent_none (other : isExponentMark mark = false) :
    reads exponent? (mark :: rest) = some (none, mark :: rest) := by
  rw [isExponentMark] at other
  rw [reads, exponent?.eq_def]
  simp only [other]
  rfl

end

theorem number_based {letter : Char} {base : Nat} (is : baseOf? letter = some base) (rest : List Char) :
    reads number? ('0' :: letter :: rest) = reads (basedNumber? base) rest := by
  rw [reads, number?, is]
  simp only [reads, bare, Option.map_map]
  rfl

theorem number_decimal {cs : List Char}
    (other : ∀ letter rest, cs = '0' :: letter :: rest → baseOf? letter = none) :
    reads number? cs = reads decimalNumber? cs := by
  rw [reads, number?.eq_def]
  split
  next letter rest =>
    rw [other letter rest rfl]
    rfl
  next => rfl

section

variable {tail : List Char} (ends : IsTail isFeed tail) (cs : List Char)

include ends

theorem stays_digits : Stays isFeed tail (reads (digitRun? Char.isDigit)) cs :=
  stays_digitRun (by decide) ends cs

theorem stays_basedNumber (base : Nat) : Stays isFeed tail (reads (basedNumber? base)) cs := by
  have feed : isDigitOf base '\n' = false := rfl
  rw [reads_basedNumber]
  refine Stays.checked (head_any_append ends cs (by simp [feed])) fun _ => ?_
  refine Stays.bind (stays_digitRun feed ends cs) fun digits rest _ => ?_
  refine Stays.checked ?_ fun _ => Stays.last _
  rw [endsBased, endsBased, endsNumber_append ends, head_any_append ends rest rfl]

theorem stays_fraction : Stays isFeed tail (reads fraction?) cs := by
  by_cases point : cs.head? = some '.'
  · obtain ⟨rest, rfl⟩ := List.head?_eq_some_iff.mp point
    have leaves : Stays isFeed tail (fun cs =>
        if cs.head? == some '_' then (pure (some []) : Reader Char _) cs
        else (some <$> reads (digitRun? Char.isDigit)) cs) rest :=
      Leaves.ite (head_beq_append ends rest (by decide)) (Stays.pure _)
        ((stays_digits ends rest).map some)
    refine Leaves.of_eq ?_ ?_ (leaves.mono fun _ takes => .cons rfl takes)
    all_goals exact fraction_point _
  · have other : (cs ++ tail).head? ≠ some '.' := by
      have same := head_beq_append ends cs (show '.' ≠ '\n' by decide)
      rw [beq_false_of_ne point] at same
      exact ne_of_beq_false same
    refine Leaves.of_eq ?_ ?_ (Stays.pure none)
    · exact fraction_none other
    · exact fraction_none point

theorem stays_exponent : Stays isFeed tail (reads exponent?) cs := by
  cases cs with
  | nil =>
    refine Leaves.of_eq ?_ ?_ (Stays.pure none)
    · rcases nil_or_feed ends with rfl | ⟨more, rfl⟩
      · rfl
      · exact exponent_none _ rfl
    · rfl
  | cons mark rest =>
    cases is : isExponentMark mark with
    | false =>
      refine Leaves.of_eq ?_ ?_ (Stays.pure none)
      all_goals exact exponent_none _ is
    | true =>
      have mark_feed : isFeed mark = false := by
        rw [isExponentMark, Bool.or_eq_true, beq_iff_eq, beq_iff_eq] at is
        rcases is with rfl | rfl <;> rfl
      cases begins : rest.head?.any fun c => isExponentSign c || c.isDigit with
      | false =>
        refine Leaves.of_eq ?_ ?_ (Stays.pure none)
        · exact exponent_bare is _ ((head_any_append ends rest rfl).trans begins)
        · exact exponent_bare is _ begins
      | true =>
        obtain ⟨sign, more, rfl⟩ : ∃ sign more, rest = sign :: more := by
          cases rest with
          | nil => cases begins
          | cons sign more => exact ⟨sign, more, rfl⟩
        rw [List.head?_cons, Option.any_some, Bool.or_eq_true] at begins
        rcases begins with signed | digit
        · have sign_feed : isFeed sign = false := by
            rw [isExponentSign, Bool.or_eq_true, beq_iff_eq, beq_iff_eq] at signed
            rcases signed with rfl | rfl <;> rfl
          have leaves : Stays isFeed tail (checked (fun cs => cs.head?.any Char.isDigit) >>= fun _ =>
              (fun digits => some (if sign == '-' then -(Text.digitsValue digits : Int)
                else Text.digitsValue digits)) <$> reads (digitRun? Char.isDigit)) more :=
            Stays.checked (head_any_append ends more (by decide)) fun _ => (stays_digits ends more).map _
          refine Leaves.of_eq ?_ ?_ (leaves.mono fun _ takes => .cons mark_feed (.cons sign_feed takes))
          all_goals exact exponent_signed is _ signed
        · refine Leaves.of_eq ?_ ?_ (((stays_digits ends (sign :: more)).map fun digits =>
            some (Text.digitsValue digits : Int)).mono fun _ takes => .cons mark_feed takes)
          all_goals exact exponent_unsigned is _ digit

theorem stays_decimalNumber : Stays isFeed tail (reads decimalNumber?) cs := by
  rw [reads_decimalNumber]
  refine Stays.checked (by rw [head_beq_append ends cs (by decide)]) fun _ => ?_
  refine Stays.bind (stays_digits ends cs) fun whole rest _ => ?_
  refine Stays.bind (stays_fraction ends rest) fun fraction rest _ => ?_
  refine Stays.bind (stays_exponent ends rest) fun exponent rest _ => ?_
  exact Stays.checked (endsNumber_append ends rest) fun _ => Stays.last _

theorem stays_number : Stays isFeed tail (reads number?) cs := by
  have decimal (cs : List Char) (other : ∀ letter rest, cs = '0' :: letter :: rest → baseOf? letter = none)
      (other' : ∀ letter rest, cs ++ tail = '0' :: letter :: rest → baseOf? letter = none) :
      Stays isFeed tail (reads number?) cs := by
    refine Leaves.of_eq ?_ ?_ (stays_decimalNumber ends cs)
    · exact number_decimal other'
    · exact number_decimal other
  rcases cs with _ | ⟨zero, _ | ⟨letter, rest⟩⟩
  · refine decimal [] nofun fun letter rest same => ?_
    rcases nil_or_feed ends with rfl | ⟨more, rfl⟩ <;> cases same
  · refine decimal [zero] nofun fun letter rest same => ?_
    rcases nil_or_feed ends with rfl | ⟨more, rfl⟩ <;> cases same
    rfl
  · by_cases is : zero = '0'
    · subst is
      cases found : baseOf? letter with
      | none =>
        refine decimal _ ?_ ?_
        all_goals
          rintro _ _ same
          cases same
          exact found
      | some base =>
        have letter_feed : isFeed letter = false := by
          rw [Bool.eq_false_iff, ne_eq, isFeed_iff]
          rintro rfl
          cases found
        refine Leaves.of_eq ?_ ?_ ((stays_basedNumber ends rest base).mono fun _ takes =>
          .cons rfl (.cons letter_feed takes))
        all_goals exact number_based found _
    · refine decimal _ ?_ ?_
      all_goals
        rintro _ _ same
        cases same
        exact absurd rfl is

end

/-! ## Marks and names -/

theorem reads_mark : reads mark? = fun cs =>
    (Mark.spellings.find? fun (spelling, _) => spelling.isPrefixOf cs).map fun (spelling, mark) =>
      (mark, cs.drop spelling.length) := by
  have filled : ∀ entry ∈ Mark.spellings, entry.1 ≠ [] := by decide
  funext cs
  cases cs with
  | nil => rfl
  | cons c cs =>
    rw [reads, mark?]
    cases found : Mark.spellings.find? fun (spelling, _) => spelling.isPrefixOf (c :: cs) with
    | none => rfl
    | some entry =>
      have some := List.length_pos_iff.mpr (filled entry (List.mem_of_find?_eq_some found))
      obtain ⟨n, size⟩ := Nat.exists_eq_succ_of_ne_zero (Nat.pos_iff_ne_zero.mp some)
      simp [bare, size]

theorem stays_mark {tail : List Char} (ends : IsTail isFeed tail) (cs : List Char) :
    Stays isFeed tail (reads mark?) cs := by
  have inside : ∀ entry ∈ Mark.spellings, '\n' ∉ entry.1 := by decide
  rw [reads_mark]
  have same : (Mark.spellings.find? fun (spelling, _) => spelling.isPrefixOf (cs ++ tail)) =
      Mark.spellings.find? fun (spelling, _) => spelling.isPrefixOf cs :=
    List.find?_congr fun entry mem => isPrefixOf_append ends cs (inside entry mem)
  have starts {entry : List Char × Mark}
      (found : (Mark.spellings.find? fun (spelling, _) => spelling.isPrefixOf cs) = some entry) :
      entry.1 <+: cs := by
    have starts := List.find?_some found
    exact List.isPrefixOf_iff_prefix.mp starts
  constructor
  · simp only [same]
    cases found : Mark.spellings.find? fun (spelling, _) => spelling.isPrefixOf cs with
    | none => rfl
    | some entry => simp [grow, List.drop_append_of_le_length (starts found).length_le]
  · intro mark rest done
    obtain ⟨entry, found, same⟩ := Option.map_eq_some_iff.mp done
    cases same
    obtain ⟨rest, rfl⟩ := starts found
    refine ⟨entry.1, fun c mem => ?_, by rw [List.drop_left]⟩
    rw [Bool.eq_false_iff, ne_eq, isFeed_iff]
    rintro rfl
    exact inside entry (List.mem_of_find?_eq_some found) mem

/-- Reads the first characters that satisfy a predicate. -/
def readRun (p : Char → Bool) : Reader Char (List Char) := fun cs => some (cs.takeWhile p, cs.dropWhile p)

theorem stays_readRun {p : Char → Bool} (feed : p '\n' = false) {tail : List Char} (ends : IsTail isFeed tail)
    (cs : List Char) : Stays isFeed tail (readRun p) cs := by
  constructor
  · refine append_of_isTail ends fun c more same => ?_
    cases isFeed_iff.mp same
    have taken : (cs ++ '\n' :: more).takeWhile p = cs.takeWhile p := by
      induction cs with
      | nil => simp [feed]
      | cons c cs ih => simp [List.takeWhile_cons, ih]
    have left : (cs ++ '\n' :: more).dropWhile p = cs.dropWhile p ++ '\n' :: more := by
      induction cs with
      | nil => simp [feed]
      | cons c cs ih =>
        rw [List.cons_append, List.dropWhile_cons, List.dropWhile_cons]
        split <;> simp_all
    simp [readRun, grow, taken, left]
  · intro taken rest found
    cases found
    refine ⟨cs.takeWhile p, fun c mem => ?_, List.takeWhile_append_dropWhile.symm⟩
    rw [Bool.eq_false_iff, ne_eq, isFeed_iff]
    rintro rfl
    rw [List.all_eq_true.mp List.all_takeWhile _ mem] at feed
    cases feed

end IssueBoard.Script
