import IssueBoard.Document.Json
import IssueBoard.Proofs.Outcome
import Mathlib.Data.List.Infix
import Mathlib.Data.List.TakeWhile

/-! # Why a JSON document cannot be read

A text that is no document is refused as malformed. There are two other reasons not to read one, and each
of them shows in the text itself: an integer of too many digits is a run of as many digits, and lists and
objects nest too deep only where more brackets are opened than may be. So each reader is related to what
it leaves, which is always an end of what it was given.
-/

namespace IssueBoard.Json

/-- Whether a character opens a list or an object. -/
def isOpening (c : Char) : Bool := c == '[' || c == '{'

/-- What shows in characters that they are not read, if at most so many lists and objects may nest. -/
inductive Shows (levels : Nat) (cs : List Char) : ReadError → Prop
  | malformed : Shows levels cs .malformed
  | longInteger {run : List Char} (among : run <:+: cs) (digits : ∀ c ∈ run, c.isDigit = true)
    (long : integerDigitLimit < run.length) : Shows levels cs (.integerTooLong run.length)
  | deep (many : levels < cs.countP isOpening) : Shows levels cs .nestedTooDeep

theorem Shows.of_suffix {levels : Nat} {cs rest : List Char} {reason : ReadError} (suffix : rest <:+ cs)
    (shows : Shows levels rest reason) : Shows levels cs reason := by
  cases shows with
  | malformed => exact .malformed
  | longInteger among digits long => exact .longInteger (among.trans suffix.isInfix) digits long
  | deep many => exact .deep (many.trans_le (suffix.sublist.countP_le))

/-- What nests too deep behind an opening bracket nests too deep by one more level with it. -/
theorem Shows.opened {levels : Nat} {cs rest : List Char} {opening : Char} {reason : ReadError}
    (opens : isOpening opening = true) (suffix : opening :: rest <:+ cs) (shows : Shows levels rest reason) :
    Shows (levels + 1) cs reason := by
  refine Shows.of_suffix suffix ?_
  cases shows with
  | malformed => exact .malformed
  | longInteger among digits long =>
    exact .longInteger (among.trans (List.infix_cons List.infix_rfl)) digits long
  | deep many =>
    refine .deep ?_
    rw [List.countP_cons_of_pos opens]
    exact Nat.succ_lt_succ many

/-- Whether a reader leaves an end of what it was given, or fails for a reason that shows there. -/
def Tracks {α : Type} (levels : Nat) (cs : List Char) : Except ReadError (α × Rest cs) → Prop
  | .ok (_, rest) => rest.1 <:+ cs
  | .error reason => Shows levels cs reason

/-! ## Texts and numbers -/

theorem expectChar_suffix {c : Char} {cs : List Char} {rest : Shorter cs}
    (taken : expectChar c cs = some rest) : c :: rest.1 <:+ cs := by
  rw [expectChar] at taken
  split at taken
  · cases taken
  · next first after found =>
    split at taken
    · next same =>
      cases taken
      rw [← eq_of_beq same, ← found]
      exact List.dropWhile_suffix _
    · cases taken

theorem lowSurrogate?_suffix {cs : List Char} {low : Nat} {rest : Rest cs}
    (read : lowSurrogate? cs = some (low, rest)) : rest.1 <:+ cs := by
  unfold lowSurrogate? at read
  split at read
  · obtain ⟨_, -, read⟩ := Option.bind_eq_some_iff.mp read
    split at read
    · cases read
      exact List.suffix_append [_, _, _, _, _, _] _
    · cases read
  · cases read

theorem codePoint?_suffix {cs : List Char} {code : Nat} {rest : Rest cs}
    (read : codePoint? cs = some (code, rest)) : rest.1 <:+ cs := by
  unfold codePoint? at read
  split at read
  · next a b c d after =>
    have behind : after <:+ a :: b :: c :: d :: after := List.suffix_append [a, b, c, d] after
    obtain ⟨high, -, read⟩ := Option.bind_eq_some_iff.mp read
    split at read
    · next low last paired =>
      simp only [Option.some.injEq, Prod.mk.injEq] at read
      obtain ⟨-, rfl⟩ := read
      split at paired
      · exact (lowSurrogate?_suffix paired).trans behind
      · cases paired
    · simp only [Option.some.injEq, Prod.mk.injEq] at read
      obtain ⟨-, rfl⟩ := read
      exact behind
  · cases read

theorem textBody?_suffix {cs body : List Char} {rest : Shorter cs} (read : textBody? cs = some (body, rest)) :
    rest.1 <:+ cs := by
  induction cs using textBody?.induct generalizing body with
  | case1 => simp [textBody?] at read
  | case2 after =>
    rw [textBody?.eq_2] at read
    cases read
    exact List.suffix_cons _ _
  | case3 after none =>
    rw [textBody?.eq_3, none] at read
    cases read
  | case4 after code last short point ih =>
    rw [textBody?.eq_3, point] at read
    obtain ⟨⟨found, behind⟩, more, same⟩ := Option.map_eq_some_iff.mp read
    cases same
    exact (ih more).trans ((codePoint?_suffix point).trans (List.suffix_append ['\\', 'u'] after))
  | case5 c after letter none =>
    rw [textBody?.eq_4 _ _ letter, none] at read
    cases read
  | case6 c after letter meant escape ih =>
    rw [textBody?.eq_4 _ _ letter, escape] at read
    obtain ⟨⟨found, behind⟩, more, same⟩ := Option.map_eq_some_iff.mp read
    cases same
    exact (ih more).trans (List.suffix_append ['\\', c] after)
  | case7 c after quote mark letter control =>
    rw [textBody?.eq_5 _ _ quote mark letter, if_pos control] at read
    cases read
  | case8 c after quote mark letter control ih =>
    rw [textBody?.eq_5 _ _ quote mark letter, if_neg control] at read
    obtain ⟨⟨found, behind⟩, more, same⟩ := Option.map_eq_some_iff.mp read
    cases same
    exact (ih more).trans (List.suffix_cons c after)

/-- What is left of one of two readings is an end if it is one of both. -/
theorem suffix_ite {β : Type} {cs : List Char} {p : Prop} [Decidable p] {first second : β × Rest cs}
    (left : first.2.1 <:+ cs) (right : second.2.1 <:+ cs) : (if p then first else second).2.1 <:+ cs := by
  split
  · exact left
  · exact right

theorem digits_suffix (cs : List Char) : (digits cs).2.1 <:+ cs := List.dropWhile_suffix _

theorem fraction_suffix (cs : List Char) : (fraction cs).2.1 <:+ cs := by
  unfold fraction
  split
  · exact suffix_ite List.suffix_rfl ((digits_suffix _).trans (List.suffix_cons _ _))
  · exact List.suffix_rfl

theorem exponent_suffix (cs : List Char) : (exponent cs).2.1 <:+ cs := by
  unfold exponent
  split
  · next mark sign after =>
    refine suffix_ite (suffix_ite ?_ ?_) List.suffix_rfl
    · exact suffix_ite List.suffix_rfl ((digits_suffix _).trans (List.suffix_append [mark, sign] after))
    · exact suffix_ite List.suffix_rfl ((digits_suffix _).trans (List.suffix_cons _ _))
  · exact List.suffix_rfl

theorem tracks_number (levels : Nat) (negative : Bool) (cs : List Char) :
    Tracks levels cs (number negative cs) := by
  unfold number
  split
  next run afterRun taken =>
  split
  next whole afterWhole chosen =>
  -- Only digits at the front of the text can be too many, and a leading zero stands by itself.
  have front : afterWhole.1 <:+ cs ∧
      (integerDigitLimit < whole.length → whole = cs.takeWhile Char.isDigit) := by
    cases taken
    split at chosen
    · cases chosen
      exact ⟨List.drop_suffix 1 cs, fun long => absurd long (by decide)⟩
    · cases chosen
      exact ⟨List.dropWhile_suffix _, fun _ => rfl⟩
  split
  · exact .malformed
  · split
    next part afterPart fractional =>
    split
    next power afterPower powered =>
    have behind : afterPower.1 <:+ cs := by
      have third := exponent_suffix afterPart.1
      have second := fraction_suffix afterWhole.1
      rw [powered] at third
      rw [fractional] at second
      exact (third.trans second).trans front.1
    dsimp only
    split
    · split
      · next long =>
        have same := front.2 long
        refine .longInteger ?_ ?_ long
        · rw [same]
          exact (List.takeWhile_prefix _).isInfix
        · rw [same]
          exact fun c member => List.mem_takeWhile_imp member
      · exact behind
    · exact behind

/-- What is done with a value that is found changes nothing about what is left. -/
theorem Tracks.map {α β : Type} {levels : Nat} {cs part : List Char} {read : Except ReadError (α × Rest part)}
    (suffix : part <:+ cs) (tracks : Tracks levels part read) {f : α × Rest part → β × Rest cs}
    (same : ∀ found, (f found).2.1 = found.2.1) : Tracks levels cs (read.map f) := by
  cases read with
  | error reason => exact Shows.of_suffix suffix tracks
  | ok found =>
    change (f found).2.1 <:+ cs
    rw [same]
    exact List.IsSuffix.trans tracks suffix

theorem tracks_leaf (levels : Nat) (cs : List Char) : Tracks levels cs (leaf cs) := by
  unfold leaf
  split
  · exact List.drop_suffix _ cs
  · split
    · exact (tracks_number levels true _).map (List.suffix_cons _ _) fun _ => rfl
    · exact tracks_number levels false cs

/-! ## Values -/

/-- Whether all that starts here is tracked. -/
structure Tracked (cs : List Char) : Prop where
  value (levels : Nat) : Tracks levels cs (value levels cs)
  items (levels : Nat) : Tracks levels cs (items levels cs)
  entries (levels : Nat) (known : List (Atom × Data)) : Tracks levels cs (entries levels known cs)

/-- What follows on a part is done behind it. -/
theorem Tracks.bind {α β : Type} {levels : Nat} {cs part : List Char}
    {read : Except ReadError (α × Rest part)} (suffix : part <:+ cs) (tracks : Tracks levels part read)
    {next : α × Rest part → Except ReadError (β × Rest cs)}
    (more : ∀ found : α × Rest part, found.2.1 <:+ cs → Tracks levels cs (next found)) :
    Tracks levels cs (read >>= next) := by
  cases read with
  | error reason => exact Shows.of_suffix suffix tracks
  | ok found => exact more found (List.IsSuffix.trans tracks suffix)

/-- What follows on an opening bracket may nest by one level less. -/
theorem Tracks.opened {α β : Type} {levels : Nat} {opening : Char} {cs part : List Char}
    (opens : isOpening opening = true) (front : opening :: part <:+ cs)
    {read : Except ReadError (α × Rest part)} (tracks : Tracks levels part read)
    {next : α × Rest part → Except ReadError (β × Rest cs)}
    (more : ∀ found : α × Rest part, found.2.1 <:+ cs → Tracks (levels + 1) cs (next found)) :
    Tracks (levels + 1) cs (read >>= next) := by
  cases read with
  | error reason => exact Shows.opened opens front tracks
  | ok found => exact more found (List.IsSuffix.trans tracks ((List.suffix_cons _ _).trans front))

/-- Where no level is left, a single opening bracket is one too many. -/
theorem deep_of_opening {opening : Char} {cs part : List Char} (opens : isOpening opening = true)
    (front : opening :: part <:+ cs) : Shows 0 cs .nestedTooDeep :=
  .deep (List.countP_pos_iff.mpr ⟨opening, front.subset List.mem_cons_self, opens⟩)

theorem tracks_value {cs : List Char} (shorter : ∀ part : List Char, part.length < cs.length → Tracked part)
    (levels : Nat) : Tracks levels cs (value levels cs) := by
  rw [value]
  split
  · next rest short opened =>
    have behind : rest <:+ cs := (List.suffix_cons _ _).trans (expectChar_suffix opened)
    split
    · next body last _ read => exact (textBody?_suffix read).trans behind
    · exact .malformed
  split
  · next rest short opened =>
    have front := expectChar_suffix opened
    have behind : rest <:+ cs := (List.suffix_cons _ _).trans front
    cases levels with
    | zero => exact deep_of_opening rfl front
    | succ levels =>
      rw [if_neg (Nat.succ_ne_zero levels)]
      split
      · next closed => exact (List.suffix_cons _ _).trans ((expectChar_suffix closed).trans behind)
      · exact ((shorter rest short).items levels).opened rfl front fun _ last => last
  split
  · next rest short opened =>
    have front := expectChar_suffix opened
    have behind : rest <:+ cs := (List.suffix_cons _ _).trans front
    cases levels with
    | zero => exact deep_of_opening rfl front
    | succ levels =>
      rw [if_neg (Nat.succ_ne_zero levels)]
      split
      · next closed => exact (List.suffix_cons _ _).trans ((expectChar_suffix closed).trans behind)
      · exact ((shorter rest short).entries levels []).opened rfl front fun _ last => last
  · exact (tracks_leaf levels _).map (List.dropWhile_suffix _) fun _ => rfl

theorem tracks_items {cs : List Char} (shorter : ∀ part : List Char, part.length < cs.length → Tracked part)
    (levels : Nat) : Tracks levels cs (items levels cs) := by
  rw [items]
  refine Tracks.bind List.suffix_rfl (tracks_value shorter levels) fun ⟨first, rest, short⟩ behind => ?_
  dsimp only
  split
  · next last less more =>
    have left : last <:+ cs := (List.suffix_cons _ _).trans ((expectChar_suffix more).trans behind)
    exact ((shorter last (by omega)).items levels).bind left fun _ last => last
  · split
    · next last less closed => exact (List.suffix_cons _ _).trans ((expectChar_suffix closed).trans behind)
    · exact .malformed

theorem tracks_entries {cs : List Char} (shorter : ∀ part : List Char, part.length < cs.length → Tracked part)
    (levels : Nat) (known : List (Atom × Data)) : Tracks levels cs (entries levels known cs) := by
  rw [entries]
  split
  · exact .malformed
  · next rest short opened =>
    have behind : rest <:+ cs := (List.suffix_cons _ _).trans (expectChar_suffix opened)
    split
    · exact .malformed
    · next name after less named =>
      have beyond : after <:+ cs := (textBody?_suffix named).trans behind
      split
      · exact .malformed
      · next start less' colon =>
        have inner : start <:+ cs := (List.suffix_cons _ _).trans ((expectChar_suffix colon).trans beyond)
        refine ((shorter start (by omega)).value levels).bind inner fun read later => ?_
        obtain ⟨found, last, low⟩ := read
        dsimp only
        split
        · next next less more =>
          have left : next <:+ cs := (List.suffix_cons _ _).trans ((expectChar_suffix more).trans later)
          exact ((shorter next (by omega)).entries levels _).bind left fun _ last => last
        · split
          · next closed => exact (List.suffix_cons _ _).trans ((expectChar_suffix closed).trans later)
          · exact .malformed

theorem tracked (cs : List Char) : Tracked cs := by
  induction cs using (measure List.length).wf.induction with
  | _ cs shorter => exact ⟨tracks_value shorter, tracks_items shorter, tracks_entries shorter⟩

/-- **A text that is not read shows why.** It is malformed, or it has a run of more digits than an integer
may have, or it opens more lists and objects than may nest. -/
theorem read_error {source : String} {reason : ReadError} (failed : read source = .error reason) :
    Shows nestingLimit source.toList reason := by
  rcases bind_eq_error_iff.mp failed with early | ⟨⟨found, rest⟩, -, late⟩
  · have tracks := (tracked source.toList).value nestingLimit
    rw [early] at tracks
    exact tracks
  · dsimp only at late
    split at late
    · cases late
    · cases late
      exact .malformed

end IssueBoard.Json
