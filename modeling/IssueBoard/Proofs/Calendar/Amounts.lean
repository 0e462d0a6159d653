import IssueBoard.Proofs.Calendar.Grammar
import IssueBoard.Proofs.Text.Blanks

/-! # Reading amounts

The readers of blanks, digits and units take as much as they can. Blanks and digits are told apart by
their first characters, so each reader stays within the grammar, and takes all that the grammar allows
in front of what may follow.
-/

namespace IssueBoard.Calendar

open Text (dropWhile_append takeWhile_append isBlank_of_isDigit isDigit_of_isBlank)

variable {cs rest text tail gap : List Char}

/-! ## Blanks -/

theorem dropBlank_append (blanks : Blanks gap) (stop : ∀ c ∈ rest.head?, Text.isBlank c = false) :
    Text.dropBlank (gap ++ rest) = rest :=
  dropWhile_append blanks stop

theorem blanks_nil : Blanks [] := List.forall_mem_nil _

theorem dropBlank_of_visible (visible : ∀ c ∈ cs.head?, Text.isBlank c = false) :
    Text.dropBlank cs = cs :=
  dropBlank_append blanks_nil visible

/-- There are no blanks in front of a text that begins with none. -/
theorem Blanks.eq_nil (blanks : Blanks gap) (visible : ∀ c ∈ (gap ++ rest).head?, Text.isBlank c = false) :
    gap = [] := by
  cases gap with
  | nil => rfl
  | cons b gap =>
    have blank := blanks b (List.mem_cons_self ..)
    rw [visible b rfl] at blank
    cases blank

theorem exists_blanks (cs : List Char) : ∃ gap, Blanks gap ∧ cs = gap ++ Text.dropBlank cs :=
  ⟨cs.takeWhile Text.isBlank, fun _ member => List.mem_takeWhile_imp member,
    (List.takeWhile_append_dropWhile (p := Text.isBlank) (l := cs)).symm⟩

theorem isBlank_head?_dropBlank (cs : List Char) {c : Char} (first : c ∈ (Text.dropBlank cs).head?) :
    Text.isBlank c = false :=
  Text.head?_dropWhile Text.isBlank cs c first

/-! ## Units and amounts -/

theorem unitWords_eq : unitWords =
    [.year, .month, .day, .hour, .minute, .second].map fun unit => (unit.word, unit) := rfl

theorem unit?_sound {unit : TimeUnit} (read : unit? cs = some (unit, rest)) :
    ∃ ending, (ending = [] ∨ ending = ['s']) ∧ cs = unit.word ++ (ending ++ rest) := by
  rw [unit?, Option.map_eq_some_iff] at read
  obtain ⟨⟨found, after⟩, some, same⟩ := read
  obtain ⟨⟨word, name⟩, member, one⟩ := List.exists_of_findSome?_eq_some some
  obtain ⟨remaining, begins, same'⟩ := Option.map_eq_some_iff.mp one
  obtain ⟨rfl, rfl⟩ := Prod.mk.inj same'
  rw [unitWords_eq, List.mem_map] at member
  obtain ⟨listed, -, same''⟩ := member
  obtain ⟨rfl, rfl⟩ := Prod.mk.inj same''
  obtain ⟨rfl, rfl⟩ := Prod.mk.inj same
  rw [word?_eq_some_iff] at begins
  cases plural : word? ['s'] remaining with
  | none => exact ⟨[], .inl rfl, begins⟩
  | some shorter =>
    rw [word?_eq_some_iff] at plural
    exact ⟨['s'], .inr rfl, by rw [begins, plural]; rfl⟩

theorem word?_plural (stop : 's' ∉ rest.head?) : word? ['s'] rest = none := by
  rw [Option.eq_none_iff_forall_ne_some]
  intro after read
  rw [word?_eq_some_iff] at read
  rw [read] at stop
  exact stop rfl

theorem unit?_word (unit : TimeUnit) (rest : List Char) :
    unit? (unit.word ++ rest) = some (unit, (word? ['s'] rest).getD rest) := by
  cases unit <;> rfl

theorem getD_plural {ending : List Char} (plural : ending = [] ∨ ending = ['s'])
    (stop : 's' ∉ rest.head?) : (word? ['s'] (ending ++ rest)).getD (ending ++ rest) = rest := by
  rcases plural with rfl | rfl
  · rw [List.nil_append, word?_plural stop, Option.getD_none]
  · rw [word?_eq_some_iff.mpr rfl, Option.getD_some]

theorem word_head (unit : TimeUnit) (text : List Char) :
    ∀ c ∈ (unit.word ++ text).head?, Text.isBlank c = false ∧ Text.isDigit c = false := by
  intro c first
  cases unit <;> cases first <;> decide

theorem quantity?_sound {amount : Amount} (read : quantity? cs = some (amount, rest)) :
    ∃ text, AmountText amount text ∧ cs = text ++ rest := by
  rw [quantity?] at read
  split at read
  · cases read
  · next some =>
    rw [Option.bind_eq_bind, Option.bind_eq_some_iff] at read
    obtain ⟨⟨unit, after⟩, found, same⟩ := read
    obtain ⟨rfl, rfl⟩ := Prod.mk.inj (Option.some.inj same)
    obtain ⟨ending, plural, split⟩ := unit?_sound found
    obtain ⟨gap, blanks, inner⟩ := exists_blanks (cs.dropWhile Text.isDigit)
    rw [List.isEmpty_iff] at some
    have number : Digits (cs.takeWhile Text.isDigit) := fun c member => List.mem_takeWhile_imp member
    have whole := List.takeWhile_append_dropWhile (p := Text.isDigit) (l := cs)
    rw [inner, split] at whole
    refine ⟨_, .quantity unit some number blanks plural, ?_⟩
    simpa only [List.append_assoc] using whole.symm

theorem amount?_sound {amount : Amount} (read : amount? cs = some (amount, rest)) :
    ∃ text, AmountText amount text ∧ cs = text ++ rest := by
  rw [amount?] at read
  split at read
  · next found quantity =>
    obtain rfl := Option.some.inj read
    exact quantity?_sound quantity
  · obtain ⟨⟨⟨hours, minutes, seconds⟩, after⟩, found, same⟩ := Option.map_eq_some_iff.mp read
    obtain ⟨rfl, rfl⟩ := Prod.mk.inj same
    obtain ⟨text, clock, split⟩ := clock?_eq_some_iff.mp found
    exact ⟨text, .clock clock, split⟩

/-- Hours, minutes and seconds begin with two digits and a colon. -/
theorem ClockText.begins {hours minutes seconds : Nat} (clock : ClockText hours minutes seconds text) :
    ∃ digits after, Digits digits ∧ digits.length = 2 ∧ text = digits ++ ':' :: after := by
  obtain ⟨first, second, third⟩ := clock
  exact ⟨_, _, first.digits, first.length, rfl⟩

/-- A date begins with four digits and a hyphen. -/
theorem DayText.begins {year month day : Nat} (calendar : DayText year month day text) :
    ∃ digits after, Digits digits ∧ digits.length = 4 ∧ text = digits ++ '-' :: after := by
  obtain ⟨first, second, third⟩ := calendar
  exact ⟨_, _, first.digits, first.length, rfl⟩

theorem head?_cons_mark (mark : Char) (after : List Char) (other : Text.isDigit mark = false) :
    ∀ c ∈ (mark :: after).head?, Text.isDigit c = false := by
  intro c first
  cases first
  exact other

/-- Hours, minutes and seconds are no number with a unit: a colon follows their first digits. -/
theorem quantity?_clock {hours minutes seconds : Nat} (clock : ClockText hours minutes seconds text)
    (tail : List Char) : quantity? (text ++ tail) = none := by
  obtain ⟨digits, after, number, length, rfl⟩ := clock.begins
  have some : digits.isEmpty = false := by
    cases digits with
    | nil => cases length
    | cons => rfl
  have colon := head?_cons_mark ':' (after ++ tail) (by decide)
  rw [List.append_assoc, List.cons_append, quantity?, takeWhile_append number colon,
    dropWhile_append number colon, some]
  rfl

/-- What holds of every blank and of what comes behind holds of the first character of both. -/
theorem head?_blanks_append {P : Char → Prop} (blanks : Blanks gap)
    (blank : ∀ c, Text.isBlank c = true → P c) (stop : ∀ c ∈ rest.head?, P c) :
    ∀ c ∈ (gap ++ rest).head?, P c := by
  cases gap with
  | nil => exact stop
  | cons first gap =>
    intro c same
    cases same
    exact blank first (blanks first (List.mem_cons_self ..))

/-- Digits and the word for a unit are an amount, with the ending of a plural if it follows. -/
theorem quantity?_word {digits : List Char} (unit : TimeUnit) (nonempty : digits ≠ [])
    (number : Digits digits) (blanks : Blanks gap) (rest : List Char) :
    quantity? (digits ++ (gap ++ (unit.word ++ rest))) =
      some (.quantity digits unit, (word? ['s'] rest).getD rest) := by
  have word := word_head unit rest
  have stop := head?_blanks_append blanks (fun c => isDigit_of_isBlank) fun c first => (word c first).2
  rw [quantity?, takeWhile_append number stop, dropWhile_append number stop,
    dropBlank_append blanks fun c first => (word c first).1, unit?_word,
    List.isEmpty_eq_false_iff.mpr nonempty]
  rfl

theorem amount?_complete {amount : Amount} (grammar : AmountText amount text)
    (stop : 's' ∉ tail.head?) : amount? (text ++ tail) = some (amount, tail) := by
  cases grammar with
  | @quantity digits gap ending unit nonempty number blanks plural =>
    simp only [List.append_assoc, amount?, quantity?_word unit nonempty number blanks,
      getD_plural plural stop]
  | clock clock =>
    rw [amount?, quantity?_clock clock, clock?_eq_some_iff.mpr ⟨_, clock, rfl⟩, Option.map_some]

theorem head?_digits {digits : List Char} (number : Digits digits) (nonempty : 0 < digits.length)
    (rest : List Char) : ∀ c ∈ (digits ++ rest).head?, Text.isDigit c = true := by
  obtain ⟨d, digits, rfl⟩ := List.exists_cons_of_length_pos nonempty
  intro c first
  cases first
  exact number d (List.mem_cons_self ..)

theorem ClockText.head?_append {hours minutes seconds : Nat}
    (clock : ClockText hours minutes seconds text) (tail : List Char) :
    ∀ c ∈ (text ++ tail).head?, Text.isDigit c = true := by
  obtain ⟨digits, after, number, length, rfl⟩ := clock.begins
  rw [List.append_assoc]
  exact head?_digits number (by omega) _

theorem DayText.head?_append {year month day : Nat} (calendar : DayText year month day text)
    (tail : List Char) : ∀ c ∈ (text ++ tail).head?, Text.isDigit c = true := by
  obtain ⟨digits, after, number, length, rfl⟩ := calendar.begins
  rw [List.append_assoc]
  exact head?_digits number (by omega) _

theorem AmountText.head?_append {amount : Amount} (grammar : AmountText amount text)
    (tail : List Char) : ∀ c ∈ (text ++ tail).head?, Text.isDigit c = true := by
  cases grammar with
  | quantity unit nonempty number blanks plural =>
    rw [List.append_assoc]
    exact head?_digits number (List.length_pos_iff.mpr nonempty) _
  | clock clock => exact clock.head?_append tail

theorem AmountText.ne_nil {amount : Amount} (grammar : AmountText amount text) : text ≠ [] := by
  cases grammar with
  | quantity unit nonempty number blanks plural => exact List.append_ne_nil_of_left_ne_nil nonempty _
  | clock clock =>
    obtain ⟨digits, after, -, -, rfl⟩ := clock.begins
    exact List.append_ne_nil_of_right_ne_nil _ (List.cons_ne_nil _ _)

theorem visible_of_digit (digit : ∀ c ∈ cs.head?, Text.isDigit c = true) :
    ∀ c ∈ cs.head?, Text.isBlank c = false :=
  fun c first => isBlank_of_isDigit (digit c first)

end IssueBoard.Calendar
