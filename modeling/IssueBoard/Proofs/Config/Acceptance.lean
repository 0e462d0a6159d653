import IssueBoard.Proofs.Config.Conformity

/-! # Acceptance of configurations

Reading accepts exactly the data that conform to the schema and complains about everything else. A
configuration that was read is built unless the value of a string widget or a cell is a number without
a text, so the readings say what they find as these values.
-/

namespace IssueBoard.Config

/-! ## Readings in parts

A reading in parts gives a result if each part does. What the result has to be like is settled by some
of the parts, so it is carried along.
-/

section Parts

variable {α β : Type} {reading : Reading α} {next : α → Reading β} {isGood : α → Prop}
  {isFine : β → Prop} {P Q R : Prop}

/-- Whether a reading gives a result. -/
def Succeeds (reading : Reading α) : Prop := ∃ x, reading = .ok x

/-- Whether a reading gives a result of some kind. -/
def Yields (reading : Reading α) (isGood : α → Prop) : Prop := ∃ x, reading = .ok x ∧ isGood x

theorem yields_true_iff : Yields reading (fun _ => True) ↔ Succeeds reading := by
  simp only [Yields, and_true, Succeeds]

theorem yields_ok_iff {x : α} : Yields (.ok x) isGood ↔ isGood x := by
  simp only [Yields, Except.ok.injEq, exists_eq_left']

theorem not_yields_complain {cause : Cause} : ¬ Yields (complain cause) isGood := by
  rintro ⟨x, done, -⟩
  exact complain_ne_ok done

theorem yields_within_iff {part : String} : Yields (within part reading) isGood ↔ Yields reading isGood := by
  simp only [Yields, within_eq_ok_iff]

theorem yields_map_iff {f : α → β} :
    Yields (f <$> reading) isFine ↔ Yields reading (fun x => isFine (f x)) := by
  simp only [Yields, map_eq_ok_iff]
  constructor
  · rintro ⟨_, ⟨x, done, rfl⟩, fine⟩
    exact ⟨x, done, fine⟩
  · rintro ⟨x, done, fine⟩
    exact ⟨f x, ⟨x, done, rfl⟩, fine⟩

/-- What the first part has to be like may show only in the end. -/
theorem yields_bind_iff (first : Yields reading isGood ↔ P)
    (rest : ∀ x, reading = .ok x → (Yields (next x) isFine ↔ isGood x ∧ Q)) :
    Yields (reading >>= next) isFine ↔ P ∧ Q := by
  rw [← first]
  constructor
  · rintro ⟨y, done, fine⟩
    obtain ⟨x, read, done⟩ := bind_eq_ok_iff.mp done
    obtain ⟨good, more⟩ := (rest x read).mp ⟨y, done, fine⟩
    exact ⟨⟨x, read, good⟩, more⟩
  · rintro ⟨⟨x, read, good⟩, more⟩
    obtain ⟨y, done, fine⟩ := (rest x read).mpr ⟨good, more⟩
    exact ⟨y, bind_eq_ok_iff.mpr ⟨x, read, done⟩, fine⟩

/-- A part between another one and the end where it shows what that one has to be like. -/
theorem yields_bind_between_iff (first : Succeeds reading ↔ P)
    (rest : ∀ x, reading = .ok x → (Yields (next x) isFine ↔ R ∧ Q)) :
    Yields (reading >>= next) isFine ↔ R ∧ P ∧ Q := by
  rw [and_left_comm]
  refine yields_bind_iff (yields_true_iff.trans first) fun x read => ?_
  rw [rest x read, true_and]

theorem yields_bind_after_iff (first : Succeeds reading ↔ P)
    (rest : ∀ x, reading = .ok x → (Yields (next x) isFine ↔ Q)) :
    Yields (reading >>= next) isFine ↔ P ∧ Q := by
  refine yields_bind_iff (yields_true_iff.trans first) fun x read => ?_
  rw [rest x read, true_and]

theorem succeeds_bind_iff (first : Succeeds reading ↔ P)
    (rest : ∀ x, reading = .ok x → (Succeeds (next x) ↔ Q)) :
    Succeeds (reading >>= next) ↔ P ∧ Q := by
  simp only [← yields_true_iff] at rest ⊢
  exact yields_bind_after_iff first rest

theorem succeeds_map_iff {f : α → β} : Succeeds (f <$> reading) ↔ Succeeds reading := by
  rw [← yields_true_iff, yields_map_iff, yields_true_iff]

end Parts

/-! ## Values -/

theorem succeeds_readText_iff {value : Data} : Succeeds (readText value) ↔ IsText value := by
  unfold Succeeds readText
  split
  next s => simp only [IsText, Except.ok.injEq, exists_eq']
  next content =>
    rw [IsText]
    cases String.fromUTF8? ⟨content.toArray⟩ with
    | none => simp only [complain_ne_ok, exists_false, Option.isSome_none, Bool.false_eq_true]
    | some s => simp only [Except.ok.injEq, exists_eq', Option.isSome_some]
  next => simp only [IsText, complain_ne_ok, exists_false]

theorem succeeds_readScalar_iff {value : Data} : Succeeds (readScalar value) ↔ IsScalar value := by
  have text : Succeeds (within "str" (Scalar.text <$> readText value)) ↔ IsText value := by
    rw [← yields_true_iff, yields_within_iff, yields_true_iff, succeeds_map_iff, succeeds_readText_iff]
  cases value with
  | atom a =>
    cases a with
    | integer n => exact iff_of_true ⟨_, rfl⟩ trivial
    | real x => exact iff_of_true ⟨_, rfl⟩ trivial
    | flag b => exact iff_of_true ⟨_, rfl⟩ trivial
    | _ => exact text
  | _ => exact text

theorem succeeds_readCount_iff {value : Data} : Succeeds (readCount value) ↔ IsCount value := by
  unfold IsCount readCount Succeeds
  simp only [bind_eq_ok_iff]
  constructor
  · rintro ⟨m, n, read, done⟩
    refine ⟨n, read, ?_⟩
    by_contra negative
    rw [if_pos (by omega)] at done
    exact complain_ne_ok done
  · rintro ⟨n, read, positive⟩
    exact ⟨n, n, read, if_neg (by omega)⟩

/-! ## Options -/

section Reading

variable {α β γ δ : Type} {read : Data → Reading α} {isValue : Data → Prop} {isGood : α → Prop}
  {options : Options} {name : String}

theorem yields_optional_iff (values : ∀ value, Yields (read value) isGood ↔ isValue value) :
    Yields (options.optional read name) (fun found => ∀ x ∈ found, isGood x) ↔
      options.Allows name isValue := by
  constructor
  · rintro ⟨found, done, fine⟩ value there present
    rw [← values]
    rcases Options.optional_eq_ok_iff.mp done with ⟨-, absent⟩ | ⟨value', x, there', -, read, rfl⟩
    · exact absurd ⟨value, there, present⟩ absent
    · obtain rfl := Option.some.inj (there.symm.trans there')
      exact ⟨x, read, fine x rfl⟩
  · intro allowed
    by_cases given : options.Given name
    · obtain ⟨value, there, present⟩ := given
      obtain ⟨x, read, fine⟩ := (values value).mpr (allowed value there present)
      refine ⟨some x, Options.optional_eq_ok_iff.mpr (.inr ⟨value, x, there, present, read, rfl⟩), ?_⟩
      rintro _ ⟨⟩
      exact fine
    · refine ⟨none, Options.optional_eq_ok_iff.mpr (.inl ⟨rfl, given⟩), ?_⟩
      rintro _ ⟨⟩

theorem succeeds_optional_iff (values : ∀ value, Succeeds (read value) ↔ isValue value) :
    Succeeds (options.optional read name) ↔ options.Allows name isValue := by
  simp only [← yields_true_iff] at values ⊢
  simpa only [implies_true] using yields_optional_iff values

theorem succeeds_text_iff : Succeeds (options.text name) ↔ options.Allows name IsText :=
  succeeds_optional_iff fun _ => succeeds_readText_iff

theorem yields_forall₂_iff (values : ∀ value, Yields (read value) isGood ↔ isValue value)
    (items : List Data) :
    (∃ xs, List.Forall₂ (fun item x => read item = .ok x) items xs ∧ ∀ x ∈ xs, isGood x) ↔
      ∀ item ∈ items, isValue item := by
  induction items with
  | nil =>
    simp only [List.forall₂_nil_left_iff, exists_eq_left, List.not_mem_nil, false_implies,
      implies_true]
  | cons item rest ih =>
    rw [List.forall_mem_cons, ← ih, ← values]
    constructor
    · rintro ⟨_, _ | ⟨first, others⟩, fine⟩
      rw [List.forall_mem_cons] at fine
      exact ⟨⟨_, first, fine.1⟩, _, others, fine.2⟩
    · rintro ⟨⟨x, first, fine⟩, xs, others, fine'⟩
      exact ⟨x :: xs, .cons first others, List.forall_mem_cons.mpr ⟨fine, fine'⟩⟩

theorem yields_readItems_iff (values : ∀ value, Yields (read value) isGood ↔ isValue value)
    {position : Nat} {items : List Data} :
    Yields (readItems read position items) (fun xs => ∀ x ∈ xs, isGood x) ↔
      ∀ item ∈ items, isValue item := by
  simp only [Yields, readItems_eq_ok_iff]
  exact yields_forall₂_iff values items

theorem yields_readList_iff (values : ∀ value, Yields (read value) isGood ↔ isValue value)
    {value : Data} :
    Yields (readList read value) (fun xs => ∀ x ∈ xs, isGood x) ↔ IsListOf isValue value := by
  unfold readList IsListOf
  cases value.items? with
  | none => simp only [not_yields_complain, reduceCtorEq, false_and, exists_false]
  | some items => simp only [yields_readItems_iff values, Option.some.injEq, exists_eq_left']

theorem succeeds_readList_iff (values : ∀ value, Succeeds (read value) ↔ isValue value)
    {value : Data} : Succeeds (readList read value) ↔ IsListOf isValue value := by
  simp only [← yields_true_iff] at values ⊢
  simpa only [implies_true] using yields_readList_iff values

theorem yields_items_iff (values : ∀ value, Yields (read value) isGood ↔ isValue value) :
    Yields (options.items read name) (fun xs => ∀ x ∈ xs, isGood x) ↔
      options.AllowsNonNull name (IsListOf isValue) := by
  unfold Options.items Options.AllowsNonNull
  cases options.find? name with
  | none =>
    simp only [yields_ok_iff, List.not_mem_nil, false_implies, implies_true, reduceCtorEq]
  | some value =>
    simp only [yields_within_iff, yields_readList_iff values, Option.some.injEq, forall_eq']

theorem succeeds_required_iff (values : ∀ value, Succeeds (read value) ↔ isValue value) :
    Succeeds (options.required read name) ↔ options.Requires name isValue := by
  simp only [Succeeds, Options.required_eq_ok_iff, Options.Requires, ← values]
  exact exists_comm.trans (exists_congr fun value => exists_and_left)

theorem succeeds_only_iff {names : List String} :
    Succeeds (options.only names) ↔ options.KnownAmong names := by
  simp only [Succeeds, ← Options.only_eq_ok_iff]
  exact ⟨fun ⟨_, done⟩ => done, fun done => ⟨(), done⟩⟩

theorem readOptions_eq_ok_iff {model : String} {part : Data} :
    readOptions model part = .ok options ↔ part = .object options := by
  cases part with
  | object own => simp only [readOptions, Except.ok.injEq, Data.object.injEq]
  | _ => simp only [readOptions, complain_ne_ok, reduceCtorEq]

/-- A part that has to be an object is read option by option. -/
theorem yields_object_iff {model : String} {part : Data} {next : Options → Reading α}
    {IsPart : Options → Prop} (rest : ∀ own, Yields (next own) isGood ↔ IsPart own) :
    Yields (readOptions model part >>= next) isGood ↔ ∃ own, part = .object own ∧ IsPart own := by
  simp only [← rest, Yields, bind_eq_ok_iff, readOptions_eq_ok_iff]
  constructor
  · rintro ⟨x, ⟨own, same, done⟩, good⟩
    exact ⟨own, same, x, done, good⟩
  · rintro ⟨own, same, x, done, good⟩
    exact ⟨x, ⟨own, same, done⟩, good⟩

theorem succeeds_object_iff {model : String} {part : Data} {next : Options → Reading α}
    {IsPart : Options → Prop} (rest : ∀ own, Succeeds (next own) ↔ IsPart own) :
    Succeeds (readOptions model part >>= next) ↔ ∃ own, part = .object own ∧ IsPart own := by
  simp only [← yields_true_iff] at rest ⊢
  exact yields_object_iff rest

theorem succeeds_single_two_iff {first : Option β} {second : Option γ} {f : β → α} {g : γ → α}
    {a b : String} (firsts : first.isSome = true ↔ options.Given a)
    (seconds : second.isSome = true ↔ options.Given b) (distinct : [a, b].Nodup) :
    Succeeds (single [(a, first.map f), (b, second.map g)]) ↔ options.GivesOne [a, b] := by
  refine exists_single_iff ?_ distinct
  simp only [List.forall_mem_cons, Option.isSome_map, firsts, seconds, List.not_mem_nil,
    false_implies, implies_true, and_self]

theorem succeeds_single_three_iff {first : Option β} {second : Option γ} {third : Option δ}
    {f : β → α} {g : γ → α} {h : δ → α} {a b c : String}
    (firsts : first.isSome = true ↔ options.Given a) (seconds : second.isSome = true ↔ options.Given b)
    (thirds : third.isSome = true ↔ options.Given c) (distinct : [a, b, c].Nodup) :
    Succeeds (single [(a, first.map f), (b, second.map g), (c, third.map h)]) ↔
      options.GivesOne [a, b, c] := by
  refine exists_single_iff ?_ distinct
  simp only [List.forall_mem_cons, Option.isSome_map, firsts, seconds, thirds, List.not_mem_nil,
    false_implies, implies_true, and_self]

end Reading

/-! ## Widgets without cells -/

section Plain

variable {options : Options}

theorem succeeds_readCaption_iff : Succeeds (readCaption options) ↔ HasCaption options := by
  rw [hasCaption_iff]
  refine succeeds_bind_iff succeeds_text_iff fun title _ => ?_
  exact succeeds_map_iff.trans succeeds_text_iff

theorem succeeds_readNumber_iff : Succeeds (readNumber options) ↔ IsNumber options := by
  rw [isNumber_iff]
  refine succeeds_bind_iff succeeds_readCaption_iff fun caption _ => ?_
  refine succeeds_bind_iff succeeds_text_iff fun color _ => ?_
  refine succeeds_bind_iff (succeeds_optional_iff fun _ => succeeds_readScalar_iff) fun value values => ?_
  refine succeeds_bind_iff succeeds_text_iff fun script scripts => ?_
  refine succeeds_bind_iff succeeds_text_iff fun query queries => ?_
  refine succeeds_bind_iff succeeds_only_iff fun _ _ => ?_
  refine succeeds_map_iff.trans (succeeds_single_three_iff ?_ ?_ ?_ (by decide))
  · exact Options.isSome_of_optional queries
  · exact Options.isSome_of_optional values
  · exact Options.isSome_of_optional scripts

theorem succeeds_readGraphElement_iff {element : Data} :
    Succeeds (readGraphElement element) ↔ ∃ own, element = .object own ∧ IsGraphElement own := by
  refine succeeds_object_iff fun own => ?_
  rw [isGraphElement_iff]
  refine succeeds_bind_iff succeeds_readCaption_iff fun caption _ => ?_
  refine succeeds_bind_iff succeeds_text_iff fun color _ => ?_
  refine succeeds_bind_iff (succeeds_optional_iff fun _ => succeeds_readScalar_iff) fun value values => ?_
  refine succeeds_bind_iff succeeds_text_iff fun query queries => ?_
  refine succeeds_bind_iff succeeds_only_iff fun _ _ => ?_
  refine succeeds_map_iff.trans (succeeds_single_two_iff ?_ ?_ (by decide))
  · exact Options.isSome_of_optional queries
  · exact Options.isSome_of_optional values

theorem succeeds_readFieldOptions_iff {field : Data} :
    Succeeds (readFieldOptions field) ↔ ∃ own, field = .object own ∧ IsFieldOptions own := by
  refine succeeds_object_iff fun own => ?_
  rw [isFieldOptions_iff]
  refine succeeds_bind_iff succeeds_text_iff fun title _ => ?_
  refine succeeds_bind_iff succeeds_text_iff fun property properties => ?_
  refine succeeds_bind_iff succeeds_text_iff fun template templates => ?_
  refine succeeds_bind_iff succeeds_only_iff fun _ _ => ?_
  refine succeeds_single_two_iff ?_ ?_ (by decide)
  · exact Options.isSome_of_optional properties
  · exact Options.isSome_of_optional templates

theorem succeeds_readField_iff {field : Data} : Succeeds (readField field) ↔ IsField field := by
  unfold readField IsField
  rw [← succeeds_readText_iff, ← succeeds_readFieldOptions_iff]
  cases text : readText field with
  | ok property => simp only [Succeeds, Except.ok.injEq, exists_eq', true_or]
  | error complaint =>
    simp only [Succeeds, within_eq_ok_iff, reduceCtorEq, exists_false, false_or]

theorem succeeds_readOutput_iff {part : Data} :
    Succeeds (readOutput part) ↔ ∃ own, part = .object own ∧ IsOutput own := by
  refine succeeds_object_iff fun own => ?_
  rw [isOutput_iff]
  refine succeeds_bind_iff (succeeds_required_iff fun _ => succeeds_readText_iff) fun format _ => ?_
  refine succeeds_bind_iff succeeds_text_iff fun filename _ => ?_
  refine succeeds_map_iff.trans ?_
  constructor
  · rintro ⟨⟨⟩, done⟩ entry member
    obtain ⟨name, same, -⟩ := Options.checkNames_eq_ok_iff.mp done entry member
    exact ⟨name, same⟩
  · intro named
    refine ⟨(), Options.checkNames_eq_ok_iff.mpr fun entry member => ?_⟩
    obtain ⟨name, same⟩ := named entry member
    exact ⟨name, same, rfl⟩

end Plain

/-! ## Cells and what contains them

Whether a dashboard can be built depends on the values of string widgets and cells alone.
-/

/-- Whether the value of a cell fits, if it has one. -/
def CellOptions.Fits (fits : Scalar → Prop) (cell : CellOptions) : Prop :=
  ∀ value, cell.source = .value value → fits value

/-- Whether the values of a widget's texts fit. -/
def WidgetOptions.Fits (fits : Scalar → Prop) : WidgetOptions → Prop
  | .string options => options.Fits fits
  | .table _ headers rows =>
    (∀ cell ∈ headers, cell.Fits fits) ∧ ∀ row ∈ rows, ∀ cell ∈ row, cell.Fits fits
  | .number _ | .graph .. | .queryTable .. => True

/-- Whether the values of a section's texts fit. -/
def SectionOptions.Fits (fits : Scalar → Prop) (part : SectionOptions) : Prop :=
  ∀ widget ∈ part.widgets, widget.Fits fits

/-- Whether the values of all texts fit. -/
def BoardOptions.Fits (fits : Scalar → Prop) (board : BoardOptions) : Prop :=
  ∀ part ∈ board.sections, part.Fits fits

theorem BoardOptions.fits_of_all {fits : Scalar → Prop} (all : ∀ value, fits value)
    (board : BoardOptions) : board.Fits fits := by
  intro part _ widget _
  have cell (own : CellOptions) : own.Fits fits := fun value _ => all value
  cases widget with
  | string own => exact cell own
  | table caption headers rows => exact ⟨fun own _ => cell own, fun _ _ own _ => cell own⟩
  | _ => trivial

section Cells

variable {options : Options} {isValue : Data → Prop} {fits : Scalar → Prop}

/-- The one source of a cell is its value, if the value is given. -/
theorem yields_source_iff {value : Option Scalar} {script : Option String}
    (values : value.isSome = true ↔ options.Given "value")
    (scripts : script.isSome = true ↔ options.Given "script") :
    Yields (single [("value", value.map TextSource.value), ("script", script.map .script)])
        (fun source => ∀ value, source = .value value → fits value) ↔
      (∀ x ∈ value, fits x) ∧ options.GivesOne ["value", "script"] := by
  rw [← succeeds_single_two_iff (f := TextSource.value) (g := .script) values scripts (by decide)]
  constructor
  · rintro ⟨source, done, fine⟩
    refine ⟨?_, source, done⟩
    rintro x ⟨⟩
    obtain ⟨name, same⟩ := single_eq_ok_iff.mp done
    cases script with
    | none => cases same; exact fine x rfl
    | some script => cases same
  · rintro ⟨fine, source, done⟩
    refine ⟨source, done, ?_⟩
    rintro x rfl
    obtain ⟨name, member⟩ := mem_of_single done
    simp only [List.mem_cons, Prod.mk.injEq, List.not_mem_nil, or_false] at member
    obtain ⟨-, valued⟩ | ⟨-, scripted⟩ := member
    · obtain ⟨y, given, same⟩ := Option.map_eq_some_iff.mp valued.symm
      cases same
      exact fine x given
    · obtain ⟨_, _, never⟩ := Option.map_eq_some_iff.mp scripted.symm
      cases never

theorem yields_readCellOptions_iff (values : ∀ value, Yields (readScalar value) fits ↔ isValue value)
    {isWidget : Bool} :
    Yields (readCellOptions isWidget options) (·.Fits fits) ↔ IsString isValue isWidget options := by
  rw [isString_iff]
  refine yields_bind_after_iff succeeds_readCaption_iff fun caption _ => ?_
  refine yields_bind_after_iff succeeds_text_iff fun color _ => ?_
  refine yields_bind_after_iff succeeds_text_iff fun align _ => ?_
  refine yields_bind_iff (yields_optional_iff values) fun value given => ?_
  refine yields_bind_between_iff succeeds_text_iff fun script scripts => ?_
  refine yields_bind_between_iff succeeds_only_iff fun _ _ => ?_
  refine yields_map_iff.trans (yields_source_iff ?_ ?_)
  · exact Options.isSome_of_optional given
  · exact Options.isSome_of_optional scripts

theorem yields_readCell_iff (values : ∀ value, Yields (readScalar value) fits ↔ isValue value)
    {value : Data} : Yields (readCell value) (·.Fits fits) ↔ IsCell isValue value := by
  have bare : Yields (CellOptions.bare <$> readScalar value) (·.Fits fits) ↔ isValue value := by
    rw [yields_map_iff, ← values]
    simp only [CellOptions.Fits, CellOptions.bare, TextSource.value.injEq, forall_eq']
  cases value with
  | object options =>
    rw [IsCell, ← yields_readCellOptions_iff values]
    simp only [readCell, Yields, mapError_eq_ok_iff]
  | _ => exact bare

theorem yields_readCells_iff (values : ∀ value, Yields (readScalar value) fits ↔ isValue value)
    {value : Data} :
    Yields (readCells value) (fun cells => ∀ cell ∈ cells, cell.Fits fits) ↔
      IsCells isValue value := by
  unfold readCells IsCells
  cases value.items? with
  | some cells =>
    simp only [yields_within_iff]
    exact yields_readItems_iff fun _ => yields_readCell_iff values
  | none =>
    simp only [← yields_readCell_iff values]
    cases readCell value with
    | ok cell => simp only [yields_ok_iff, List.mem_singleton, forall_eq]
    | error complaint =>
      rw [yields_within_iff]
      exact iff_of_false not_yields_complain fun ⟨_, never, _⟩ => by cases never

/-- The one source of a table decides which other options it may have. -/
theorem yields_tableSource_iff {caption : Caption} {query : Option String} {limit : Option Int}
    {fields : Option (List Field)} {headers : Option (List CellOptions)}
    {rows : Option (List (List CellOptions))}
    (queries : query.isSome = true ↔ options.Given "issue_query")
    (limits : limit.isSome = true ↔ options.Given "limit")
    (columns : fields.isSome = true ↔ options.Given "fields")
    (heads : headers.isSome = true ↔ options.Given "headers")
    (elements : rows.isSome = true ↔ options.Given "elements") :
    Yields (do
        match ← single [("issue_query", query.map Sum.inl), ("elements", rows.map Sum.inr)] with
        | .inl query =>
          if headers.isSome then complain (.unexpected "headers")
          else return WidgetOptions.queryTable caption query limit fields
        | .inr rows =>
          if limit.isSome then complain (.unexpected "limit")
          else if fields.isSome then complain (.unexpected "fields")
          else return .table caption (headers.getD []) rows) (·.Fits fits) ↔
      ((∀ cells ∈ rows, ∀ row ∈ cells, ∀ cell ∈ row, cell.Fits fits) ∧
          ∀ cells ∈ headers, ∀ cell ∈ cells, cell.Fits fits) ∧
        options.GivesOne ["issue_query", "elements"] ∧
          (options.Given "headers" → options.Given "elements") ∧
            (options.Given "limit" ∨ options.Given "fields" → options.Given "issue_query") := by
  rw [← succeeds_single_two_iff (f := Sum.inl) (g := Sum.inr) queries elements (by decide),
    ← queries, ← limits, ← columns, ← heads, ← elements]
  cases query with
  | none =>
    cases rows with
    | none =>
      refine iff_of_false ?_ ?_
      · rintro ⟨_, never, _⟩
        cases never
      · rintro ⟨_, ⟨_, never⟩, _⟩
        cases never
    | some rows =>
      cases limit with
      | some limit =>
        refine iff_of_false (fun ⟨_, never, _⟩ => by cases never) ?_
        rintro ⟨_, _, _, besideQuery⟩
        cases besideQuery (.inl rfl)
      | none =>
        cases fields with
        | some fields =>
          refine iff_of_false (fun ⟨_, never, _⟩ => by cases never) ?_
          rintro ⟨_, _, _, besideQuery⟩
          cases besideQuery (.inr rfl)
        | none =>
          refine yields_ok_iff.trans ?_
          cases headers <;> simp [WidgetOptions.Fits, single, Succeeds, and_comm]
  | some query =>
    cases rows with
    | none =>
      cases headers with
      | some headers =>
        refine iff_of_false (fun ⟨_, never, _⟩ => by cases never) ?_
        rintro ⟨_, _, besideRows, _⟩
        cases besideRows rfl
      | none =>
        refine yields_ok_iff.trans ?_
        simp [WidgetOptions.Fits, single, Succeeds]
    | some rows =>
      refine iff_of_false ?_ ?_
      · rintro ⟨_, never, _⟩
        cases never
      · rintro ⟨_, ⟨_, never⟩, _⟩
        cases never

theorem yields_readTable_iff (values : ∀ value, Yields (readScalar value) fits ↔ isValue value) :
    Yields (readTable options) (·.Fits fits) ↔ IsTable isValue options := by
  rw [isTable_iff]
  refine yields_bind_after_iff succeeds_readCaption_iff fun caption _ => ?_
  refine yields_bind_after_iff succeeds_text_iff fun query queries => ?_
  refine yields_bind_after_iff (succeeds_optional_iff fun _ => succeeds_readCount_iff)
    fun limit limits => ?_
  refine yields_bind_after_iff (succeeds_optional_iff fun _ =>
    succeeds_readList_iff fun _ => succeeds_readField_iff) fun fields columns => ?_
  refine yields_bind_iff (yields_optional_iff fun _ => yields_readCells_iff values)
    fun headers heads => ?_
  rw [and_left_comm]
  refine yields_bind_iff (yields_optional_iff fun _ =>
    yields_readList_iff fun _ => yields_readCells_iff values) fun rows elements => ?_
  rw [← and_assoc]
  refine yields_bind_between_iff succeeds_only_iff fun _ _ => ?_
  refine yields_tableSource_iff ?_ ?_ ?_ ?_ ?_
  · exact Options.isSome_of_optional queries
  · exact Options.isSome_of_optional limits
  · exact Options.isSome_of_optional columns
  · exact Options.isSome_of_optional heads
  · exact Options.isSome_of_optional elements

theorem yields_readGraph_iff : Yields (readGraph options) (·.Fits fits) ↔ IsGraph options := by
  rw [isGraph_iff]
  refine yields_bind_after_iff succeeds_readCaption_iff fun caption _ => ?_
  refine yields_bind_after_iff (succeeds_required_iff fun _ =>
    succeeds_readList_iff fun _ => succeeds_readGraphElement_iff) fun elements _ => ?_
  exact (yields_map_iff.trans yields_true_iff).trans succeeds_only_iff

/-- A widget has to have a type, and it is read as a widget of that type. -/
theorem readWidget_eq_ok_iff {widget : Data} {read : WidgetOptions} :
    readWidget widget = .ok read ↔
      ∃ (options : Options) (type : String) (reading : Reading WidgetOptions),
        widget = .object options ∧ options.find? "type" = some (.text type) ∧
          widgetOptions? type options = some reading ∧ reading = .ok read := by
  constructor
  · intro done
    cases widget with
    | object options =>
      rw [readWidget] at done
      cases found : Options.find? options "type" with
      | none =>
        rw [found] at done
        exact absurd done complain_ne_ok
      | some type =>
        simp only [found] at done
        split at done
        next reading same =>
          obtain ⟨name, text, mapped⟩ := Option.bind_eq_some_iff.mp same
          obtain ⟨inner, known, rfl⟩ := Option.map_eq_some_iff.mp mapped
          have named : type = .text name := by
            unfold Data.text? at text
            split at text
            · cases text; rfl
            · cases text
          rw [named] at found
          exact ⟨options, name, inner, rfl, found, known, within_eq_ok_iff.mp done⟩
        next => exact absurd done complain_ne_ok
    | _ => exact absurd done complain_ne_ok
  · rintro ⟨options, type, reading, rfl, found, known, done⟩
    rw [readWidget, found]
    simp only [Data.text?, Option.bind_some, known, Option.map_some, within_eq_ok_iff, done]

theorem yields_readWidget_iff (values : ∀ value, Yields (readScalar value) fits ↔ isValue value)
    {widget : Data} : Yields (readWidget widget) (·.Fits fits) ↔ IsWidget isValue widget := by
  constructor
  · rintro ⟨read, done, fine⟩
    obtain ⟨options, type, reading, rfl, found, known, done⟩ := readWidget_eq_ok_iff.mp done
    have valid : Yields reading (·.Fits fits) := ⟨read, done, fine⟩
    unfold widgetOptions? at known
    split at known
    next isNumber =>
      obtain rfl := eq_of_beq isNumber
      cases known
      exact .number found (succeeds_readNumber_iff.mp (yields_true_iff.mp (yields_map_iff.mp valid)))
    split at known
    next isString =>
      obtain rfl := eq_of_beq isString
      cases known
      rw [yields_map_iff] at valid
      exact .string found ((yields_readCellOptions_iff values).mp valid)
    split at known
    next isGraph =>
      obtain rfl := eq_of_beq isGraph
      cases known
      exact .graph found (yields_readGraph_iff.mp valid)
    split at known
    next isTable =>
      obtain rfl := eq_of_beq isTable
      cases known
      exact .table found ((yields_readTable_iff values).mp valid)
    next => cases known
  · rintro (⟨type, valid⟩ | ⟨type, valid⟩ | ⟨type, valid⟩ | ⟨type, valid⟩)
    · obtain ⟨number, done⟩ := succeeds_readNumber_iff.mpr valid
      exact ⟨.number number,
        readWidget_eq_ok_iff.mpr ⟨_, _, _, rfl, type, rfl, map_eq_ok_iff.mpr ⟨number, done, rfl⟩⟩, trivial⟩
    · obtain ⟨cell, done, fine⟩ := (yields_readCellOptions_iff values).mpr valid
      exact ⟨.string cell,
        readWidget_eq_ok_iff.mpr ⟨_, _, _, rfl, type, rfl, map_eq_ok_iff.mpr ⟨cell, done, rfl⟩⟩, fine⟩
    · obtain ⟨graph, done, fine⟩ := yields_readGraph_iff.mpr valid
      exact ⟨graph, readWidget_eq_ok_iff.mpr ⟨_, _, _, rfl, type, rfl, done⟩, fine⟩
    · obtain ⟨table, done, fine⟩ := (yields_readTable_iff values).mpr valid
      exact ⟨table, readWidget_eq_ok_iff.mpr ⟨_, _, _, rfl, type, rfl, done⟩, fine⟩

theorem yields_readSection_iff (values : ∀ value, Yields (readScalar value) fits ↔ isValue value)
    {part : Data} :
    Yields (readSection part) (·.Fits fits) ↔ ∃ own, part = .object own ∧ IsSection isValue own := by
  refine yields_object_iff fun own => ?_
  rw [isSection_iff]
  refine yields_bind_after_iff succeeds_text_iff fun title _ => ?_
  refine yields_bind_after_iff succeeds_text_iff fun description _ => ?_
  refine yields_bind_iff (yields_items_iff fun _ => yields_readWidget_iff values) fun widgets _ => ?_
  rw [and_comm]
  exact yields_bind_after_iff succeeds_only_iff fun _ _ => yields_ok_iff

/-- Every scalar may be a value if nothing is asked of it. -/
theorem yields_readScalar_iff {value : Data} :
    Yields (readScalar value) (fun _ => True) ↔ IsScalar value :=
  yields_true_iff.trans succeeds_readScalar_iff

theorem yields_readBoard_iff (values : ∀ value, Yields (readScalar value) fits ↔ isValue value) :
    Yields (readBoard options) (·.Fits fits) ↔ IsBoard isValue options := by
  rw [isBoard_iff]
  refine yields_bind_after_iff succeeds_text_iff fun title _ => ?_
  refine yields_bind_after_iff succeeds_text_iff fun description _ => ?_
  refine yields_bind_after_iff succeeds_text_iff fun setup _ => ?_
  refine yields_bind_after_iff succeeds_text_iff fun shutdown _ => ?_
  refine yields_bind_after_iff (succeeds_required_iff fun _ => succeeds_readOutput_iff) fun output _ => ?_
  refine yields_bind_iff (yields_items_iff fun _ => yields_readSection_iff values) fun sections _ => ?_
  rw [and_comm]
  exact yields_bind_after_iff succeeds_only_iff fun _ _ => yields_ok_iff

end Cells

/-! ## Building -/

/-- Whether a scalar has a text. -/
def HasText (value : Scalar) : Prop := ∃ text, value.toText = .ok text

theorem hasText_text (s : String) : HasText (.text s) := ⟨s, rfl⟩

theorem hasText_integer_iff {n : Int} :
    HasText (.number (.integer n)) ↔ n.natAbs < Nat.pow 10 integerDigitLimit := by
  show (∃ text, integerText n = .ok text) ↔ _
  unfold integerText
  split
  next few => exact iff_of_true ⟨_, rfl⟩ few
  next many => exact iff_of_false (fun ⟨_, never⟩ => by cases never) many

/-- Truth values count as small integers. -/
theorem hasText_flag (b : Bool) : HasText (.number (.integer (if b then 1 else 0))) := by
  rw [hasText_integer_iff]
  have large (digits : Nat) (some : digits ≠ 0) : 1 < Nat.pow 10 digits :=
    Nat.one_lt_pow some (by decide)
  cases b
  · exact Nat.lt_of_succ_lt (large _ (by decide))
  · exact large _ (by decide)

/-- Integers are the only scalars that may have no text. -/
theorem hasText_of_readScalar {value : Data} {scalar : Scalar} (done : readScalar value = .ok scalar)
    (other : ∀ n, value ≠ .integer n) : HasText scalar := by
  unfold readScalar at done
  split at done
  next n => exact absurd rfl (other n)
  next x =>
    cases done
    exact ⟨_, rfl⟩
  next b =>
    cases done
    exact hasText_flag b
  next =>
    obtain ⟨s, -, rfl⟩ := map_eq_ok_iff.mp (within_eq_ok_iff.mp done)
    exact hasText_text s

theorem yields_hasText_iff {value : Data} :
    Yields (readScalar value) HasText ↔ IsShownScalar value := by
  by_cases integer : ∃ n, value = .integer n
  · obtain ⟨n, rfl⟩ := integer
    refine yields_ok_iff.trans (hasText_integer_iff.trans ?_)
    simp only [IsShownScalar, IsScalar, true_and, Data.atom.injEq, Atom.integer.injEq, forall_eq']
  · rw [not_exists] at integer
    rw [IsShownScalar, ← succeeds_readScalar_iff,
      and_iff_left fun n same => absurd same (integer n)]
    constructor
    · rintro ⟨scalar, done, -⟩
      exact ⟨scalar, done⟩
    · rintro ⟨scalar, done⟩
      exact ⟨scalar, done, hasText_of_readScalar done integer⟩

theorem exists_cell_iff {cell : CellOptions} :
    (∃ widget, cell.widget = .ok widget) ↔ cell.Fits HasText := by
  unfold CellOptions.widget CellOptions.Fits
  cases cell.source with
  | value value => simp only [exists_bind_pure_iff, TextSource.value.injEq, forall_eq', HasText]
  | script script => exact iff_of_true ⟨_, rfl⟩ fun _ never => by cases never

theorem exists_widget_iff {options : WidgetOptions} :
    (∃ widget, options.widget = .ok widget) ↔ options.Fits HasText := by
  cases options with
  | string cell => exact exists_cell_iff
  | table caption headers rows =>
    simp only [WidgetOptions.Fits, ← exists_cell_iff, ← exists_mapM_eq_ok_iff, WidgetOptions.widget,
      bind_eq_ok_iff, pure_eq_ok_iff]
    constructor
    · rintro ⟨_, headers', first, rows', second, rfl⟩
      exact ⟨⟨headers', first⟩, rows', second⟩
    · rintro ⟨⟨headers', first⟩, rows', second⟩
      exact ⟨_, headers', first, rows', second, rfl⟩
  | _ => exact iff_of_true ⟨_, rfl⟩ trivial

theorem exists_section_iff {part : SectionOptions} :
    (∃ built, part.build = .ok built) ↔ part.Fits HasText := by
  simp only [SectionOptions.build, SectionOptions.Fits, ← exists_widget_iff, ← exists_mapM_eq_ok_iff,
    exists_bind_pure_iff]

theorem exists_build_iff {board : BoardOptions} :
    (∃ configuration, board.build = .ok configuration) ↔ board.Fits HasText := by
  simp only [BoardOptions.build, BoardOptions.Fits, ← exists_section_iff, ← exists_mapM_eq_ok_iff,
    exists_bind_pure_iff]

/-- **Exactly the data that conform to the schema make a configuration.** Anything else is complained
about. -/
theorem ofData_conformity (data : Data) :
    (∀ configuration, Configuration.ofData data = .ok configuration → Conforms IsScalar data) ∧
    (Conforms IsShownScalar data → ∃ configuration, Configuration.ofData data = .ok configuration) ∧
    (¬ Conforms IsScalar data →
      ∃ place message, Configuration.ofData data = .error (.config place message)) := by
  have conforms {options : Options} {board : BoardOptions} (read : readBoard options = .ok board) :
      Conforms IsScalar (.object options) :=
    ⟨options, rfl, (yields_readBoard_iff fun _ => yields_readScalar_iff).mp
      ⟨board, read, board.fits_of_all fun _ => trivial⟩⟩
  refine ⟨fun configuration done => ?_, ?_, fun invalid => ?_⟩
  · cases data with
    | object options =>
      obtain ⟨board, read, -⟩ := bind_eq_ok_iff.mp done
      rw [mapError_eq_ok_iff] at read
      exact conforms read
    | _ => cases done
  · rintro ⟨options, rfl, valid⟩
    obtain ⟨board, read, fine⟩ := (yields_readBoard_iff fun _ => yields_hasText_iff).mpr valid
    obtain ⟨configuration, built⟩ := exists_build_iff.mpr fine
    refine ⟨configuration, bind_eq_ok_iff.mpr ⟨board, ?_, ?_⟩⟩
    · exact mapError_eq_ok_iff.mpr read
    · exact mapError_eq_ok_iff.mpr built
  · cases data with
    | object options =>
      cases read : readBoard options with
      | ok board => exact absurd (conforms read) invalid
      | error complaint =>
        refine ⟨complaint.location, complaint.cause.message, ?_⟩
        rw [Configuration.ofData, read]
        rfl
    | _ => exact ⟨_, _, rfl⟩

/-- The least configuration conforms to the schema and is accepted; a list does not and is not. -/
theorem ofData_conformity_least :
    Conforms IsShownScalar (.object [(.text "output", .object [(.text "format", .text "json")])]) ∧
      (∃ configuration, Configuration.ofData (.object [(.text "output",
        .object [(.text "format", .text "json")])]) = .ok configuration) ∧
      ∃ place message, Configuration.ofData (.list []) = .error (.config place message) := by
  have valid : Conforms IsShownScalar
      (.object [(.text "output", .object [(.text "format", .text "json")])]) :=
    ⟨_, rfl, (yields_readBoard_iff fun _ => yields_hasText_iff).mp ⟨_, rfl, fun _ member => nomatch member⟩⟩
  have invalid : ¬ Conforms IsScalar (.list []) := fun ⟨_, never, _⟩ => by cases never
  exact ⟨valid, (ofData_conformity _).2.1 valid, (ofData_conformity (.list [])).2.2 invalid⟩

/-- A configuration with one option beside its format. -/
def configured (name : String) (value : Data) : Data :=
  .object [(.text name, value), (.text "output", .object [(.text "format", .text "json")])]

/-- A section with a string widget that shows a number. -/
def sectionShowing (n : Nat) : Data :=
  .object [(.text "widgets", .list [.object [(.text "type", .text "string"),
    (.text "value", .integer n)]])]

theorem conforms_sectionShowing (n : Nat) :
    Conforms IsScalar (configured "sections" (.list [sectionShowing n])) :=
  ⟨_, rfl, (yields_readBoard_iff fun _ => yields_readScalar_iff).mp
    ⟨_, rfl, BoardOptions.fits_of_all (fun _ => trivial) _⟩⟩

theorem hasText_of_sectionShowing {n : Nat} {configuration : Configuration}
    (done : Configuration.ofData (configured "sections" (.list [sectionShowing n])) =
      .ok configuration) : HasText (.number (.integer n)) := by
  obtain ⟨board, read, built⟩ := bind_eq_ok_iff.mp done
  rw [mapError_eq_ok_iff] at read built
  cases read
  have fine := exists_build_iff.mp ⟨configuration, built⟩
  exact fine _ (List.mem_singleton_self _) _ (List.mem_singleton_self _) _ rfl

/-- A title need not be a text, nor the sections a list, for a configuration to be accepted; and one
whose options are all as they should be is not accepted if it shows too large a number. -/
theorem ofData_unlikeSchema :
    (∃ configuration, Configuration.ofData (configured "title" (.atom (.bytes [104, 105]))) =
      .ok configuration) ∧
    (∃ configuration, Configuration.ofData (configured "sections" (.set [])) = .ok configuration) ∧
    Conforms IsScalar
      (configured "sections" (.list [sectionShowing (Nat.pow 10 integerDigitLimit)])) ∧
    ∀ configuration, Configuration.ofData
      (configured "sections" (.list [sectionShowing (Nat.pow 10 integerDigitLimit)])) ≠
        .ok configuration := by
  refine ⟨⟨_, rfl⟩, ⟨_, rfl⟩, conforms_sectionShowing _, ?_⟩
  intro configuration done
  have few := hasText_integer_iff.mp (hasText_of_sectionShowing done)
  rw [Int.natAbs_natCast] at few
  exact Nat.lt_irrefl _ few

end IssueBoard.Config
