import IssueBoard.Proofs.Board.QueryTable
import IssueBoard.Proofs.Board.Reduction

/-! # What stands around a value

A widget around a value is filled in text by text. What the result of a script sets for a text comes
before the widget's own template for it, and a template sees nothing but the value, wherever the widget
stands. The five kinds of widgets around a value follow this one rule and differ only in where their value
comes from.
-/

namespace IssueBoard

variable {σ V : Type}

/-! ## Values and texts -/

/-- A text around a value. -/
inductive Slot where
  | title
  | url
  | align
  | color
  deriving DecidableEq

/-- The name under which the result of a script sets a text. -/
def Slot.name : Slot → String
  | .title => "title"
  | .url => "url"
  | .align => "align"
  | .color => "color"

/-- The texts around a value. Before they are filled in they are templates. -/
abbrev Surroundings := Slot → Option String

/-- The value in the middle of a widget. -/
inductive Content where
  | figure (value : Figure)
  | text (value : String)

namespace Content

/-- A value as data. -/
def toData : Content → Data
  | .figure value => value.toData
  | .text value => .text value

/-- The texts around a value, in the order in which they are filled in. -/
def slots : Content → List Slot
  | .figure _ => [.title, .url, .color]
  | .text _ => [.title, .url, .align, .color]

/-- A static widget. Without an address among the texts it links to `page`. -/
def widget (around : Surroundings) (page : Option String) : Content → Widget
  | .figure value => .number ⟨around .title, ((around .url).or page).map .page⟩ value (around .color)
  | .text value =>
    .string ⟨around .title, ((around .url).or page).map .page⟩ value (around .align) (around .color)

end Content

/-- Where the value of a widget comes from. -/
inductive Origin where
  | figure (value : Figure)
  | template (template : String)
  | total (search : Search)
  | scriptNumber (script : String)
  | scriptString (script : String)

/-- A widget around a value from somewhere. -/
def Origin.widget (around : Surroundings) : Origin → Widget
  | .figure value => .number ⟨around .title, (around .url).map .page⟩ value (around .color)
  | .template source =>
    .string ⟨around .title, (around .url).map .page⟩ source (around .align) (around .color)
  | .total search => .queryNumber ⟨around .title, (around .url).map .page⟩ search (around .color)
  | .scriptNumber script => .scriptNumber ⟨around .title, (around .url).map .page⟩ script (around .color)
  | .scriptString script =>
    .scriptString ⟨around .title, (around .url).map .page⟩ script (around .align) (around .color)

/-! ## Results of scripts -/

namespace World

variable (world : World σ V)

/-- What the result of a script sets for a text: what it holds under the name of the text, unless that is
absent. Only an object with a value sets anything. -/
def override? (session : Session σ V) (result : V) (slot : Slot) : Option V :=
  if (world.field? session result "value").isSome then world.setting? session result slot.name else none

end World

namespace Evaluation

variable {world : World σ V} {focus : Focus V}

/-- What is in scope for a text around a value. -/
def valueScope (value : Data) : Scope V :=
  [("github", .server), ("userdata", .userdata), ("value", .plain value)]

/-- What a text around a value shows, and the session that this leads to: what a script has set, as it is
by then, or the template with the value in scope, or nothing. -/
inductive FillsIn (world : World σ V) (value : Data) (set? : Option V) (template : Option String) :
    Session σ V → Option String → Session σ V → Prop
  | set {session : Session σ V} {entry : V} {text : String} (given : set? = some entry)
    (shown : (world.view session entry).display = .ok text) :
    FillsIn world value set? template session (some text) session
  | template {session after : Session σ V} {source text : String} (unset : set? = none)
    (given : template = some source)
    (resolved : (resolve world (valueScope value) source).runFrom session = (.ok text, after)) :
    FillsIn world value set? template session (some text) after
  | absent {session : Session σ V} (unset : set? = none) (missing : template = none) :
    FillsIn world value set? template session none session

/-- A value that has been found, with what is known about the texts around it. -/
structure Finding (V : Type) where
  content : Content
  /-- What a script has set for the texts. -/
  set? : Slot → Option V := fun _ => none
  /-- The page to link to in want of an address. -/
  page : Option String := none

/-- How the value of a widget is found, and the session that this leads to. A script's value is the number
or the text that the payload of its result counts as. -/
inductive Finds (world : World σ V) (focus : Focus V) :
    Origin → Session σ V → Finding V → Session σ V → Prop
  | figure {session after : Session σ V} {value found : Figure}
    (resolved : (resolveFigure world focus value).runFrom session = (.ok found, after)) :
    Finds world focus (.figure value) session { content := .figure found } after
  | template {session after : Session σ V} {template text : String}
    (resolved : (resolve world focus.scope template).runFrom session = (.ok text, after)) :
    Finds world focus (.template template) session { content := .text text } after
  | total {session after : Session σ V} {search : Search} {results : QueryResults V}
    (found : (runQuery world defaultPageSize focus search.kind search.query 0).runFrom session =
      (.ok results, after)) :
    Finds world focus (.total search) session
      { content := .figure (.ofTotal results.total), page := some results.url } after
  | scriptNumber {session after : Session σ V} {script : String} {result : V} {n : Number}
    (ran : (runScript world focus.scope script).runFrom session = (.ok result, after))
    (counts : scriptNumber (world.payload after result) = .ok n) :
    Finds world focus (.scriptNumber script) session
      { content := .figure (.number n), set? := world.override? after result } after
  | scriptString {session after : Session σ V} {script : String} {result : V} {text : String}
    (ran : (runScript world focus.scope script).runFrom session = (.ok result, after))
    (shown : (world.payload after result).display = .ok text) :
    Finds world focus (.scriptString script) session
      { content := .text text, set? := world.override? after result } after

/-- A static widget around a value that has been found, and the session that filling it in leads to: the
texts are filled in one after the other, and a page to link to takes the place of a missing address. -/
inductive Surrounds (world : World σ V) (finding : Finding V) (around : Surroundings) :
    Session σ V → Widget → Session σ V → Prop
  | widget {session after : Session σ V} {filled : Surroundings}
    (inTurn : InTurn (fun slot => FillsIn world finding.content.toData (finding.set? slot) (around slot))
      finding.content.slots session (finding.content.slots.map filled) after) :
    Surrounds world finding around session (finding.content.widget filled finding.page) after

/-! ## Filling in -/

section Filling

variable {value : Data} {overrides : Overrides V} {set? : Option V} {template : Option String}
  {session after : Session σ V}

theorem fillsIn_set_iff {entry : V} {found : Option String} :
    FillsIn world value (some entry) template session found after ↔
      ∃ text, ((world.view session entry).display = .ok text ∧ session = after) ∧ some text = found := by
  constructor
  · intro fills
    cases fills with
    | set given shown =>
      cases given
      exact ⟨_, ⟨shown, rfl⟩, rfl⟩
    | template unset => cases unset
    | absent unset => cases unset
  · rintro ⟨text, ⟨shown, rfl⟩, rfl⟩
    exact .set rfl shown

theorem fillsIn_template_iff {source : String} {found : Option String} :
    FillsIn world value none (some source) session found after ↔
      ∃ text, (resolve world (valueScope value) source).runFrom session = (.ok text, after) ∧
        some text = found := by
  constructor
  · intro fills
    cases fills with
    | set given => cases given
    | template _ given resolved =>
      cases given
      exact ⟨_, resolved, rfl⟩
    | absent _ missing => cases missing
  · rintro ⟨text, resolved, rfl⟩
    exact .template rfl rfl resolved

theorem fillsIn_absent_iff {found : Option String} :
    FillsIn world value none none session found after ↔ none = found ∧ session = after := by
  constructor
  · intro fills
    cases fills with
    | set given => cases given
    | template _ given => cases given
    | absent => exact ⟨rfl, rfl⟩
  · rintro ⟨rfl, rfl⟩
    exact .absent rfl rfl

theorem runFrom_fillField_eq_ok_iff {name : String} (settings : overrides.lookup name = set?)
    {found : Option String} :
    (fillField world overrides value name template).runFrom session = (.ok found, after) ↔
      FillsIn world value set? template session found after := by
  have scope : (Focus.plain value : Focus V).scope = valueScope value := rfl
  rw [fillField, settings]
  cases set? with
  | some entry =>
    have displayed (text : String) : (display world entry).runFrom session = (.ok text, after) ↔
        (world.view session entry).display = .ok text ∧ session = after := by
      have viewed : (view world entry).runFrom session = (.ok (world.view session entry), session) := rfl
      rw [display, runFrom_bind, viewed]
      dsimp only
      rw [runFrom_ofExcept, Prod.mk.injEq, mapError_eq_ok_iff]
    rw [fillsIn_set_iff, runFrom_bind_pure_eq_ok_iff]
    simp only [displayed]
  | none =>
    cases template with
    | some source =>
      simp only [resolveOptional, scope]
      rw [fillsIn_template_iff, runFrom_bind_pure_eq_ok_iff]
    | none =>
      rw [fillsIn_absent_iff]
      constructor
      · rintro ⟨⟩
        exact ⟨rfl, rfl⟩
      · rintro ⟨rfl, rfl⟩
        rfl

/-- An address is filled in like the other texts. -/
theorem runFrom_fillLink_eq_ok_iff (settings : overrides.lookup "url" = set?)
    {link : Option Link} :
    (fillLink world overrides value (template.map .page)).runFrom session = (.ok link, after) ↔
      ∃ found, FillsIn world value set? template session found after ∧ found.map .page = link := by
  have same : fillLink world overrides value (template.map .page) =
      (fillField world overrides value "url" template >>= fun found => pure (found.map .page)) := by
    rw [fillLink, fillField]
    cases overrides.lookup "url" with
    | some entry => simp only [bind_assoc, pure_bind, Option.map_some]
    | none =>
      cases template with
      | none => rfl
      | some source => simp only [Option.map_some, resolveLink, resolveOptional, bind_assoc, pure_bind]
  rw [same, runFrom_bind_pure_eq_ok_iff]
  simp only [runFrom_fillField_eq_ok_iff settings]

end Filling

section Contents

variable {overrides : Overrides V} {set? : Slot → Option V} {around : Surroundings} {page : Option String}
  {session after : Session σ V} {result : Widget}

theorem inTurn_cons_cons {α β S : Type} {Step : α → S → β → S → Prop} {a : α} {b : β} {as : List α}
    {bs : List β} {before after : S} : InTurn Step (a :: as) before (b :: bs) after ↔
      ∃ between, Step a before b between ∧ InTurn Step as between bs after := by
  rw [InTurn.cons_iff]
  constructor
  · rintro ⟨_, between, first, _, rest, ⟨⟩⟩
    exact ⟨between, first, rest⟩
  · rintro ⟨between, first, rest⟩
    exact ⟨b, between, first, bs, rest, rfl⟩

/-- Around a number there are a title, an address and a color. -/
theorem surrounds_figure_iff {value : Figure} :
    Surrounds world ⟨.figure value, set?, page⟩ around session result after ↔
      ∃ title titled url linked color,
        FillsIn world value.toData (set? .title) (around .title) session title titled ∧
        FillsIn world value.toData (set? .url) (around .url) titled url linked ∧
        FillsIn world value.toData (set? .color) (around .color) linked color after ∧
        .number ⟨title, (url.or page).map .page⟩ value color = result := by
  constructor
  · rintro ⟨inTurn⟩
    simp only [Content.slots, List.map_cons, List.map_nil, inTurn_cons_cons, InTurn.nil_iff] at inTurn
    obtain ⟨titled, title, linked, url, _, color, -, rfl⟩ := inTurn
    exact ⟨_, titled, _, linked, _, title, url, color, rfl⟩
  · rintro ⟨title, titled, url, linked, color, first, second, third, rfl⟩
    let filled : Surroundings
      | .title => title
      | .url => url
      | .align => none
      | .color => color
    refine @Surrounds.widget _ _ world ⟨.figure value, set?, page⟩ around session after filled ?_
    simp only [Content.slots, List.map_cons, List.map_nil, inTurn_cons_cons, InTurn.nil_iff]
    exact ⟨titled, first, linked, second, after, third, trivial, rfl⟩

/-- Around a text there are a title, an address, an alignment and a color. -/
theorem surrounds_text_iff {value : String} :
    Surrounds world ⟨.text value, set?, page⟩ around session result after ↔
      ∃ title titled url linked align aligned color,
        FillsIn world (.text value) (set? .title) (around .title) session title titled ∧
        FillsIn world (.text value) (set? .url) (around .url) titled url linked ∧
        FillsIn world (.text value) (set? .align) (around .align) linked align aligned ∧
        FillsIn world (.text value) (set? .color) (around .color) aligned color after ∧
        .string ⟨title, (url.or page).map .page⟩ value align color = result := by
  constructor
  · rintro ⟨inTurn⟩
    simp only [Content.slots, List.map_cons, List.map_nil, inTurn_cons_cons, InTurn.nil_iff] at inTurn
    obtain ⟨titled, title, linked, url, aligned, align, _, color, -, rfl⟩ := inTurn
    exact ⟨_, titled, _, linked, _, aligned, _, title, url, align, color, rfl⟩
  · rintro ⟨title, titled, url, linked, align, aligned, color, first, second, third, fourth, rfl⟩
    let filled : Surroundings
      | .title => title
      | .url => url
      | .align => align
      | .color => color
    refine @Surrounds.widget _ _ world ⟨.text value, set?, page⟩ around session after filled ?_
    simp only [Content.slots, List.map_cons, List.map_nil, inTurn_cons_cons, InTurn.nil_iff]
    exact ⟨titled, first, linked, second, aligned, third, after, fourth, trivial, rfl⟩

variable (settings : ∀ slot : Slot, overrides.lookup slot.name = set? slot)
include settings

theorem fillNumber_eq_ok_iff {value : Figure} :
    (fillNumber world overrides ⟨around .title, (around .url).map .page⟩ value (around .color) page).runFrom
        session = (.ok result, after) ↔
      Surrounds world ⟨.figure value, set?, page⟩ around session result after := by
  have title : overrides.lookup "title" = set? .title := settings .title
  have url : overrides.lookup "url" = set? .url := settings .url
  have color : overrides.lookup "color" = set? .color := settings .color
  rw [surrounds_figure_iff]
  simp only [fillNumber, runFrom_bind_eq_ok_iff, runFrom_fillField_eq_ok_iff title,
    runFrom_fillLink_eq_ok_iff url, runFrom_fillField_eq_ok_iff color, Option.map_or]
  constructor
  · rintro ⟨title, titled, first, _, linked, ⟨url, second, rfl⟩, color, _, third, done⟩
    cases done
    exact ⟨title, titled, url, linked, color, first, second, third, rfl⟩
  · rintro ⟨title, titled, url, linked, color, first, second, third, rfl⟩
    exact ⟨title, titled, first, _, linked, ⟨url, second, rfl⟩, color, after, third, rfl⟩

theorem fillString_eq_ok_iff {value : String} :
    (fillString world overrides ⟨around .title, (around .url).map .page⟩ value (around .align)
        (around .color)).runFrom session = (.ok result, after) ↔
      Surrounds world ⟨.text value, set?, none⟩ around session result after := by
  have title : overrides.lookup "title" = set? .title := settings .title
  have url : overrides.lookup "url" = set? .url := settings .url
  have align : overrides.lookup "align" = set? .align := settings .align
  have color : overrides.lookup "color" = set? .color := settings .color
  rw [surrounds_text_iff]
  simp only [fillString, runFrom_bind_eq_ok_iff, runFrom_fillField_eq_ok_iff title,
    runFrom_fillLink_eq_ok_iff url, runFrom_fillField_eq_ok_iff align, runFrom_fillField_eq_ok_iff color,
    Option.or_none]
  constructor
  · rintro ⟨title, titled, first, _, linked, ⟨url, second, rfl⟩, align, aligned, third, color, _, fourth,
      done⟩
    cases done
    exact ⟨title, titled, url, linked, align, aligned, color, first, second, third, fourth, rfl⟩
  · rintro ⟨title, titled, url, linked, align, aligned, color, first, second, third, fourth, rfl⟩
    exact ⟨title, titled, first, _, linked, ⟨url, second, rfl⟩, align, aligned, third, color, after, fourth,
      rfl⟩

end Contents

/-! ## Splitting results -/

theorem lookup_settings_name (world : World σ V) (session : Session σ V) (result : V) (slot : Slot) :
    (settings world session result).lookup slot.name = world.override? session result slot := by
  have known : slot.name ∈ overridable := by cases slot <;> decide
  rw [settings, World.override?]
  split
  · rw [lookup_settings, if_pos known]
  · rfl

/-- A script is run, and its result is split. -/
theorem runFrom_script_eq_ok_iff {bindings : Scope V} {script : String} {α : Type}
    {next : Data × Overrides V → Evaluation σ V α} {session after : Session σ V} {last : α} :
    (runScript world bindings script >>= fun result => splitResult world result >>= next).runFrom session =
        (.ok last, after) ↔
      ∃ result ran, (runScript world bindings script).runFrom session = (.ok result, ran) ∧
        (next (world.payload ran result, settings world ran result)).runFrom ran = (.ok last, after) := by
  rw [runFrom_bind_eq_ok_iff]
  simp only [runFrom_bind (splitResult _ _), runFrom_splitResult_eq]

/-! ## Widgets -/

theorem nothing_set (slot : Slot) : ([] : Overrides V).lookup slot.name = none := rfl

theorem ofExcept_eq_ok_iff {α : Type} {result : Except Failure α} {session after : Session σ V} {value : α} :
    (ofExcept result : Evaluation σ V α).runFrom session = (.ok value, after) ↔
      result = .ok value ∧ session = after := by
  rw [runFrom_ofExcept, Prod.mk.injEq]

/-- A widget around a value is evaluated by finding its value and then filling in the texts. -/
theorem evaluate_origin_eq_ok_iff {origin : Origin} {around : Surroundings} {session after : Session σ V}
    {result : Widget} :
    (evaluate world focus (origin.widget around)).runFrom session = (.ok result, after) ↔
      ∃ finding found, Finds world focus origin session finding found ∧
        Surrounds world finding around found result after := by
  cases origin with
  | figure value =>
    simp only [Origin.widget, evaluate, runFrom_bind_eq_ok_iff, fillNumber_eq_ok_iff nothing_set]
    constructor
    · rintro ⟨figure, found, resolved, surrounds⟩
      exact ⟨_, found, .figure resolved, surrounds⟩
    · rintro ⟨_, found, finds, surrounds⟩
      cases finds with
      | figure resolved => exact ⟨_, found, resolved, surrounds⟩
  | template source =>
    simp only [Origin.widget, evaluate, runFrom_bind_eq_ok_iff, fillString_eq_ok_iff nothing_set]
    constructor
    · rintro ⟨text, found, resolved, surrounds⟩
      exact ⟨_, found, .template resolved, surrounds⟩
    · rintro ⟨_, found, finds, surrounds⟩
      cases finds with
      | template resolved => exact ⟨_, found, resolved, surrounds⟩
  | total search =>
    simp only [Origin.widget, evaluate, runFrom_bind_eq_ok_iff, fillNumber_eq_ok_iff nothing_set]
    constructor
    · rintro ⟨results, found, ran, surrounds⟩
      exact ⟨_, found, .total ran, surrounds⟩
    · rintro ⟨_, found, finds, surrounds⟩
      cases finds with
      | total ran => exact ⟨_, found, ran, surrounds⟩
  | scriptNumber script =>
    rw [Origin.widget, evaluate, runFrom_script_eq_ok_iff]
    simp only [runFrom_bind_eq_ok_iff, ofExcept_eq_ok_iff, mapError_eq_ok_iff,
      fillNumber_eq_ok_iff (lookup_settings_name _ _ _)]
    constructor
    · rintro ⟨result, found, ran, n, _, ⟨counts, rfl⟩, surrounds⟩
      exact ⟨_, found, .scriptNumber ran counts, surrounds⟩
    · rintro ⟨_, found, finds, surrounds⟩
      cases finds with
      | scriptNumber ran counts => exact ⟨_, found, ran, _, found, ⟨counts, rfl⟩, surrounds⟩
  | scriptString script =>
    rw [Origin.widget, evaluate, runFrom_script_eq_ok_iff]
    simp only [runFrom_bind_eq_ok_iff, ofExcept_eq_ok_iff, mapError_eq_ok_iff,
      fillString_eq_ok_iff (lookup_settings_name _ _ _)]
    constructor
    · rintro ⟨result, found, ran, text, _, ⟨shown, rfl⟩, surrounds⟩
      exact ⟨_, found, .scriptString ran shown, surrounds⟩
    · rintro ⟨_, found, finds, surrounds⟩
      cases finds with
      | scriptString ran shown => exact ⟨_, found, ran, _, found, ⟨shown, rfl⟩, surrounds⟩

/-- A text around a value is resolved with the value in scope, and of the rest only what every text sees. -/
theorem exists_scope_of_value (world : World σ V) (value : Data) : ∃ scope : Scope V,
    createScope (valueScope value) = .ok scope ∧
      scope.map (·.1) = ["date", "time", "datetime", "github", "userdata", "value"] ∧
      scope.lookup "value" = some (.plain value) ∧
      ∀ source session, ∃ asked,
        (resolve world.traced (valueScope value) source).runFrom (session.withTrace []) =
            (((resolve world (valueScope value) source).runFrom session).1,
              ((resolve world (valueScope value) source).runFrom session).2.withTrace asked) ∧
          asked.map (·.question) <+:
            (Template.expressions source).map fun text => .code ⟨.expression, text, scope⟩ := by
  have names : checkNames ["github", "userdata", "value"] = .ok () := by decide +kernel
  have created : createScope (valueScope value : Scope V) = .ok (helperScope ++ valueScope value) := by
    rw [createScope]
    exact bind_eq_ok_iff.mpr ⟨(), names, rfl⟩
  refine ⟨helperScope ++ valueScope value, created, rfl, rfl, fun source session => ?_⟩
  obtain ⟨asked, ran, questions⟩ := asks_resolve world (valueScope value) source session []
  exact ⟨asked, ran, questions.inOrder⟩

/-- **What a script sets comes before what the widget has itself, and a template sees only the value.** In
every world and whatever the focus, a widget around a value evaluates to a widget exactly if its value is
found and then its texts are filled in, one after the other, and it is the widget that this comes to:

* the value of a script is the number or the text that its payload counts as, which is what the result holds
  under `value` if it is an object with a value, and otherwise the whole result;
* a text that such an object holds, unless it is absent there, is shown as it is by then, and nothing is
  resolved for it; any other text is its template, resolved in a scope with the value that the widget
  shows; without a template there is none, or the page of the search if the value is the total of one.

The names in that scope are always the same six, and all code of a template runs in it. -/
theorem evaluate_precedence (world : World σ V) (focus : Focus V) (origin : Origin) (around : Surroundings)
    (session : Session σ V) :
    (∀ result after, (evaluate world focus (origin.widget around)).runFrom session = (.ok result, after) ↔
      ∃ finding found, Finds world focus origin session finding found ∧
        Surrounds world finding around found result after) ∧
    ∀ value : Data, ∃ scope : Scope V, createScope (valueScope value) = .ok scope ∧
      scope.map (·.1) = ["date", "time", "datetime", "github", "userdata", "value"] ∧
      scope.lookup "value" = some (.plain value) ∧
      ∀ source before, ∃ asked,
        (resolve world.traced (valueScope value) source).runFrom (before.withTrace []) =
            (((resolve world (valueScope value) source).runFrom before).1,
              ((resolve world (valueScope value) source).runFrom before).2.withTrace asked) ∧
          asked.map (·.question) <+:
            (Template.expressions source).map fun text => .code ⟨.expression, text, scope⟩ :=
  ⟨fun _ _ => evaluate_origin_eq_ok_iff, exists_scope_of_value world⟩

/-- The texts of a number. -/
def numberTexts : Widget → List (Option String)
  | .number caption _ color => [caption.title, caption.url.bind Link.template?, color]
  | _ => []

/-- A script sets a zero and an empty text, which count; what it leaves absent is left to the widget. -/
example : ((evaluate catalogueHost.world .whole (.scriptNumber
      ⟨some "own", some (.page "own")⟩ "return \x7b'value': '7', 'title': 0, 'url': '', 'color': None\x7d"
      (some "\x7b\x7b value + 1 \x7d\x7d"))).runFrom { state := twoIssues }).1.map numberTexts =
    .ok [some "0", some "", some "8"] := by decide +kernel

end Evaluation

end IssueBoard
