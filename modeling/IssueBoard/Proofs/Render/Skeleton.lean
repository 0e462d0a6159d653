import IssueBoard.Proofs.Outcome
import IssueBoard.Render.Html

/-! # The markup of a page does not depend on its texts

The markup skeleton of a text is what is left of it when all but angle brackets and quotes is dropped.
Escaping leaves nothing of a text, so pages of dashboards with the same shape have the same skeleton:
whatever stands in titles, values, links, colors and alignments, it opens and closes nothing.

Two renderings are compared step by step. Each part of a page is shown to have the same skeleton in
both runs, and the parts of a page are put together from that.
-/

namespace IssueBoard

/-! ## Shapes -/

/-- Whether two texts are both absent, both empty, or both neither. -/
inductive SameStatus : Option String → Option String → Prop
  | absent : SameStatus none none
  | empty : SameStatus (some "") (some "")
  | filled {s t : String} (left : s ≠ "") (right : t ≠ "") : SameStatus (some s) (some t)

theorem SameStatus.none_or_some {s t : Option String} (status : SameStatus s t) :
    s = none ∧ t = none ∨ ∃ a b, s = some a ∧ t = some b := by
  cases status with
  | absent => exact .inl ⟨rfl, rfl⟩
  | empty => exact .inr ⟨_, _, rfl, rfl⟩
  | filled => exact .inr ⟨_, _, rfl, rfl⟩

/-- Captions whose titles and addresses have the same status. -/
structure Caption.SameShape (first second : Caption) : Prop where
  title : SameStatus first.title second.title
  url : ∃ s t, first.url = s.map .page ∧ second.url = t.map .page ∧ SameStatus s t

/-- Static widgets of the same kind with the same parts in the same places. Their values play no
role. -/
inductive Widget.SameShape : Widget → Widget → Prop
  | number {caption caption' : Caption} {color color' : Option String} (value value' : Figure)
    (captions : caption.SameShape caption') (colors : SameStatus color color') :
    SameShape (.number caption value color) (.number caption' value' color')
  | string {caption caption' : Caption} {align align' color color' : Option String}
    (value value' : String) (captions : caption.SameShape caption')
    (aligns : SameStatus align align') (colors : SameStatus color color') :
    SameShape (.string caption value align color) (.string caption' value' align' color')
  | graph {caption caption' : Caption} {elements elements' : List Widget}
    (captions : caption.SameShape caption') (same : List.Forall₂ SameShape elements elements') :
    SameShape (.graph caption elements) (.graph caption' elements')
  | table {caption caption' : Caption} {headers headers' : List Widget}
    {rows rows' : List (List Widget)} (captions : caption.SameShape caption')
    (tops : List.Forall₂ SameShape headers headers')
    (same : List.Forall₂ (List.Forall₂ SameShape) rows rows') :
    SameShape (.table caption headers rows) (.table caption' headers' rows')

/-- Sections with widgets of the same shape and the same description. -/
structure Section.SameShape (first second : Section) : Prop where
  title : SameStatus first.title second.title
  description : first.description = second.description
  widgets : List.Forall₂ Widget.SameShape first.widgets second.widgets

/-- Dashboards with sections of the same shape and the same description. -/
structure Dashboard.SameShape (first second : Dashboard) : Prop where
  title : SameStatus first.title second.title
  description : first.description = second.description
  sections : List.Forall₂ Section.SameShape first.sections second.sections

namespace Render.Html

/-! ## Skeletons of texts -/

/-- Whether a character can open or close a tag or an attribute. -/
def isMark (c : Char) : Bool := c == '<' || c == '>' || c == '"' || c == '\x27'

theorem isMark_eq_false_iff {c : Char} :
    isMark c = false ↔ c ≠ '<' ∧ c ≠ '>' ∧ c ≠ '"' ∧ c ≠ '\x27' := by
  simp only [isMark, Bool.or_eq_false_iff, beq_eq_false_iff_ne, and_assoc]

theorem isMark_of_isAlphanum {c : Char} (plain : c.isAlphanum = true) : isMark c = false := by
  rw [isMark_eq_false_iff]
  refine ⟨?_, ?_, ?_, ?_⟩
  all_goals
    rintro rfl
    exact absurd plain (by decide)

/-- The characters of a text that can open or close something. -/
def skeleton (s : String) : List Char := s.toList.filter isMark

@[simp] theorem skeleton_append (s t : String) : skeleton (s ++ t) = skeleton s ++ skeleton t := by
  simp only [skeleton, String.toList_append, List.filter_append]

/-- Nothing is left of an escaped text. -/
@[simp] theorem skeleton_escape (s : String) : skeleton (Text.Markup.escape s) = [] := by
  have plain (c : Char) : (Text.Markup.escapeChar c).filter isMark = [] := by
    unfold Text.Markup.escapeChar
    split
    case h_6 other _ lower greater double single =>
      have unmarked := isMark_eq_false_iff.mpr ⟨lower, greater, double, single⟩
      rw [List.filter_singleton, unmarked, cond_false]
    all_goals decide
  rw [skeleton, Text.Markup.escape, String.toList_ofList, List.filter_flatMap,
    List.flatMap_eq_nil_iff]
  intro c _
  exact plain c

theorem isMark_toLower {c : Char} (plain : c.isAlphanum = true) : isMark c.toLower = false := by
  unfold Char.toLower
  split
  · -- a capital moves up by 32, far beyond all marks
    rw [isMark_eq_false_iff]
    refine ⟨?_, ?_, ?_, ?_⟩
    all_goals
      intro same
      have value := congrArg Char.val same
      grind
  · exact isMark_of_isAlphanum plain

@[simp] theorem skeleton_anchorName (title : String) : skeleton (anchorName title) = [] := by
  rw [skeleton, anchorName, String.toList_ofList, List.filter_eq_nil_iff]
  intro c member
  obtain ⟨d, kept, rfl⟩ := List.mem_map.mp member
  obtain ⟨_, kept⟩ := List.mem_filter.mp kept
  simp only [isAnchorChar, Bool.or_eq_true, beq_iff_eq] at kept
  rw [Bool.not_eq_true]
  obtain (plain | rfl) | rfl := kept
  · exact isMark_toLower plain
  · decide
  · decide

@[simp] theorem skeleton_repr (n : Int) : skeleton (Int.repr n) = [] := by
  have digits (m : Nat) : skeleton (Nat.repr m) = [] := by
    rw [skeleton, Nat.toList_repr, List.filter_eq_nil_iff]
    intro c member
    have digit := Nat.isDigit_of_mem_toDigits (by decide) (by decide) member
    rw [Bool.not_eq_true]
    exact isMark_of_isAlphanum (by rw [Char.isAlphanum, digit, Bool.or_true])
  cases n with
  | ofNat m => exact digits m
  | negSucc m =>
    rw [Int.repr, skeleton_append, digits]
    decide

/-- Line ends are no marks. -/
@[simp] theorem skeleton_intercalate (lines : List String) :
    skeleton ("\n".intercalate lines) = lines.flatMap skeleton := by
  have apart (texts : List (List Char)) :
      (['\n'].intercalate texts).filter isMark = texts.flatMap (List.filter isMark) := by
    induction texts with
    | nil => rfl
    | cons text rest ih =>
      cases rest with
      | nil => simp
      | cons next rest =>
        have noMark : ['\n'].filter isMark = [] := by decide
        rw [List.intercalate_cons_cons, List.filter_append, List.filter_append, ih, noMark,
          List.append_nil]
        exact List.flatMap_cons.symm
  rw [skeleton, String.toList_intercalate]
  refine (apart _).trans ?_
  rw [List.flatMap_map]
  rfl

/-! ## Two runs -/

/-- Whether what two runs give is related, if both give something. -/
def Related {α β : Type} (R : α → β → Prop) (first : Except Failure α) (second : Except Failure β) :
    Prop := ∀ x y, first = .ok x → second = .ok y → R x y

section Related

variable {α β γ δ : Type} {R : α → β → Prop} {S : γ → δ → Prop}

theorem Related.pure {x : α} {y : β} (related : R x y) : Related R (pure x) (pure y) := by
  rintro _ _ ⟨⟩ ⟨⟩
  exact related

theorem Related.bind {first : Except Failure α} {second : Except Failure β}
    {next : α → Except Failure γ} {next' : β → Except Failure δ} (start : Related R first second)
    (step : ∀ x y, R x y → Related S (next x) (next' y)) :
    Related S (first >>= next) (second >>= next') := by
  rcases first with failure | x
  · rintro _ _ ⟨⟩
  · rcases second with failure | y
    · rintro _ _ _ ⟨⟩
    · exact step x y (start x y rfl rfl)

theorem Related.mapM {xs : List α} {ys : List β} {f : α → Except Failure γ}
    {g : β → Except Failure δ} (same : List.Forall₂ R xs ys)
    (each : ∀ x y, R x y → Related S (f x) (g y)) :
    Related (List.Forall₂ S) (xs.mapM f) (ys.mapM g) := by
  induction same with
  | nil =>
    rw [List.mapM_nil, List.mapM_nil]
    exact .pure .nil
  | cons head _ ih =>
    rw [List.mapM_cons, List.mapM_cons]
    refine (each _ _ head).bind fun u v first => ?_
    exact ih.bind fun us vs rest => .pure (.cons first rest)

end Related

/-- Texts with the same skeleton. -/
def SameText (s t : String) : Prop := skeleton s = skeleton t

/-- Lines that have the same skeleton together. -/
def SameLines (first second : List String) : Prop :=
  first.flatMap skeleton = second.flatMap skeleton

theorem SameLines.flatten {first second : List (List String)}
    (same : List.Forall₂ SameLines first second) : SameLines first.flatten second.flatten := by
  unfold SameLines
  induction same with
  | nil => rfl
  | cons head _ ih =>
    rw [List.flatten_cons, List.flatten_cons, List.flatMap_append, List.flatMap_append, ih, head]

theorem SameLines.of_texts {first second : List String}
    (same : List.Forall₂ SameText first second) : SameLines first second := by
  unfold SameLines
  induction same with
  | nil => rfl
  | cons head _ ih => rw [List.flatMap_cons, List.flatMap_cons, ih, head]

/-- Lines made from a text that is there in both runs or in none. -/
theorem sameLines_optional {s t : Option String} (status : SameStatus s t) {f : String → String}
    (blank : ∀ a b, SameText (f a) (f b)) : SameLines (s.map f).toList (t.map f).toList := by
  obtain ⟨rfl, rfl⟩ | ⟨a, b, rfl, rfl⟩ := status.none_or_some
  · rfl
  · exact .of_texts (.cons (blank a b) .nil)

/-! ## Widgets -/

@[simp] theorem skeleton_anchor (title : String) :
    skeleton (anchor title) = skeleton "<a name=\"" ++ skeleton "\"></a>" := by
  rw [anchor, skeleton_append, skeleton_append, skeleton_anchorName, List.append_nil]

@[simp] theorem skeleton_classes (base : String) (color : Option String) :
    skeleton (classes base color) = skeleton base := by
  unfold classes
  split
  · rfl
  · rfl
  · have noMark : skeleton " " = [] := by decide
    rw [skeleton_append, skeleton_append, skeleton_escape, noMark, List.append_nil, List.append_nil]

theorem skeleton_figure {value : Figure} {text : String} (shown : figure value = .ok text) :
    skeleton text = [] := by
  obtain ⟨plain, -, done⟩ := bind_eq_ok_iff.mp shown
  cases done
  exact skeleton_escape plain

theorem related_figure (value value' : Figure) : Related SameText (figure value) (figure value') := by
  intro text text' shown shown'
  rw [SameText, skeleton_figure shown, skeleton_figure shown']

theorem related_linkOpening (url url' : Link) :
    Related SameText (linkOpening url) (linkOpening url') := by
  intro text text' shown shown'
  rcases url with url | _ <;> rcases url' with url' | _ <;> cases shown <;> cases shown'
  simp only [SameText, skeleton_append, skeleton_escape]

/-- Something linked, where the address has the same status in both runs. -/
theorem related_link {first second : Caption} (captions : first.SameShape second)
    {content content' : String} (same : SameText content content') :
    Related SameText (link content first.url) (link content' second.url) := by
  obtain ⟨s, t, url, url', status⟩ := captions.url
  rw [url, url']
  cases status with
  | absent => exact .pure same
  | empty => exact .pure same
  | @filled s t left right =>
    have linked (text : String) (present : text ≠ "") (content : String) :
        link content ((some text).map .page) =
          (linkOpening (.page text)).map fun opening => opening ++ content ++ "</a>" := by
      have true : (Link.page text).toData.isTrue = true := by
        simp only [Link.toData, Data.isTrue, Bool.not_eq_true', String.isEmpty_eq_false_iff]
        exact present
      rw [Option.map_some, link, if_pos true]
      rfl
    rw [linked s left, linked t right]
    rintro _ _ ⟨⟩ ⟨⟩
    rw [SameText] at same
    simp only [SameText, skeleton_append, skeleton_escape, same]

theorem related_opening {first second : Caption} (captions : first.SameShape second) :
    Related SameLines (opening first) (opening second) := by
  obtain ⟨s, t, url, url', status⟩ := captions.url
  have addresses : Related (List.Forall₂ SameText) (first.url.toList.mapM linkOpening)
      (second.url.toList.mapM linkOpening) := by
    have places : List.Forall₂ (fun _ _ => True) first.url.toList second.url.toList := by
      rw [url, url']
      cases status with
      | absent => exact .nil
      | empty => exact .cons trivial .nil
      | filled => exact .cons trivial .nil
    exact .mapM places fun x y _ => related_linkOpening x y
  unfold opening
  refine addresses.bind fun lines lines' same => .pure ?_
  have anchors := sameLines_optional captions.title (f := anchor) fun a b => by
    rw [SameText, skeleton_anchor, skeleton_anchor]
  rw [SameLines, List.flatMap_append, List.flatMap_append, anchors, SameLines.of_texts same]

theorem sameLines_closing {first second : Caption} (captions : first.SameShape second) :
    SameLines (closing first) (closing second) := by
  obtain ⟨s, t, url, url', status⟩ := captions.url
  unfold closing
  rw [url, url']
  cases status with
  | absent => rfl
  | empty => rfl
  | filled => rfl

theorem related_number {first second : Caption} (captions : first.SameShape second)
    (value value' : Figure) (color color' : Option String) :
    Related SameText (number first value color) (number second value' color') := by
  have titles := sameLines_optional captions.title
    (f := fun title => "<span class=\"title\">" ++ Text.Markup.escape title ++ "</span>")
    fun a b => by simp only [SameText, skeleton_append, skeleton_escape]
  have ends := sameLines_closing captions
  unfold number
  refine (related_opening captions).bind fun before before' same => ?_
  refine (related_figure value value').bind fun shown shown' figures => .pure ?_
  rw [SameLines] at same titles ends
  rw [SameText] at figures
  simp only [SameText, skeleton_intercalate, skeleton_append, skeleton_classes, List.flatMap_append,
    List.flatMap_cons, same, titles, ends, figures]

theorem related_string {first second : Caption} (captions : first.SameShape second)
    (value value' : String) (color color' : Option String) :
    Related SameText (string first value color) (string second value' color') := by
  have titles := sameLines_optional captions.title
    (f := fun title => "<h3 class=\"title\">" ++ Text.Markup.escape title ++ "</h3>")
    fun a b => by simp only [SameText, skeleton_append, skeleton_escape]
  have ends := sameLines_closing captions
  unfold string
  refine (related_opening captions).bind fun before before' same => .pure ?_
  rw [SameLines] at same titles ends
  simp only [SameText, skeleton_intercalate, skeleton_append, skeleton_classes, skeleton_escape,
    List.flatMap_append, List.flatMap_cons, same, titles, ends]

/-! ## Graphs -/

theorem related_heading (headingClass : String) {first second : Caption}
    (captions : first.SameShape second) :
    Related SameLines (heading headingClass first) (heading headingClass second) := by
  unfold heading
  obtain ⟨none, none'⟩ | ⟨title, title', some, some'⟩ := captions.title.none_or_some
  · rw [none, none']
    exact .pure rfl
  · rw [some, some']
    have blank : SameText (Text.Markup.escape title) (Text.Markup.escape title') := by
      rw [SameText, skeleton_escape, skeleton_escape]
    refine (related_link captions blank).bind fun content content' same => .pure ?_
    rw [SameText] at same
    refine .of_texts (.cons ?_ (.cons ?_ .nil))
    · rw [SameText, skeleton_anchor, skeleton_anchor]
    · simp only [SameText, skeleton_append, same]

theorem caption_of_measuredBar {element : Widget} {drawn : Bar × Number}
    (measured : measuredBar element = .ok drawn) :
    ∃ value color, element = .number drawn.1.caption value color := by
  obtain ⟨bar, bars, done⟩ := bind_eq_ok_iff.mp measured
  obtain ⟨⟨bar', n⟩, numbers, done⟩ := bind_eq_ok_iff.mp done
  cases done
  obtain ⟨n', -, done⟩ := bind_eq_ok_iff.mp numbers
  obtain ⟨x, -, done⟩ := bind_eq_ok_iff.mp done
  cases done
  unfold barOf at bars
  split at bars
  · cases bars
  · cases bars
    exact ⟨_, _, rfl⟩
  · cases bars

/-- Bars with captions of the same shape, whatever their lengths. -/
def SameBar (first second : Bar × Number) : Prop := first.1.caption.SameShape second.1.caption

theorem related_measuredBar {element element' : Widget} (same : element.SameShape element') :
    Related SameBar (measuredBar element) (measuredBar element') := by
  intro drawn drawn' measured measured'
  obtain ⟨_, _, rfl⟩ := caption_of_measuredBar measured
  obtain ⟨_, _, rfl⟩ := caption_of_measuredBar measured'
  cases same with
  | number _ _ captions _ => exact captions

/-- The text beside a bar of some width. -/
def barLabel (bar : Bar) (width : Int) : Except Failure String :=
  if labelledWidth ≤ width then figure bar.value else pure ""

/-- The lines of a bar with a known width and label. -/
def labelledLines (bar : Bar) (width : Int) (label : String) : Except Failure (List String) := do
  let valueClass := if 0 < width then "value" else "value empty_value"
  let title ← bar.caption.title.toList.mapM fun title =>
    link ("<span class=\"title\">" ++ Text.Markup.escape title ++ "</span>") bar.caption.url
  let drawn ← link ("<span class=\"" ++ valueClass ++ "\" style=\"width: " ++ Int.repr width
    ++ "%;\">" ++ label ++ "</span>") bar.caption.url
  return ("<div class=\"" ++ classes "graph_item" bar.color ++ "\">")
    :: "<span class=\"graph_item_title\">" :: title
    ++ ["</span>", "<span class=\"graph_item_value\">", drawn, "</span>", "</div>"]

theorem barLines_eq (maximum : Number) (bar : Bar) (value : Number) :
    barLines maximum bar value =
      (width maximum value >>= fun width => barLabel bar width >>= labelledLines bar width) := by
  unfold barLines barLabel labelledLines
  congr 1
  funext width
  by_cases wide : labelledWidth ≤ width
  · simp only [if_pos wide]
  · simp only [if_neg wide]

theorem skeleton_barLabel {bar : Bar} {width : Int} {label : String}
    (shown : barLabel bar width = .ok label) : skeleton label = [] := by
  unfold barLabel at shown
  split at shown
  · exact skeleton_figure shown
  · cases shown
    decide

theorem skeleton_valueClass (width : Int) :
    skeleton (if 0 < width then "value" else "value empty_value") = [] := by
  split
  · decide
  · decide

theorem related_labelledLines {bar bar' : Bar} (same : bar.caption.SameShape bar'.caption)
    (width width' : Int) {label label' : String} (labels : SameText label label') :
    Related SameLines (labelledLines bar width label) (labelledLines bar' width' label') := by
  have places : List.Forall₂ (fun _ _ => True) bar.caption.title.toList
      bar'.caption.title.toList := by
    obtain ⟨none, none'⟩ | ⟨title, title', some, some'⟩ := same.title.none_or_some
    · rw [none, none']
      exact .nil
    · rw [some, some']
      exact .cons trivial .nil
  unfold labelledLines
  refine (Related.mapM (S := SameText) places fun title title' _ => ?_).bind
    fun titles titles' above => ?_
  · refine related_link same ?_
    simp only [SameText, skeleton_append, skeleton_escape]
  refine (related_link same ?_).bind fun drawn drawn' below => .pure ?_
  · rw [SameText] at labels
    simp only [SameText, skeleton_append, skeleton_valueClass, skeleton_repr, labels]
  · have above := SameLines.of_texts above
    rw [SameLines] at above
    rw [SameText] at below
    simp only [SameLines, List.flatMap_cons, List.flatMap_append, skeleton_append, skeleton_classes,
      above, below]

/-- The bars of two runs may have different lengths, and only one of them may be long enough to show
its value. -/
theorem related_barLines (maximum maximum' : Number) {drawn drawn' : Bar × Number}
    (same : SameBar drawn drawn') :
    Related SameLines (barLines maximum drawn.1 drawn.2) (barLines maximum' drawn'.1 drawn'.2) := by
  have widths : Related (fun _ _ => True) (width maximum drawn.2) (width maximum' drawn'.2) :=
    fun _ _ _ _ => trivial
  have labels (width width' : Int) :
      Related SameText (barLabel drawn.1 width) (barLabel drawn'.1 width') := by
    intro label label' shown shown'
    rw [SameText, skeleton_barLabel shown, skeleton_barLabel shown']
  rw [barLines_eq, barLines_eq]
  refine widths.bind fun width width' _ => ?_
  exact (labels width width').bind fun label label' labels =>
    related_labelledLines same width width' labels

theorem related_graph {first second : Caption} (captions : first.SameShape second)
    {elements elements' : List Widget} (same : List.Forall₂ Widget.SameShape elements elements') :
    Related SameText (graph first elements) (graph second elements') := by
  unfold graph
  refine (Related.mapM same fun _ _ => related_measuredBar).bind fun bars bars' drawn => ?_
  refine (Related.mapM drawn fun _ _ => related_barLines _ _).bind fun lines lines' shown => ?_
  refine (related_heading "graph_title" captions).bind fun top top' tops => .pure ?_
  have body := SameLines.flatten shown
  rw [SameLines] at tops body
  simp only [SameText, skeleton_intercalate, List.flatMap_cons, List.flatMap_append, tops, body]

/-! ## Tables -/

theorem skeleton_attributes {color color' align align' : Option String}
    (colors : SameStatus color color') (aligns : SameStatus align align') :
    skeleton (attributes color align) = skeleton (attributes color' align') := by
  unfold attributes
  obtain ⟨rfl, rfl⟩ | ⟨a, b, rfl, rfl⟩ := colors.none_or_some
  all_goals obtain ⟨rfl, rfl⟩ | ⟨c, d, rfl, rfl⟩ := aligns.none_or_some
  all_goals simp only [Option.elim_some, Option.elim_none, skeleton_append, skeleton_escape]

theorem related_cell (tag : String) {widget widget' : Widget} (same : widget.SameShape widget') :
    Related SameText (cell tag widget) (cell tag widget') := by
  cases same with
  | number value value' captions colors =>
    refine (related_figure value value').bind fun shown shown' figures => ?_
    refine (related_link captions figures).bind fun linked linked' same => .pure ?_
    rw [SameText] at same
    simp only [SameText, skeleton_append, skeleton_attributes colors .absent, same]
  | string value value' captions aligns colors =>
    refine (related_link captions ?_).bind fun linked linked' same => .pure ?_
    · rw [SameText, skeleton_escape, skeleton_escape]
    · rw [SameText] at same
      simp only [SameText, skeleton_append, skeleton_attributes colors aligns, same]
  | graph =>
    rintro _ _ ⟨⟩
  | table =>
    rintro _ _ ⟨⟩

theorem related_rowLines (rowClass tag : String) {cells cells' : List Widget}
    (same : List.Forall₂ Widget.SameShape cells cells') :
    Related SameLines (rowLines rowClass tag cells) (rowLines rowClass tag cells') := by
  refine (Related.mapM same fun _ _ => related_cell tag).bind fun shown shown' texts => .pure ?_
  have body := SameLines.of_texts texts
  rw [SameLines] at body
  simp only [SameLines, List.flatMap_cons, List.flatMap_append, body]

theorem related_table {first second : Caption} (captions : first.SameShape second)
    {headers headers' : List Widget} (tops : List.Forall₂ Widget.SameShape headers headers')
    {rows rows' : List (List Widget)}
    (same : List.Forall₂ (List.Forall₂ Widget.SameShape) rows rows') :
    Related SameText (table first headers rows) (table second headers' rows') := by
  have finish (top top' : List String) (above : SameLines top top') : Related SameText
      (rows.mapM (rowLines "table_element" "td") >>= fun lines =>
        heading "table_title" first >>= fun title =>
          pure ("\n".intercalate ("<div class=\"table_widget\">" :: title
            ++ "<table class=\"table\">" :: top ++ lines.flatten ++ ["</table>", "</div>"])))
      (rows'.mapM (rowLines "table_element" "td") >>= fun lines =>
        heading "table_title" second >>= fun title =>
          pure ("\n".intercalate ("<div class=\"table_widget\">" :: title
            ++ "<table class=\"table\">" :: top' ++ lines.flatten ++ ["</table>", "</div>"]))) := by
    refine (Related.mapM same fun _ _ => related_rowLines _ _).bind fun lines lines' shown => ?_
    refine (related_heading "table_title" captions).bind fun title title' titles => .pure ?_
    have body := SameLines.flatten shown
    rw [SameLines] at above titles body
    simp only [SameText, skeleton_intercalate, List.flatMap_cons, List.flatMap_append, above, titles,
      body]
  unfold table
  cases tops with
  | nil => exact finish [] [] rfl
  | cons first rest =>
    exact (related_rowLines "table_header" "th" (.cons first rest)).bind finish

/-! ## Pages -/

theorem related_block {widget widget' : Widget} (same : widget.SameShape widget') :
    Related SameText (block widget) (block widget') := by
  cases same with
  | number =>
    rintro _ _ ⟨⟩
  | string value value' captions aligns colors => exact related_string captions value value' _ _
  | graph captions same => exact related_graph captions same
  | table captions tops same => exact related_table captions tops same

theorem widgetLines_of_block {widget : Widget} (single : widget.isNumber = false) (grouping : Bool)
    (rest : List Widget) :
    widgetLines grouping (widget :: rest) = (block widget >>= fun text =>
      widgetLines false rest >>= fun lines =>
        pure ((if grouping then [groupEnd] else []) ++ text :: lines)) := by
  cases widget with
  | number => cases single
  | _ => rfl

/-- Groups of numbers open and close at the same places. -/
theorem related_widgetLines {widgets widgets' : List Widget}
    (same : List.Forall₂ Widget.SameShape widgets widgets') (grouping : Bool) :
    Related SameLines (widgetLines grouping widgets) (widgetLines grouping widgets') := by
  induction same generalizing grouping with
  | nil =>
    rintro _ _ ⟨⟩ ⟨⟩
    rfl
  | @cons widget widget' rest rest' head _ ih =>
    have alone (single : widget.isNumber = false) (single' : widget'.isNumber = false) :
        Related SameLines (widgetLines grouping (widget :: rest))
          (widgetLines grouping (widget' :: rest')) := by
      rw [widgetLines_of_block single, widgetLines_of_block single']
      refine (related_block head).bind fun text text' texts => ?_
      refine (ih false).bind fun lines lines' below => .pure ?_
      rw [SameText] at texts
      rw [SameLines] at below
      simp only [SameLines, List.flatMap_append, List.flatMap_cons, texts, below]
    cases head with
    | number value value' captions colors =>
      refine (related_number captions value value' _ _).bind fun text text' texts => ?_
      refine (ih true).bind fun lines lines' below => .pure ?_
      rw [SameText] at texts
      rw [SameLines] at below
      simp only [SameLines, List.flatMap_append, List.flatMap_cons, texts, below]
    | string => exact alone rfl rfl
    | graph => exact alone rfl rfl
    | table => exact alone rfl rfl

theorem related_sectionLines {first second : Section} (same : first.SameShape second) :
    Related SameLines (sectionLines first) (sectionLines second) := by
  unfold sectionLines
  refine (related_widgetLines same.widgets false).bind fun widgets widgets' below => .pure ?_
  rw [SameLines] at below
  rw [same.description]
  obtain ⟨none, none'⟩ | ⟨a, b, some, some'⟩ := same.title.none_or_some
  · simp only [none, none', SameLines, List.flatMap_append, List.flatMap_cons, below]
  · simp only [some, some', SameLines, List.flatMap_append, List.flatMap_cons, skeleton_append,
      skeleton_anchor, skeleton_escape, below]

/-- Dashboards of the same shape are rendered with the same markup. -/
theorem skeleton_render {first second : Dashboard} (same : first.SameShape second)
    {page page' : String} (shown : render first = .ok page) (shown' : render second = .ok page') :
    skeleton page = skeleton page' := by
  have pages : Related SameText (render first) (render second) := by
    unfold render
    refine (Related.mapM same.sections fun _ _ => related_sectionLines).bind
      fun parts parts' shown => .pure ?_
    have body := SameLines.flatten shown
    rw [SameLines] at body
    rw [same.description]
    obtain ⟨none, none'⟩ | ⟨a, b, some, some'⟩ := same.title.none_or_some
    · simp only [none, none', SameText, skeleton_intercalate, List.flatMap_append, List.flatMap_cons,
        body]
    · simp only [some, some', Option.isSome_some, if_true, SameText, skeleton_intercalate,
        List.flatMap_append, List.flatMap_cons, skeleton_append, skeleton_escape, body]
  exact pages page page' shown shown'

/-- A dashboard with one widget of each kind, which shows the same text wherever one may stand. -/
def speckledBoard (text : String) (value : Number) : Dashboard :=
  let caption : Caption := { title := some text, url := some (.page text) }
  let bar : Widget := .number caption (.number value) (some text)
  let cell : Widget := .string { url := some (.page "") } text (some text) none
  { title := some text
    description := some "<em>as written</em>"
    sections := [{ title := some text, widgets := [bar, .string caption text none (some text),
      .graph caption [bar, .number {} (.number (.integer 1)) none],
      .table caption [cell] [[cell, bar], []]] }] }

theorem sameShape_speckledBoard {s t : String} (left : s ≠ "") (right : t ≠ "") (m n : Number) :
    (speckledBoard s m).SameShape (speckledBoard t n) := by
  have status : SameStatus (some s) (some t) := .filled left right
  have captions : Caption.SameShape { title := some s, url := some (.page s) }
      { title := some t, url := some (.page t) } := ⟨status, some s, some t, rfl, rfl, status⟩
  have linked : Caption.SameShape { url := some (.page "") } { url := some (.page "") } :=
    ⟨.absent, some "", some "", rfl, rfl, .empty⟩
  have bare : Caption.SameShape {} {} := ⟨.absent, none, none, rfl, rfl, .absent⟩
  have bars := Widget.SameShape.number (.number m) (.number n) captions status
  have cells := Widget.SameShape.string s t linked status .absent
  refine ⟨status, rfl, .cons ⟨status, rfl, ?_⟩ .nil⟩
  refine .cons bars (.cons (.string s t captions .absent status) (.cons ?_ (.cons ?_ .nil)))
  · exact .graph captions (.cons bars (.cons (.number _ _ bare .absent) .nil))
  · exact .table captions (.cons cells .nil) (.cons (.cons cells (.cons bars .nil)) (.cons .nil .nil))

theorem skeleton_render_hostile : ∃ page page',
    render (speckledBoard "\"><script>alert('1')</script>" (.integer 40)) = .ok page ∧
      render (speckledBoard "Open issues" (.integer (-7))) = .ok page' ∧
      skeleton page = skeleton page' := by
  have shown : (render (speckledBoard "\"><script>alert('1')</script>" (.integer 40))).toOption.isSome =
      true := by decide +kernel
  have shown' : (render (speckledBoard "Open issues" (.integer (-7)))).toOption.isSome = true := by
    decide +kernel
  have rendered {d : Dashboard} (some : (render d).toOption.isSome = true) :
      ∃ page, render d = .ok page := by
    cases result : render d with
    | error failure =>
      rw [result] at some
      cases some
    | ok page => exact ⟨page, rfl⟩
  obtain ⟨page, shown⟩ := rendered shown
  obtain ⟨page', shown'⟩ := rendered shown'
  have same := sameShape_speckledBoard (s := "\"><script>alert('1')</script>") (t := "Open issues")
    (by decide) (by decide) (.integer 40) (.integer (-7))
  exact ⟨page, page', shown, shown', skeleton_render same shown shown'⟩

end Render.Html

end IssueBoard
