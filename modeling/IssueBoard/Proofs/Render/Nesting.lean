import IssueBoard.Proofs.Render.Skeleton

/-! # The tags of a page are nested

A reader of markup takes a page apart into tags and passes over text, comments and elements without an
end. What it finds in a page without descriptions are opening tags, each closed by the matching closing
tag, one inside the other or one after the other.

The reader goes on from the place that it has reached, so what it finds in a page is put together from
what it finds in the parts. Texts of a dashboard are read without leaving the place where they stand,
for they hold no marks.
-/

namespace IssueBoard.Render.Html

/-! ## Reading markup -/

/-- A tag, with the name of its element. -/
inductive Tag where
  | opening (name : List Char)
  | closing (name : List Char)
  deriving DecidableEq

/-- Where in a page a reader stands. -/
inductive Place where
  | outside
  /-- In the name of a tag, whose characters so far are kept with the last one first. -/
  | name (closing : Bool) (read : List Char)
  /-- Behind the name of a tag. -/
  | inside (tag : Tag)
  /-- In the value of an attribute. -/
  | quoted (tag : Tag) (quote : Char)
  /-- In a comment, behind a number of hyphens. -/
  | comment (hyphens : Nat)
  deriving DecidableEq

/-- The elements that have no end. -/
def voidElements : List (List Char) := ["link".toList]

/-- The tag of a name. -/
def Tag.ofName (closing : Bool) (name : List Char) : Tag :=
  if closing then .closing name else .opening name

/-- A tag, unless it opens an element that has no end. -/
def Tag.counted? : Tag → Option Tag
  | .opening name => if voidElements.contains name then none else some (.opening name)
  | tag => some tag

/-- The tag that ends with a character, if one does, and the place behind the character. -/
def Place.next (c : Char) : Place → Option Tag × Place
  | .outside => (none, if c == '<' then .name false [] else .outside)
  | .name closing read =>
    if c == '>' then ((Tag.ofName closing read.reverse).counted?, .outside)
    else if c.isWhitespace then (none, .inside (Tag.ofName closing read.reverse))
    else if c == '/' && read.isEmpty then (none, .name true [])
    else if !closing && c :: read == "--!".toList then (none, .comment 0)
    else (none, .name closing (c :: read))
  | .inside tag =>
    if c == '>' then (tag.counted?, .outside)
    else (none, if c == '"' || c == '\x27' then .quoted tag c else .inside tag)
  | .quoted tag quote => (none, if c == quote then .inside tag else .quoted tag quote)
  | .comment hyphens =>
    (none, if c == '-' then .comment (hyphens + 1)
      else if c == '>' && 2 ≤ hyphens then .outside else .comment 0)

/-- The tags of a text that is read from a place on, and the place behind it. -/
def scan (start : Place) : List Char → List Tag × Place
  | [] => ([], start)
  | c :: rest =>
    let (tag, place) := start.next c
    let (tags, last) := scan place rest
    (tag.toList ++ tags, last)

/-- Tags in which each opening one is closed by the matching closing one, properly nested. -/
inductive Nested : List Tag → Prop
  | nil : Nested []
  | element (name : List Char) {within behind : List Tag} (inner : Nested within)
    (rest : Nested behind) : Nested (.opening name :: within ++ .closing name :: behind)

theorem Nested.append {first second : List Tag} (left : Nested first) (right : Nested second) :
    Nested (first ++ second) := by
  induction left with
  | nil => exact right
  | element name inner _ _ ih =>
    rw [List.append_assoc, List.cons_append]
    exact .element name inner ih

theorem Nested.single (name : List Char) {within : List Tag} (inner : Nested within) :
    Nested (.opening name :: within ++ [.closing name]) := .element name inner .nil

/-! ## Reading in parts -/

/-- Whether a text that is read from one place on has certain tags and leads to another place. -/
abbrev Reads (start : Place) (text : String) (tags : List Tag) (last : Place) : Prop :=
  scan start text.toList = (tags, last)

theorem scan_append (start : Place) (first second : List Char) :
    scan start (first ++ second) =
      ((scan start first).1 ++ (scan (scan start first).2 second).1,
        (scan (scan start first).2 second).2) := by
  induction first generalizing start with
  | nil => rfl
  | cons c rest ih => simp only [List.cons_append, scan, ih, List.append_assoc]

theorem Reads.append {start middle last : Place} {s t : String} {tags tags' : List Tag}
    (left : Reads start s tags middle) (right : Reads middle t tags' last) :
    Reads start (s ++ t) (tags ++ tags') last := by
  rw [Reads, String.toList_append, scan_append, left, right]

/-- A text without marks is read without leaving its place between tags or inside of quotes. -/
theorem reads_unmarked {s : String} (unmarked : skeleton s = []) :
    Reads .outside s [] .outside ∧ ∀ tag, Reads (.quoted tag '"') s [] (.quoted tag '"') := by
  have plain (c : Char) (member : c ∈ s.toList) : c ≠ '<' ∧ c ≠ '"' := by
    have kept := List.filter_eq_nil_iff.mp unmarked c member
    rw [Bool.not_eq_true, isMark_eq_false_iff] at kept
    exact ⟨kept.1, kept.2.2.1⟩
  have stays (place : Place)
      (each : ∀ c ∈ s.toList, place.next c = (none, place)) : Reads place s [] place := by
    rw [Reads]
    generalize s.toList = cs at each
    induction cs with
    | nil => rfl
    | cons c rest ih =>
      rw [List.forall_mem_cons] at each
      simp only [scan, each.1, ih each.2, Option.toList_none, List.nil_append]
  refine ⟨stays _ fun c member => ?_, fun tag => stays _ fun c member => ?_⟩
  · simp only [Place.next, beq_iff_eq, (plain c member).1, if_false]
  · simp only [Place.next, beq_iff_eq, (plain c member).2, if_false]

theorem reads_quoted (s : String) (tag : Tag) :
    Reads (.quoted tag '"') (Text.Markup.escape s) [] (.quoted tag '"') :=
  (reads_unmarked (skeleton_escape s)).2 tag

/-- Whether lines that each begin and end outside of tags have certain tags together. -/
inductive Markup : List String → List Tag → Prop
  | nil : Markup [] []
  | cons {line : String} {lines : List String} {tags tags' : List Tag}
    (first : Reads .outside line tags .outside) (rest : Markup lines tags') :
    Markup (line :: lines) (tags ++ tags')

theorem Markup.append {first second : List String} {tags tags' : List Tag}
    (left : Markup first tags) (right : Markup second tags') :
    Markup (first ++ second) (tags ++ tags') := by
  induction left with
  | nil => exact right
  | cons line _ ih =>
    rw [List.append_assoc]
    exact .cons line ih

/-- Line ends stand between tags. -/
theorem Markup.reads {lines : List String} {tags : List Tag} (markup : Markup lines tags) :
    Reads .outside ("\n".intercalate lines) tags .outside := by
  induction markup with
  | nil => decide
  | @cons line lines tags tags' first rest ih =>
    cases lines with
    | nil =>
      cases rest
      rw [List.append_nil]
      exact first
    | cons next lines =>
      have joined : "\n".intercalate (line :: next :: lines) =
          line ++ ("\n" ++ "\n".intercalate (next :: lines)) := by
        rw [String.intercalate_cons_cons, String.append_assoc]
      rw [joined]
      have lineEnd : Reads .outside "\n" [] .outside := by decide
      exact first.append (lineEnd.append ih)

/-- Whether a text begins and ends outside of tags, and its tags are nested. -/
def NestedText (text : String) : Prop := ∃ tags, Reads .outside text tags .outside ∧ Nested tags

/-- Whether lines begin and end outside of tags, and their tags are nested. -/
def NestedLines (lines : List String) : Prop := ∃ tags, Markup lines tags ∧ Nested tags

theorem NestedText.unmarked {text : String} (unmarked : skeleton text = []) : NestedText text :=
  ⟨[], (reads_unmarked unmarked).1, .nil⟩

theorem NestedText.escape (s : String) : NestedText (Text.Markup.escape s) := .unmarked (skeleton_escape s)

theorem NestedLines.nil : NestedLines [] := ⟨[], .nil, .nil⟩

theorem NestedLines.cons {line : String} {lines : List String} (first : NestedText line)
    (rest : NestedLines lines) : NestedLines (line :: lines) := by
  obtain ⟨tags, read, nested⟩ := first
  obtain ⟨tags', markup, nested'⟩ := rest
  exact ⟨tags ++ tags', .cons read markup, nested.append nested'⟩

theorem NestedLines.append {first second : List String} (left : NestedLines first)
    (right : NestedLines second) : NestedLines (first ++ second) := by
  obtain ⟨tags, markup, nested⟩ := left
  obtain ⟨tags', markup', nested'⟩ := right
  exact ⟨tags ++ tags', markup.append markup', nested.append nested'⟩

theorem NestedLines.of_forall {lines : List String} (each : ∀ line ∈ lines, NestedText line) :
    NestedLines lines := by
  induction lines with
  | nil => exact .nil
  | cons line lines ih =>
    rw [List.forall_mem_cons] at each
    exact .cons each.1 (ih each.2)

theorem NestedLines.flatten {parts : List (List String)} (each : ∀ lines ∈ parts, NestedLines lines) :
    NestedLines parts.flatten := by
  induction parts with
  | nil => exact .nil
  | cons lines parts ih =>
    rw [List.forall_mem_cons] at each
    exact each.1.append (ih each.2)

theorem NestedLines.joined {lines : List String} (nested : NestedLines lines) :
    NestedText ("\n".intercalate lines) := by
  obtain ⟨tags, markup, nested⟩ := nested
  exact ⟨tags, markup.reads, nested⟩

/-- What stands between the tags of an element. -/
theorem NestedText.element (opening closing : String) (name : List Char) {text : String}
    (opens : Reads .outside opening [.opening name] .outside) (within : NestedText text)
    (closes : Reads .outside closing [.closing name] .outside) : NestedText (opening ++ text ++ closing) := by
  obtain ⟨tags, read, nested⟩ := within
  exact ⟨_, (opens.append read).append closes, .single name nested⟩

/-- The lines between the tags of an element. -/
theorem NestedLines.element (opening closing : String) (name : List Char) {lines behind : List String}
    (opens : Reads .outside opening [.opening name] .outside) (within : NestedLines lines)
    (closes : Reads .outside closing [.closing name] .outside) (rest : NestedLines behind) :
    NestedLines (opening :: lines ++ closing :: behind) := by
  obtain ⟨tags, markup, nested⟩ := within
  obtain ⟨tags', markup', nested'⟩ := rest
  exact ⟨_, (Markup.cons opens markup).append (.cons closes markup'), .element name nested nested'⟩

/-! ## Tags with texts in them -/

theorem nested_anchor (title : String) : NestedText (anchor title) := by
  have start : Reads .outside "<a name=\"" [] (.quoted (.opening ['a']) '"') := by decide
  have finish : Reads (.quoted (.opening ['a']) '"') "\"></a>" [.opening ['a'], .closing ['a']] .outside := by
    decide
  have name := (reads_unmarked (skeleton_anchorName title)).2 (.opening ['a'])
  exact ⟨_, (start.append name).append finish, .single ['a'] .nil⟩

/-- An opening tag with classes. -/
theorem reads_classes {base : String} (plain : skeleton base = []) (color : Option String) :
    Reads .outside ("<div class=\"" ++ classes base color ++ "\">") [.opening "div".toList] .outside := by
  have start : Reads .outside "<div class=\"" [] (.quoted (.opening "div".toList) '"') := by decide
  have finish : Reads (.quoted (.opening "div".toList) '"') "\">" [.opening "div".toList] .outside := by
    decide
  have named : skeleton (classes base color) = [] := by rw [skeleton_classes, plain]
  exact (start.append ((reads_unmarked named).2 _)).append finish

theorem reads_linkOpening {address : Link} {text : String} (shown : linkOpening address = .ok text) :
    Reads .outside text [.opening ['a']] .outside := by
  cases address with
  | other => cases shown
  | page url =>
    cases shown
    have start : Reads .outside "<a href=\"" [] (.quoted (.opening ['a']) '"') := by decide
    have finish : Reads (.quoted (.opening ['a']) '"') "\">" [.opening ['a']] .outside := by decide
    exact (start.append (reads_quoted url _)).append finish

theorem nested_link {content text : String} {url : Option Link} (within : NestedText content)
    (shown : link content url = .ok text) : NestedText text := by
  unfold link at shown
  split at shown
  · cases shown
    exact within
  · split at shown
    · obtain ⟨opening, opened, done⟩ := bind_eq_ok_iff.mp shown
      cases done
      exact .element opening "</a>" ['a'] (reads_linkOpening opened) within (by decide)
    · cases shown
      exact within

/-- A title between tags. -/
theorem nested_titles (title : Option String) (before after : String) (name : List Char)
    (opens : Reads .outside before [.opening name] .outside)
    (closes : Reads .outside after [.closing name] .outside) :
    NestedLines (title.map fun title => before ++ Text.Markup.escape title ++ after).toList := by
  cases title with
  | none => exact .nil
  | some title => exact .cons (.element before after name opens (.escape title) closes) .nil

/-- A widget stands behind the anchor of its title and inside of its link. -/
theorem nested_linked {caption : Caption} {before lines : List String} (within : NestedLines lines)
    (opened : opening caption = .ok before) : NestedLines (before ++ lines ++ closing caption) := by
  obtain ⟨address, addresses, done⟩ := bind_eq_ok_iff.mp opened
  cases done
  have anchors : NestedLines (caption.title.map anchor).toList := by
    cases caption.title with
    | none => exact .nil
    | some title => exact .cons (nested_anchor title) .nil
  rw [List.append_assoc, List.append_assoc]
  refine anchors.append ?_
  rw [mapM_eq_ok_iff] at addresses
  rw [closing]
  cases linked : caption.url with
  | none =>
    rw [linked] at addresses
    cases addresses
    simpa using within
  | some url =>
    rw [linked] at addresses
    rcases addresses with _ | ⟨first, ⟨⟩⟩
    exact .element _ "</a>" ['a'] (reads_linkOpening first) within (by decide) .nil

theorem nested_figure {value : Figure} {text : String} (shown : figure value = .ok text) :
    NestedText text := .unmarked (skeleton_figure shown)

/-! ## Widgets -/

theorem nested_number {caption : Caption} {value : Figure} {color : Option String} {text : String}
    (shown : number caption value color = .ok text) : NestedText text := by
  obtain ⟨before, opened, shown⟩ := bind_eq_ok_iff.mp shown
  obtain ⟨figure, figured, done⟩ := bind_eq_ok_iff.mp shown
  cases done
  have titles := nested_titles caption.title "<span class=\"title\">" "</span>" "span".toList
    (by decide) (by decide)
  have body : NestedLines ["<span class=\"value\">" ++ figure ++ "</span>"] :=
    .cons (.element _ "</span>" "span".toList (by decide) (nested_figure figured) (by decide)) .nil
  have opens : Reads .outside ("<div class=\"" ++ classes "number_widget" color ++ "\">")
    [.opening "div".toList] .outside := reads_classes (by decide) color
  have block := NestedLines.element _ "</div>" _ opens (titles.append body) (by decide) .nil
  have linked := nested_linked block opened
  simpa using linked.joined

theorem nested_string {caption : Caption} {value : String} {color : Option String} {text : String}
    (shown : string caption value color = .ok text) : NestedText text := by
  obtain ⟨before, opened, done⟩ := bind_eq_ok_iff.mp shown
  cases done
  have titles := nested_titles caption.title "<h3 class=\"title\">" "</h3>" "h3".toList
    (by decide) (by decide)
  have body : NestedLines ["<span class=\"value\">" ++ Text.Markup.escape value ++ "</span>"] :=
    .cons (.element _ "</span>" "span".toList (by decide) (.escape value) (by decide)) .nil
  have opens : Reads .outside ("<div class=\"" ++ classes "string_widget" color ++ "\">")
    [.opening "div".toList] .outside := reads_classes (by decide) color
  have block := NestedLines.element _ "</div> <!-- string_widget -->" _
    opens (titles.append body) (by decide) .nil
  have linked := nested_linked block opened
  simpa using linked.joined

theorem nested_heading {headingClass : String} (plain : skeleton headingClass = []) {caption : Caption}
    {lines : List String} (shown : heading headingClass caption = .ok lines) : NestedLines lines := by
  unfold heading at shown
  split at shown
  · cases shown
    exact .nil
  · next title _ =>
    obtain ⟨linked, inner, done⟩ := bind_eq_ok_iff.mp shown
    cases done
    have start : Reads .outside "<h3 class=\"" [] (.quoted (.opening "h3".toList) '"') := by decide
    have finish : Reads (.quoted (.opening "h3".toList) '"') "\">" [.opening "h3".toList] .outside := by
      decide
    have opens := (start.append ((reads_unmarked plain).2 _)).append finish
    have within := nested_link (.escape title) inner
    exact .cons (nested_anchor title) (.cons (.element _ "</h3>" _ opens within (by decide)) .nil)

theorem nested_barLabel {bar : Bar} {width : Int} {label : String} (shown : barLabel bar width = .ok label) :
    NestedText label := .unmarked (skeleton_barLabel shown)

theorem nested_labelledLines {bar : Bar} {width : Int} {label : String} {lines : List String}
    (inner : NestedText label) (shown : labelledLines bar width label = .ok lines) : NestedLines lines := by
  obtain ⟨titles, named, shown⟩ := bind_eq_ok_iff.mp shown
  obtain ⟨drawn, barred, done⟩ := bind_eq_ok_iff.mp shown
  cases done
  have above : NestedLines titles := by
    rw [mapM_eq_ok_iff] at named
    cases titled : bar.caption.title with
    | none =>
      rw [titled] at named
      cases named
      exact .nil
    | some title =>
      rw [titled] at named
      rcases named with _ | ⟨first, ⟨⟩⟩
      refine .cons (nested_link ?_ first) .nil
      exact .element _ "</span>" "span".toList (by decide) (.escape title) (by decide)
  have below : NestedText drawn := by
    refine nested_link (.element _ "</span>" "span".toList ?_ inner (by decide)) barred
    have start : Reads .outside "<span class=\"" [] (.quoted (.opening "span".toList) '"') := by decide
    have between : Reads (.quoted (.opening "span".toList) '"') "\" style=\"width: " []
      (.quoted (.opening "span".toList) '"') := by decide
    have finish : Reads (.quoted (.opening "span".toList) '"') "%;\">" [.opening "span".toList] .outside := by
      decide
    have value := (reads_unmarked (skeleton_valueClass width)).2 (.opening "span".toList)
    have number := (reads_unmarked (skeleton_repr width)).2 (.opening "span".toList)
    exact (((start.append value).append between).append number).append finish
  have name := NestedLines.element "<span class=\"graph_item_title\">" "</span>" "span".toList
    (by decide) above (by decide) .nil
  have value := NestedLines.element "<span class=\"graph_item_value\">" "</span>" "span".toList
    (by decide) (.cons below .nil) (by decide) .nil
  have opens : Reads .outside ("<div class=\"" ++ classes "graph_item" bar.color ++ "\">")
    [.opening "div".toList] .outside := reads_classes (by decide) bar.color
  have item := NestedLines.element _ "</div>" _ opens (name.append value) (by decide) .nil
  simpa using item

theorem nested_barLines {maximum value : Number} {bar : Bar} {lines : List String}
    (shown : barLines maximum bar value = .ok lines) : NestedLines lines := by
  rw [barLines_eq] at shown
  obtain ⟨width, -, shown⟩ := bind_eq_ok_iff.mp shown
  obtain ⟨label, labelled, shown⟩ := bind_eq_ok_iff.mp shown
  exact nested_labelledLines (nested_barLabel labelled) shown

theorem nested_graph {caption : Caption} {elements : List Widget} {text : String}
    (shown : graph caption elements = .ok text) : NestedText text := by
  obtain ⟨bars, -, shown⟩ := bind_eq_ok_iff.mp shown
  obtain ⟨lines, drawn, shown⟩ := bind_eq_ok_iff.mp shown
  obtain ⟨top, headed, done⟩ := bind_eq_ok_iff.mp shown
  cases done
  have items := NestedLines.flatten (forall_of_mapM (fun _ _ _ => nested_barLines) drawn)
  have inner := NestedLines.element "<div class=\"graph\">" "</div>" "div".toList
    (by decide) items (by decide) .nil
  have outer := NestedLines.element "<div class=\"graph_widget\">" "</div>" "div".toList
    (by decide) ((nested_heading (by decide) headed).append inner) (by decide) .nil
  simpa using outer.joined

/-! ## Tables -/

/-- Whether a place is behind the name of an opening tag, with or without attributes. -/
def BehindName (name : List Char) (place : Place) : Prop :=
  place = .name false name.reverse ∨ place = .inside (.opening name)

/-- A blank ends a name. -/
theorem scan_behindName {name : List Char} {place : Place} (behind : BehindName name place)
    (rest : List Char) :
    scan place (' ' :: rest) = scan (.inside (.opening name)) rest := by
  have inside (tag : Tag) : (Place.inside tag).next ' ' = (none, .inside tag) := rfl
  have named : (Place.name false name.reverse).next ' ' = (none, .inside (.opening name)) := by
    rw [← List.reverse_reverse name, List.reverse_reverse]
    rfl
  rcases behind with rfl | rfl
  · simp only [scan, named, Option.toList_none, List.nil_append]
  · simp only [scan, inside, Option.toList_none, List.nil_append]

/-- An attribute that may be absent stands behind a name. -/
theorem reads_attribute {name : List Char} {place : Place} (behind : BehindName name place) (before : String)
    (rest : List Char) (blank : before.toList = ' ' :: rest)
    (opens : ∀ tag, scan (.inside tag) rest = ([], .quoted tag '"')) (value : Option String) :
    ∃ last, BehindName name last ∧
      Reads place (value.elim "" fun value => before ++ Text.Markup.escape value ++ "\"") [] last := by
  cases value with
  | none => exact ⟨place, behind, rfl⟩
  | some value =>
    have start : Reads place before [] (.quoted (.opening name) '"') := by
      rw [Reads, blank, scan_behindName behind, opens]
    have finish : Reads (.quoted (.opening name) '"') "\"" [] (.inside (.opening name)) := rfl
    exact ⟨_, .inr rfl, (start.append (reads_quoted value _)).append finish⟩

/-- A tag with the attributes of a cell. -/
theorem reads_cellTag {before : String} {name : List Char}
    (start : Reads .outside before [] (.name false name.reverse))
    (counted : (Tag.opening name).counted? = some (.opening name)) (color align : Option String) :
    Reads .outside (before ++ attributes color align ++ ">") [.opening name] .outside := by
  have named : BehindName name (.name false name.reverse) := .inl rfl
  obtain ⟨middle, behind, colored⟩ :=
    reads_attribute named " class=\"" "class=\"".toList (by decide) (fun _ => rfl) color
  obtain ⟨last, behind, aligned⟩ :=
    reads_attribute behind " style=\"text-align: "
      "style=\"text-align: ".toList (by decide) (fun _ => rfl) align
  have finish : Reads last ">" [.opening name] .outside := by
    have single : ">".toList = ['>'] := by decide
    have ends : last.next '>' = ((Tag.opening name).counted?, .outside) := by
      rcases behind with rfl | rfl
      · simp only [Place.next, List.reverse_reverse]
        rfl
      · rfl
    rw [Reads, single]
    simp only [scan, ends, counted]
    rfl
  exact (start.append (colored.append aligned)).append finish

theorem nested_cell (tag : String) (name : List Char)
    (starts : Reads .outside ("<" ++ tag) [] (.name false name.reverse))
    (counted : (Tag.opening name).counted? = some (.opening name))
    (closes : Reads .outside ("</" ++ tag ++ ">") [.closing name] .outside) {widget : Widget} {text : String}
    (shown : cell tag widget = .ok text) : NestedText text := by
  unfold cell at shown
  split at shown
  · next color =>
    obtain ⟨inner, figured, shown⟩ := bind_eq_ok_iff.mp shown
    obtain ⟨linked, within, done⟩ := bind_eq_ok_iff.mp shown
    cases done
    have opens := reads_cellTag starts counted color none
    simpa [String.append_assoc] using
      NestedText.element _ _ _ opens (nested_link (nested_figure figured) within) closes
  · next align color =>
    obtain ⟨linked, within, done⟩ := bind_eq_ok_iff.mp shown
    cases done
    have opens := reads_cellTag starts counted color align
    simpa [String.append_assoc] using NestedText.element _ _ _ opens (nested_link (.escape _) within) closes
  · cases shown

theorem nested_rowLines {rowClass tag : String} (plain : skeleton rowClass = [])
    (each : ∀ widget text, cell tag widget = .ok text → NestedText text) {cells : List Widget}
    {lines : List String} (shown : rowLines rowClass tag cells = .ok lines) : NestedLines lines := by
  obtain ⟨texts, celled, done⟩ := bind_eq_ok_iff.mp shown
  cases done
  have start : Reads .outside "<tr class=\"" [] (.quoted (.opening "tr".toList) '"') := by decide
  have finish : Reads (.quoted (.opening "tr".toList) '"') "\">" [.opening "tr".toList] .outside := by decide
  have opens := (start.append ((reads_unmarked plain).2 _)).append finish
  exact .element _ "</tr>" _ opens
    (.of_forall (forall_of_mapM (fun widget _ => each widget) celled)) (by decide) .nil

theorem nested_table {caption : Caption} {headers : List Widget} {rows : List (List Widget)} {text : String}
    (shown : table caption headers rows = .ok text) : NestedText text := by
  rw [table, ← apply_ite (· >>= _)] at shown
  obtain ⟨top, topped, shown⟩ := bind_eq_ok_iff.mp shown
  obtain ⟨lines, rowed, shown⟩ := bind_eq_ok_iff.mp shown
  obtain ⟨title, headed, done⟩ := bind_eq_ok_iff.mp shown
  cases done
  have above : NestedLines top := by
    split at topped
    · cases topped
      exact .nil
    · exact nested_rowLines (by decide)
        (fun _ _ => nested_cell "th" "th".toList (by decide) (by decide) (by decide)) topped
  have below : NestedLines lines.flatten := by
    refine .flatten (forall_of_mapM (fun row _ found => ?_) rowed)
    exact nested_rowLines (by decide)
      fun _ _ => nested_cell "td" "td".toList (by decide) (by decide) (by decide)
  have inner := NestedLines.element "<table class=\"table\">" "</table>" "table".toList
    (by decide) (above.append below) (by decide) .nil
  have outer := NestedLines.element "<div class=\"table_widget\">" "</div>" "div".toList
    (by decide) ((nested_heading (by decide) headed).append inner) (by decide) .nil
  simpa using outer.joined

/-! ## Pages -/

theorem nested_block {widget : Widget} {text : String} (shown : block widget = .ok text) :
    NestedText text := by
  unfold block at shown
  split at shown
  · exact nested_string shown
  · exact nested_graph shown
  · exact nested_table shown
  · cases shown

/-- Lines in which the group of numbers that is open, if one is, is closed. -/
def NestedBehind (grouping : Bool) (lines : List String) : Prop :=
  if grouping then ∃ inner rest, lines = inner ++ groupEnd :: rest ∧ NestedLines inner ∧ NestedLines rest
  else NestedLines lines

/-- What follows on the end of a group. -/
theorem NestedBehind.of_lines {lines : List String} (nested : NestedLines lines) (grouping : Bool) :
    NestedBehind grouping ((if grouping then [groupEnd] else []) ++ lines) := by
  cases grouping with
  | false => exact nested
  | true => exact ⟨[], lines, rfl, .nil, nested⟩

/-- A number stands in the group that is open, or opens one. -/
theorem NestedBehind.number {text : String} (nested : NestedText text) {lines : List String}
    (rest : NestedBehind true lines) (grouping : Bool) :
    NestedBehind grouping ((if grouping then [] else ["<div class=\"number_widgets\">"]) ++
      text :: lines) := by
  obtain ⟨inner, behind, rfl, within, after⟩ := rest
  cases grouping with
  | false =>
    have group := NestedLines.cons nested within
    exact group.element "<div class=\"number_widgets\">" groupEnd "div".toList (by decide) (by decide) after
  | true => exact ⟨text :: inner, behind, rfl, .cons nested within, after⟩

theorem nested_widgetLines {widgets : List Widget} {grouping : Bool} {lines : List String}
    (shown : widgetLines grouping widgets = .ok lines) : NestedBehind grouping lines := by
  induction widgets generalizing grouping lines with
  | nil =>
    cases shown
    simpa using NestedBehind.of_lines .nil grouping
  | cons widget widgets ih =>
    cases single : widget.isNumber with
    | false =>
      rw [widgetLines_of_block single] at shown
      obtain ⟨text, first, shown⟩ := bind_eq_ok_iff.mp shown
      obtain ⟨rest, later, done⟩ := bind_eq_ok_iff.mp shown
      cases done
      exact .of_lines (.cons (nested_block first) (ih later)) grouping
    | true =>
      cases widget with
      | number caption value color =>
        obtain ⟨text, first, shown⟩ := bind_eq_ok_iff.mp shown
        obtain ⟨rest, later, done⟩ := bind_eq_ok_iff.mp shown
        cases done
        exact .number (nested_number first) (ih later) grouping
      | _ => cases single

/-- What stands around the titles and the widgets of a section. -/
theorem nested_sectionFrame {titles widgets : List String} (above : NestedLines titles)
    (below : NestedLines widgets) :
    NestedLines (["<div class=\"section\">", "<div class=\"section_metadata\">"] ++ titles
      ++ ["</div> <!-- section_metadata -->", "<div class=\"section_widgets\">"] ++ widgets
      ++ ["</div> <!-- section_widgets -->", "</div> <!-- section -->"]) := by
  have bottom := NestedLines.element "<div class=\"section_widgets\">" "</div> <!-- section_widgets -->"
    "div".toList (by decide) below (by decide) .nil
  have top := NestedLines.element "<div class=\"section_metadata\">" "</div> <!-- section_metadata -->"
    "div".toList (by decide) above (by decide) bottom
  have whole := NestedLines.element "<div class=\"section\">" "</div> <!-- section -->" "div".toList
    (by decide) top (by decide) .nil
  simpa using whole

theorem nested_sectionLines {part : Section} (plain : part.description = none) {lines : List String}
    (shown : sectionLines part = .ok lines) : NestedLines lines := by
  obtain ⟨widgets, widgeted, done⟩ := bind_eq_ok_iff.mp shown
  cases done
  have below : NestedLines widgets := nested_widgetLines widgeted
  rw [plain]
  cases part.title with
  | none => exact nested_sectionFrame .nil below
  | some title =>
    have heading := NestedText.element "<h2 class=\"section_title\">" "</h2>" "h2".toList
      (by decide) (.escape title) (by decide)
    exact nested_sectionFrame
      (.cons (nested_anchor title) (.cons heading (.cons (.unmarked (by decide)) .nil))) below

/-- What stands around the title and the sections of a page. -/
theorem nested_pageFrame {title : String} (named : NestedText title) {top sections : List String}
    (above : NestedLines top) (below : NestedLines sections) :
    NestedLines (["<html>", "<head>", "<title>" ++ title ++ "</title>",
      "<link rel=\"stylesheet\" href=\"dashboard.css\" type=\"text/css\" media=\"all\">",
      "<script src=\"dashboard.js\"></script>", "</head>", "<body>", "<div id=\"analytics\">"]
    ++ top ++ "<div class=\"sections\">" :: sections
    ++ ["</div> <!-- sections -->", "<div id=\"footer\">", "Generated by issue-analytics", "</div>",
      "</div> <!-- analytics -->", "</body>", "</html>", ""]) := by
  have blank : NestedText "" := .unmarked (by decide)
  have content : NestedLines ["Generated by issue-analytics"] := .cons (.unmarked (by decide)) .nil
  have footer := NestedLines.element "<div id=\"footer\">" "</div>" "div".toList
    (by decide) content (by decide) .nil
  have all := NestedLines.element "<div class=\"sections\">" "</div> <!-- sections -->" "div".toList
    (by decide) below (by decide) footer
  have analytics := NestedLines.element "<div id=\"analytics\">" "</div> <!-- analytics -->" "div".toList
    (by decide) (above.append all) (by decide) .nil
  have body := NestedLines.element "<body>" "</body>" "body".toList
    (by decide) analytics (by decide) .nil
  have titled := NestedText.element "<title>" "</title>" "title".toList
    (by decide) named (by decide)
  have sheet : NestedText
      "<link rel=\"stylesheet\" href=\"dashboard.css\" type=\"text/css\" media=\"all\">" :=
    ⟨[], by decide, .nil⟩
  have script : NestedText "<script src=\"dashboard.js\"></script>" :=
    ⟨_, by decide, .single "script".toList .nil⟩
  have head := NestedLines.element "<head>" "</head>" "head".toList (by decide)
    (.cons titled (.cons sheet (.cons script .nil))) (by decide) body
  have html := NestedLines.element "<html>" "</html>" "html".toList (by decide)
    head (by decide) (.cons blank .nil)
  simpa using html

/-- **Pages are properly nested.** A page of a dashboard without descriptions begins and ends outside of
tags, and each of its opening tags is closed by the matching closing tag, whatever its texts and numbers. -/
theorem nested_render {dashboard : Dashboard} (plain : dashboard.description = none)
    (sections : ∀ part ∈ dashboard.sections, part.description = none) {page : String}
    (shown : render dashboard = .ok page) :
    ∃ tags, scan .outside page.toList = (tags, .outside) ∧ Nested tags := by
  obtain ⟨parts, rendered, done⟩ := bind_eq_ok_iff.mp shown
  cases done
  have below := NestedLines.flatten
    (forall_of_mapM (fun part member _ => nested_sectionLines (sections part member)) rendered)
  rw [plain]
  cases dashboard.title with
  | none =>
    have untitled : NestedText "Dashboard" := .unmarked (by decide)
    exact (nested_pageFrame untitled .nil below).joined
  | some title =>
    have heading := NestedText.element "<h1>" "</h1>" "h1".toList
      (by decide) (.escape title) (by decide)
    exact (nested_pageFrame (.escape title) (.cons heading (.cons (.unmarked (by decide)) .nil)) below).joined

/-- The tags of a page whose texts try to close them. -/
theorem nested_render_hostile :
    let board := { speckledBoard "</div><b a=\"'>" (.integer 40) with description := none }
    ∃ page tags, render board = .ok page ∧ scan .outside page.toList = (tags, .outside) ∧ Nested tags := by
  intro board
  have shown : (render board).toOption.isSome = true := by decide +kernel
  rcases rendered : render board with failure | page
  · rw [rendered] at shown
    cases shown
  · obtain ⟨tags, read, nested⟩ := @nested_render board rfl
      (fun part member => by rw [List.mem_singleton.mp member]) page rendered
    exact ⟨page, tags, rfl, read, nested⟩

end IssueBoard.Render.Html
