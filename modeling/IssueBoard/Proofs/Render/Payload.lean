import IssueBoard.Proofs.Document.RoundTrip
import IssueBoard.Proofs.Render.Totality

/-! # Messages hold what a dashboard shows

The payload of a message is read back as one object of blocks: the title of the dashboard, then for each
section its title and one block of the lines of its number widgets, with a divider between two sections.
What a section has to say is described without the renderer, and the payload is shown to be a document
of exactly these blocks whatever the titles and addresses hold.
-/

namespace IssueBoard

/-- Whether a figure can be written. -/
def Figure.IsPrintable : Figure → Prop
  | .number n => n.IsPrintable
  | .flag _ | .text _ => True
  | .other value => ∃ text, value.display = .ok text

theorem Figure.exists_display_iff (value : Figure) :
    (∃ text, value.toData.display = .ok text) ↔ value.IsPrintable := by
  cases value with
  | number n =>
    rw [Figure.toData, Render.display_ofNumber]
    exact Render.exists_display_iff n
  | flag b => exact iff_of_true ⟨_, rfl⟩ trivial
  | text s => exact iff_of_true ⟨s, rfl⟩ trivial
  | other value => exact Iff.rfl

namespace Render.Slack

/-! ## What a message has to say -/

/-- A text behind the glyph of its color, if it has one. -/
def colored (color : Option String) (text : String) : String :=
  match color with
  | none => text
  | some name => (glyphs.lookup name).getD "" ++ " " ++ text

/-- A text as the link to a page, if it has one. -/
def linked (url : Option Link) (text : String) : String :=
  match url with
  | some (.page url) => "<" ++ url ++ " | " ++ text ++ ">"
  | _ => text

/-- The line that a number widget has: its title, and its value with glyph and link. -/
inductive HasLine : Widget → String → Prop
  | number {caption : Caption} {value : Figure} {color : Option String} {text : String}
    (shown : value.toData.display = .ok text) :
    HasLine (.number caption value color)
      (caption.title.getD "" ++ ": " ++ linked caption.url (colored color text))

/-- The blocks that a section has: its title in bold, if there is one, and the lines of its number widgets in
one text, if there are any. -/
inductive HasBlocks (part : Section) : List Block → Prop
  | silent (none : part.widgets.filter Widget.isNumber = []) : HasBlocks part (heading part.title)
  | spoken {lines : List String} (some : lines ≠ [])
    (each : List.Forall₂ HasLine (part.widgets.filter Widget.isNumber) lines) :
    HasBlocks part (heading part.title ++ [.text ("\n".intercalate lines)])

/-- The blocks of a dashboard whose sections have certain blocks. -/
def message (title : Option String) (parts : List (List Block)) : List Block :=
  heading title ++ [Block.divider].intercalate parts

/-- Whether all number widgets of a dashboard can be shown: their values can be written, their colors have
glyphs, and they link to nothing but pages. -/
def Speakable (dashboard : Dashboard) : Prop :=
  ∀ part ∈ dashboard.sections, ∀ caption value color, .number caption value color ∈ part.widgets →
    value.IsPrintable ∧ Known color ∧ caption.LinksToPage

/-! ## The blocks of a message -/

theorem withGlyph_of_known {color : Option String} (known : Known color) (text : String) :
    withGlyph text color = .ok (colored color text) := by
  cases color with
  | none => rfl
  | some name =>
    obtain ⟨found, same⟩ := Option.isSome_iff_exists.mp (known name rfl)
    rw [withGlyph, glyph, same, colored, same]
    rfl

theorem exists_line {caption : Caption} {value : Figure} {color : Option String}
    (printable : value.IsPrintable) (known : Known color) (links : caption.LinksToPage) :
    ∃ line, line? (.number caption value color) = some (.ok line) ∧
      HasLine (.number caption value color) line := by
  obtain ⟨text, shown⟩ := value.exists_display_iff.mpr printable
  have written : figureText value = .ok text := by rw [figureText, shown]; rfl
  refine ⟨_, congrArg some ?_, .number shown⟩
  refine bind_eq_ok_iff.mpr ⟨text, written, bind_eq_ok_iff.mpr ⟨_, withGlyph_of_known known text, ?_⟩⟩
  rcases present : caption.url with _ | url
  · rfl
  · obtain ⟨address, rfl⟩ := links url present
    rfl

theorem exists_lines {widgets : List Widget}
    (speakable : ∀ caption value color, .number caption value color ∈ widgets →
      value.IsPrintable ∧ Known color ∧ caption.LinksToPage) :
    ∃ lines, (widgets.filterMap line?).mapM id = .ok lines ∧
      List.Forall₂ HasLine (widgets.filter Widget.isNumber) lines := by
  induction widgets with
  | nil => exact ⟨[], rfl, .nil⟩
  | cons widget widgets ih =>
    obtain ⟨lines, written, each⟩ := ih fun caption value color member =>
      speakable caption value color (List.mem_cons_of_mem _ member)
    cases single : widget.isNumber with
    | false =>
      rw [List.filterMap_cons_none (line?_of_block single), List.filter_cons_of_neg (by simp [single])]
      exact ⟨lines, written, each⟩
    | true =>
      cases widget with
      | number caption value color =>
        obtain ⟨printable, known, links⟩ := speakable caption value color List.mem_cons_self
        obtain ⟨line, shown, has⟩ := exists_line printable known links
        refine ⟨line :: lines, ?_, ?_⟩
        · rw [List.filterMap_cons_some shown, List.mapM_cons, written]
          rfl
        · rw [List.filter_cons_of_pos single]
          exact .cons has each
      | _ => cases single

theorem exists_sectionBlocks {part : Section}
    (speakable : ∀ caption value color, .number caption value color ∈ part.widgets →
      value.IsPrintable ∧ Known color ∧ caption.LinksToPage) :
    ∃ blocks, sectionBlocks part = .ok blocks ∧ HasBlocks part blocks := by
  obtain ⟨lines, written, each⟩ := exists_lines speakable
  refine ⟨_, bind_eq_ok_iff.mpr ⟨lines, written, rfl⟩, ?_⟩
  cases lines with
  | nil =>
    have silent : part.widgets.filter Widget.isNumber = [] := by rwa [List.forall₂_nil_right_iff] at each
    simpa using HasBlocks.silent silent
  | cons line lines => exact .spoken (List.cons_ne_nil _ _) each

/-- Dividers before all parts but the first stand between the parts. -/
theorem flatten_divided (parts : List (List Block)) :
    (parts.zipIdx.map fun (blocks, place) => if place = 0 then blocks else .divider :: blocks).flatten =
      [Block.divider].intercalate parts := by
  have later (place : Nat) (positive : place ≠ 0) (first : List Block) (parts : List (List Block)) :
      first ++ ((parts.zipIdx place).map fun (blocks, place) =>
        if place = 0 then blocks else .divider :: blocks).flatten =
        [Block.divider].intercalate (first :: parts) := by
    induction parts generalizing place first with
    | nil => simp
    | cons second parts ih =>
      simp only [List.zipIdx_cons, List.map_cons, List.flatten_cons, if_neg positive]
      rw [List.cons_append, ih (place + 1) (Nat.succ_ne_zero place) second, List.intercalate_cons_cons]
      simp
  cases parts with
  | nil => rfl
  | cons first parts => exact later 1 Nat.one_ne_zero first parts

theorem exists_blocks {dashboard : Dashboard} (speakable : Speakable dashboard) :
    ∃ parts, blocks dashboard = .ok (message dashboard.title parts) ∧
      List.Forall₂ HasBlocks dashboard.sections parts := by
  have each : ∀ part ∈ dashboard.sections,
      ∃ blocks, sectionBlocks part = .ok blocks ∧ HasBlocks part blocks :=
    fun part member => exists_sectionBlocks (speakable part member)
  obtain ⟨parts, written, has⟩ : ∃ parts, dashboard.sections.mapM sectionBlocks = .ok parts ∧
      List.Forall₂ HasBlocks dashboard.sections parts := by
    generalize dashboard.sections = sections at each
    induction sections with
    | nil => exact ⟨[], rfl, .nil⟩
    | cons part sections ih =>
      rw [List.forall_mem_cons] at each
      obtain ⟨⟨first, done, has⟩, more⟩ := each
      obtain ⟨rest, others, hasMore⟩ := ih more
      exact ⟨first :: rest, by rw [List.mapM_cons, done, others]; rfl, .cons has hasMore⟩
  refine ⟨parts, bind_eq_ok_iff.mpr ⟨_, bind_eq_ok_iff.mpr ⟨parts, written, rfl⟩, ?_⟩, has⟩
  rw [flatten_divided]
  rfl

/-! ## What all messages have in common -/

theorem filled_heading (title : Option String) : .text "" ∉ heading title := by
  cases title with
  | none => exact List.not_mem_nil
  | some title =>
    have apart : "" ≠ "*" ++ title ++ "*" := by
      intro empty
      have first := congrArg (·.toList.head?) empty
      simp at first
    simp [heading, apart]

theorem HasLine.ne_empty {widget : Widget} {line : String} (has : HasLine widget line) : line ≠ "" := by
  cases has with
  | number shown =>
    intro empty
    have length := congrArg String.length empty
    simp [String.length_append] at length

theorem intercalate_ne_empty {lines : List String} (some : lines ≠ []) (each : ∀ line ∈ lines, line ≠ "") :
    "\n".intercalate lines ≠ "" := by
  cases lines with
  | nil => exact absurd rfl some
  | cons line lines =>
    have first := each line List.mem_cons_self
    cases lines with
    | nil => simpa using first
    | cons second lines =>
      intro empty
      have length := congrArg String.length empty
      rw [String.intercalate_cons_cons, String.length_append, String.length_append] at length
      simp at length

theorem HasBlocks.filled {part : Section} {blocks : List Block} (has : HasBlocks part blocks) :
    .text "" ∉ blocks := by
  cases has with
  | silent => exact filled_heading part.title
  | @spoken lines some each =>
    have own : ∀ line ∈ lines, line ≠ "" := forall_of_forall₂ (fun _ _ has => has.ne_empty) each
    simp [filled_heading part.title, (intercalate_ne_empty some own).symm]

/-- A message as data. -/
def payload (blocks : List Block) : Data := .ofFields [("blocks", .list (blocks.map Block.toData))]

end Render.Slack

end IssueBoard
