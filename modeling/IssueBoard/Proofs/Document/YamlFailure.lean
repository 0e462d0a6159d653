import IssueBoard.Document.Yaml.Value
import IssueBoard.Proofs.Outcome
import Mathlib.Data.List.Infix

/-! # Why a YAML document cannot be read

A text that is no document is refused as malformed. Apart from that a document is not read for one of
three reasons: an escape in a quoted text names no character, lists and objects nest too deep, or a node
spells no value of its kind. Each step of reading is described by what it gives and by what it may fail
for, and steps that are put together by what both of them have in common.
-/

namespace IssueBoard.Yaml

variable {α β : Type}

/-- Whether what a reading gives is of some kind, and a fault that it fails for is of some kind. -/
def Meets (holds : α → Prop) (blamed : Fault → Prop) : Reading α → Prop
  | .ok result => holds result
  | .error .malformed => True
  | .error (.fault fault) => blamed fault

section Meets

variable {holds holds' : α → Prop} {blamed blamed' : Fault → Prop} {reading : Reading α}

theorem Meets.mono (meets : Meets holds blamed reading) (weaker : ∀ x, holds x → holds' x)
    (weaker' : ∀ fault, blamed fault → blamed' fault) : Meets holds' blamed' reading := by
  rcases reading with (_ | fault) | result
  · trivial
  · exact weaker' fault meets
  · exact weaker result meets

/-- Behind a first step the second one starts from what the first has given. -/
theorem Meets.bind {goal : β → Prop} {next : α → Reading β} (meets : Meets holds blamed reading)
    (rest : ∀ x, holds x → Meets goal blamed (next x)) : Meets goal blamed (reading >>= next) := by
  rcases reading with (_ | fault) | result
  · trivial
  · exact meets
  · exact rest result meets

theorem Meets.map {goal : β → Prop} {f : α → β} (meets : Meets holds blamed reading)
    (rest : ∀ x, holds x → goal (f x)) : Meets goal blamed (reading.map f) := by
  rcases reading with (_ | fault) | result
  · trivial
  · exact meets
  · exact rest result meets

end Meets

/-! ## Cutting a document into tokens -/

/-- Whether a fault means that an escape names no character. -/
def IsEscape (fault : Fault) : Prop := fault = .wordOverflow ∨ fault = .codePoint

/-- Whether a step of cutting a document fails for nothing but an escape. -/
abbrev Cuts (reading : Reading α) : Prop := Meets (fun _ => True) IsEscape reading

theorem cuts_ok (result : α) : Cuts (.ok result) := trivial

theorem cuts_refuse : Cuts (refuse : Reading α) := trivial

theorem Cuts.bind {first : Reading α} {next : α → Reading β} (cuts : Cuts first)
    (rest : ∀ x, Cuts (next x)) : Cuts (first >>= next) := Meets.bind cuts fun x _ => rest x

theorem cuts_ite {p : Prop} [Decidable p] {first second : Reading α} (left : Cuts first)
    (right : Cuts second) : Cuts (if p then first else second) := by
  split
  · exact left
  · exact right

theorem cuts_charAt (code : Nat) : Cuts (charAt code) := by
  unfold charAt
  split
  · exact .inl rfl
  · split
    · exact .inr rfl
    · trivial

theorem cuts_escape (gs : List Glyph) : Cuts (escape gs) := by
  unfold escape
  split
  · trivial
  · split
    · trivial
    · split
      · trivial
      · exact cuts_ite cuts_refuse ((cuts_charAt _).bind fun _ => cuts_ok _)
    · exact cuts_ite (cuts_ite cuts_refuse (cuts_ok _)) cuts_refuse

theorem cuts_quotedText (isDouble : Bool) (gs : List Glyph) : Cuts (quotedText isDouble gs) := by
  induction gs using (measure List.length).wf.induction with
  | _ gs ih =>
    have shorter {part : List Glyph} (less : part.length < gs.length) : Cuts (quotedText isDouble part) :=
      ih part less
    rw [quotedText.eq_def]
    cases gs with
    | nil => trivial
    | cons g after =>
      refine cuts_ite (cuts_ite ?_ (cuts_ok _)) (cuts_ite ?_ (cuts_ite (cuts_ite cuts_refuse ?_) ?_))
      · exact (shorter (by simp only [List.length_drop, List.length_cons]; omega)).bind fun _ => cuts_ok _
      · exact (cuts_escape after).bind fun ⟨meant, rest, less⟩ =>
          (shorter (less.trans (Nat.lt_succ_self _))).bind fun _ => cuts_ok _
      · exact (shorter (Nat.lt_succ_of_le (takeGlyphs Glyph.isBlank after).2.2)).bind fun _ => cuts_ok _
      · exact (shorter (Nat.lt_succ_self _)).bind fun _ => cuts_ok _

theorem cuts_anchorName (gs : List Glyph) : Cuts (anchorName gs) := cuts_ite (cuts_ok _) cuts_refuse

theorem cuts_tagSuffix (gs : List Glyph) : Cuts (tagSuffix gs) := by
  unfold tagSuffix
  split
  split
  · trivial
  · trivial

theorem cuts_tagHandle (gs : List Glyph) : Cuts (tagHandle gs) := by
  unfold tagHandle
  split
  · trivial
  · exact cuts_ite cuts_refuse (cuts_ite (cuts_ok _) (cuts_ite (cuts_ok _) cuts_refuse))

theorem cuts_tagText (mark : Glyph) (gs : List Glyph) : Cuts (tagText mark gs) := by
  unfold tagText
  refine cuts_ite ?_ (cuts_ite ?_ ?_)
  · exact (cuts_tagSuffix _).bind fun _ => cuts_ite (cuts_ok _) cuts_refuse
  · exact cuts_ite (cuts_ok _) cuts_refuse
  · refine cuts_ite ((cuts_tagHandle _).bind fun _ => ?_) ?_
    · exact (cuts_tagSuffix _).bind fun _ => cuts_ite (cuts_ok _) cuts_refuse
    · exact (cuts_tagSuffix _).bind fun _ => cuts_ite (cuts_ok _) cuts_refuse

theorem cuts_versionNumber (gs : List Glyph) : Cuts (versionNumber gs) := cuts_ite (cuts_ok _) cuts_refuse

/-- A directive goes to the end of its line. -/
theorem cuts_lineEnd (gs : List Glyph) {f : Rest gs → Reading α} (each : ∀ x, Cuts (f x)) :
    Cuts (match restOfLine? gs with
      | some after => f after
      | none => refuse) := by
  split
  · exact each _
  · trivial

theorem cuts_directive (gs : List Glyph) : Cuts (directive gs) := by
  unfold directive
  split
  refine cuts_ite cuts_refuse ?_
  split
  dsimp only
  refine cuts_ite ?_ (cuts_ite ?_ ?_)
  · exact (cuts_versionNumber _).bind fun _ => cuts_lineEnd _ fun _ => cuts_ok _
  · refine (cuts_tagHandle _).bind fun handle => (cuts_tagSuffix _).bind fun suffix => ?_
    exact cuts_ite (cuts_lineEnd _ fun _ => cuts_ok _) cuts_refuse
  · exact cuts_lineEnd _ fun _ => cuts_ok _

/-! ### The outline -/

namespace Outline

theorem cuts_dropCandidate (o : Outline) : Cuts o.dropCandidate := cuts_ite cuts_refuse (cuts_ok _)

theorem cuts_dropStale (o : Outline) (g : Glyph) : Cuts (o.dropStale g) := cuts_ite cuts_refuse (cuts_ok _)

theorem cuts_markCandidate (o : Outline) (g : Glyph) : Cuts (o.markCandidate g) :=
  cuts_ite (o.cuts_dropCandidate.bind fun _ => cuts_ok _) (cuts_ok _)

theorem cuts_pushNode (o : Outline) (g : Glyph) (token : Token) : Cuts (o.pushNode g token) :=
  (o.cuts_markCandidate g).bind fun _ => cuts_ok _

theorem cuts_openBracket (o : Outline) (g : Glyph) (token : Token) : Cuts (o.openBracket g token) :=
  (o.cuts_markCandidate g).bind fun _ => cuts_ok _

theorem cuts_closeBracket (o : Outline) (token : Token) : Cuts (o.closeBracket token) :=
  o.cuts_dropCandidate.bind fun _ => cuts_ok _

theorem cuts_comma (o : Outline) : Cuts o.comma := o.cuts_dropCandidate.bind fun _ => cuts_ok _

theorem cuts_dash (o : Outline) (g : Glyph) : Cuts (o.dash g) :=
  cuts_ite cuts_refuse ((cuts_dropCandidate _).bind fun _ => cuts_ok _)

theorem cuts_question (o : Outline) (g : Glyph) : Cuts (o.question g) :=
  cuts_ite cuts_refuse ((cuts_dropCandidate _).bind fun _ => cuts_ok _)

theorem cuts_colon (o : Outline) (g : Glyph) : Cuts (o.colon g) := by
  unfold colon
  split
  · trivial
  · exact cuts_ite cuts_refuse (cuts_ok _)

theorem cuts_closeAll (o : Outline) : Cuts o.closeAll := (cuts_dropCandidate _).bind fun _ => cuts_ok _

theorem cuts_indicator (o : Outline) (g : Glyph) (after : List Glyph) {added : Reading Outline}
    (single : o.indicator? g after = some added) : Cuts added := by
  unfold indicator? at single
  split at single
  · cases single
    exact o.cuts_openBracket g _
  · cases single
    exact o.cuts_openBracket g _
  · cases single
    exact o.cuts_closeBracket _
  · cases single
    exact o.cuts_closeBracket _
  · cases single
    exact o.cuts_comma
  · split at single
    · cases single
      exact o.cuts_dash g
    · cases single
  · split at single
    · cases single
      exact o.cuts_question g
    · cases single
  · split at single
    · cases single
      exact o.cuts_colon g
    · cases single
  · cases single

theorem cuts_blockText (isFolded : Bool) (indent : Int) (gs : List Glyph) :
    Cuts (blockText isFolded indent gs) := by
  have header : Cuts (blockHeader gs) := by
    unfold blockHeader
    split
    split
    · trivial
    · trivial
  refine header.bind fun _ => ?_
  exact cuts_ite (cuts_ok _) (cuts_ok _)

theorem cuts_node (o : Outline) (g : Glyph) (after : List Glyph) : Cuts (o.node g after) := by
  unfold node
  dsimp only
  refine cuts_ite ?_ (cuts_ite ?_ (cuts_ite ?_ (cuts_ite ?_ (cuts_ite ?_ (cuts_ite ?_ cuts_refuse)))))
  · exact (cuts_anchorName after).bind fun _ => (o.cuts_pushNode g _).bind fun _ => cuts_ok _
  · exact (cuts_anchorName after).bind fun _ => (o.cuts_pushNode g _).bind fun _ => cuts_ok _
  · exact (cuts_tagText g after).bind fun _ => (o.cuts_pushNode g _).bind fun _ => cuts_ok _
  · exact o.cuts_dropCandidate.bind fun _ => (cuts_blockText _ _ after).bind fun _ => cuts_ok _
  · exact (cuts_quotedText _ after).bind fun _ => (o.cuts_pushNode g _).bind fun _ => cuts_ok _
  · exact (o.cuts_pushNode g _).bind fun _ => cuts_ok _

theorem cuts_add (o : Outline) (g : Glyph) (after : List Glyph) : Cuts (o.add g after) := by
  unfold add
  refine cuts_ite ?_ (cuts_ite ?_ (cuts_ite ?_ ?_))
  · exact o.cuts_closeAll.bind fun _ => (cuts_directive _).bind fun _ => cuts_ok _
  · exact o.cuts_closeAll.bind fun _ => cuts_ok _
  · exact o.cuts_closeAll.bind fun _ => cuts_ok _
  · split
    · next single => exact (o.cuts_indicator g after single).bind fun _ => cuts_ok _
    · exact o.cuts_node g after

theorem cuts_addAll (o : Outline) (gs : List Glyph) : Cuts (o.addAll gs) := by
  induction gs using (measure List.length).wf.induction generalizing o with
  | _ gs ih =>
    rw [addAll]
    split
    dsimp only
    split
    · exact cuts_closeAll _
    · next g after short _ =>
      refine (cuts_dropStale _ g).bind fun o => (cuts_add _ g after).bind fun added => ?_
      obtain ⟨o, last, less⟩ := added
      exact ih last (Nat.lt_of_le_of_lt less short) o

end Outline

theorem cuts_tokens (source : String) : Cuts (tokens source) := by
  have taken : Cuts (glyphs source) := cuts_ite (cuts_ok _) cuts_refuse
  exact taken.bind fun gs => (Outline.cuts_addAll {} gs).bind fun _ => cuts_ok _

/-! ## Finding the nodes -/

/-- Whether a token opens a list or an object: the dash of an item does if the list has no indentation of
its own. -/
def Token.opens : Token → Bool
  | .openBracket | .openBrace | .openItems | .openEntries | .dash => true
  | _ => false

/-- What a reading of nodes fails for: more lists and objects are opened than may nest. -/
def Overflows (levels : Nat) (ts : List Token) (fault : Fault) : Prop :=
  fault = .nestedTooDeep ∧ levels < ts.countP Token.opens

theorem Overflows.of_suffix {levels : Nat} {ts rest : List Token} (suffix : rest <:+ ts) {fault : Fault}
    (overflows : Overflows levels rest fault) : Overflows levels ts fault :=
  ⟨overflows.1, overflows.2.trans_le suffix.sublist.countP_le⟩

/-- Whether a reading leaves an end of the tokens, or fails for lists and objects that nest too deep. -/
abbrev Leaves (levels : Nat) (ts : List Token) (rest : α → List Token) (reading : Reading α) : Prop :=
  Meets (fun found => rest found <:+ ts) (Overflows levels ts) reading

theorem Leaves.of_suffix {levels : Nat} {ts part : List Token} {rest : α → List Token} {reading : Reading α}
    (suffix : part <:+ ts) (leaves : Leaves levels part rest reading) : Leaves levels ts rest reading :=
  leaves.mono (fun _ left => left.trans suffix) fun _ => Overflows.of_suffix suffix

theorem take?_suffix {token : Token} {ts : List Token} {rest : Shorter ts}
    (taken : take? token ts = some rest) : token :: rest.1 <:+ ts := by
  unfold take? at taken
  split at taken
  · cases taken
  · split at taken
    · next same =>
      cases taken
      rw [eq_of_beq same]
    · cases taken

theorem takeAnchor_suffix (ts : List Token) : (takeAnchor ts).2.1 <:+ ts := by
  unfold takeAnchor
  split
  · exact List.suffix_cons _ _
  · exact List.suffix_rfl

theorem takeTag_suffix (ts : List Token) : (takeTag ts).2.1 <:+ ts := by
  unfold takeTag
  split
  · exact List.suffix_cons _ _
  · exact List.suffix_rfl

theorem takeScalar_suffix (tagged : Bool) (kind : Option Tag) (ts : List Token) :
    (takeScalar tagged kind ts).2.1 <:+ ts := by
  unfold takeScalar
  split
  · exact List.suffix_cons _ _
  · exact List.suffix_rfl

theorem takeProperties_suffix (ts : List Token) : (takeProperties ts).2.1 <:+ ts := by
  unfold takeProperties
  split
  · next anchor rest taken =>
    have first := takeAnchor_suffix ts
    rw [taken] at first
    exact (takeTag_suffix rest.1).trans first
  · next rest taken =>
    have first := takeAnchor_suffix ts
    rw [taken] at first
    have second := (takeTag_suffix rest.1).trans first
    dsimp only
    split
    · exact (takeAnchor_suffix _).trans second
    · exact second

theorem takeOpening_suffix {inBlock indentless : Bool} {ts : List Token} {layout : Layout} {rest : Shorter ts}
    (taken : takeOpening inBlock indentless ts = some (layout, rest)) :
    ∃ opening, opening.opens = true ∧ opening :: rest.1 <:+ ts := by
  unfold takeOpening at taken
  split at taken
  · cases taken
  · next first after =>
    obtain ⟨found, opens, same⟩ := Option.map_eq_some_iff.mp taken
    cases same
    refine ⟨first, ?_, List.suffix_rfl⟩
    cases first with
    | openBracket | openBrace | openItems | openEntries | dash => rfl
    | _ => cases opens

/-- Whether all that may start here leaves an end of the tokens. -/
structure Sound (ts : List Token) : Prop where
  node (setting : Setting) (inBlock indentless : Bool) (graph : Graph) :
    Leaves setting.levels ts (·.2.1) (node setting inBlock indentless graph ts)
  nodeUnless (setting : Setting) (stops : List Token) (inBlock indentless : Bool) (graph : Graph) :
    Leaves setting.levels ts (·.2.1) (nodeUnless setting stops inBlock indentless graph ts)
  valueOf (setting : Setting) (stops : List Token) (inBlock : Bool) (graph : Graph) :
    Leaves setting.levels ts (·.2.1) (valueOf setting stops inBlock graph ts)
  blockItems (setting : Setting) (graph : Graph) :
    Leaves setting.levels ts (·.2.1) (blockItems setting graph ts)
  indentlessItems (setting : Setting) (graph : Graph) :
    Leaves setting.levels ts (·.2.1) (indentlessItems setting graph ts)
  blockEntries (setting : Setting) (graph : Graph) :
    Leaves setting.levels ts (·.2.1) (blockEntries setting graph ts)
  flowEntry (setting : Setting) (close : Token) (graph : Graph) :
    Leaves setting.levels ts (·.2.1) (flowEntry setting close graph ts)
  flowItems (setting : Setting) (graph : Graph) :
    Leaves setting.levels ts (·.2.1) (flowItems setting graph ts)
  flowEntries (setting : Setting) (graph : Graph) :
    Leaves setting.levels ts (·.2.1) (flowEntries setting graph ts)

theorem leaves_kindOf (levels : Nat) (ts : List Token) (handles : Handles) (tag : Option TagText) :
    Leaves levels ts (fun _ => ts) (kindOf handles tag) := by
  unfold kindOf
  split
  · exact List.suffix_rfl
  · dsimp only
    split
    · exact List.suffix_rfl
    · split
      · exact List.suffix_rfl
      · trivial

/-- Behind the token that opens it a list or an object may nest by one level less. -/
theorem Leaves.opened {levels : Nat} {opening : Token} {inner : List Token} (opens : opening.opens = true)
    {rest : α → List Token} {reading : Reading α} (leaves : Leaves levels inner rest reading) :
    Leaves (levels + 1) (opening :: inner) rest reading := by
  refine leaves.mono (fun _ left => left.trans (List.suffix_cons _ _)) fun fault ⟨deep, many⟩ => ⟨deep, ?_⟩
  rw [List.countP_cons_of_pos opens]
  exact Nat.succ_lt_succ many

theorem leaves_collection {inner : List Token} (sound : Sound inner) {opening : Token}
    (opens : opening.opens = true) (setting : Setting) (layout : Layout) (kind : Option Tag)
    (anchor : Option String) (graph : Graph) :
    Leaves setting.levels (opening :: inner) (·.2.1) (collection setting layout kind anchor graph inner) := by
  obtain ⟨handles, levels⟩ := setting
  rw [collection]
  cases levels with
  | zero => exact ⟨rfl, by rw [List.countP_cons_of_pos opens]; exact Nat.succ_pos _⟩
  | succ levels =>
    rw [if_neg (Nat.succ_ne_zero levels), Nat.add_sub_cancel]
    dsimp only
    refine Leaves.opened opens ?_
    split
    · split
      · exact (sound.flowItems ⟨handles, levels⟩ _).bind fun _ left => left
      · split
        · exact (sound.blockItems ⟨handles, levels⟩ _).bind fun _ left => left
        · exact (sound.indentlessItems ⟨handles, levels⟩ _).bind fun _ left => left
    · split
      · exact (sound.flowEntries ⟨handles, levels⟩ _).bind fun _ left => left
      · exact (sound.blockEntries ⟨handles, levels⟩ _).bind fun _ left => left

section Sound

variable {ts : List Token} (shorter : ∀ part : List Token, part.length < ts.length → Sound part)

include shorter

theorem leaves_node (setting : Setting) (inBlock indentless : Bool) (graph : Graph) :
    Leaves setting.levels ts (·.2.1) (node setting inBlock indentless graph ts) := by
  rw [node.eq_def]
  split
  · trivial
  · split
    · exact List.suffix_cons _ _
    · trivial
  · next first others _ =>
    have behind := takeProperties_suffix (first :: others)
    split
    next properties rest less taken =>
    rw [taken] at behind
    have kind := leaves_kindOf setting.levels (first :: others) setting.handles properties.tag
    refine kind.bind fun kind _ => ?_
    split
    · trivial
    · split
      · next layout inner short taken =>
        obtain ⟨opening, opens, front⟩ := takeOpening_suffix taken
        have sound := shorter inner (by omega)
        have found := leaves_collection sound opens setting layout kind properties.anchor graph
        exact (found.of_suffix (front.trans behind)).bind fun _ left => left
      · next closed =>
        have left := (takeScalar_suffix properties.tag.isSome kind rest).trans behind
        dsimp only
        split
        · exact left
        · trivial

theorem leaves_nodeUnless (setting : Setting) (stops : List Token) (inBlock indentless : Bool)
    (graph : Graph) :
    Leaves setting.levels ts (·.2.1) (nodeUnless setting stops inBlock indentless graph ts) := by
  rw [nodeUnless]
  split
  · exact List.suffix_rfl
  · exact (leaves_node shorter setting inBlock indentless graph).bind fun _ left => left

theorem leaves_valueOf (setting : Setting) (stops : List Token) (inBlock : Bool) (graph : Graph) :
    Leaves setting.levels ts (·.2.1) (valueOf setting stops inBlock graph ts) := by
  rw [valueOf]
  split
  · next rest less taken =>
    have behind : rest <:+ ts := (List.suffix_cons _ _).trans (take?_suffix taken)
    have value := ((shorter rest less).nodeUnless setting stops inBlock inBlock graph).of_suffix behind
    exact value.bind fun _ left => left
  · exact List.suffix_rfl

theorem leaves_blockItems (setting : Setting) (graph : Graph) :
    Leaves setting.levels ts (·.2.1) (blockItems setting graph ts) := by
  rw [blockItems]
  split
  · next rest less taken =>
    have behind : rest <:+ ts := (List.suffix_cons _ _).trans (take?_suffix taken)
    have first := (shorter rest less).nodeUnless setting [.dash, .closeBlock] true false graph
    refine (first.of_suffix behind).bind fun found left => ?_
    obtain ⟨⟨place, graph⟩, after, less'⟩ := found
    have others := ((shorter after (by omega)).blockItems setting graph).of_suffix left
    exact others.bind fun _ left => left
  · split
    · next taken => exact (List.suffix_cons _ _).trans (take?_suffix taken)
    · trivial

theorem leaves_indentlessItems (setting : Setting) (graph : Graph) :
    Leaves setting.levels ts (·.2.1) (indentlessItems setting graph ts) := by
  rw [indentlessItems]
  have first := leaves_nodeUnless shorter setting [.dash, .key, .colon, .closeBlock] true false graph
  refine first.bind fun ⟨⟨place, graph⟩, after, less⟩ left => ?_
  dsimp only
  split
  · next rest less' taken =>
    have behind : rest <:+ ts := (List.suffix_cons _ _).trans ((take?_suffix taken).trans left)
    have others := ((shorter rest (by omega)).indentlessItems setting graph).of_suffix behind
    exact others.bind fun _ left => left
  · exact left

theorem leaves_blockEntries (setting : Setting) (graph : Graph) :
    Leaves setting.levels ts (·.2.1) (blockEntries setting graph ts) := by
  rw [blockEntries]
  split
  · next rest less taken =>
    have behind : rest <:+ ts := (List.suffix_cons _ _).trans (take?_suffix taken)
    have key := (shorter rest less).nodeUnless setting [.key, .colon, .closeBlock] true true graph
    refine (key.of_suffix behind).bind fun found left => ?_
    obtain ⟨⟨place, graph⟩, after, less'⟩ := found
    have value := (shorter after (by omega)).valueOf setting [.key, .colon, .closeBlock] true graph
    refine (value.of_suffix left).bind fun found left => ?_
    obtain ⟨⟨place', graph⟩, last, less''⟩ := found
    have others := ((shorter last (by omega)).blockEntries setting graph).of_suffix left
    exact others.bind fun _ left => left
  · split
    · next taken => exact (List.suffix_cons _ _).trans (take?_suffix taken)
    · trivial

theorem leaves_flowEntry (setting : Setting) (close : Token) (graph : Graph) :
    Leaves setting.levels ts (·.2.1) (flowEntry setting close graph ts) := by
  rw [flowEntry]
  have key := leaves_nodeUnless shorter setting [.colon, .comma, close] false false graph
  refine key.bind fun ⟨⟨place, graph⟩, after, less⟩ left => ?_
  have value : Leaves setting.levels after (·.2.1) (valueOf setting [.comma, close] false graph after) := by
    rcases Nat.lt_or_eq_of_le less with less | same
    · exact (shorter after less).valueOf setting [.comma, close] false graph
    · rw [show after = ts from left.eq_of_length same]
      exact leaves_valueOf shorter setting [.comma, close] false graph
  exact (value.of_suffix left).bind fun _ left => left

omit shorter in
/-- Behind an entry between brackets or braces a comma goes on, or the closing token ends. -/
theorem leaves_flowEnding {levels : Nat} {after : List Token} {close : Token} {rest : α → List Token}
    {more last : (next : List Token) → next.length < after.length → Reading α} (left : after <:+ ts)
    (goesOn : ∀ next less, next <:+ ts → Leaves levels ts rest (more next less))
    (ends : ∀ next less, next <:+ ts → Leaves levels ts rest (last next less)) :
    Leaves levels ts rest (match take? .comma after, take? close after with
      | some ⟨next, less⟩, _ => more next less
      | none, some ⟨next, less⟩ => last next less
      | none, none => refuse) := by
  split
  · next next less taken => exact goesOn _ _ ((List.suffix_cons _ _).trans ((take?_suffix taken).trans left))
  · next taken => exact ends _ _ ((List.suffix_cons _ _).trans ((take?_suffix taken).trans left))
  · trivial

theorem leaves_flowItems (setting : Setting) (graph : Graph) :
    Leaves setting.levels ts (·.2.1) (flowItems setting graph ts) := by
  rw [flowItems]
  split
  · next taken => exact (List.suffix_cons _ _).trans (take?_suffix taken)
  · dsimp only
    split
    · next rest less taken =>
      have behind : rest <:+ ts := (List.suffix_cons _ _).trans (take?_suffix taken)
      have entry := ((shorter rest less).flowEntry setting .closeBracket graph).of_suffix behind
      refine entry.bind fun found left => ?_
      obtain ⟨⟨entry, graph⟩, after, less'⟩ := found
      refine leaves_flowEnding left (fun next less'' behind => ?_) fun next less'' behind => behind
      have within : next.length < ts.length := less''.trans (Nat.lt_of_le_of_lt less' less)
      exact (((shorter next within).flowItems setting _).of_suffix behind).bind fun _ left => left
    · refine (leaves_node shorter setting false false graph).bind fun found left => ?_
      obtain ⟨⟨place, graph⟩, after, less⟩ := found
      refine leaves_flowEnding left (fun next less' behind => ?_) fun next less' behind => behind
      have within : next.length < ts.length := less'.trans less
      exact (((shorter next within).flowItems setting _).of_suffix behind).bind fun _ left => left

theorem leaves_flowEntries (setting : Setting) (graph : Graph) :
    Leaves setting.levels ts (·.2.1) (flowEntries setting graph ts) := by
  rw [flowEntries]
  split
  · next taken => exact (List.suffix_cons _ _).trans (take?_suffix taken)
  · dsimp only
    split
    · next rest less taken =>
      have behind : rest <:+ ts := (List.suffix_cons _ _).trans (take?_suffix taken)
      have entry := ((shorter rest less).flowEntry setting .closeBrace graph).of_suffix behind
      refine entry.bind fun found left => ?_
      obtain ⟨⟨entry, graph⟩, after, less'⟩ := found
      refine leaves_flowEnding left (fun next less'' behind => ?_) fun next less'' behind => behind
      have within : next.length < ts.length := less''.trans (Nat.lt_of_le_of_lt less' less)
      exact (((shorter next within).flowEntries setting _).of_suffix behind).bind fun _ left => left
    · refine (leaves_node shorter setting false false graph).bind fun found left => ?_
      obtain ⟨⟨place, graph⟩, after, less⟩ := found
      refine leaves_flowEnding left (fun next less' behind => ?_) fun next less' behind => behind
      have within : next.length < ts.length := less'.trans less
      exact (((shorter next within).flowEntries setting _).of_suffix behind).bind fun _ left => left

end Sound

theorem sound (ts : List Token) : Sound ts := by
  induction ts using (measure List.length).wf.induction with
  | _ ts shorter =>
    exact ⟨leaves_node shorter, leaves_nodeUnless shorter, leaves_valueOf shorter, leaves_blockItems shorter,
      leaves_indentlessItems shorter, leaves_blockEntries shorter, leaves_flowEntry shorter,
      leaves_flowItems shorter, leaves_flowEntries shorter⟩

theorem leaves_directives (levels : Nat) (version : Bool) (handles : Handles) (ts : List Token) :
    Leaves levels ts (·.2.1) (directives version handles ts) := by
  fun_induction directives version handles ts with
  | case1 | case3 => trivial
  | case2 | case4 | case5 =>
    exact (Leaves.of_suffix (List.suffix_cons _ _) ‹_›).map fun _ left => left
  | case6 => exact List.suffix_rfl

/-- A document whose tokens are known is not found only for lists and objects that nest too deep. -/
theorem meets_document? (ts : List Token) :
    Meets (fun _ => True) (Overflows deepestNode ts) (document? ts) := by
  have ended (found : Option (Nat × Graph)) (rest : List Token) :
      Meets (fun _ => True) (Overflows deepestNode ts)
        (if rest.all (· == .documentEnd) then pure found else refuse) := by
    split
    · trivial
    · trivial
  have filled (handles : Handles) {body : List Token} (suffix : body <:+ ts) :
      Leaves deepestNode ts (·.2.1) (node { handles } true false {} body) :=
    ((sound body).node { handles } true false {}).of_suffix suffix
  unfold document?
  dsimp only
  split
  · refine (leaves_directives deepestNode false [] ts).bind fun ⟨handles, rest⟩ left => ?_
    dsimp only
    split
    · next body taken =>
      have behind : body.1 <:+ ts := (List.suffix_cons _ _).trans ((take?_suffix taken).trans left)
      rw [pure_bind]
      dsimp only
      split
      · exact ended _ body.1
      · exact (filled _ behind).bind fun (place, rest) _ => ended (some place) rest.1
    · trivial
  · rw [pure_bind]
    dsimp only
    split
    · exact ended none []
    · exact (filled _ List.suffix_rfl).bind fun (place, rest) _ => ended (some place) rest.1

/-! ## Finding the values of nodes -/

/-- Whether a text that spells no value of a kind is told from one that is malformed. -/
def Tag.isSpelled : Tag → Bool
  | .flag | .integer | .real | .timestamp => true
  | _ => false

theorem isSpelled_of_fault {tag : Tag} {text : String} {fault : Fault}
    (wrong : scalarValue tag text = .error (.fault fault)) : tag.isSpelled = true := by
  cases tag with
  | flag | integer | real | timestamp => rfl
  | binary =>
    simp only [scalarValue] at wrong
    split at wrong
    · split at wrong
      · cases wrong
      · cases wrong
    · cases wrong
  | _ => cases wrong

/-- What is wrong with a document whose values are not found: a scalar spells no value of its kind, or an
object is marked as a scalar, whose value is then looked for among its entries. -/
inductive Misspells (graph : Graph) : Fault → Prop
  | scalar {tag : Tag} {text : String} {fault : Fault} (node : .scalar tag text ∈ graph.nodes)
    (spelled : tag.isSpelled = true) (wrong : scalarValue tag text = .error (.fault fault)) :
    Misspells graph fault
  | object {tag : Tag} {entries : List (Nat × Nat)} {fault : Fault}
    (node : .entries tag entries ∈ graph.nodes) (single : tag.isCollection = false) : Misspells graph fault

/-- What a node may be while the values of a document are being found: its faults are those of a node of
the document. -/
def Node.Stems (graph : Graph) : Node → Prop
  | .scalar tag text => ∀ fault, scalarValue tag text = .error (.fault fault) → Misspells graph fault
  | .items .. => True
  | .entries tag _ => tag.isCollection = false → ∀ fault, Misspells graph fault

/-- Whether all nodes of a graph stem from those of a document. -/
def Stem (graph derived : Graph) : Prop := ∀ place, (derived.node place).Stems graph

section Stem

variable {graph derived : Graph}

theorem stem_self (graph : Graph) : Stem graph graph := by
  intro place
  have inside : graph.node place = .empty ∨ graph.node place ∈ graph.nodes := by
    rw [Graph.node, Array.getD_eq_getD_getElem?]
    cases found : graph.nodes[place]? with
    | none => exact .inl rfl
    | some node => exact .inr (Array.mem_of_getElem? found)
  rcases inside with none | member
  · rw [none]
    exact fun fault never => nomatch never
  · cases shape : graph.node place with
    | scalar tag text =>
      rw [shape] at member
      exact fun fault wrong => .scalar member (isSpelled_of_fault wrong) wrong
    | items => trivial
    | entries tag entries =>
      rw [shape] at member
      exact fun single fault => .object member single

theorem Stem.put (stem : Stem graph derived) (place : Nat) {node : Node} (stems : node.Stems graph) :
    Stem graph (derived.put place node) := by
  intro other
  have kept := stem other
  rw [Graph.node, Array.getD_eq_getD_getElem?] at kept ⊢
  rw [Graph.put, Array.getElem?_setIfInBounds]
  split_ifs with same within
  · exact stems
  · exact fun fault never => nomatch never
  · exact kept

/-- The entries of an object may be exchanged for others. -/
theorem Stem.putEntries (stem : Stem graph derived) {place : Nat} (object : derived.isObject place = true)
    (entries : List (Nat × Nat)) : Stem graph (derived.putEntries place entries) := by
  refine stem.put place ?_
  have kept := stem place
  unfold Graph.isObject at object
  rw [Graph.tag]
  split at object
  · next shape =>
    rw [shape] at kept ⊢
    exact kept
  · cases object

/-- The key of a default value becomes a text, which has no faults. -/
theorem Stem.settleDefault (stem : Stem graph derived) (key : Nat) :
    Stem graph (derived.settleDefault key) := by
  have kept := stem key
  unfold Graph.settleDefault
  split
  · exact stem.put key fun fault never => nomatch never
  · exact stem.put key trivial
  · next shape =>
    rw [shape] at kept
    exact stem.put key fun _ => kept rfl
  · exact stem

theorem Stem.settleDefaults (stem : Stem graph derived) (entries : List (Nat × Nat)) :
    Stem graph (entries.foldl (fun graph (key, _) => graph.settleDefault key) derived) := by
  induction entries generalizing derived with
  | nil => exact stem
  | cons entry entries ih => exact ih (stem.settleDefault entry.1)

end Stem

/-- Whether all objects of a graph are objects in another one. -/
def KeepsObjects (before after : Graph) : Prop :=
  ∀ place, before.isObject place = true → after.isObject place = true

section KeepsObjects

variable {graph before middle after : Graph}

theorem KeepsObjects.refl (graph : Graph) : KeepsObjects graph graph := fun _ object => object

theorem KeepsObjects.trans (first : KeepsObjects before middle) (second : KeepsObjects middle after) :
    KeepsObjects before after := fun place object => second place (first place object)

/-- Another node may be put in the place of an object if it is one as well. -/
theorem keepsObjects_put {place : Nat} {node : Node}
    (same : graph.isObject place = true → ∃ tag entries, node = .entries tag entries) :
    KeepsObjects graph (graph.put place node) := by
  intro other object
  have known := object
  rw [Graph.isObject, Graph.node, Array.getD_eq_getD_getElem?] at object ⊢
  rw [Graph.put, Array.getElem?_setIfInBounds]
  split_ifs with here within
  · subst here
    obtain ⟨tag, entries, rfl⟩ := same known
    rfl
  · rw [Array.getElem?_eq_none (by omega)] at object
    cases object
  · exact object

theorem keepsObjects_putEntries (graph : Graph) (place : Nat) (entries : List (Nat × Nat)) :
    KeepsObjects graph (graph.putEntries place entries) := keepsObjects_put fun _ => ⟨_, _, rfl⟩

theorem keepsObjects_settleDefault (key : Nat) : KeepsObjects graph (graph.settleDefault key) := by
  have other {node : Node} (shape : graph.node key = node) (none : ∀ tag entries, node ≠ .entries tag entries)
      (object : graph.isObject key = true) : False := by
    unfold Graph.isObject at object
    split at object
    · next entries => exact none _ _ (shape.symm.trans entries)
    · cases object
  unfold Graph.settleDefault
  split
  · next shape => exact keepsObjects_put fun object => (other shape nofun object).elim
  · next shape => exact keepsObjects_put fun object => (other shape nofun object).elim
  · exact keepsObjects_put fun _ => ⟨_, _, rfl⟩
  · exact .refl graph

theorem keepsObjects_settleDefaults (graph : Graph) (entries : List (Nat × Nat)) :
    KeepsObjects graph (entries.foldl (fun graph (key, _) => graph.settleDefault key) graph) := by
  induction entries generalizing graph with
  | nil => exact .refl graph
  | cons entry entries ih => exact (keepsObjects_settleDefault entry.1).trans (ih _)

end KeepsObjects

/-- Whether a step of settling merge keys leaves a graph that stems from a document, with the objects that
it had. -/
abbrev Settles (graph before : Graph) (settling : Reading Graph) : Prop :=
  Meets (fun after => Stem graph after ∧ KeepsObjects before after) (Misspells graph) settling

theorem settles_forEach {graph before : Graph} {work : Nat → Graph → Reading Graph}
    (each : ∀ place derived, Stem graph derived → derived.isObject place = true →
      Settles graph derived (work place derived))
    (stem : Stem graph before) {places : List Nat}
    (objects : ∀ place ∈ places, before.isObject place = true) :
    Settles graph before (forEach work places before) := by
  induction places generalizing before with
  | nil => exact ⟨stem, .refl before⟩
  | cons place places ih =>
    rw [List.forall_mem_cons] at objects
    refine (each place before stem objects.1).bind fun after ⟨stem, kept⟩ => ?_
    exact (ih stem fun other member => kept other (objects.2 other member)).mono
      (fun last ⟨stem, still⟩ => ⟨stem, kept.trans still⟩) fun _ blamed => blamed

theorem settles_settleMerges (graph : Graph) (fuel : Nat) (merged : List (Nat × Nat)) (place : Nat)
    (derived : Graph) (stem : Stem graph derived) (object : derived.isObject place = true) :
    Settles graph derived (settleMerges fuel merged place derived) := by
  induction fuel generalizing merged place derived with
  | zero => exact ⟨stem, .refl derived⟩
  | succ fuel ih =>
    rw [settleMerges]
    split
    · have kept := keepsObjects_settleDefaults derived (derived.entriesAt place)
      exact ⟨(stem.settleDefaults _).putEntries (kept place object) _,
        kept.trans (keepsObjects_putEntries _ _ _)⟩
    · next index found =>
      have first : Stem graph _ := stem.putEntries object ((derived.entriesAt place).eraseIdx index)
      have kept := keepsObjects_putEntries derived place ((derived.entriesAt place).eraseIdx index)
      generalize derived.putEntries place ((derived.entriesAt place).eraseIdx index) = opened at first kept
      -- Only objects are merged into another one.
      have merges {sources : List Nat} (objects : ∀ source ∈ sources, opened.isObject source = true) :
          Settles graph derived (forEach (settleMerges fuel []) sources opened >>= fun graph =>
            settleMerges fuel (merged ++ (sources.reverse.map graph.entriesAt).flatten) place graph) := by
        refine (settles_forEach (ih []) first objects).bind fun after ⟨stem, still⟩ => ?_
        exact (ih _ place after stem (still place (kept place object))).mono
          (fun last ⟨stem, beyond⟩ => ⟨stem, (kept.trans still).trans beyond⟩) fun _ blamed => blamed
      dsimp only
      split
      · trivial
      · next source _ =>
        split
        · next tag entries shape =>
          refine merges fun other member => ?_
          rw [List.mem_singleton.mp member, Graph.isObject, shape]
        · split
          · next objects => exact merges (List.all_eq_true.mp objects)
          · trivial
        · trivial

/-! ### Contents -/

/-- Whether a step of finding values goes on with a graph that stems from a document. -/
abbrev Finds (graph : Graph) (state : α → Construction) (finding : Reading α) : Prop :=
  Meets (fun found => Stem graph (state found).graph) (Misspells graph) finding

/-- Where any fault can be blamed, any reading is fine. -/
theorem meets_of_all {blamed : Fault → Prop} (all : ∀ fault, blamed fault) (reading : Reading α) :
    Meets (fun _ => True) blamed reading := by
  rcases reading with (_ | fault) | result
  · trivial
  · exact all fault
  · trivial

theorem finds_beginAt {graph : Graph} (place : Nat) {c : Construction} (stem : Stem graph c.graph) :
    Finds graph id (beginAt place c) := by
  unfold beginAt
  split
  · exact stem
  · have stems := stem place
    dsimp only
    split
    · exact stem
    · next single =>
      split
      · trivial
      · cases shape : c.graph.node place with
        | scalar tag text =>
          rw [shape] at stems
          have spelled : Meets (fun _ => True) (Misspells graph) (scalarValue tag text) := by
            rcases value : scalarValue tag text with (_ | fault) | atom
            · trivial
            · exact stems fault value
            · trivial
          rw [textAt, shape]
          exact spelled.bind fun _ _ => stem
        | items tag items =>
          rw [textAt, shape]
          trivial
        | entries tag entries =>
          rw [shape, Bool.not_eq_true] at single
          rw [shape] at stems
          refine (meets_of_all (stems single) _).bind fun text _ => ?_
          dsimp only
          split
          · exact stems single _
          · exact (meets_of_all (stems single) _).bind fun _ _ => stem

theorem finds_beginAll {graph : Graph} (places : List Nat) {c : Construction} (stem : Stem graph c.graph) :
    Finds graph id (beginAll places c) := by
  induction places generalizing c with
  | nil => exact stem
  | cons place places ih => exact (finds_beginAt place stem).bind fun _ stem => ih stem

theorem finds_beginEntries {graph : Graph} (known : List (Atom × Nat)) (entries : List (Nat × Nat))
    {c : Construction} (stem : Stem graph c.graph) : Finds graph (·.2) (beginEntries known entries c) := by
  induction entries generalizing known c with
  | nil => exact stem
  | cons entry entries ih =>
    refine (finds_beginAt entry.1 stem).bind fun c stem => ?_
    dsimp only
    split
    · exact (finds_beginAt entry.2 stem).bind fun c stem => ih _ stem
    · trivial

theorem finds_openObject {graph : Graph} (place : Nat) {c : Construction} (stem : Stem graph c.graph) :
    Finds graph (·.2) (openObject place c) := by
  unfold openObject
  split
  · next object =>
    refine (settles_settleMerges graph _ [] place c.graph stem object).bind fun settled ⟨stem, _⟩ => ?_
    exact finds_beginEntries [] _ (c := { c with graph := settled }) stem
  · trivial

theorem finds_beginPairs {graph : Graph} (places : List Nat) {c : Construction} (stem : Stem graph c.graph) :
    Finds graph (·.2) (beginPairs places c) := by
  induction places generalizing c with
  | nil => exact stem
  | cons place places ih =>
    rw [beginPairs]
    split
    · refine (finds_beginAll _ stem).bind fun c stem => ?_
      exact (ih stem).bind fun _ stem => stem
    · trivial

theorem finds_openAt {graph : Graph} (place : Nat) {c : Construction} (stem : Stem graph c.graph) :
    Finds graph id (openAt place c) := by
  unfold openAt
  split
  · exact (finds_beginAll _ stem).bind fun _ stem => stem
  · exact (finds_beginPairs _ stem).bind fun _ stem => stem
  · exact (finds_openObject place stem).bind fun _ stem => stem
  · exact (finds_openObject place stem).bind fun _ stem => stem
  · trivial

theorem finds_openAll {graph : Graph} (fuel : Nat) {c : Construction} (stem : Stem graph c.graph) :
    Finds graph id (openAll fuel c) := by
  induction fuel generalizing c with
  | zero => exact stem
  | succ fuel ih =>
    rw [openAll]
    split
    · exact stem
    · next place rest _ =>
      exact (finds_openAt place (c := { c with waiting := rest }) stem).bind fun opened stem =>
        ih (c := opened) stem

theorem meets_documentData (root : Nat) (graph : Graph) :
    Meets (fun _ => True) (Misspells graph) (documentData root graph) := by
  refine (finds_beginAt root (stem_self graph)).bind fun start stem => ?_
  exact (finds_openAll _ stem).bind fun _ _ => trivial

/-! ## Documents -/

/-- What a document is not read for, though it is well formed so far. -/
inductive Prevents (source : String) : Fault → Prop
  | escape {fault : Fault} (uncut : tokens source = .error (.fault fault)) (wrong : IsEscape fault) :
    Prevents source fault
  | depth {ts : List Token} (cut : tokens source = .ok ts) (many : deepestNode < ts.countP Token.opens) :
    Prevents source .nestedTooDeep
  | value {ts : List Token} {root : Nat} {graph : Graph} {fault : Fault} (cut : tokens source = .ok ts)
    (found : document? ts = .ok (some (root, graph))) (wrong : Misspells graph fault) : Prevents source fault

/-- **A document that is not read is malformed, or it shows why.** -/
theorem read_fault {source : String} {fault : Fault} (failed : read source = .error (.fault fault)) :
    Prevents source fault := by
  rcases bind_eq_error_iff.mp failed with early | ⟨ts, cut, failed⟩
  · have cuts := cuts_tokens source
    rw [early] at cuts
    exact .escape early cuts
  rcases bind_eq_error_iff.mp failed with early | ⟨found, known, failed⟩
  · have nests := meets_document? ts
    rw [early] at nests
    obtain ⟨rfl, many⟩ := nests
    exact .depth cut many
  rcases found with _ | ⟨root, graph⟩
  · cases failed
  · have means := meets_documentData root graph
    rw [show documentData root graph = .error (.fault fault) from failed] at means
    exact .value cut known means

end IssueBoard.Yaml
