import IssueBoard.Proofs.Board.Agenda

/-! # Dashboards are evaluated in the order of their agenda

Evaluating a dashboard asks what its agenda asks, in that order and nothing else. A run that fails has
asked the first of these questions, and a question without an answer was the last one. No result is
evaluated a second time: all code that is run stands in the dashboard.
-/

namespace IssueBoard.Evaluation

variable {σ V α β : Type} {world : World σ V}

/-! ## Agendas in parts -/

theorem runFrom_performAll_append (acts more : List Act) (notes : Notes V) (session : Session σ V) :
    (performAll world (acts ++ more) notes).runFrom session =
      match (performAll world acts notes).runFrom session with
      | (.ok between, after) => (performAll world more between).runFrom after
      | (.error failure, after) => (.error failure, after) := by
  induction acts generalizing notes session with
  | nil => rfl
  | cons act rest ih =>
    rw [List.cons_append, performAll, performAll, runFrom_bind, runFrom_bind]
    rcases (perform world notes act).runFrom session with ⟨failure | between, after⟩
    · rfl
    · exact ih between after

theorem agendaQuestions_append (acts more : List Act) (notes : Notes V) (session : Session σ V) :
    agendaQuestions world (acts ++ more) notes session = agendaQuestions world acts notes session ++
      afterwards ((performAll world acts notes).runFrom session) (agendaQuestions world more) := by
  induction acts generalizing notes session with
  | nil => rfl
  | cons act rest ih =>
    rw [List.cons_append, agendaQuestions, agendaQuestions, performAll, runFrom_bind, List.append_assoc]
    rcases (perform world notes act).runFrom session with ⟨failure | between, after⟩
    · rfl
    · exact congrArg (actQuestions world notes act session ++ ·) (ih between after)

/-- Whether an evaluation asks what some acts ask, given some notes, and leaves the session as they do;
what they note is related to its result. -/
structure Follows (world : World σ V) (traced : Evaluation (σ × List (Asked V)) V α)
    (plain : Evaluation σ V α) (acts : List Act) (notes : Notes V) (Noted : α → Notes V → Prop) :
    Prop where
  asks : Asks traced plain (agendaQuestions world acts notes)
  performs : ∀ session value after, plain.runFrom session = (.ok value, after) →
    ∃ noted, (performAll world acts notes).runFrom session = (.ok noted, after) ∧ Noted value noted

namespace Follows

variable {traced : Evaluation (σ × List (Asked V)) V α} {plain : Evaluation σ V α}
  {tracedNext : α → Evaluation (σ × List (Asked V)) V β} {next : α → Evaluation σ V β}
  {acts more : List Act} {notes : Notes V} {Noted : α → Notes V → Prop} {NotedNext : β → Notes V → Prop}

theorem bind (first : Follows world traced plain acts notes Noted)
    (rest : ∀ value noted, Noted value noted →
      Follows world (tracedNext value) (next value) more noted NotedNext) :
    Follows world (traced >>= tracedNext) (plain >>= next) (acts ++ more) notes NotedNext where
  asks := by
    refine first.asks.bind (fun session value after outcome => ?_) fun session failure after _ => ?_
    · obtain ⟨noted, performed, related⟩ := first.performs session value after outcome
      refine ⟨_, (rest value noted related).asks, ?_⟩
      rw [agendaQuestions_append, performed]
      rfl
    · rw [agendaQuestions_append]
      exact List.prefix_append _ _
  performs := by
    intro session value after outcome
    rw [runFrom_bind] at outcome
    rcases between : plain.runFrom session with ⟨failure | middle, during⟩
    · rw [between] at outcome
      cases outcome
    · rw [between] at outcome
      obtain ⟨noted, performed, related⟩ := first.performs session middle during between
      obtain ⟨final, finished, relates⟩ := (rest middle noted related).performs _ _ _ outcome
      refine ⟨final, ?_, relates⟩
      rw [runFrom_performAll_append, performed]
      exact finished

/-- Only the notes of the last part count. -/
theorem mono (follows : Follows world traced plain acts notes Noted)
    {Noted' : α → Notes V → Prop} (weaker : ∀ value noted, Noted value noted → Noted' value noted) :
    Follows world traced plain acts notes Noted' where
  asks := follows.asks
  performs session value after outcome := by
    obtain ⟨noted, performed, related⟩ := follows.performs session value after outcome
    exact ⟨noted, performed, weaker value noted related⟩

theorem of_silent (silent : Silent traced plain) :
    Follows world traced plain [] notes fun _ noted => noted = notes where
  asks := silent.asks
  performs session value after outcome := by
    obtain ⟨result, -, same⟩ := silent session []
    rw [same] at outcome
    cases outcome
    exact ⟨notes, rfl, rfl⟩

theorem of_act {act : Act} (note : α → Notes V) (asks : Asks traced plain (actQuestions world notes act))
    (performs : ∀ session value after, plain.runFrom session = (.ok value, after) →
      (perform world notes act).runFrom session = (.ok (note value), after)) :
    Follows world traced plain [act] notes fun value noted => noted = note value where
  asks := by
    have alone : agendaQuestions world [act] notes = actQuestions world notes act := by
      funext session
      rw [agendaQuestions]
      rcases (perform world notes act).runFrom session with ⟨_ | _, _⟩ <;> exact List.append_nil _
    rw [alone]
    exact asks
  performs session value after outcome := by
    refine ⟨note value, ?_, rfl⟩
    rw [performAll, runFrom_bind, performs session value after outcome]
    rfl

/-- An act may do just what the evaluation does, and take notes of the result. -/
theorem of_performing {act : Act} {note : α → Notes V}
    (asks : Asks traced plain (actQuestions world notes act))
    (performing : perform world notes act = plain >>= fun value => pure (note value)) :
    Follows world traced plain [act] notes fun value noted => noted = note value := by
  refine of_act note asks fun session value after outcome => ?_
  rw [performing, runFrom_bind, outcome]
  rfl

/-- An act may have nothing left to do. -/
theorem of_needless {act : Act} (silent : Silent traced plain)
    (needless : ∀ session, actQuestions world notes act session = [])
    (performing : perform world notes act = pure notes) :
    Follows world traced plain [act] notes fun _ noted => noted = notes := by
  refine of_act (fun _ => notes) ?_ fun session value after outcome => ?_
  · have nothing : actQuestions world notes act = fun _ => [] := funext needless
    rw [nothing]
    exact silent.asks
  · obtain ⟨result, -, same⟩ := silent session []
    rw [same] at outcome
    cases outcome
    rw [performing]
    rfl

/-- What asks nothing may be done in the end. -/
theorem bind_silent (first : Follows world traced plain acts notes Noted)
    (rest : ∀ value, Silent (tracedNext value) (next value)) :
    Follows world (traced >>= tracedNext) (plain >>= next) acts notes
      fun _ noted => ∃ value, Noted value noted := by
  rw [← List.append_nil acts]
  refine first.bind fun value noted related => ?_
  exact (of_silent (rest value)).mono fun _ _ same => ⟨value, same ▸ related⟩

end Follows

/-! ## Texts and scripts -/

theorem texts_cons_cons (template next : Option String) (rest : List (Option String)) :
    Act.texts (template :: next :: rest) = Act.texts [template] ++ Act.texts (next :: rest) := by
  cases template <;> rfl

theorem surroundings_cons_cons (entry next : String × Option String)
    (rest : List (String × Option String)) :
    Act.surroundings (entry :: next :: rest) =
      Act.surroundings [entry] ++ Act.surroundings (next :: rest) := by
  obtain ⟨name, template⟩ := entry
  cases template <;> rfl

theorem follows_runOptional (world : World σ V) (script : Option String) (notes : Notes V) :
    Follows world (runOptional world.traced script) (runOptional world script)
      (script.toList.map .script) notes fun _ noted => noted = notes := by
  cases script with
  | none => exact .of_silent (silent_pure ())
  | some source =>
    have run : Follows world (runScript world.traced Focus.whole.scope source)
        (runScript world Focus.whole.scope source) [.script source] notes fun _ noted => noted = notes :=
      .of_performing (asks_runScript world _ source) rfl
    exact (run.bind_silent fun _ => silent_pure ()).mono fun _ _ ⟨_, same⟩ => same

theorem follows_text (world : World σ V) (template : String) (notes : Notes V) :
    Follows world (resolve world.traced Focus.whole.scope template)
      (resolve world Focus.whole.scope template) [.text template] notes fun _ noted => noted = notes :=
  .of_performing (asks_resolve world _ template) rfl

theorem follows_resolveOptional (world : World σ V) (template : Option String) (notes : Notes V) :
    Follows world (resolveOptional world.traced .whole template) (resolveOptional world .whole template)
      (Act.texts [template]) notes fun _ noted => noted = notes := by
  cases template with
  | none => exact .of_silent (silent_pure none)
  | some template =>
    exact ((follows_text world template notes).bind_silent fun _ => silent_pure _).mono
      fun _ _ ⟨_, same⟩ => same

theorem follows_resolveLink (world : World σ V) (link : Option Link) (notes : Notes V) :
    Follows world (resolveLink world.traced .whole link) (resolveLink world .whole link)
      (Act.texts [link.bind Link.template?]) notes fun _ noted => noted = notes := by
  rcases link with _ | ⟨template⟩ | ⟨value⟩
  · exact .of_silent (silent_pure none)
  · exact ((follows_text world template notes).bind_silent fun _ => silent_pure _).mono
      fun _ _ ⟨_, same⟩ => same
  · exact .of_silent (silent_pure _)

/-! ## The texts around a value -/

section Surroundings

variable {value : Data} {overrides : Overrides V}

theorem follows_around (world : World σ V) {name : String} (template : String)
    (own : overrides.lookup name = none) :
    Follows world (resolve world.traced (Focus.plain value).scope template)
      (resolve world (Focus.plain value).scope template) [.around name template] { value, overrides }
      fun _ noted => noted = { value, overrides } := by
  have questions : actQuestions world { value, overrides } (.around name template) =
      fun _ => textQuestions (Focus.plain value).scope template := by
    funext session
    simp only [actQuestions, own, Option.isSome_none, Bool.false_eq_true, if_false]
  refine .of_performing (questions ▸ asks_resolve world _ template) ?_
  simp only [perform, own]

/-- A text that a script has set is not resolved. -/
theorem follows_overridden {traced : Evaluation (σ × List (Asked V)) V α} {plain : Evaluation σ V α}
    (silent : Silent traced plain) {name : String} {set : V} (template : Option String)
    (overridden : overrides.lookup name = some set) :
    Follows world traced plain (Act.surroundings [(name, template)]) { value, overrides }
      fun _ noted => noted = { value, overrides } := by
  cases template with
  | none => exact .of_silent silent
  | some template =>
    refine .of_needless silent (fun session => ?_) ?_
    · simp only [actQuestions, overridden, Option.isSome_some, if_true]
    · simp only [perform, overridden]

theorem follows_fillField (world : World σ V) (name : String) (template : Option String) :
    Follows world (fillField world.traced overrides value name template)
      (fillField world overrides value name template)
      (Act.surroundings [(name, template)]) { value, overrides }
      fun _ noted => noted = { value, overrides } := by
  unfold fillField
  cases own : overrides.lookup name with
  | some set =>
    exact follows_overridden ((silent_display world set).bind fun _ => silent_pure _) template own
  | none =>
    cases template with
    | none => exact .of_silent (silent_pure none)
    | some template =>
      exact ((follows_around world template own).bind_silent fun _ => silent_pure _).mono
        fun _ _ ⟨_, same⟩ => same

theorem follows_fillLink (world : World σ V) (link : Option Link) :
    Follows world (fillLink world.traced overrides value link) (fillLink world overrides value link)
      (Act.surroundings [("url", link.bind Link.template?)]) { value, overrides }
      fun _ noted => noted = { value, overrides } := by
  unfold fillLink
  cases own : overrides.lookup "url" with
  | some set =>
    exact follows_overridden ((silent_display world set).bind fun _ => silent_pure _) _ own
  | none =>
    rcases link with _ | ⟨template⟩ | ⟨value⟩
    · exact .of_silent (silent_pure none)
    · exact ((follows_around world template own).bind_silent fun _ => silent_pure _).mono
        fun _ _ ⟨_, same⟩ => same
    · exact .of_silent (silent_pure _)

end Surroundings

theorem follows_fillNumber (world : World σ V) (overrides : Overrides V) (caption : Caption)
    (value : Figure) (color page : Option String) :
    Follows world (fillNumber world.traced overrides caption value color page)
      (fillNumber world overrides caption value color page)
      (Act.aroundNumber caption color) { value := value.toData, overrides } fun _ _ => True := by
  unfold fillNumber Act.aroundNumber
  dsimp only
  rw [surroundings_cons_cons, surroundings_cons_cons]
  refine (follows_fillField world "title" caption.title).bind fun title noted same => ?_
  subst same
  refine (follows_fillLink world caption.url).bind fun url noted same => ?_
  subst same
  exact ((follows_fillField world "color" color).bind_silent fun _ => silent_pure _).mono
    fun _ _ _ => trivial

theorem follows_fillString (world : World σ V) (overrides : Overrides V) (caption : Caption)
    (value : String) (align color : Option String) :
    Follows world (fillString world.traced overrides caption value align color)
      (fillString world overrides caption value align color)
      (Act.aroundText caption align color) { value := .text value, overrides } fun _ _ => True := by
  unfold fillString Act.aroundText
  dsimp only
  rw [surroundings_cons_cons, surroundings_cons_cons, surroundings_cons_cons]
  refine (follows_fillField world "title" caption.title).bind fun title noted same => ?_
  subst same
  refine (follows_fillLink world caption.url).bind fun url noted same => ?_
  subst same
  refine (follows_fillField world "align" align).bind fun align noted same => ?_
  subst same
  exact ((follows_fillField world "color" color).bind_silent fun _ => silent_pure _).mono
    fun _ _ _ => trivial

/-! ## Values -/

theorem asks_resolveFigure (world : World σ V) (notes : Notes V) (value : Figure) :
    Asks (resolveFigure world.traced .whole value) (resolveFigure world .whole value)
      (actQuestions world notes (.figure value)) := by
  cases value with
  | number n => exact (silent_pure _).asks
  | flag b => exact (asks_resolve world _ _).bind_silent fun _ => silent_pure _
  | text template => exact (asks_resolve world _ _).bind_silent fun _ => silent_pure _
  | other value =>
    have questions : actQuestions world notes (.figure (.other value)) = fun _ =>
        (value.toText.toOption.map (textQuestions Focus.whole.scope)).getD [] := rfl
    rw [questions, resolveFigure, resolveFigure]
    cases value.toText with
    | error fault => exact Silent.asks fun _ _ => ⟨.error (.fault fault), rfl, rfl⟩
    | ok template => exact (asks_resolve world Focus.whole.scope template).bind_silent fun _ => silent_pure _

theorem silent_overridesOf (world : World σ V) (result : V) (names : List String) :
    Silent (overridesOf world.traced result names) (overridesOf world result names) := by
  induction names with
  | nil => exact silent_pure _
  | cons name rest ih =>
    refine (silent_field? world result name).bind fun found => ih.bind fun others => ?_
    cases found with
    | none => exact silent_pure _
    | some set =>
      refine (silent_view world set).bind fun shown => ?_
      split <;> exact silent_pure _

theorem silent_splitResult (world : World σ V) (result : V) :
    Silent (splitResult world.traced result) (splitResult world result) := by
  refine (silent_field? world result "value").bind fun found => ?_
  cases found with
  | none => exact (silent_view world result).bind fun _ => silent_pure _
  | some value =>
    exact (silent_view world value).bind fun _ => (silent_overridesOf world result _).bind fun _ =>
      silent_pure _

theorem asks_numberOfScript (world : World σ V) (script : String) :
    Asks (numberOfScript world.traced script) (numberOfScript world script)
      fun _ => scriptQuestions Focus.whole.scope script := by
  refine (asks_runScript world _ script).bind_silent fun value => ?_
  exact (silent_splitResult world value).bind fun _ => (silent_ofExcept _).bind fun _ => silent_pure _

theorem asks_textOfScript (world : World σ V) (script : String) :
    Asks (textOfScript world.traced script) (textOfScript world script)
      fun _ => scriptQuestions Focus.whole.scope script := by
  refine (asks_runScript world _ script).bind_silent fun value => ?_
  exact (silent_splitResult world value).bind fun _ => (silent_ofExcept _).bind fun _ => silent_pure _

/-! ## Items -/

theorem asks_evaluateField (world : World σ V) (item : V) (field : Field) :
    Asks (evaluateField world.traced item field) (evaluateField world item field)
      (cellQuestions world item field) := by
  refine (silent_view world item).asks.bind (fun session before after outcome => ?_)
    fun _ _ _ _ => List.nil_prefix
  cases outcome
  have rest (text : String) : Silent
      (view world.traced item >>= fun after => ofExcept (itemLink after) >>= fun url =>
        pure (Widget.string { url } text none none))
      (view world item >>= fun after => ofExcept (itemLink after) >>= fun url =>
        pure (Widget.string { url } text none none)) :=
    (silent_view world item).bind fun _ => (silent_ofExcept _).bind fun _ => silent_pure _
  unfold cellQuestions
  cases field.template with
  | some template => exact ⟨_, (asks_resolve world _ template).bind_silent rest, rfl⟩
  | none => exact ⟨_, ((silent_ofExcept _).bind rest).asks, rfl⟩

theorem asks_evaluateFields (world : World σ V) (item : V) (fields : List Field) :
    Asks (evaluateFields world.traced item fields) (evaluateFields world item fields)
      (rowQuestions world item fields) := by
  induction fields with
  | nil => exact (silent_pure _).asks
  | cons field rest ih =>
    refine (asks_evaluateField world item field).bind_afterwards fun cell => ?_
    exact ih.bind_silent fun _ => silent_pure _

theorem asks_evaluateItems (world : World σ V) (fields : List Field) (items : List V) :
    Asks (evaluateItems world.traced fields items) (evaluateItems world fields items)
      (itemsQuestions world fields items) := by
  induction items with
  | nil => exact (silent_pure _).asks
  | cons item rest ih =>
    refine (asks_evaluateFields world item fields).bind_afterwards fun row => ?_
    exact ih.bind_silent fun _ => silent_pure _

/-! ## Widgets -/

theorem silent_accept (container : Container) (widget : Widget) :
    Silent (accept container widget : Evaluation (σ × List (Asked V)) V Widget)
      (accept container widget) := by
  have refused (failure : Failure) :
      Silent (throw failure : Evaluation (σ × List (Asked V)) V Widget) (throw failure) :=
    fun _ _ => ⟨.error failure, rfl, rfl⟩
  unfold accept
  cases container
  all_goals
    dsimp only
    split
    · exact silent_pure _
    · exact refused _

/-- A number that a script gives is filled in with what the script sets around it. -/
theorem evaluate_scriptNumber (world : World σ V) (caption : Caption) (script : String)
    (color : Option String) :
    evaluate world .whole (.scriptNumber caption script color) =
      numberOfScript world script >>= fun (value, overrides) =>
        fillNumber world overrides caption (.number value) color none := by
  simp only [evaluate, numberOfScript, bind_assoc, pure_bind]

theorem evaluate_scriptString (world : World σ V) (caption : Caption) (script : String)
    (align color : Option String) :
    evaluate world .whole (.scriptString caption script align color) =
      textOfScript world script >>= fun (value, overrides) =>
        fillString world overrides caption value align color := by
  simp only [evaluate, textOfScript, bind_assoc, pure_bind]

theorem follows_caption (world : World σ V) (caption : Caption) (notes : Notes V)
    {fill : Option String → Option Link → Widget} :
    Follows world (resolveOptional world.traced .whole caption.title >>= fun title =>
        resolveLink world.traced .whole caption.url >>= fun url => pure (fill title url))
      (resolveOptional world .whole caption.title >>= fun title =>
        resolveLink world .whole caption.url >>= fun url => pure (fill title url))
      (Act.ofCaption caption) notes fun _ _ => True := by
  rw [Act.ofCaption, texts_cons_cons]
  refine (follows_resolveOptional world caption.title notes).bind fun title noted _ => ?_
  exact ((follows_resolveLink world caption.url noted).bind_silent fun _ => silent_pure _).mono
    fun _ _ _ => trivial

mutual

/-- A widget is evaluated in the order of its agenda. -/
theorem follows_evaluate (world : World σ V) (widget : Widget) (notes : Notes V) :
    Follows world (evaluate world.traced .whole widget) (evaluate world .whole widget) widget.agenda notes
      fun _ _ => True := by
  cases widget with
  | number caption value color =>
    rw [evaluate, evaluate]
    show Follows world _ _ ([.figure value] ++ Act.aroundNumber caption color) notes _
    refine (Follows.of_performing (asks_resolveFigure world notes value) rfl).bind
      fun value noted same => ?_
    subst same
    exact follows_fillNumber world [] caption value color none
  | string caption value align color =>
    rw [evaluate, evaluate]
    show Follows world _ _ ([.content value] ++ Act.aroundText caption align color) notes _
    refine (Follows.of_performing (asks_resolve world _ value) rfl).bind fun value noted same => ?_
    subst same
    exact follows_fillString world [] caption value align color
  | queryNumber caption search color =>
    rw [evaluate, evaluate]
    show Follows world _ _ ([.total search] ++ Act.aroundNumber caption color) notes _
    refine (Follows.of_performing (asks_runQuery world .whole search.kind search.query 0) rfl).bind
      fun results noted same => ?_
    subst same
    exact follows_fillNumber world [] caption (.ofTotal results.total) color (some results.url)
  | scriptNumber caption script color =>
    rw [evaluate_scriptNumber, evaluate_scriptNumber]
    show Follows world _ _ ([.scriptNumber script] ++ Act.aroundNumber caption color) notes _
    refine (Follows.of_performing (asks_numberOfScript world script) rfl).bind
      fun (value, overrides) noted same => ?_
    subst same
    exact follows_fillNumber world overrides caption (.number value) color none
  | scriptString caption script align color =>
    rw [evaluate_scriptString, evaluate_scriptString]
    show Follows world _ _ ([.scriptString script] ++ Act.aroundText caption align color) notes _
    refine (Follows.of_performing (asks_textOfScript world script) rfl).bind
      fun (value, overrides) noted same => ?_
    subst same
    exact follows_fillString world overrides caption value align color
  | graph caption elements =>
    rw [evaluate, evaluate, Widget.agenda]
    refine (follows_evaluateAll world .graph elements notes).bind fun elements noted _ => ?_
    exact follows_caption world caption noted
  | table caption headers rows =>
    rw [evaluate, evaluate, Widget.agenda]
    refine (follows_evaluateAll world .table headers notes).bind fun headers noted _ => ?_
    refine (follows_evaluateRows world rows noted).bind fun rows noted _ => ?_
    exact follows_caption world caption noted
  | queryTable caption search limit fields =>
    rw [evaluate, evaluate]
    show Follows world _ _ ([.search search limit] ++ ([.rows (resolvedFields search.kind fields)] ++
      Act.ofCaption caption)) notes _
    refine (Follows.of_performing (asks_runQuery world .whole search.kind search.query limit) rfl).bind
      fun results noted same => ?_
    subst same
    refine (Follows.of_performing (asks_evaluateItems world _ results.items) rfl).bind
      fun rows noted _ => ?_
    exact follows_caption world caption noted
  | unknown kind title =>
    rw [evaluate, evaluate, Widget.agenda]
    exact (Follows.of_silent fun _ _ => ⟨_, rfl, rfl⟩).mono fun _ _ _ => trivial

theorem follows_evaluateAll (world : World σ V) (container : Container) (widgets : List Widget)
    (notes : Notes V) :
    Follows world (evaluateAll world.traced .whole container widgets)
      (evaluateAll world .whole container widgets) (Widget.agendaOfAll widgets) notes
      fun _ _ => True := by
  cases widgets with
  | nil => exact (Follows.of_silent (silent_pure _)).mono fun _ _ _ => trivial
  | cons widget rest =>
    rw [evaluateAll, evaluateAll, Widget.agendaOfAll]
    refine (follows_evaluate world widget notes).bind fun evaluated noted _ => ?_
    show Follows world _ _ ([] ++ Widget.agendaOfAll rest) noted _
    refine (Follows.of_silent (silent_accept container evaluated)).bind fun first noted _ => ?_
    exact ((follows_evaluateAll world container rest noted).bind_silent fun _ => silent_pure _).mono
      fun _ _ _ => trivial

theorem follows_evaluateRows (world : World σ V) (rows : List (List Widget)) (notes : Notes V) :
    Follows world (evaluateRows world.traced .whole rows) (evaluateRows world .whole rows)
      (Widget.agendaOfRows rows) notes fun _ _ => True := by
  cases rows with
  | nil => exact (Follows.of_silent (silent_pure _)).mono fun _ _ _ => trivial
  | cons row rest =>
    rw [evaluateRows, evaluateRows, Widget.agendaOfRows]
    refine (follows_evaluateAll world .table row notes).bind fun evaluated noted _ => ?_
    exact ((follows_evaluateRows world rest noted).bind_silent fun _ => silent_pure _).mono
      fun _ _ _ => trivial

end

theorem follows_evaluateWidgets (world : World σ V) (widgets : List Widget) (notes : Notes V) :
    Follows world (evaluateWidgets world.traced .whole widgets) (evaluateWidgets world .whole widgets)
      (widgets.flatMap Widget.agenda) notes fun _ _ => True := by
  induction widgets generalizing notes with
  | nil => exact (Follows.of_silent (silent_pure _)).mono fun _ _ _ => trivial
  | cons widget rest ih =>
    rw [evaluateWidgets, evaluateWidgets, List.flatMap_cons]
    refine (follows_evaluate world widget notes).bind fun evaluated noted _ => ?_
    exact ((ih noted).bind_silent fun _ => silent_pure _).mono fun _ _ _ => trivial

/-! ## Dashboards -/

theorem follows_evaluateSection (world : World σ V) (part : Section) (notes : Notes V) :
    Follows world (evaluateSection world.traced .whole part) (evaluateSection world .whole part)
      part.agenda notes fun _ _ => True := by
  rw [evaluateSection, evaluateSection, Section.agenda, texts_cons_cons]
  refine (follows_evaluateWidgets world part.widgets notes).bind fun widgets noted _ => ?_
  refine (follows_resolveOptional world part.title noted).bind fun title noted _ => ?_
  exact ((follows_resolveOptional world part.description noted).bind_silent fun _ => silent_pure _).mono
    fun _ _ _ => trivial

theorem follows_evaluateSections (world : World σ V) (sections : List Section) (notes : Notes V) :
    Follows world (evaluateSections world.traced sections) (evaluateSections world sections)
      (sections.flatMap Section.agenda) notes fun _ _ => True := by
  induction sections generalizing notes with
  | nil => exact (Follows.of_silent (silent_pure _)).mono fun _ _ _ => trivial
  | cons part rest ih =>
    rw [evaluateSections, evaluateSections, List.flatMap_cons]
    refine (follows_evaluateSection world part notes).bind fun evaluated noted _ => ?_
    exact ((ih noted).bind_silent fun _ => silent_pure _).mono fun _ _ _ => trivial

theorem follows_evaluateDashboard (world : World σ V) (dashboard : Dashboard) (notes : Notes V) :
    Follows world (evaluateDashboard world.traced dashboard) (evaluateDashboard world dashboard)
      dashboard.agenda notes fun _ _ => True := by
  rw [evaluateDashboard, evaluateDashboard, Dashboard.agenda, texts_cons_cons]
  simp only [List.append_assoc]
  refine (follows_runOptional world dashboard.setup notes).bind fun _ noted _ => ?_
  refine (follows_evaluateSections world dashboard.sections noted).bind fun sections noted _ => ?_
  refine (follows_resolveOptional world dashboard.title noted).bind fun title noted _ => ?_
  refine (follows_resolveOptional world dashboard.description noted).bind fun description noted _ => ?_
  exact ((follows_runOptional world dashboard.shutdown noted).bind_silent fun _ => silent_pure _).mono
    fun _ _ _ => trivial

/-! ## The code of a dashboard -/

/-- Whether a question, if it is to run code, is to run some of the given. -/
def Quotes (code : List (CodeKind × String)) : Question V → Prop
  | .code request => (request.kind, request.source) ∈ code
  | .page _ => True

theorem quotes_mono {code more : List (CodeKind × String)} (sub : code ⊆ more) {question : Question V}
    (quotes : Quotes code question) : Quotes more question := by
  cases question with
  | code request => exact sub quotes
  | page request => trivial

theorem quotes_textQuestions (bindings : Scope V) (template : String) :
    ∀ question ∈ textQuestions bindings template, Quotes (Template.code template) question := by
  intro question member
  obtain ⟨text, written, rfl⟩ := List.mem_map.mp member
  exact List.mem_map.mpr ⟨text, written, rfl⟩

theorem exists_of_mem_afterwards {outcome : Except Failure α × Session σ V}
    {next : α → Session σ V → List (Question V)} {question : Question V}
    (member : question ∈ afterwards outcome next) : ∃ value session, question ∈ next value session := by
  rcases outcome with ⟨failure | value, session⟩
  · cases member
  · exact ⟨value, session, member⟩

theorem quotes_pageQuestions (code : List (CodeKind × String)) (query : String) (first count : Nat) :
    ∀ question ∈ (pageQuestions query first count : List (Question V)), Quotes code question := by
  intro question member
  obtain ⟨page, -, rfl⟩ := List.mem_map.mp member
  trivial

theorem quotes_queryQuestions (world : World σ V) (focus : Focus V) (kind : QueryKind) (query : String)
    (limit : Int) (session : Session σ V) :
    ∀ question ∈ queryQuestions world focus kind query limit session,
      Quotes (Template.code query) question := by
  intro question member
  cases kind with
  | other name => cases member
  | issue =>
    rcases List.mem_append.mp member with text | pages
    · exact quotes_textQuestions _ query question text
    · obtain ⟨resolved, after, pages⟩ := exists_of_mem_afterwards pages
      exact quotes_pageQuestions _ resolved _ _ question pages

theorem quotes_rowQuestions (world : World σ V) (item : V) (fields : List Field) (session : Session σ V) :
    ∀ question ∈ rowQuestions world item fields session,
      Quotes (Act.rows fields).code question := by
  induction fields generalizing session with
  | nil => exact fun _ member => nomatch member
  | cons field rest ih =>
    intro question member
    rw [Act.code, List.flatMap_cons]
    rcases List.mem_append.mp member with cell | later
    · refine quotes_mono (List.subset_append_left _ _) ?_
      unfold cellQuestions at cell
      cases template : field.template with
      | none =>
        rw [template] at cell
        cases cell
      | some source =>
        rw [template] at cell
        simpa using quotes_textQuestions _ source question cell
    · obtain ⟨_, after, later⟩ := exists_of_mem_afterwards later
      exact quotes_mono (List.subset_append_right _ _) (ih after question later)

theorem quotes_itemsQuestions (world : World σ V) (fields : List Field) (items : List V)
    (session : Session σ V) :
    ∀ question ∈ itemsQuestions world fields items session, Quotes (Act.rows fields).code question := by
  induction items generalizing session with
  | nil => exact fun _ member => nomatch member
  | cons item rest ih =>
    intro question member
    rcases List.mem_append.mp member with row | later
    · exact quotes_rowQuestions world item fields session question row
    · obtain ⟨_, after, later⟩ := exists_of_mem_afterwards later
      exact ih after question later

theorem quotes_actQuestions (world : World σ V) (notes : Notes V) (act : Act) (session : Session σ V) :
    ∀ question ∈ actQuestions world notes act session, Quotes act.code question := by
  intro question member
  cases act with
  | script source | scriptNumber source | scriptString source =>
    obtain rfl := List.mem_singleton.mp member
    exact List.mem_singleton_self _
  | text template | content template => exact quotes_textQuestions _ template question member
  | figure value =>
    simp only [actQuestions] at member
    simp only [Act.code]
    cases template : value.template? with
    | none =>
      rw [template] at member
      cases member
    | some source =>
      rw [template] at member
      simpa using quotes_textQuestions _ source question member
  | around name template =>
    simp only [actQuestions] at member
    split at member
    · cases member
    · exact quotes_textQuestions _ template question member
  | total search => exact quotes_queryQuestions world _ _ _ _ session question member
  | search search limit => exact quotes_queryQuestions world _ _ _ _ session question member
  | rows fields => exact quotes_itemsQuestions world fields _ session question member

theorem quotes_agendaQuestions (world : World σ V) (acts : List Act) (notes : Notes V)
    (session : Session σ V) :
    ∀ question ∈ agendaQuestions world acts notes session, Quotes (acts.flatMap Act.code) question := by
  induction acts generalizing notes session with
  | nil => exact fun _ member => nomatch member
  | cons act rest ih =>
    intro question member
    rw [List.flatMap_cons]
    rcases List.mem_append.mp member with own | later
    · exact quotes_mono (List.subset_append_left _ _) (quotes_actQuestions world notes act session _ own)
    · obtain ⟨noted, after, later⟩ := exists_of_mem_afterwards later
      exact quotes_mono (List.subset_append_right _ _) (ih noted after question later)

/-! ## The order of evaluation -/

/-- **Dashboards are evaluated in the order of their agenda.** With a trace of all that is asked, a run
from any session gives the same result as without, leaves the same session, and

* asks what the agenda asks, in that order, and all of it if there is a result;
* stops at the first question that is not answered and fails for its reason;
* runs no code but what stands in the dashboard, so no result is evaluated again. -/
theorem evaluateDashboard_inOrder (world : World σ V) (dashboard : Dashboard) (session : Session σ V) :
    ∃ asked : List (Asked V),
      (evaluateDashboard world.traced dashboard).runFrom (session.withTrace []) =
        (((evaluateDashboard world dashboard).runFrom session).1,
          ((evaluateDashboard world dashboard).runFrom session).2.withTrace asked) ∧
      asked.map (·.question) <+: agendaQuestions world dashboard.agenda {} session ∧
      (∀ result, ((evaluateDashboard world dashboard).runFrom session).1 = .ok result →
        asked.map (·.question) = agendaQuestions world dashboard.agenda {} session) ∧
      (∀ before last after failure, asked = before ++ last :: after → last.failure = some failure →
        after = [] ∧ ((evaluateDashboard world dashboard).runFrom session).1 = .error failure) ∧
      ∀ entry ∈ asked, ∀ request, entry.question = .code request →
        (request.kind, request.source) ∈ dashboard.code := by
  obtain ⟨asked, ran, all⟩ := (follows_evaluateDashboard world dashboard {}).asks session []
  refine ⟨asked, ran, all.inOrder, fun result done => all.complete ?_, ?_, ?_⟩
  · rw [done]
    rfl
  · intro before last after failure split failed
    obtain ⟨nothing, reason⟩ := (split ▸ all.stops).last failed
    exact ⟨nothing, eq_error_of_failure? reason⟩
  · intro entry member request same
    have quotes := quotes_agendaQuestions world dashboard.agenda {} session entry.question
      (all.inOrder.subset (List.mem_map_of_mem member))
    rw [same] at quotes
    exact quotes

end IssueBoard.Evaluation
