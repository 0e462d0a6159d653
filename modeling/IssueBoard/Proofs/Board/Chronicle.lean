import IssueBoard.Proofs.Board.Reduction
import IssueBoard.Proofs.Outcome
import IssueBoard.Proofs.Query.InOrder

/-! # The history of an evaluation

A chronicled world does what the world does that it is made from and keeps the history of an evaluation:
every run of author code with the sessions around it, which a trace leaves out, and every answer of the
server. The history tells why an evaluation fails. Evaluations are described by what they give and by how
the history explains it if they give nothing, and evaluations in two parts by what is known after the
first.
-/

namespace IssueBoard

/-- Something that happens to the world while a dashboard is evaluated. -/
inductive Event (σ V : Type) where
  /-- Author code was run. -/
  | called (request : Call V) (before : Session σ V) (answer : Except Failure V) (after : Session σ V)
  /-- The server was asked for a page. -/
  | searched (request : SearchRequest) (answer : Except Failure (SearchPage V))

variable {σ V α β : Type}

/-- The failure that an event is, if it is one. -/
def Event.failure? : Event σ V → Option Failure
  | .called _ _ (.error failure) _ | .searched _ (.error failure) => some failure
  | _ => none

namespace Session

/-- The session of a chronicled world without its history. -/
def unchronicled (session : Session (σ × List (Event σ V)) V) : Session σ V :=
  { cache := session.cache, state := session.state.1 }

/-- What has happened so far in a chronicled world, in order. -/
def history (session : Session (σ × List (Event σ V)) V) : List (Event σ V) := session.state.2

/-- A session of a chronicled world with the given history. -/
def withHistory (session : Session σ V) (history : List (Event σ V)) :
    Session (σ × List (Event σ V)) V :=
  { cache := session.cache, state := (session.state, history) }

end Session

/-- The world that does the same and keeps the history. -/
def World.chronicled (world : World σ V) : World (σ × List (Event σ V)) V where
  webUrl := world.webUrl
  run request session :=
    let before := session.unchronicled
    let (answer, after) := world.run request before
    (answer, after.withHistory (session.history ++ [.called request before answer after]))
  view session := world.view session.unchronicled
  field? session := world.field? session.unchronicled
  search request state :=
    let (answer, after) := world.search request state.1
    (answer, (after, state.2 ++ [.searched request answer]))

/-! ## What a history tells -/

/-- Whether an event has brought an item within reach of the query cache: the server has given it, or
author code has left it in the cache. -/
def Event.Offers (item : V) : Event σ V → Prop
  | .called _ _ _ after => ∃ entry ∈ after.cache.entries, item ∈ entry.items
  | .searched _ answer => ∃ page, answer = .ok page ∧ item ∈ page.items

namespace World

/-- Whether an event is what the world does. -/
def Does (world : World σ V) : Event σ V → Prop
  | .called request before answer after => world.run request before = (answer, after)
  | .searched request answer => ∃ state after, world.search request state = (answer, after)

/-- Whether an event is a run of author code that puts the query cache out of order. -/
def Upsets (world : World σ V) : Event σ V → Prop
  | .called _ before _ after => world.InOrder before.cache ∧ ¬ world.InOrder after.cache
  | .searched .. => False

/-- What holds between a history and the session that it leads to. -/
structure Accounts (world : World σ V) (history : List (Event σ V)) (session : Session σ V) : Prop where
  real : ∀ event ∈ history, world.Does event
  offered : ∀ entry ∈ session.cache.entries, ∀ item ∈ entry.items, ∃ event ∈ history, event.Offers item
  order : world.InOrder session.cache ∨ ∃ event ∈ history, world.Upsets event

/-- The data that the value of a script's result is, and what the result sets around it. -/
def split (world : World σ V) (session : Session σ V) (result : V) : Data × Evaluation.Overrides V :=
  match world.field? session result "value" with
  | none => (world.view session result, [])
  | some value => (world.view session value, Evaluation.overridable.filterMap fun name =>
      (world.setting? session result name).map (name, ·))

/-- A fault of an evaluation itself, as its history shows it. -/
inductive Strays (world : World σ V) (history : List (Event σ V)) (final : Session σ V) : Fault → Prop
  /-- An expression has a value that has no text. -/
  | expression {request : Call V} {before after : Session σ V} {value : V} {fault : Fault}
    (called : .called request before (.ok value) after ∈ history)
    (unwritten : (world.view after value).display = .error fault) : Strays world history final fault
  /-- A script has a result whose value has no text. -/
  | script {request : Call V} {before after : Session σ V} {result : V} {fault : Fault}
    (called : .called request before (.ok result) after ∈ history)
    (unwritten : (world.split after result).1.display = .error fault) : Strays world history final fault
  /-- A script has a result whose value is a text of too many digits, in place of a number. -/
  | numeral {request : Call V} {before after : Session σ V} {result : V} {text : String}
    (called : .called request before (.ok result) after ∈ history)
    (written : (world.split after result).1.display = .ok text)
    (digits : ∀ c ∈ text.toList, Text.isDigit c = true) (long : integerDigitLimit < text.toList.length) :
    Strays world history final (.numeralTooLong text.toList.length)
  /-- A script has a result that sets a field to something without a text. -/
  | override {request : Call V} {before after : Session σ V} {result part : V} {name : String}
    {fault : Fault} (called : .called request before (.ok result) after ∈ history)
    (set : (world.split after result).2.lookup name = some part)
    (unwritten : (world.view final part).display = .error fault) : Strays world history final fault
  /-- An item has a property without a text. -/
  | property {item : V} {entries : List (Atom × Data)} {name : String} {fault : Fault}
    (offered : ∃ event ∈ history, event.Offers item) (object : world.view final item = .object entries)
    (unwritten : ((Data.lookup? (.text name) entries).getD .null).display = .error fault) :
    Strays world history final fault
  /-- Author code has put the query cache out of order, and a query or an item of its results fails. -/
  | upset {fault : Fault} (upset : ∃ event ∈ history, world.Upsets event)
    (late : fault = .notAnItem ∨ fault = .entryType ∨ ∃ query, final.cache.fault? query = some fault) :
    Strays world history final fault

/-- How a history explains a failure: it is of the program's own kinds, author code was answered with it,
or it is a fault of the evaluation itself. -/
inductive Explains (world : World σ V) (history : List (Event σ V)) (final : Session σ V) :
    Failure → Prop
  | own {failure : Failure} (own : failure.isOwn = true) : Explains world history final failure
  | answer {request : Call V} {before after : Session σ V} {failure : Failure}
    (called : .called request before (.error failure) after ∈ history) :
    Explains world history final failure
  | fault {fault : Fault} (strays : world.Strays history final fault) :
    Explains world history final (.fault fault)

end World

namespace Evaluation

/-- Whether there is no failure in a history. -/
def Quiet (history : List (Event σ V)) : Prop := ∀ event ∈ history, event.failure? = none

/-- Whether any failure in a history is also the outcome of an evaluation. -/
def Blames (history : List (Event σ V)) (outcome : Except Failure α) : Prop :=
  ∀ event ∈ history, ∀ failure, event.failure? = some failure → outcome = .error failure

theorem Quiet.blames {history : List (Event σ V)} (quiet : Quiet history) (outcome : Except Failure α) :
    Blames history outcome :=
  fun event member _ failed => nomatch (quiet event member).symm.trans failed

/-- Nothing has failed before an evaluation has a value. -/
theorem Blames.quiet {history : List (Event σ V)} {value : α} (blames : Blames history (.ok value)) :
    Quiet history := by
  intro event member
  cases failed : event.failure? with
  | none => rfl
  | some failure => cases blames event member failure failed

/-- A failure stays the outcome of what begins with it. -/
theorem Blames.error {history : List (Event σ V)} {failure : Failure}
    (blames : Blames history (.error failure : Except Failure α)) :
    Blames history (.error failure : Except Failure β) := by
  intro event member reason failed
  cases blames event member reason failed
  rfl

theorem Quiet.append {history : List (Event σ V)} (quiet : Quiet history) {event : Event σ V}
    (last : event.failure? = none) : Quiet (history ++ [event]) :=
  List.forall_mem_append.mpr ⟨quiet, List.forall_mem_singleton.mpr last⟩

theorem Quiet.blames_append {history : List (Event σ V)} (quiet : Quiet history) {event : Event σ V}
    {outcome : Except Failure α}
    (last : ∀ failure, event.failure? = some failure → outcome = .error failure) :
    Blames (history ++ [event]) outcome :=
  List.forall_mem_append.mpr ⟨quiet.blames outcome, List.forall_mem_singleton.mpr last⟩

/-- Whether an evaluation `told` in a chronicled world does what another one does without the history, and
the history explains its failures. It starts where `known` has happened and `now` holds of the session. -/
def Recounts (world : World σ V) (known : List (Event σ V)) (now : Session σ V → Prop)
    (plain : Evaluation σ V α) (told : Evaluation (σ × List (Event σ V)) V α)
    (post : List (Event σ V) → α → Session σ V → Prop) : Prop :=
  ∀ history session, world.Accounts history session → Quiet history → known ⊆ history → now session →
    ∃ later, history ⊆ later ∧
      told.runFrom (session.withHistory history) =
        ((plain.runFrom session).1, (plain.runFrom session).2.withHistory later) ∧
      world.Accounts later (plain.runFrom session).2 ∧ Blames later (plain.runFrom session).1 ∧
      match plain.runFrom session with
      | (.ok value, after) => post later value after
      | (.error failure, after) => world.Explains later after failure

/-- Whether the history explains the failures of an evaluation, whatever it gives. -/
abbrev Tells (world : World σ V) (known : List (Event σ V)) (now : Session σ V → Prop)
    (plain : Evaluation σ V α) (told : Evaluation (σ × List (Event σ V)) V α) : Prop :=
  Recounts world known now plain told fun _ _ _ => True

variable {world : World σ V} {known : List (Event σ V)} {now : Session σ V → Prop}

section Calculus

variable {plain : Evaluation σ V α} {told : Evaluation (σ × List (Event σ V)) V α}
  {next : α → Evaluation σ V β} {toldNext : α → Evaluation (σ × List (Event σ V)) V β}
  {post : List (Event σ V) → α → Session σ V → Prop} {goal : List (Event σ V) → β → Session σ V → Prop}

theorem Recounts.mono {post' : List (Event σ V) → α → Session σ V → Prop} {now' : Session σ V → Prop}
    (recounts : Recounts world known now plain told post) (before : ∀ session, now' session → now session)
    (after : ∀ later value session, known ⊆ later → post later value session → post' later value session) :
    Recounts world known now' plain told post' := by
  intro history session accounts quiet happened holds
  obtain ⟨later, longer, ran, kept, blames, ends⟩ :=
    recounts history session accounts quiet happened (before _ holds)
  refine ⟨later, longer, ran, kept, blames, ?_⟩
  rcases outcome : plain.runFrom session with ⟨failure | value, final⟩
  · rw [outcome] at ends
    exact ends
  · rw [outcome] at ends
    exact after later value final (List.Subset.trans happened longer) ends

theorem Recounts.tells (recounts : Recounts world known now plain told post) :
    Tells world known now plain told :=
  recounts.mono (fun _ holds => holds) fun _ _ _ _ _ => trivial

/-- What follows from how an evaluation starts may be used on it. -/
theorem Recounts.assume {P : Prop} (follows : ∀ session, now session → P)
    (recounts : P → Recounts world known now plain told post) : Recounts world known now plain told post :=
  fun history session accounts quiet happened holds =>
    recounts (follows session holds) history session accounts quiet happened holds

/-- The second part starts from what is known after the first. -/
theorem Recounts.bind (first : Recounts world known now plain told post)
    (rest : ∀ later value, known ⊆ later →
      Recounts world later (post later value) (next value) (toldNext value) goal) :
    Recounts world known now (plain >>= next) (told >>= toldNext) goal := by
  intro history session accounts quiet happened holds
  obtain ⟨later, longer, ran, kept, blames, ends⟩ := first history session accounts quiet happened holds
  rw [runFrom_bind, runFrom_bind, ran]
  rcases outcome : plain.runFrom session with ⟨failure | value, after⟩
  · rw [outcome] at kept blames ends
    exact ⟨later, longer, rfl, kept, blames.error, ends⟩
  · rw [outcome] at kept blames ends
    obtain ⟨last, longer', done⟩ := rest later value (List.Subset.trans happened longer) later after kept
      blames.quiet (List.Subset.refl later) ends
    exact ⟨last, List.Subset.trans longer longer', done⟩

/-- What only looks at the session gives the same with a history. -/
theorem recounts_of_look (look : ∀ session history, now session →
    ∃ result, plain.runFrom session = (result, session) ∧
      told.runFrom (session.withHistory history) = (result, session.withHistory history) ∧
      ∀ later, known ⊆ later → match result with
        | .ok value => post later value session
        | .error failure => world.Explains later session failure) :
    Recounts world known now plain told post := by
  intro history session accounts quiet happened holds
  obtain ⟨result, ran, toldRan, ends⟩ := look session history holds
  refine ⟨history, List.Subset.refl history, ?_, ?_, quiet.blames _, ?_⟩
  · rw [ran, toldRan]
  · rw [ran]
    exact accounts
  · rw [ran]
    have ends := ends history happened
    cases result with
    | ok value => exact ends
    | error failure => exact ends

theorem recounts_ofExcept {result : Except Failure α}
    (fine : ∀ later session failure, known ⊆ later → now session → result = .error failure →
      world.Explains later session failure) :
    Recounts world known now (ofExcept result) (ofExcept result)
      fun _ value session => result = .ok value ∧ now session := by
  refine recounts_of_look fun session history holds => ⟨result, rfl, rfl, fun later happened => ?_⟩
  cases result with
  | ok value => exact ⟨rfl, holds⟩
  | error failure => exact fine later session failure happened holds rfl

theorem recounts_own {result : Except Failure α}
    (own : ∀ failure, result = .error failure → failure.isOwn = true) :
    Recounts world known now (ofExcept result) (ofExcept result)
      fun _ value session => result = .ok value ∧ now session :=
  recounts_ofExcept fun _ _ failure _ _ failed => .own (own failure failed)

theorem recounts_ofFault {result : Except Fault α}
    (strays : ∀ later session fault, known ⊆ later → now session → result = .error fault →
      world.Strays later session fault) :
    Recounts world known now (ofExcept (result.mapError .fault)) (ofExcept (result.mapError .fault))
      fun _ value session => result = .ok value ∧ now session := by
  refine (recounts_ofExcept ?_).mono (fun _ holds => holds) ?_
  · intro later session failure longer holds failed
    obtain ⟨fault, missed, rfl⟩ := mapError_eq_error_iff.mp failed
    exact .fault (strays later session fault longer holds missed)
  · exact fun _ _ _ _ => And.imp_left mapError_eq_ok_iff.mp

theorem recounts_pure {value : α} (holds : ∀ later session, known ⊆ later → now session →
    post later value session) : Recounts world known now (pure value) (pure value) post :=
  recounts_of_look fun session _ now => ⟨.ok value, rfl, rfl, fun later happened =>
    holds later session happened now⟩

theorem tells_pure (value : α) : Tells world known now (pure value) (pure value) :=
  recounts_pure fun _ _ _ _ => trivial

/-- A last step that only puts a result together. -/
theorem Recounts.bind_pure (first : Recounts world known now plain told post) (f : α → β) :
    Tells world known now (plain >>= fun value => pure (f value)) (told >>= fun value => pure (f value)) :=
  first.bind fun _ _ _ => tells_pure _

end Calculus

/-! ## Author code -/

theorem recounts_view (value : V) :
    Recounts world known now (view world value) (view world.chronicled value)
      fun _ shown session => shown = world.view session value ∧ now session :=
  recounts_of_look fun session _ holds =>
    ⟨.ok (world.view session value), rfl, rfl, fun _ _ => ⟨rfl, holds⟩⟩

theorem recounts_call (request : Call V) :
    Recounts world known now (call world request) (call world.chronicled request)
      fun later value session => ∃ before, .called request before (.ok value) session ∈ later := by
  intro history session accounts quiet _ _
  rcases ran : world.run request session with ⟨answer, after⟩
  have plain : (call world request).runFrom session = (answer, after) := ran
  have told : (call world.chronicled request).runFrom (session.withHistory history) =
      (answer, after.withHistory (history ++ [.called request session answer after])) := by
    show world.chronicled.run request (session.withHistory history) = _
    have same : world.run request (session.withHistory history).unchronicled = (answer, after) := ran
    simp only [World.chronicled, same]
    rfl
  have happened : Event.called request session answer after ∈
      history ++ [.called request session answer after] :=
    List.mem_append_right _ (List.mem_singleton_self _)
  refine ⟨history ++ [.called request session answer after], List.subset_append_left _ _, ?_, ?_,
    quiet.blames_append ?_, ?_⟩
  · rw [plain, told]
  · rw [plain]
    refine ⟨?_, fun entry member item among => ⟨_, happened, entry, member, among⟩, ?_⟩
    · exact List.forall_mem_append.mpr ⟨accounts.real, List.forall_mem_singleton.mpr ran⟩
    by_cases order : world.InOrder after.cache
    · exact .inl order
    · rcases accounts.order with before | ⟨event, earlier, upsets⟩
      · exact .inr ⟨_, happened, before, order⟩
      · exact .inr ⟨event, List.mem_append_left _ earlier, upsets⟩
  · rw [plain]
    cases answer with
    | ok value => exact fun _ never => nomatch never
    | error failure =>
      rintro _ ⟨⟩
      rfl
  · rw [plain]
    cases answer with
    | ok value => exact ⟨session, happened⟩
    | error failure => exact .answer happened

theorem isOwn_of_createScope {bindings : Scope V} {failure : Failure}
    (failed : createScope bindings = .error failure) : failure.isOwn = true := by
  obtain ⟨name, cause, rfl⟩ := eq_scope_of_createScope failed
  rfl

theorem tells_display {value : V}
    (strays : ∀ later session fault, known ⊆ later → now session →
      (world.view session value).display = .error fault → world.Strays later session fault) :
    Tells world known now (display world value) (display world.chronicled value) := by
  refine (recounts_view value).bind fun _ shown more => (recounts_ofFault ?_).tells
  rintro later session fault longer ⟨rfl, holds⟩ unwritten
  exact strays later session fault (List.Subset.trans more longer) holds unwritten

theorem tells_resolveSegment (scope : Scope V) (segment : Segment) :
    Tells world known now (resolveSegment world scope segment)
      (resolveSegment world.chronicled scope segment) := by
  unfold resolveSegment
  split
  · refine (recounts_call _).bind fun _ value _ => tells_display ?_
    rintro final session fault longer ⟨before, called⟩ unwritten
    exact .expression (longer called) unwritten
  · exact tells_pure _

theorem tells_resolveSegments (scope : Scope V) (segments : List Segment) :
    Tells world known now (resolveSegments world scope segments)
      (resolveSegments world.chronicled scope segments) := by
  induction segments generalizing known now with
  | nil => exact tells_pure ""
  | cons segment rest ih =>
    exact (tells_resolveSegment scope segment).bind fun _ _ _ => ih.bind_pure _

theorem tells_resolve (bindings : Scope V) (source : String) :
    Tells world known now (resolve world bindings source) (resolve world.chronicled bindings source) := by
  refine (recounts_own fun _ => isOwn_of_createScope).bind fun _ scope _ => ?_
  split
  · refine (recounts_own fun failure failed => ?_).bind fun _ segments _ =>
      tells_resolveSegments scope segments
    obtain ⟨error, -, rfl⟩ := mapError_eq_error_iff.mp failed
    rfl
  · exact tells_pure source

theorem recounts_runScript (bindings : Scope V) (source : String) :
    Recounts world known now (runScript world bindings source) (runScript world.chronicled bindings source)
      fun later value session => ∃ request before, .called request before (.ok value) session ∈ later := by
  refine (recounts_own fun _ => isOwn_of_createScope).bind fun _ scope _ => ?_
  exact (recounts_call _).mono (fun _ holds => holds) fun _ _ _ _ called => ⟨_, called⟩

/-- The parts of a script's result are read off without changing anything. -/
theorem runFrom_split (world : World σ V) (result : V) (session : Session σ V) :
    (splitResult world result).runFrom session = (.ok (world.split session result), session) := by
  have fieldRan : (field? world result "value").runFrom session =
      (.ok (world.field? session result "value"), session) := rfl
  have viewRan (value : V) : (view world value).runFrom session =
      (.ok (world.view session value), session) := rfl
  have overrides := runFrom_overridesOf world result overridable session
  simp only [splitResult, runFrom_bind, fieldRan, World.split]
  cases world.field? session result "value" with
  | none => rfl
  | some value => simp only [runFrom_bind, viewRan, overrides, runFrom_pure]

theorem recounts_splitResult (result : V) :
    Recounts world known now (splitResult world result) (splitResult world.chronicled result)
      fun _ parts session => parts = world.split session result ∧ now session :=
  recounts_of_look fun session history holds =>
    ⟨.ok (world.split session result), runFrom_split world result session,
      runFrom_split world.chronicled result (session.withHistory history), fun _ _ => ⟨rfl, holds⟩⟩

/-! ## Queries -/

theorem search_chronicled {request : SearchRequest} {state after : σ}
    {answer : Except Failure (SearchPage V)} (answered : world.search request state = (answer, after))
    (history : List (Event σ V)) :
    world.chronicled.search request (state, history) =
      (answer, (after, history ++ [.searched request answer])) := by
  simp only [World.chronicled, answered]

/-- Fetching pages from a fair server fails only if the server does or if an entry has no total. -/
theorem fetchPages_chronicled (fair : world.IsFair) {query : String} {limit : Int}
    {entry final : QueryEntry V} {state last : σ} {failure : Option Failure}
    (fetched : Query.fetchPages world.search query defaultPageSize limit entry state =
      (failure, final, last)) (history : List (Event σ V)) :
    ∃ later, history ⊆ later ∧
      Query.fetchPages world.chronicled.search query defaultPageSize limit entry (state, history) =
        (failure, final, (last, later)) ∧
      ((∀ event ∈ history, world.Does event) → ∀ event ∈ later, world.Does event) ∧
      (Quiet history → Blames later (failure.elim (.ok ()) .error)) ∧
      (world.Keeps entry → world.Keeps final) ∧
      (∀ item ∈ final.items, item ∈ entry.items ∨ ∃ event ∈ later, event.Offers item) ∧
      ∀ reason, failure = some reason →
        reason.isOwn = true ∨ reason = .fault .entryType ∧ ¬ world.Keeps entry := by
  fun_induction Query.fetchPages world.search query defaultPageSize limit entry state
    generalizing history with
  | case1 entry state needed reason after answered =>
    obtain ⟨rfl, rest⟩ := Prod.mk.inj fetched
    obtain ⟨rfl, rfl⟩ := Prod.mk.inj rest
    refine ⟨history ++ [.searched ⟨.issue, query, defaultPageSize, entry.pagesFetched + 1⟩ (.error reason)],
      List.subset_append_left _ _, ?_, fun real => ?_, fun quiet => quiet.blames_append ?_, id,
      fun item member => .inl member, ?_⟩
    · rw [Query.fetchPages, dif_pos needed, search_chronicled answered]
    · exact List.forall_mem_append.mpr ⟨real, List.forall_mem_singleton.mpr ⟨state, after, answered⟩⟩
    · rintro _ ⟨⟩
      rfl
    · rintro _ ⟨⟩
      exact .inl (fair.fails _ _ _ _ answered)
  | case2 entry state needed page after answered ih =>
    obtain ⟨later, longer, ran, real, blames, kept, offered, failed⟩ := ih fetched
      (history ++ [.searched ⟨.issue, query, defaultPageSize, entry.pagesFetched + 1⟩ (.ok page)])
    have keeps (before : world.Keeps entry) : world.Keeps (entry.addPage page) :=
      before.addPage (fair.total _ _ _ _ answered) (fair.items _ _ _ _ answered)
    refine ⟨later, fun event member => longer (List.mem_append_left _ member), ?_, fun before => real ?_,
      fun quiet => blames (quiet.append rfl),
      fun before => kept (keeps before), ?_, ?_⟩
    · rw [Query.fetchPages, dif_pos needed, search_chronicled answered]
      exact ran
    · exact List.forall_mem_append.mpr ⟨before, List.forall_mem_singleton.mpr ⟨state, after, answered⟩⟩
    · intro item member
      rcases offered item member with there | there
      · rcases List.mem_append.mp there with old | new
        · exact .inl old
        · exact .inr ⟨_, longer (List.mem_append_right _ (List.mem_singleton_self _)), page, rfl, new⟩
      · exact .inr there
    · intro reason stopped
      rcases failed reason stopped with own | ⟨rfl, spoiled⟩
      · exact .inl own
      · exact .inr ⟨rfl, fun before => spoiled (keeps before)⟩
  | case3 entry state enough =>
    obtain ⟨stopped, rest⟩ := Prod.mk.inj fetched
    obtain ⟨rfl, rfl⟩ := Prod.mk.inj rest
    refine ⟨history, List.Subset.refl history, ?_, id, fun quiet => quiet.blames _, id,
      fun item member => .inl member, ?_⟩
    · rw [Query.fetchPages, dif_neg enough, stopped]
    · rintro reason rfl
      rw [QueryEntry.totalFault?] at stopped
      split at stopped
      · next numberless =>
        cases stopped
        refine .inr ⟨rfl, fun keeps => ?_⟩
        rw [Bool.and_eq_true, Option.isNone_iff_eq_none] at numberless
        have total := keeps.total
        rw [numberless.2] at total
        cases total
      · cases stopped

/-- A fetched entry is stored without losing account of the items. -/
theorem accounts_of_fetched {history later : List (Event σ V)} {session : Session σ V} {query : String}
    {final : QueryEntry V} {cache : QueryCache V} {state : σ} (accounts : world.Accounts history session)
    (longer : history ⊆ later) (real : ∀ event ∈ later, world.Does event)
    (kept : world.Keeps ((session.cache.find? query).getD (.fresh query)) → world.Keeps final)
    (offered : ∀ item ∈ final.items, ∃ event ∈ later, event.Offers item)
    (entries : ∀ found ∈ cache.entries, found = final ∨ found ∈ session.cache.entries)
    (order : world.InOrder session.cache → world.Keeps final → world.InOrder cache) :
    world.Accounts later { cache, state } where
  real := real
  offered entry member item among := by
    rcases entries entry member with rfl | old
    · exact offered item among
    · obtain ⟨event, happened, offers⟩ := accounts.offered entry old item among
      exact ⟨event, longer happened, offers⟩
  order := by
    rcases accounts.order with before | ⟨event, happened, upsets⟩
    · exact .inl (order before (kept (before.keeps query)))
    · exact .inr ⟨event, longer happened, upsets⟩

theorem recounts_fetch (fair : world.IsFair) (query : String) (limit : Int) :
    Recounts world known now
      (ofFunction fun session =>
        let (answer, cache, state) :=
          Query.fetch world.search query defaultPageSize limit session.cache session.state
        (answer, { cache, state }))
      (ofFunction fun session =>
        let (answer, cache, state) :=
          Query.fetch world.chronicled.search query defaultPageSize limit session.cache session.state
        (answer, { cache, state }))
      fun later entry _ => (∀ item ∈ entry.items, ∃ event ∈ later, event.Offers item) ∧
        ((∀ item ∈ entry.items, world.IsObject item) ∨ ∃ event ∈ later, world.Upsets event) := by
  intro history session accounts quiet _ _
  -- What is out of order has been put so by author code.
  have upset {later : List (Event σ V)} (longer : history ⊆ later) (spoiled : ¬ world.InOrder session.cache) :
      ∃ event ∈ later, world.Upsets event := by
    obtain ⟨event, happened, upsets⟩ := accounts.order.resolve_left spoiled
    exact ⟨event, longer happened, upsets⟩
  simp only [runFrom_ofFunction, Query.fetch, Session.withHistory]
  cases spoiled : session.cache.fault? query with
  | some fault =>
    refine ⟨history, List.Subset.refl history, rfl, accounts, quiet.blames _,
      .fault (.upset (upset (fun _ => id) ?_) ?_)⟩
    · intro order
      cases spoiled.symm.trans (order.fault? query)
    · exact .inr (.inr ⟨query, spoiled⟩)
  | none =>
    rcases fetched : Query.fetchPages world.search query defaultPageSize limit
      ((session.cache.find? query).getD (.fresh query)) session.state with ⟨failure, final, state⟩
    obtain ⟨later, longer, ran, real, blames, kept, offered, failed⟩ :=
      fetchPages_chronicled fair fetched history
    have real := real accounts.real
    have offered (item : V) (among : item ∈ final.items) : ∃ event ∈ later, event.Offers item := by
      rcases offered item among with old | there
      · cases found : session.cache.find? query with
        | none =>
          rw [found] at old
          cases old
        | some entry =>
          rw [found] at old
          obtain ⟨event, happened, offers⟩ :=
            accounts.offered entry (QueryCache.mem_of_find? found) item old
          exact ⟨event, longer happened, offers⟩
      · exact there
    dsimp only
    rw [ran]
    cases failure with
    | none =>
      refine ⟨later, longer, rfl, ?_, (blames quiet).quiet.blames _, offered, ?_⟩
      · exact accounts_of_fetched accounts longer real kept offered (fun _ => QueryCache.mem_entries_insert)
          fun order keeps => order.insert keeps
      · by_cases order : world.InOrder session.cache
        · exact .inl (kept (order.keeps query)).items
        · exact .inr (upset longer order)
    | some reason =>
      refine ⟨later, longer, rfl, ?_, (blames quiet).error, ?_⟩
      · exact accounts_of_fetched accounts longer real kept offered (fun _ => QueryCache.mem_entries_update)
          fun order keeps => order.update keeps
      · rcases failed reason rfl with own | ⟨rfl, numberless⟩
        · exact .own own
        · refine .fault (.upset (upset longer fun order => ?_) (.inr (.inl rfl)))
          exact numberless (order.keeps query)

end Evaluation

end IssueBoard
