import IssueBoard.Proofs.Board.Explanation
import IssueBoard.Proofs.Evaluation.Trace
import IssueBoard.Proofs.Script.Ending
import IssueBoard.Query.Catalogue

/-! # Failures with the default host

With the default host and a server that keeps its word, an evaluation gives a static dashboard or fails in
a way of the program's own. Otherwise its history shows author code without an end, or one of a few faults
that author code has left behind.
-/

namespace IssueBoard.Script

open Evaluation

variable {κ ι : Type} {host : Host κ ι}

/-! ## Fair servers -/

/-- Whether the server gives pages with a number as the total and objects as the items, or fails in a way
of the program's own, and its site has an address. -/
structure Host.IsFair (host : Host κ ι) : Prop where
  site : ∀ failure, host.server.webUrl = .error failure → failure.isOwn = true
  fails : ∀ request server failure after, host.server.search request server = (.error failure, after) →
    failure.isOwn = true
  total : ∀ request server page after, host.server.search request server = (.ok page, after) →
    page.total.number?.isSome = true
  items : ∀ request server page after, host.server.search request server = (.ok page, after) →
    ∀ item ∈ page.items, ∀ store, ∃ cell, (host.takeIn item store).1 = .object cell

theorem search_eq_error {request : SearchRequest} {machine after : Machine κ} {failure : Failure}
    (answered : host.search request machine = (.error failure, after)) :
    ∃ server, host.server.search request machine.server = (.error failure, server) := by
  unfold Host.search at answered
  split at answered
  · next reason server found =>
    cases answered
    exact ⟨server, found⟩
  · cases answered

theorem search_eq_ok {request : SearchRequest} {machine after : Machine κ} {page : SearchPage Value}
    (answered : host.search request machine = (.ok page, after)) :
    ∃ found server, host.server.search request machine.server = (.ok found, server) ∧
      page = { total := found.total, items := (host.takeInAll machine.store found.items).1 } := by
  unfold Host.search at answered
  split at answered
  · cases answered
  · next found server given =>
    cases answered
    exact ⟨found, server, given, rfl⟩

theorem mem_takeInAll {store : Array Cell} {items : List ι} {value : Value}
    (member : value ∈ (host.takeInAll store items).1) :
    ∃ item ∈ items, ∃ store, (host.takeIn item store).1 = value := by
  induction items generalizing store with
  | nil => cases member
  | cons item rest ih =>
    rcases List.mem_cons.mp member with rfl | later
    · exact ⟨item, List.mem_cons_self, store, rfl⟩
    · obtain ⟨found, among, taken⟩ := ih later
      exact ⟨found, List.mem_cons_of_mem item among, taken⟩

/-- An object of the store is shown as an object, whatever it holds. -/
theorem isObject_object (cell : Nat) : host.world.IsObject (.object cell) :=
  fun _ => ⟨_, rfl⟩

theorem Host.IsFair.world (fair : host.IsFair) : host.world.IsFair where
  site := fair.site
  fails request machine failure after answered := by
    obtain ⟨server, given⟩ := search_eq_error answered
    exact fair.fails request machine.server failure server given
  total request machine page after answered := by
    obtain ⟨found, server, given, rfl⟩ := search_eq_ok answered
    exact fair.total request machine.server found server given
  items request machine page after answered value member := by
    obtain ⟨found, server, given, rfl⟩ := search_eq_ok answered
    obtain ⟨item, among, store, rfl⟩ := mem_takeInAll member
    obtain ⟨cell, taken⟩ := fair.items request machine.server found server given item among store
    rw [taken]
    exact isObject_object cell

/-! ## Ways to fail -/

/-- How a failure that is not of the program's own kinds comes out of an evaluation. -/
inductive Host.Escapes (host : Host κ ι) (history : List (Event (Machine κ) Value)) (final : Desk κ) :
    Failure → Prop
  /-- Author code does not come to an end. -/
  | endless {request : Call Value} {before after : Desk κ} {failure : Failure}
    (called : .called request before (.error failure) after ∈ history)
    (endless : failure = .endless request.kind) : Escapes host history final failure
  /-- Author code is no code at all. -/
  | unfit {request : Call Value} {before after : Desk κ} {fault : Fault}
    (called : .called request before (.error (.fault fault)) after ∈ history)
    (refused : compile request = .error (.fault fault)) : Escapes host history final (.fault fault)
  /-- Author code raises an error that cannot be told. -/
  | unspoken {request : Call Value} {before after : Desk κ} {body : List Stmt} {error : UnspokenError}
    (called : .called request before (.error (.fault error.fault)) after ∈ history)
    (compiled : compile request = .ok body)
    (ended : (host.runBody body request.scope before).1 = .error (.unspoken error)) :
    Escapes host history final (.fault error.fault)
  /-- What author code has left cannot be used. -/
  | strayed {fault : Fault} (strays : host.world.Strays history final fault) :
    Escapes host history final (.fault fault)

/-- What the history of an evaluation holds: what has happened, at most one failure, which is the outcome,
and only the known ways for author code to end. -/
structure Host.IsHistory (host : Host κ ι) (dashboard : Dashboard) (server : κ)
    (history : List (Event (Machine κ) Value)) : Prop where
  told : (evaluateDashboard host.world.chronicled dashboard).runFrom
      ((Desk.ofServer server).withHistory []) =
    (((evaluateDashboard host.world dashboard).runFrom (Desk.ofServer server)).1,
      ((evaluateDashboard host.world dashboard).runFrom (Desk.ofServer server)).2.withHistory history)
  real : ∀ event ∈ history, host.world.Does event
  blames : Blames history ((evaluateDashboard host.world dashboard).runFrom (Desk.ofServer server)).1
  ends : ∀ request before failure after, .called request before (.error failure) after ∈ history →
    host.EndsCall request before failure

/-- Nothing has happened at the beginning, and the query cache is empty. -/
theorem accounts_ofServer (server : κ) : host.world.Accounts [] (Desk.ofServer server) where
  real _ never := nomatch never
  offered _ never := nomatch never
  order := .inl ⟨fun _ never => (List.not_mem_nil never).elim,
    fun _ _ _ never => (List.not_mem_nil never).elim⟩

theorem endsCall_of_called {history : List (Event (Machine κ) Value)} {request : Call Value}
    {before after : Desk κ} {failure : Failure} (real : ∀ event ∈ history, host.world.Does event)
    (called : .called request before (.error failure) after ∈ history) :
    host.EndsCall request before failure := by
  have ran : host.call request before = (.error failure, after) := real _ called
  exact Host.endsCall (congrArg (·.1) ran)

theorem escapes_of_explains {history : List (Event (Machine κ) Value)} {final : Desk κ} {failure : Failure}
    (real : ∀ event ∈ history, host.world.Does event)
    (explains : host.world.Explains history final failure) :
    failure.isOwn = true ∨ host.Escapes history final failure := by
  cases explains with
  | own own => exact .inl own
  | fault strays => exact .inr (.strayed strays)
  | answer called =>
    cases endsCall_of_called real called with
    | refused _ own => exact .inl own
    | error => exact .inl rfl
    | passed own => exact .inl own
    | unfit refused => exact .inr (.unfit called refused)
    | unspoken compiled ended => exact .inr (.unspoken called compiled ended)
    | endless => exact .inr (.endless called rfl)

/-- **An evaluation gives a static dashboard, fails in a way of the program's own, or its history shows how
another failure comes out.** -/
theorem Host.evaluateDashboard_settled (fair : host.IsFair) {dashboard : Dashboard}
    (typed : dashboard.IsTyped) (server : κ) :
    ∃ history, host.IsHistory dashboard server history ∧
      match (evaluateDashboard host.world dashboard).runFrom (Desk.ofServer server) with
      | (.ok result, _) => DashboardReduces host.world dashboard result
      | (.error failure, final) => failure.isOwn = true ∨ host.Escapes history final failure := by
  have tells : Tells host.world [] (fun _ => True) (evaluateDashboard host.world dashboard)
      (evaluateDashboard host.world.chronicled dashboard) := tells_evaluateDashboard fair.world typed
  obtain ⟨history, -, told, accounts, blames, ends⟩ := tells [] (Desk.ofServer server)
    (accounts_ofServer server) (fun _ never => nomatch never) (List.Subset.refl []) trivial
  have real := accounts.real
  refine ⟨history, ⟨told, real, blames, fun _ _ _ _ => endsCall_of_called real⟩, ?_⟩
  rcases ran : (evaluateDashboard host.world dashboard).runFrom (Desk.ofServer server) with
    ⟨failure | result, final⟩
  · rw [ran] at ends
    exact escapes_of_explains real ends
  · exact dashboardReduces_of_evaluateDashboard ran

/-! ## Runs -/

theorem isDate_first : Calendar.IsDate 1 1 1 := by decide

/-- The host at the beginning of the calendar, with a catalogue of objects as its server. -/
def issueHost : Host (Catalogue (List (Atom × Data))) (List (Atom × Data)) where
  now := .midnight ⟨1, 1, 1, isDate_first⟩
  server := Catalogue.server "https://github.com"
  takeIn item store := load store (.object item)

theorem isFair_issueHost : issueHost.IsFair where
  site _ never := nomatch never
  fails request catalogue failure after answered := by
    simp only [issueHost, Catalogue.server, Catalogue.search] at answered
    split at answered
    · split at answered
      · cases answered
        rfl
      · cases answered
    · cases answered
  total request catalogue page after answered := by
    simp only [issueHost, Catalogue.server, Catalogue.search] at answered
    split at answered
    · split at answered
      · cases answered
      · cases answered
        rfl
    · cases answered
      rfl
  items _ _ _ _ _ _ _ store := ⟨_, rfl⟩

/-- A catalogue with one open issue. -/
def openIssue : Catalogue (List (Atom × Data)) :=
  { results := [("is:open", [[(.text "number", .integer 7), (.text "title", .text "Crash")]])] }

/-- A document of a table of open issues and a number that author code makes. -/
def openBoard : Data :=
  .ofFields [("output", .ofFields [("format", .text "html")]),
    ("title", .text "\x7b\x7b 6 * 7 \x7d\x7d"),
    ("sections", .list [.ofFields [("widgets", .list [
      .ofFields [("type", .text "table"), ("issue_query", .text "is:open")],
      .ofFields [("type", .text "number"),
        ("script", .text "return \x7b'value': 2.5, 'title': 'Load'\x7d")]])]])]

theorem evaluateDashboard_settled_openBoard :
    issueHost.IsFair ∧ ∃ configuration, Config.Configuration.ofData openBoard = .ok configuration ∧
      configuration.dashboard.IsTyped ∧
      ∃ history, issueHost.IsHistory configuration.dashboard openIssue history ∧
        ∃ result, ((evaluateDashboard issueHost.world configuration.dashboard).runFrom
            (Desk.ofServer openIssue)).1 = .ok result ∧
          DashboardReduces issueHost.world configuration.dashboard result := by
  have done : (match Config.Configuration.ofData openBoard with
      | .ok configuration => ((evaluateDashboard issueHost.world configuration.dashboard).runFrom
          (Desk.ofServer openIssue)).1.isOk
      | .error _ => false) = true := by decide +kernel
  rcases loaded : Config.Configuration.ofData openBoard with failure | configuration
  · rw [loaded] at done
    cases done
  · rw [loaded] at done
    dsimp only at done
    have typed := isTyped_of_ofData loaded
    obtain ⟨history, happened, ends⟩ := Host.evaluateDashboard_settled isFair_issueHost typed openIssue
    refine ⟨isFair_issueHost, configuration, rfl, typed, history, happened, ?_⟩
    rcases ran : (evaluateDashboard issueHost.world configuration.dashboard).runFrom
      (Desk.ofServer openIssue) with ⟨failure | result, final⟩
    · rw [ran] at done
      cases done
    · rw [ran] at ends
      exact ⟨result, rfl, ends⟩

/-- A dashboard whose title is an expression with a value of too many digits. -/
def longTitle : Dashboard := { title := some "\x7b\x7b 10 ** 4300 \x7d\x7d" }

/-- A value without a text makes an evaluation fail in a way that is not of the program's own. -/
theorem evaluateDashboard_unwritten :
    issueHost.IsFair ∧ longTitle.IsTyped ∧
      ((evaluateDashboard issueHost.world longTitle).runFrom (Desk.ofServer openIssue)).1 =
        .error (.fault .integerTooLong) ∧
      (Failure.fault .integerTooLong).isOwn = false :=
  ⟨isFair_issueHost, fun _ never => (List.not_mem_nil never).elim,
    eq_error_of_failure? (by decide +kernel), rfl⟩

end IssueBoard.Script
