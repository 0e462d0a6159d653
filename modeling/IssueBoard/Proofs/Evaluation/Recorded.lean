import IssueBoard.Proofs.Evaluation.Preservation

/-! # Recording what is asked of a server

A recorded world answers like the world it is made from and keeps a log of the requests for pages of
search results, each with its answer. Author code never sees the log, so a template that is resolved
in the recorded world gives the same text and leaves the log as it is.
-/

namespace IssueBoard

/-- A request for a page of search results, and what the server has answered. -/
structure Exchange (ι : Type) where
  request : SearchRequest
  answer : Except Failure (SearchPage ι)

variable {σ V α β : Type}

namespace Session

/-- The session of a recorded world without its log. -/
def unlogged (session : Session (σ × List (Exchange V)) V) : Session σ V :=
  { cache := session.cache, state := session.state.1 }

/-- What has been asked so far in a recorded world, in order. -/
def log (session : Session (σ × List (Exchange V)) V) : List (Exchange V) := session.state.2

/-- A session of a recorded world with the given log. -/
def withLog (session : Session σ V) (log : List (Exchange V)) :
    Session (σ × List (Exchange V)) V :=
  { cache := session.cache, state := (session.state, log) }

@[simp] theorem unlogged_withLog (session : Session σ V) (log : List (Exchange V)) :
    (session.withLog log).unlogged = session := rfl

@[simp] theorem log_withLog (session : Session σ V) (log : List (Exchange V)) :
    (session.withLog log).log = log := rfl

@[simp] theorem cache_withLog (session : Session σ V) (log : List (Exchange V)) :
    (session.withLog log).cache = session.cache := rfl

end Session

/-- The world that answers like this one and keeps a log of the requests to its server. -/
def World.recorded (world : World σ V) : World (σ × List (Exchange V)) V where
  webUrl := world.webUrl
  run request session :=
    let (value, after) := world.run request session.unlogged
    (value, after.withLog session.log)
  view session := world.view session.unlogged
  field? session := world.field? session.unlogged
  search request state :=
    let (answer, after) := world.search request state.1
    (answer, (after, state.2 ++ [⟨request, answer⟩]))

namespace Evaluation

/-- The evaluation in a recorded world that does the same and asks the server nothing. -/
def recorded (evaluation : Evaluation σ V α) : Evaluation (σ × List (Exchange V)) V α :=
  ofFunction fun session =>
    let (result, after) := evaluation.runFrom session.unlogged
    (result, after.withLog session.log)

theorem runFrom_recorded (evaluation : Evaluation σ V α)
    (session : Session (σ × List (Exchange V)) V) :
    evaluation.recorded.runFrom session =
      ((evaluation.runFrom session.unlogged).1,
        (evaluation.runFrom session.unlogged).2.withLog session.log) := rfl

theorem recorded_bind (evaluation : Evaluation σ V α) (next : α → Evaluation σ V β) :
    (evaluation >>= next).recorded = evaluation.recorded >>= fun value => (next value).recorded := by
  funext session
  change (evaluation >>= next).recorded.runFrom session = Evaluation.runFrom _ session
  rw [runFrom_recorded, runFrom_bind, runFrom_bind, runFrom_recorded]
  rcases evaluation.runFrom session.unlogged with ⟨_ | _, _⟩ <;> rfl

theorem recorded_pure (value : α) :
    (pure value : Evaluation σ V α).recorded = pure value := rfl

theorem recorded_ofExcept (result : Except Failure α) :
    (ofExcept result : Evaluation σ V α).recorded = ofExcept result := rfl

theorem resolveSegment_recorded (world : World σ V) (scope : Scope V) (segment : Segment) :
    resolveSegment world.recorded scope segment = (resolveSegment world scope segment).recorded := by
  unfold resolveSegment
  split
  · rw [recorded_bind]
    rfl
  · rfl

theorem resolveSegments_recorded (world : World σ V) (scope : Scope V) (segments : List Segment) :
    resolveSegments world.recorded scope segments =
      (resolveSegments world scope segments).recorded := by
  induction segments with
  | nil => rfl
  | cons segment rest ih =>
    simp only [resolveSegments, resolveSegment_recorded, ih, recorded_bind, recorded_pure]

/-- Templates resolve in a recorded world as they do without the log. -/
theorem resolve_recorded (world : World σ V) (bindings : Scope V) (source : String) :
    resolve world.recorded bindings source = (resolve world bindings source).recorded := by
  unfold resolve
  rw [recorded_bind, recorded_ofExcept]
  congr 1
  funext scope
  split
  · rw [recorded_bind, recorded_ofExcept]
    congr 1
    funext segments
    exact resolveSegments_recorded world scope segments
  · rfl

end Evaluation

end IssueBoard
