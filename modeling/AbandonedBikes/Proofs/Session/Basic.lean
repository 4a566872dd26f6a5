import AbandonedBikes.Proofs.Service.Filing
import AbandonedBikes.Proofs.Store.Numbering
/-!
# Sessions

A session is a run of the service in memory. It starts with empty tables and serves requests one
after another, refused ones included, and it remembers what was asked and answered.

`Effect` lists everything that serving one request can do to the tables, together with the answer. A
property that holds at the start and is kept by every effect holds after every session; this induction
is made once, in `Session.of_induction`. `Turn` lists the same cases together with the facts that are
offered to the log. The service is read case by case only once, in `Service.serve_turn`.
-/

namespace AbandonedBikes

variable {σ : Type}

/-- What the service can be asked. -/
inductive Request where
  | file (new : NewReport)
  | changeStatus (report : Int) (next : Status) (actor : String) (now : Instant)
  | merge (canonical : Int) (duplicates : IdSet) (operator : String) (now : Instant)
  | recompute (group : Int) (now : Instant)
  | details (report : Int)
  | list (filter : SignalFilter)

/-- What the service answers. -/
inductive Answer where
  | filed (filed : Filed)
  | changed (report : Report)
  | merged (outcome : MergeOutcome)
  | recounted (recount : Recount)
  | details (details : ReportDetails)
  | listed (views : List OperatorView)

variable [Trigonometry]

/-- Serves a request. -/
def Service.serve {m : Type → Type} [Monad m] (service : Service m) : Request → Attempt m Answer
  | .file new => do return .filed (← service.fileReport new)
  | .changeStatus report next actor now => do
    return .changed (← service.updateStatus report next actor now)
  | .merge canonical duplicates operator now => do
    return .merged (← service.mergeDuplicates canonical duplicates operator now)
  | .recompute group now => do return .recounted (← service.recompute group now)
  | .details report => do return .details (← service.details report)
  | .list filter => do return .listed (← service.operatorReports filter)

/-- A request and how it was answered. -/
structure Served where
  request : Request
  result : Except Failure Answer

/-- How far a session has got. -/
structure Session (σ : Type) where
  world : World σ
  /-- What was asked and answered so far, in order. -/
  served : List Served

namespace Session

/-- The session after one more request. -/
def next (behaviour : AuditBehaviour σ) (settings : Settings) (session : Session σ)
    (request : Request) : Session σ :=
  let (result, world) := ((Service.inMemory behaviour settings).serve request).on session.world
  ⟨world, session.served ++ [⟨request, result⟩]⟩

/-- The session of some requests, which starts with empty tables. -/
def of (behaviour : AuditBehaviour σ) (settings : Settings) (log : σ) (requests : List Request) :
    Session σ :=
  requests.foldl (next behaviour settings) ⟨⟨log, {}⟩, []⟩

def tables (session : Session σ) : Tables := session.world.tables

end Session

/-- What serving a request can answer and do to the tables. -/
inductive Effect (settings : Settings) (tables : Tables) :
    Request → Except Failure Answer → Tables → Prop
  | refused (request : Request) (failure : Failure) :
    Effect settings tables request (.error failure) tables
  | filed {new : NewReport} (filing : Filing settings tables new) :
    Effect settings tables (.file new) (filing.answer.map .filed) filing.after
  | statusChanged {report : Int} {next : Status} {now : Instant} {change : StatusChange}
      {after : Tables} (actor : String)
      (h : tables.changeStatus report next now = .ok (change, after)) :
    Effect settings tables (.changeStatus report next actor now) (.ok (.changed change.report)) after
  | merged {canonical : Int} {duplicates : IdSet} {operator : String} {now : Instant}
      {outcome : MergeOutcome} {after : Tables} (nonempty : duplicates.isEmpty = false)
      (proper : canonical ∉ duplicates)
      (h : tables.mergeReports canonical duplicates operator now = .ok (outcome, after)) :
    Effect settings tables (.merge canonical duplicates operator now) (.ok (.merged outcome)) after
  | recounted {group : Int} {before : BikeGroup} (now : Instant)
      (found : tables.group? group = some before) :
    Effect settings tables (.recompute group now)
      (.ok (.recounted (tables.recountOf settings.replayRules before now)))
      (tables.recounted settings.replayRules before now)
  | detailed (report : Int) (result : Except Failure ReportDetails) :
    Effect settings tables (.details report) (result.map .details) tables
  | listed (filter : SignalFilter) (result : Except Failure (List OperatorView)) :
    Effect settings tables (.list filter) (result.map .listed) tables

/-- What serving a request can answer, record and do to the tables. -/
inductive Turn (settings : Settings) (tables : Tables) :
    Request → Except Failure Answer → List Note → Tables → Prop
  | refused (request : Request) (failure : Failure) :
    Turn settings tables request (.error failure) [] tables
  | filed {new : NewReport} (filing : Filing settings tables new) :
    Turn settings tables (.file new) (filing.answer.map .filed) filing.notes filing.after
  | statusChanged {report : Int} {next : Status} {now : Instant} {change : StatusChange}
      {after : Tables} (actor : String)
      (h : tables.changeStatus report next now = .ok (change, after)) :
    Turn settings tables (.changeStatus report next actor now) (.ok (.changed change.report))
      [⟨.statusChanged report change.previous next, actor⟩] after
  | merged {canonical : Int} {duplicates : IdSet} {operator : String} {now : Instant}
      {outcome : MergeOutcome} {after : Tables} (nonempty : duplicates.isEmpty = false)
      (proper : canonical ∉ duplicates)
      (h : tables.mergeReports canonical duplicates operator now = .ok (outcome, after)) :
    Turn settings tables (.merge canonical duplicates operator now) (.ok (.merged outcome))
      (outcome.notes canonical operator) after
  | recounted {group : Int} {before : BikeGroup} (now : Instant)
      (found : tables.group? group = some before) :
    Turn settings tables (.recompute group now)
      (.ok (.recounted (tables.recountOf settings.replayRules before now)))
      (Service.recomputeNotes (tables.recountOf settings.replayRules before now))
      (tables.recounted settings.replayRules before now)
  | detailed (report : Int) (result : Except Failure ReportDetails) :
    Turn settings tables (.details report) (result.map .details) [] tables
  | listed (filter : SignalFilter) (result : Except Failure (List OperatorView)) :
    Turn settings tables (.list filter) (result.map .listed) [] tables

/-- A turn has an effect. -/
theorem Turn.effect {settings : Settings} {tables after : Tables} {request : Request}
    {result : Except Failure Answer} {notes : List Note}
    (turn : Turn settings tables request result notes after) :
    Effect settings tables request result after := by
  cases turn with
  | refused request failure => exact .refused request failure
  | filed filing => exact .filed filing
  | statusChanged actor h => exact .statusChanged actor h
  | merged nonempty proper h => exact .merged nonempty proper h
  | recounted now found => exact .recounted now found
  | detailed report result => exact .detailed report result
  | listed filter result => exact .listed filter result

namespace Service

variable (behaviour : AuditBehaviour σ) (settings : Settings) (world : World σ)

/-- Serving a request is a turn. A log that is not changed by reading takes the facts of the turn in
order. -/
theorem serve_turn (request : Request) :
    let call := (inMemory behaviour settings).serve request
    ∃ notes, Turn settings world.tables request (call.on world).1 notes (call.on world).2.tables ∧
      (behaviour.OnlyReads → (call.on world).2.log = behaviour.noting world.log notes) := by
  intro call
  cases request with
  | file new =>
    simp only [call, serve, Attempt.on_bind_pure]
    rcases @on_fileReport σ _ behaviour settings world new with
      ⟨failure, _, result⟩ | ⟨filing, result⟩
    · rw [result]
      exact ⟨[], .refused _ failure, fun _ => rfl⟩
    · rw [result, World.noteAll_tables]
      exact ⟨filing.notes, .filed filing, fun _ => World.noteAll_log ..⟩
  | changeStatus report next actor now =>
    simp only [call, serve, Attempt.on_bind_pure]
    cases change : world.tables.changeStatus report next now with
    | error failure =>
      rw [on_updateStatus_error behaviour settings change]
      exact ⟨[], .refused _ failure, fun _ => rfl⟩
    | ok changed =>
      rw [on_updateStatus_ok behaviour settings change]
      exact ⟨_, .statusChanged actor change, fun _ => rfl⟩
  | merge canonical duplicates operator now =>
    simp only [call, serve, Attempt.on_bind_pure, on_mergeDuplicates]
    split
    next => exact ⟨[], .refused _ _, fun _ => rfl⟩
    next nonempty =>
      split
      next => exact ⟨[], .refused _ _, fun _ => rfl⟩
      next proper =>
        cases merge : world.tables.mergeReports canonical duplicates operator now with
        | error failure => exact ⟨[], .refused _ failure, fun _ => rfl⟩
        | ok merged =>
          rw [World.noteAll_tables]
          exact ⟨_, .merged (by simpa using nonempty) proper merge, fun _ => World.noteAll_log ..⟩
  | recompute group now =>
    simp only [call, serve, Attempt.on_bind_pure]
    cases found : world.tables.group? group with
    | none =>
      rw [on_recompute_missing behaviour settings found]
      exact ⟨[], .refused _ _, fun _ => rfl⟩
    | some before =>
      rw [on_recompute_found behaviour settings found, World.noteAll_tables]
      exact ⟨_, .recounted now found, fun _ => World.noteAll_log ..⟩
  | details report =>
    simp only [call, serve, Attempt.on_bind_pure]
    rw [keepsTables_details behaviour settings report world]
    exact ⟨[], .detailed report _, fun reads => keepsLog_details behaviour settings reads report world⟩
  | list filter =>
    simp only [call, serve, Attempt.on_bind_pure]
    rw [keeps_operatorReports behaviour settings World.tables filter world]
    exact ⟨[], .listed filter _, fun _ =>
      keeps_operatorReports behaviour settings World.log filter world⟩

/-- Every request has one of the effects. -/
theorem serve_effect (request : Request) :
    Effect settings world.tables request
      (((inMemory behaviour settings).serve request).on world).1
      (((inMemory behaviour settings).serve request).on world).2.tables := by
  obtain ⟨_, turn, _⟩ := serve_turn behaviour settings world request
  exact turn.effect

end Service

namespace Effect

variable {settings : Settings} {tables after : Tables} {request : Request}
variable {result : Except Failure Answer}

/-- An effect is made of writes. -/
theorem writes (effect : Effect settings tables request result after) :
    Tables.Writes tables after := by
  cases effect with
  | refused | detailed | listed => exact .refl
  | @filed new filing =>
    have placed : Tables.Writes tables filing.placed := by
      rcases Tables.place_cases filing.place with ⟨_, same, _⟩ | ⟨_, _, same⟩
      · rw [same]
      · rw [same]
        exact .single (.createGroup _ _ _)
    have updated : filing.inserted.updateGroup filing.recount.group = .ok filing.after :=
      Tables.updateGroup_of_found (filing.before_id ▸ filing.found)
    exact (placed.tail (.insertReport _ new filing.group.id)).tail (.updateGroup updated)
  | statusChanged _ h => exact .single (.changeStatus h)
  | merged _ _ h => exact .single (.mergeReports h)
  | recounted now found =>
    have same := (Tables.mem_of_group? found).2
    exact .single (.updateGroup (Tables.updateGroup_of_found (same ▸ found)))

end Effect

namespace Session

variable (behaviour : AuditBehaviour σ) (settings : Settings) (log : σ)

theorem of_concat (requests : List Request) (request : Request) :
    of behaviour settings log (requests ++ [request]) =
      (of behaviour settings log requests).next behaviour settings request := by
  simp [of]

/-- What holds of empty tables and is kept by every effect holds after every session. -/
theorem of_induction {P : Tables → List Served → Prop} (start : P {} [])
    (step : ∀ tables served request result after, P tables served →
      Effect settings tables request result after → P after (served ++ [⟨request, result⟩]))
    (requests : List Request) :
    P (of behaviour settings log requests).tables
      (of behaviour settings log requests).served := by
  induction requests using List.reverseRecOn with
  | nil => exact start
  | append_singleton earlier request ih =>
    rw [of_concat]
    exact step _ _ _ _ _ ih (Service.serve_effect behaviour settings _ request)

/-- The numbering of the tables is in order after every session. -/
theorem numbered_of (requests : List Request) :
    (of behaviour settings log requests).tables.Numbered :=
  of_induction behaviour settings log (P := fun tables _ => tables.Numbered) .empty
    (fun _ _ _ _ _ numbered effect => numbered.writes effect.writes) requests

end Session

end AbandonedBikes
