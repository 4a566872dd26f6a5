import Mathlib.Data.List.Forall2
import AbandonedBikes.Proofs.Service.Agreement
import AbandonedBikes.Proofs.Session.Basic
/-!
# What the log cannot change

The audit log is for information only. Two services that start with the same tables and are asked the
same go through the same tables and give the same answers, however their logs behave: a log may take
every entry or refuse some or all of them, in any pattern. Only the details of a report show what is in
the log, so only these answers may differ.
-/

namespace AbandonedBikes

variable {σ τ : Type}

/-- Whether the answer to a request shows the log. -/
def Request.showsLog : Request → Bool
  | .details _ => true
  | .file _ | .changeStatus .. | .merge .. | .recompute .. | .list _ => false

/-- The same request and the same answer, unless the answer shows the log. -/
structure Served.SameButLog (served other : Served) : Prop where
  request : served.request = other.request
  result : served.request.showsLog = false → served.result = other.result

namespace Service

variable [Trigonometry] (first : AuditBehaviour σ) (second : AuditBehaviour τ) (settings : Settings)

theorem agrees_serve {request : Request} (hidden : request.showsLog = false) :
    ((inMemory first settings).serve request).Agrees
      ((inMemory second settings).serve request) := by
  cases request with
  | file new =>
    exact .bind (agrees_fileReport first second settings new) fun _ => Attempt.agrees_pure _
  | changeStatus report next actor now =>
    exact .bind (agrees_updateStatus first second settings report next actor now) fun _ =>
      Attempt.agrees_pure _
  | merge canonical duplicates operator now =>
    exact .bind (agrees_mergeDuplicates first second settings canonical duplicates operator now)
      fun _ => Attempt.agrees_pure _
  | recompute group now =>
    exact .bind (agrees_recompute first second settings group now) fun _ => Attempt.agrees_pure _
  | details report => exact absurd hidden (by simp [Request.showsLog])
  | list filter =>
    exact .bind (agrees_operatorReports first second settings filter) fun _ =>
      Attempt.agrees_pure _

/-- A request that shows the log does nothing to the tables. -/
theorem keepsTables_serve {request : Request} (shown : request.showsLog = true) :
    ((inMemory first settings).serve request).KeepsTables := by
  intro world
  cases request with
  | details report =>
    rw [serve, Attempt.on_bind_pure]
    exact keepsTables_details first settings report world
  | file | changeStatus | merge | recompute | list => simp [Request.showsLog] at shown

end Service

namespace Session

/-- The session after more requests. -/
def goOn [Trigonometry] (behaviour : AuditBehaviour σ) (settings : Settings) (session : Session σ)
    (requests : List Request) : Session σ :=
  requests.foldl (next behaviour settings) session

/-- Two sessions that differ in their logs and in what was shown of them. -/
structure SameButLog (session : Session σ) (other : Session τ) : Prop where
  tables : session.tables = other.tables
  served : List.Forall₂ Served.SameButLog session.served other.served

variable [Trigonometry] (first : AuditBehaviour σ) (second : AuditBehaviour τ) (settings : Settings)

/-- One more request makes no other difference. -/
theorem SameButLog.next {session : Session σ} {other : Session τ} (same : session.SameButLog other)
    (request : Request) :
    (session.next first settings request).SameButLog (other.next second settings request) := by
  cases shown : request.showsLog with
  | false =>
    obtain ⟨same_result, same_tables⟩ :=
      Service.agrees_serve first second settings shown session.world other.world same.tables
    exact ⟨same_tables, List.rel_append same.served (.cons ⟨rfl, fun _ => same_result⟩ .nil)⟩
  | true =>
    have kept := Service.keepsTables_serve first settings shown session.world
    have kept' := Service.keepsTables_serve second settings shown other.world
    refine ⟨kept.trans (same.tables.trans kept'.symm), List.rel_append same.served ?_⟩
    exact .cons ⟨rfl, fun hidden => absurd shown (by simp [hidden])⟩ .nil

/-- Two sessions with the same tables at the start and the same requests have the same tables at the
end and give the same answers one by one, those aside that show the log. -/
theorem sameButLog_goOn (tables : Tables) (log : σ) (other : τ) (requests : List Request) :
    (goOn first settings ⟨⟨log, tables⟩, []⟩ requests).SameButLog
      (goOn second settings ⟨⟨other, tables⟩, []⟩ requests) := by
  induction requests using List.reverseRecOn with
  | nil => exact ⟨rfl, .nil⟩
  | append_singleton earlier request ih =>
    simp only [goOn, List.foldl_append, List.foldl_cons, List.foldl_nil]
    exact ih.next first second settings request

end Session

end AbandonedBikes
