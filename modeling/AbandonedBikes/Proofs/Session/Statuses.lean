import AbandonedBikes.Proofs.Session.Filings
import AbandonedBikes.Proofs.Session.Happenings
/-!
# The recorded changes of status

The status of a report is stored, and each change of it is recorded, in two steps. Between them nothing
can fail, and no other request touches a status, so the recorded changes of a report are the way that it
has taken through its lifecycle. `StatusPath` says that changes lead from one status to another, each of
them allowed where the one before it ends; that those recorded for a report lead from a new report to the
status that it has now is the invariant `Tables.StatusesTold`.

The lifecycle only moves forward. `Status.changesLeft` bounds the changes that may still follow a status,
and every allowed change takes one from it, so a path is short and ends in a closed status.
-/

namespace AbandonedBikes

/-! ## Paths through the lifecycle -/

/-- How many changes may still follow a status. -/
def Status.changesLeft : Status → Nat
  | .new => 3
  | .triaged => 2
  | .forwarded => 1
  | .resolved | .invalid => 0

theorem Status.changesLeft_lt {status next : Status} (allowed : status.canBecome next = true) :
    next.changesLeft < status.changesLeft := by
  revert allowed
  cases status <;> cases next <;> decide

/-- The changes of the status of a report lead from the first status to the last one. Each starts where
the one before it ends, and is allowed there. -/
inductive StatusPath (report : Int) : Status → List Fact → Status → Prop
  | unchanged (status : Status) : StatusPath report status [] status
  | changed {previous next last : Status} {rest : List Fact}
      (allowed : previous.canBecome next = true) (goes_on : StatusPath report next rest last) :
    StatusPath report previous (.statusChanged report previous next :: rest) last

namespace StatusPath

variable {report : Int} {first previous next last : Status} {facts earlier later : List Fact}

/-- One more allowed change prolongs a path. -/
theorem concat (path : StatusPath report first facts previous)
    (allowed : previous.canBecome next = true) :
    StatusPath report first (facts ++ [.statusChanged report previous next]) next := by
  induction path with
  | unchanged status => exact .changed allowed (.unchanged next)
  | changed earlier_allowed _ ih => exact .changed earlier_allowed (ih allowed)

/-- Every change takes one from those that may follow. -/
theorem length_add_changesLeft_le (path : StatusPath report first facts last) :
    facts.length + last.changesLeft ≤ first.changesLeft := by
  induction path with
  | unchanged status => simp
  | changed allowed _ ih =>
    have less := Status.changesLeft_lt allowed
    rw [List.length_cons]
    omega

/-- What follows a change of a path is a path from where the change ends. -/
theorem after_change (path : StatusPath report first facts last)
    (split : facts = earlier ++ .statusChanged report previous next :: later) :
    StatusPath report next later last := by
  induction path generalizing earlier with
  | unchanged status => simp at split
  | changed allowed goes_on ih =>
    cases earlier with
    | nil =>
      injection split with same_change same_rest
      injection same_change with _ _ same_next
      rw [← same_next, ← same_rest]
      exact goes_on
    | cons change rest =>
      injection split with _ same_rest
      exact ih same_rest

/-- Nothing follows a change to a closed status. -/
theorem eq_nil_of_closed (path : StatusPath report first facts last)
    (split : facts = earlier ++ .statusChanged report previous next :: later)
    (closed : next = .resolved ∨ next = .invalid) : later = [] := by
  have short := (path.after_change split).length_add_changesLeft_le
  have none_left : next.changesLeft = 0 := by
    rcases closed with rfl | rfl <;> rfl
  rw [← List.length_eq_zero_iff]
  omega

end StatusPath

/-- The changes of the status of a report among some facts. -/
def statusFacts (report : Int) (facts : List Fact) : List Fact :=
  facts.filter fun fact => fact.eventType == "status_changed" && fact.report == report

theorem statusFacts_append (report : Int) (first second : List Fact) :
    statusFacts report (first ++ second) = statusFacts report first ++ statusFacts report second :=
  List.filter_append ..

theorem statusFacts_eq_nil {report : Int} {facts : List Fact}
    (silent : ∀ fact ∈ facts, fact.eventType = "status_changed" → fact.report ≠ report) :
    statusFacts report facts = [] := by
  rw [statusFacts, List.filter_eq_nil_iff]
  intro fact member about
  rw [Bool.and_eq_true, beq_iff_eq, beq_iff_eq] at about
  exact silent fact member about.1 about.2

/-! ## The invariant -/

namespace Tables

/-- The changes recorded for a report lead from the status of a new report to the one that it has. -/
structure StatusesTold (tables : Tables) (facts : List Fact) : Prop where
  told : ∀ report ∈ tables.reports,
    StatusPath report.id .new (statusFacts report.id facts) report.status
  known : ∀ fact ∈ facts, fact.eventType = "status_changed" → fact.report ≤ tables.lastReport

/-- Reports keep their statuses, and those that are filed have a larger number and are new. -/
structure KeepsStatuses (tables after : Tables) : Prop where
  last : tables.lastReport ≤ after.lastReport
  reports : ∀ report ∈ after.reports,
    (∃ old ∈ tables.reports, old.id = report.id ∧ old.status = report.status) ∨
      (tables.lastReport < report.id ∧ report.status = .new)

namespace KeepsStatuses

variable {tables after : Tables}

theorem of_same (last : after.lastReport = tables.lastReport)
    (reports : after.reports = tables.reports) : tables.KeepsStatuses after :=
  ⟨last.ge, fun report member => .inl ⟨report, reports ▸ member, rfl, rfl⟩⟩

/-- One more report is filed under the next number. -/
theorem of_concat {report : Report} (last : after.lastReport = tables.lastReport + 1)
    (reports : after.reports = tables.reports ++ [report])
    (number : report.id = tables.lastReport + 1) (new : report.status = .new) :
    tables.KeepsStatuses after := by
  refine ⟨by omega, ?_⟩
  intro other member
  rw [reports, List.mem_append, List.mem_singleton] at member
  rcases member with member | rfl
  · exact .inl ⟨other, member, rfl, rfl⟩
  · exact .inr ⟨by omega, new⟩

theorem of_mergeReports {canonical : Int} {duplicates : IdSet} {createdBy : String} {now : Instant}
    {outcome : MergeOutcome}
    (h : tables.mergeReports canonical duplicates createdBy now = .ok (outcome, after)) :
    tables.KeepsStatuses after := by
  obtain ⟨_, _, _, rfl⟩ := Tables.of_mergeReports h
  refine ⟨(afterMerge_lastReport _ _ _).ge, ?_⟩
  intro report member
  rw [afterMerge_reports] at member
  obtain ⟨old, old_member, rfl⟩ := List.mem_map.mp member
  refine .inl ⟨old, old_member, (pointed_id now outcome.group old).symm, ?_⟩
  rw [pointed]
  split <;> rfl

end KeepsStatuses

namespace StatusesTold

variable {tables after : Tables} {facts more : List Fact}

theorem empty : StatusesTold {} [] := ⟨by simp, by simp⟩

/-- No status changes, and nothing is recorded about one. -/
theorem frame (told : tables.StatusesTold facts) (keeps : tables.KeepsStatuses after)
    (silent : ∀ fact ∈ more, fact.eventType ≠ "status_changed") :
    after.StatusesTold (facts ++ more) where
  told := by
    intro report member
    have nothing : statusFacts report.id more = [] :=
      statusFacts_eq_nil fun fact fact_member about => absurd about (silent fact fact_member)
    rw [statusFacts_append, nothing, List.append_nil]
    rcases keeps.reports report member with ⟨old, old_member, number, status⟩ | ⟨number, new⟩
    · rw [← number, ← status]
      exact told.told old old_member
    · -- The number of the report is new, so no fact was about it before.
      have unknown : statusFacts report.id facts = [] := by
        apply statusFacts_eq_nil
        intro fact fact_member about
        have bound := told.known fact fact_member about
        omega
      rw [unknown, new]
      exact .unchanged .new
  known := by
    intro fact member about
    cases List.mem_append.mp member with
    | inl member => exact Int.le_trans (told.known fact member about) keeps.last
    | inr member => exact absurd about (silent fact member)

/-- A change of a status prolongs the path of its report. -/
theorem changed (told : tables.StatusesTold facts) (numbered : tables.Numbered) {id : Int}
    {next : Status} {now : Instant} {change : StatusChange}
    (h : tables.changeStatus id next now = .ok (change, after)) :
    after.StatusesTold (facts ++ [.statusChanged id change.previous next]) := by
  obtain ⟨report, found, allowed, rfl, rfl⟩ := of_changeStatus h
  obtain ⟨present, rfl⟩ := mem_of_report? found
  constructor
  · intro later member
    obtain ⟨old, old_member, rfl⟩ := List.mem_map.mp member
    rw [statusFacts_append]
    split
    next =>
      have own : statusFacts report.id [.statusChanged report.id report.status next] =
          [.statusChanged report.id report.status next] := by
        simp [statusFacts, Fact.eventType, Fact.report]
      rw [withStatus_id, own]
      exact (told.told report present).concat allowed
    next other =>
      have nothing : statusFacts old.id [.statusChanged report.id report.status next] = [] := by
        apply statusFacts_eq_nil
        intro fact fact_member _ same
        rw [List.mem_singleton.mp fact_member] at same
        exact other same.symm
      rw [nothing, List.append_nil]
      exact told.told old old_member
  · intro fact member about
    rw [List.mem_append, List.mem_singleton] at member
    rcases member with member | rfl
    · exact told.known fact member about
    · exact numbered.report_le present

end StatusesTold

end Tables

/-! ## Turns -/

theorem Recount.of_mem_recomputeNotes {recount : Recount} {fact : Fact}
    (member : fact ∈ (Service.recomputeNotes recount).map Note.fact) :
    fact.eventType = "signal_strength_changed" := by
  rw [Service.recomputeNotes] at member
  split at member
  next => rw [Recount.of_mem_notes member, Fact.eventType]
  next => simp at member

/-- A filing records nothing about a status. -/
theorem Filing.eventType_ne_status_changed [Trigonometry] {settings : Settings} {tables : Tables}
    {new : NewReport} (filing : Filing settings tables new) {fact : Fact}
    (member : fact ∈ filing.notes.map Note.fact) : fact.eventType ≠ "status_changed" := by
  rw [filing.map_fact_notes, List.mem_append] at member
  cases member with
  | inl member =>
    have about := (filing.mem_filing member).1
    cases fact <;> simp_all [Fact.isFiling, Fact.eventType]
  | inr member =>
    rw [Recount.of_mem_notes member]
    simp [Fact.eventType]

/-- Every turn prolongs the paths as it changes the statuses. -/
theorem Turn.statusesTold [Trigonometry] {settings : Settings} {tables after : Tables}
    {request : Request} {result : Except Failure Answer} {notes : List Note} {facts : List Fact}
    (turn : Turn settings tables request result notes after) (numbered : tables.Numbered)
    (told : tables.StatusesTold facts) : after.StatusesTold (facts ++ notes.map Note.fact) := by
  cases turn with
  | refused | detailed | listed => exact told.frame (.of_same rfl rfl) (by simp)
  | filed filing =>
    exact told.frame (.of_concat filing.after_lastReport filing.after_reports filing.report_id rfl)
      fun _ => filing.eventType_ne_status_changed
  | statusChanged actor h => exact told.changed numbered h
  | merged nonempty proper h =>
    refine told.frame (.of_mergeReports h) ?_
    intro fact member
    obtain ⟨id, rfl⟩ := MergeOutcome.of_mem_notes member
    simp [Fact.eventType]
  | recounted now found =>
    refine told.frame (.of_same rfl rfl) ?_
    intro fact member
    rw [Recount.of_mem_recomputeNotes member]
    decide

/-! ## Records -/

theorem MemoryLog.Holds.statuses {log : MemoryLog} {facts : List Fact} (holds : log.Holds facts)
    (report : Int) :
    List.Forall₂ AuditRecord.Tells (log.recordsAbout report "status_changed")
      (statusFacts report facts) := by
  rw [recordsAbout, recordsFor, statusFacts, List.filter_filter]
  refine List.rel_filter ?_ holds
  intro record fact tells
  simp only [tells.eventType, tells.report]

/-- A change of status that is refused has changed nothing, whatever the log does. -/
theorem Service.unchanged_of_status_refused {σ : Type} (behaviour : AuditBehaviour σ)
    (settings : Settings) (world : World σ) (report : Int) (next : Status) (actor : String)
    (now : Instant) {failure : Failure}
    (refused : (((inMemory behaviour settings).updateStatus report next actor now).on world).1 =
      .error failure) :
    (((inMemory behaviour settings).updateStatus report next actor now).on world).2 = world := by
  cases change : world.tables.changeStatus report next now with
  | error cause => rw [on_updateStatus_error behaviour settings change]
  | ok changed =>
    rw [on_updateStatus_ok behaviour settings change] at refused
    injection refused

/-- Whatever happens to a service in memory, the changes of status recorded for a report lead, each of
them allowed, from a new report to the status that it has now. They are at most three, and none follows
one to a closed status. The records are in the order of their sequence numbers, and a change that is
refused is not recorded. -/
theorem World.statusPath_after [Trigonometry] (settings : Settings) (clock : Instant)
    (happenings : List Happening) :
    let world := after MemoryLog.behaviour settings ⟨{ clock }, {}⟩ happenings
    (world.log.records.map AuditRecord.seq).Pairwise (· < ·) ∧
      (∀ report ∈ world.tables.reports, ∃ facts,
        List.Forall₂ AuditRecord.Tells (world.log.recordsAbout report.id "status_changed") facts ∧
          StatusPath report.id .new facts report.status ∧ facts.length ≤ 3 ∧
          ∀ earlier previous next later,
            facts = earlier ++ .statusChanged report.id previous next :: later →
            next = .resolved ∨ next = .invalid → later = []) ∧
      ∀ report next actor now failure,
        let call := (Service.inMemory MemoryLog.behaviour settings).updateStatus report next actor now
        (call.on world).1 = .error failure → (call.on world).2 = world := by
  intro world
  obtain ⟨facts, holds, sequential, _, told⟩ := trail settings clock
    (P := fun tables facts => tables.Numbered ∧ tables.StatusesTold facts)
    ⟨.empty, .empty⟩
    (fun _ _ _ _ _ _ kept turn =>
      ⟨kept.1.writes turn.effect.writes, turn.statusesTold kept.1 kept.2⟩)
    (fun tables facts new group _ kept _ => by
      have grown : tables.KeepsStatuses (tables.insertReport new group).2 :=
        .of_concat rfl (Tables.insertReport_reports tables new group) rfl rfl
      have told : (tables.insertReport new group).2.StatusesTold (facts ++ []) :=
        kept.2.frame grown (by simp)
      rw [List.append_nil] at told
      exact ⟨kept.1.insertReport new group, told⟩) happenings
  refine ⟨sequential.pairwise, ?_, ?_⟩
  · intro report member
    have path := told.told report member
    have short := path.length_add_changesLeft_le
    refine ⟨statusFacts report.id facts, holds.statuses report.id, path, ?_, ?_⟩
    · exact Nat.le_trans (Nat.le_add_right _ _) short
    · intro earlier previous next later split closed
      exact path.eq_nil_of_closed split closed
  · intro report next actor now failure call refused
    exact Service.unchanged_of_status_refused _ _ _ report next actor now refused

end AbandonedBikes
