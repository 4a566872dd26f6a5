import AbandonedBikes.Proofs.Database.Heedless
import AbandonedBikes.Proofs.Session.Basic
import AbandonedBikes.Recompute.Command
/-!
# Requests over a database

Every request that the service can be asked is made of queries, transactions and entries offered to the
audit log, which is shown call by call in `converses_serve`. What is said about refused
statements and about the audit log then follows for all requests and all databases at once.

A refused statement ends the request, and nothing is sent after it but the `ROLLBACK` of its transaction.
The request fails with a failure of the database, which may go away, unless the statement was to read the
audit log: of a failure of the log only the message is kept, and the request cannot be told to be worth
another try.
-/

namespace AbandonedBikes

open Attempt

namespace Database

/-! ## The calls of the store -/

theorem asks_reports {statement : Statement} (plain : statement.isPlain = true)
    (stored : statement.readsLog = false) : (reports statement).Asks :=
  .bind (.all plain stored) fun _ => .answer _

theorem asks_report? (id : Int) : (report? id).Asks :=
  .bind (.first? rfl rfl) fun _ => .answer _

theorem asks_insertReport (report : NewReport) (group : Int) : (insertReport report group).Asks :=
  .bind (.one rfl rfl) fun _ => .answer _

theorem asks_moveStatus (id : Int) (next : Status) (now : Instant) :
    (moveStatus id next now).Asks := by
  refine .bind (.first? rfl rfl) fun locked => ?_
  refine .bind (.orElse _ _) fun word => .bind (.answer _) fun previous => ?_
  split
  · exact .bind (.one rfl rfl) fun row => .pure _
  · exact .throw _

theorem converses_changeStatus (id : Int) (next : Status) (now : Instant) :
    (changeStatus id next now).Converses :=
  .bind (.transaction (asks_moveStatus id next now)) fun _ =>
    .asks (.bind (.answer _) fun _ => .pure _)

theorem asks_createGroup (anchor : Point) (now : Instant) : (createGroup anchor now).Asks :=
  .bind (.one rfl rfl) fun _ => .answer _

theorem asks_group? (id : Int) : (group? id).Asks :=
  .bind (.first? rfl rfl) fun _ => .answer _

theorem asks_updateGroup (group : BikeGroup) : (updateGroup group).Asks := by
  refine .bind (.execute rfl rfl) fun affected => ?_
  split
  · exact .throw _
  · exact .pure _

theorem asks_lockMembers (canonical : Int) (duplicates : IdSet) :
    (lockMembers canonical duplicates).Asks := by
  refine .bind (.all rfl rfl) fun found => ?_
  split
  · exact .throw _
  · split
    · exact .throw _
    · exact .pure _

theorem asks_openDuplicateGroup (canonical : Int) (createdBy : String) (now : Instant) :
    (openDuplicateGroup canonical createdBy now).Asks := by
  refine .bind (.first? rfl rfl) fun found => ?_
  split
  · exact .pure _
  · exact .bind (.one rfl rfl) fun group => .pure _

theorem asks_merge (canonical : Int) (duplicates : IdSet) (createdBy : String) (now : Instant) :
    (merge canonical duplicates createdBy now).Asks := by
  refine .bind (asks_lockMembers canonical duplicates) fun _ => ?_
  refine .bind (asks_openDuplicateGroup canonical createdBy now) fun _ => ?_
  exact .bind (.execute rfl rfl) fun _ => .bind (.execute rfl rfl) fun _ => .pure _

theorem asks_duplicateGroup? (id : Int) : (duplicateGroup? id).Asks := .first? rfl rfl

/-- Of a failure to read the log only the message is kept. -/
theorem asks_recordsFor (report : Int) : (log.recordsFor report).Asks :=
  .query rfl (fun _ => rfl) fun _ => rfl

/-! ## The calls of the service -/

section

open Recompute (service)

variable (settings : Settings)

theorem converses_record (fact : Fact) (actor : String) :
    ((service settings).record fact actor).Converses :=
  .offering (fact.entryBy actor)

theorem converses_recordStrength (recount : Recount) (report : Int) :
    ((service settings).recordStrength recount report).Converses := by
  rw [Service.recordStrength]
  split
  · exact converses_record settings _ _
  · exact .pure _

theorem converses_recordClassification (report group : Int) (classification : Classification) :
    ((service settings).recordClassification report group classification).Converses := by
  cases classification with
  | initial | nonQualifying => exact .pure _
  | countedSameReporter | countedDistinctReporter | ignoredSameDay =>
    exact converses_record settings _ _

theorem converses_recordMerged (canonical group : Int) (operator : String) (reports : List Int) :
    ((service settings).recordMerged canonical group operator reports).Converses := by
  induction reports with
  | nil => exact .pure _
  | cons report rest ih => exact .bind (converses_record settings _ _) fun _ => ih

theorem asks_recount (group : Int) (trigger : Option Int) (now : Instant) :
    ((service settings).recount group trigger now).Asks := by
  refine .bind (asks_group? group) fun found => .bind (.orElse _ _) fun before => ?_
  refine .bind (asks_reports rfl rfl) fun history => ?_
  exact .bind (asks_updateGroup _) fun _ => .pure _

theorem converses_recompute (group : Int) (now : Instant) :
    ((service settings).recompute group now).Converses := by
  refine .bind (.asks (asks_recount settings group none now)) fun recount => ?_
  split
  · exact .bind (converses_recordStrength settings recount _) fun _ => .pure _
  · exact .pure _

theorem asks_checkCells (point : Point) : ((service settings).checkCells point).Asks := by
  rw [Service.checkCells]
  split
  · exact .answer _
  · exact .pure _

theorem asks_chooseGroup [Trigonometry] (report : NewReport) :
    ((service settings).chooseGroup report).Asks := by
  refine .bind (.orElse _ _) fun matching => ?_
  refine .bind (asks_reports rfl rfl) fun candidates => ?_
  split
  · refine .bind (asks_group? _) fun found => ?_
    exact .bind (.orElse _ _) fun group => .pure _
  · exact .bind (asks_createGroup _ _) fun group => .pure _

theorem asks_suggestDuplicates [Trigonometry] (report : Report) (now : Instant) :
    ((service settings).suggestDuplicates report now).Asks := by
  refine .bind (.orElse _ _) fun search => ?_
  exact .bind (asks_reports rfl rfl) fun candidates => .orElse _ _

theorem converses_fileReport [Trigonometry] (new : NewReport) :
    ((service settings).fileReport new).Converses := by
  refine .bind (.asks (asks_checkCells settings _)) fun _ => ?_
  refine .bind (.asks (asks_chooseGroup settings new)) fun _ => ?_
  refine .bind (.asks (asks_insertReport new _)) fun report => ?_
  refine .bind (converses_record settings _ _) fun _ => ?_
  refine .bind (.asks (asks_recount settings _ _ _)) fun recount => ?_
  refine .bind (.asks (.orElse _ _)) fun classification => ?_
  refine .bind (converses_recordClassification settings _ _ _) fun _ => ?_
  refine .bind (converses_recordStrength settings _ _) fun _ => ?_
  exact .bind (.asks (asks_suggestDuplicates settings _ _)) fun suggestions => .pure _

theorem converses_updateStatus (report : Int) (next : Status) (actor : String) (now : Instant) :
    ((service settings).updateStatus report next actor now).Converses :=
  .bind (converses_changeStatus report next now) fun _ =>
    .bind (converses_record settings _ _) fun _ => .pure _

theorem converses_mergeDuplicates (canonical : Int) (duplicates : IdSet) (operator : String)
    (now : Instant) :
    ((service settings).mergeDuplicates canonical duplicates operator now).Converses := by
  rw [Service.mergeDuplicates]
  split
  · exact .asks (.throw _)
  · split
    · exact .asks (.throw _)
    · refine .bind (.transaction (asks_merge canonical duplicates operator now)) fun _ => ?_
      exact .bind (converses_recordMerged settings _ _ _ _) fun _ => .pure _

theorem asks_groupOf (report : Report) : ((service settings).groupOf report).Asks :=
  .bind (asks_group? _) fun _ => .orElse _ _

theorem asks_details (id : Int) : ((service settings).details id).Asks := by
  refine .bind (asks_report? id) fun found => .bind (.orElse _ _) fun report => ?_
  refine .bind (asks_groupOf settings report) fun group => ?_
  refine .bind (asks_reports rfl rfl) fun history => ?_
  refine .bind (asks_recordsFor id) fun records => .bind ?_ fun duplicates => .pure _
  rw [Service.duplicatesOf]
  split
  · exact asks_duplicateGroup? _
  · exact .pure _

theorem asks_views (known : List (Int × BikeGroup)) (reports : List Report) :
    ((service settings).views known reports).Asks := by
  induction reports generalizing known with
  | nil => exact .pure _
  | cons report rest ih =>
    rw [Service.views]
    split
    · exact .bind (ih known) fun views => .pure _
    · refine .bind (asks_groupOf settings report) fun group => ?_
      exact .bind (ih _) fun views => .pure _

theorem asks_operatorReports (filter : SignalFilter) :
    ((service settings).operatorReports filter).Asks := by
  refine .bind (asks_reports rfl rfl) fun reports => ?_
  exact .bind (asks_views settings [] reports) fun views => .pure _

/-- Every request is made of queries, transactions and offered entries. -/
theorem converses_serve [Trigonometry] (request : Request) :
    ((service settings).serve request).Converses := by
  cases request with
  | file new => exact .bind (converses_fileReport settings new) fun _ => .pure _
  | changeStatus report next actor now =>
    exact .bind (converses_updateStatus settings report next actor now) fun _ => .pure _
  | merge canonical duplicates operator now =>
    exact .bind (converses_mergeDuplicates settings canonical duplicates operator now) fun _ => .pure _
  | recompute group now => exact .bind (converses_recompute settings group now) fun _ => .pure _
  | details report => exact .bind (.asks (asks_details settings report)) fun _ => .pure _
  | list filter => exact .bind (.asks (asks_operatorReports settings filter)) fun _ => .pure _

variable {σ : Type} (server : Server σ) (state : σ)

theorem ended_serve [Trigonometry] (request : Request) :
    let transcript := ((service settings).serve request).run.hold server state
    Ended transcript.exchanges transcript.value :=
  (converses_serve settings request).ended (Dialogue.course_hold server _ state)

/-- A request fails for the first statement that is refused, and the failure is one that may go away if
and only if the statement was not to read the audit log. -/
theorem retryable_iff_of_refused [Trigonometry] (request : Request) (exchange : Exchange)
    (text : String)
    (sent : exchange ∈ (((service settings).serve request).run.hold server state).exchanges)
    (refused : exchange.reply = .error text) (needed : exchange.statement.isAppend = false)
    (listened : exchange.statement ≠ .rollback) :
    (((service settings).serve request).run.hold server state).value =
        .error (exchange.statement.refusal text) ∧
      ((exchange.statement.refusal text).isRetryable = true ↔ exchange.statement.readsLog = false) :=
  ⟨(ended_serve settings server state request).of_refused sent refused needed listened,
    exchange.statement.isRetryable_refusal text⟩

/-- The update of a status is refused in its transaction. -/
theorem retryable_iff_of_refused_update :
    let script : Script :=
      { replies := [.rows [[("status", .text "new")]], .error "deadlock detected"] }
    let request : Request := .changeStatus 1 .triaged "ops" default
    let transcript := ((service {}).serve request).run.hold Script.server script
    let exchange : Exchange := ⟨.setStatus 1 .triaged default, .error "deadlock detected"⟩
    (exchange ∈ transcript.exchanges ∧ exchange.reply = .error "deadlock detected" ∧
        exchange.statement.isAppend = false ∧ exchange.statement ≠ .rollback) ∧
      transcript.value = .error (.ofRefusal "deadlock detected") ∧
        (Failure.ofRefusal "deadlock detected").isRetryable = true := by
  intro script request transcript exchange
  have sent : exchange ∈ transcript.exchanges := by
    change exchange ∈ [(⟨.begin, .nothing⟩ : Exchange), _, exchange, ⟨.rollback, .nothing⟩]
    simp
  have ends := retryable_iff_of_refused {} Script.server script request exchange
    "deadlock detected" sent rfl rfl nofun
  exact ⟨⟨sent, rfl, rfl, nofun⟩, ends.1, ends.2.mpr rfl⟩

/-- The audit log of a report cannot be read, and the request for its details fails for good. -/
theorem details_not_retryable :
    let time := Json.text "2024-01-01T00:00:00Z"
    let report : Row := [("id", .int 1), ("public_id", .text "P0000001"), ("created_at", time),
      ("updated_at", time), ("status", .text "new"), ("lat", .int 52), ("lng", .int 5),
      ("accuracy_m", .int 5), ("tags", .array []), ("source", .text "web"),
      ("reporter_key", .text "user:1"), ("bike_group_id", .int 1)]
    let group : Row := [("id", .int 1), ("created_at", time), ("updated_at", time),
      ("anchor_lat", .int 52), ("anchor_lng", .int 5), ("last_report_at", time),
      ("total_reports", .int 1), ("unique_reporters", .int 1),
      ("same_reporter_reconfirmations", .int 0), ("distinct_reporter_reconfirmations", .int 0),
      ("signal_strength", .text "none")]
    let script : Script :=
      { replies := [.rows [report], .rows [group], .rows [report], .error "connection reset"] }
    let transcript := ((service {}).serve (.details 1)).run.hold Script.server script
    let failure := Failure.other "error returned from database: connection reset"
    (∃ before, transcript.exchanges =
        before ++ [⟨.eventsForReport 1, .error "connection reset"⟩] ∧
          ∀ exchange ∈ before, exchange.reply.isError = false) ∧
      transcript.value = .error failure ∧ failure.isRetryable = false := by
  refine ⟨⟨[⟨.reportById 1, .rows _⟩, ⟨.groupById 1, .rows _⟩, ⟨.reportsInGroup 1, .rows _⟩],
    rfl, ?_⟩, rfl, rfl⟩
  simp [Reply.isError]

/-- After a refused statement nothing is sent but the `ROLLBACK` of an open transaction, and the request
fails. What the database says to an entry of the audit log changes nothing. -/
theorem stops_when_refused [Trigonometry] (request : Request) :
    let call := ((service settings).serve request).run
    let transcript := call.hold server state
    (∀ before exchange after, transcript.exchanges = before ++ exchange :: after →
        exchange.reply.isError = true → exchange.statement.isAppend = false →
          (∃ failure, transcript.value = .error failure) ∧
            Closing (inTransaction (before ++ [exchange])) after) ∧
      ∀ answer : σ → AuditEntry → Reply,
        let other := call.hold (server.answering answer) state
        other.value = transcript.value ∧
          List.Forall₂ Exchange.SameButAppend transcript.exchanges other.exchanges := by
  intro call transcript
  refine ⟨?_, ?_⟩
  · intro before exchange after split refused needed
    exact (ended_serve settings server state request).of_split split refused needed
  · exact fun answer =>
      (converses_serve settings request).heedless.hold_answering server answer state

end

end Database

end AbandonedBikes
