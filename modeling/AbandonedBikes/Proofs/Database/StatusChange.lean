import AbandonedBikes.Database.Store
import AbandonedBikes.Proofs.Database.Course
/-!
# A change of status in the database

A change of status runs in a transaction, and the row that it returns is taken as a report only when
the transaction is over. So the call may fail although `COMMIT` was acknowledged. It does so if and
only if the row returned holds a word outside its vocabulary; every other failure is one of a
transaction that was not committed.
-/

namespace AbandonedBikes

theorem unreadable_of_checkedWord {α : Type} {word : Except UnknownWord α} {failure : Failure}
    (h : checkedWord word = .error failure) : failure = unreadableRow := by
  cases word with
  | error unknown =>
    injection h with same
    exact same.symm
  | ok value => injection h

/-- A row that is no report is unreadable. -/
theorem ReportRow.unreadable_of_toReport {row : ReportRow} {failure : Failure}
    (h : row.toReport = .error failure) : failure = unreadableRow := by
  rcases of_bind_error h with status | ⟨status, _, h⟩
  · exact unreadable_of_checkedWord status
  rcases of_bind_error h with source | ⟨source, _, h⟩
  · exact unreadable_of_checkedWord source
  rcases of_bind_error h with reporter | ⟨reporter, _, h⟩
  · exact unreadable_of_checkedWord reporter
  · injection h

namespace Database

variable {id : Int} {next : Status} {now : Instant} {exchanges : List Exchange}

/-- The courses of a change of status up to the end of its transaction. -/
inductive StatusMoved (id : Int) (next : Status) (now : Instant) :
    List Exchange → Except Failure (Status × ReportRow) → Prop
  | denied (locked : Reply) (failure : Failure) :
    StatusMoved id next now [⟨.lockStatus id, locked⟩] (.error failure)
  | failed (locked moved : Reply) (error : QueryError) :
    StatusMoved id next now [⟨.lockStatus id, locked⟩, ⟨.setStatus id next now, moved⟩]
      (.error (.database error.message))
  | moved (locked : Reply) (previous : Status) {cells : Row} {others : List Row} {row : ReportRow}
      (taken : ReportRow.decode cells = .ok row) :
    StatusMoved id next now
      [⟨.lockStatus id, locked⟩, ⟨.setStatus id next now, .rows (cells :: others)⟩]
      (.ok (previous, row))

theorem of_course_moveStatus {result : Except Failure (Status × ReportRow)}
    (course : (moveStatus id next now).run.Course exchanges result) :
    StatusMoved id next now exchanges result := by
  obtain ⟨failure, locking, rfl⟩ | ⟨word?, _, _, locking, finding, rfl⟩ :=
    Attempt.course_bind.mp course
  · obtain ⟨locked, rfl, -⟩ := Query.course_sending.mp locking
    exact .denied locked failure
  obtain ⟨locked, rfl, -⟩ := Query.course_sending.mp locking
  obtain ⟨failure, found, rfl⟩ | ⟨word, _, _, found, checking, rfl⟩ :=
    Attempt.course_bind.mp finding
  · obtain ⟨rfl, -⟩ := Attempt.course_orElse.mp found
    exact .denied locked failure
  obtain ⟨rfl, -⟩ := Attempt.course_orElse.mp found
  obtain ⟨failure, known, rfl⟩ | ⟨previous, _, _, known, changing, rfl⟩ :=
    Attempt.course_bind.mp checking
  · obtain ⟨rfl, -⟩ := Attempt.course_ofExcept.mp known
    exact .denied locked failure
  obtain ⟨rfl, -⟩ := Attempt.course_ofExcept.mp known
  split at changing
  next =>
    obtain ⟨failure, moving, rfl⟩ | ⟨row, _, _, moving, ending, rfl⟩ :=
      Attempt.course_bind.mp changing
    · obtain ⟨moved, error, -, rfl, rfl⟩ := Query.of_course_one_error moving
      exact .failed locked moved error
    · obtain ⟨cells, others, taken, rfl⟩ := Query.of_course_one_ok moving
      obtain ⟨rfl, rfl⟩ := Attempt.course_pure.mp ending
      exact .moved locked previous taken
  next =>
    obtain ⟨rfl, rfl⟩ := Attempt.course_throw.mp changing
    exact .denied locked _

/-- The update of a status has returned the row. -/
def Returned (id : Int) (next : Status) (now : Instant) (exchanges : List Exchange)
    (row : ReportRow) : Prop :=
  ∃ cells others, ⟨.setStatus id next now, .rows (cells :: others)⟩ ∈ exchanges ∧
    ReportRow.decode cells = .ok row

namespace StatusMoved

variable {result : Except Failure (Status × ReportRow)}

/-- `COMMIT` is left to the transaction. -/
theorem not_commit (moved : StatusMoved id next now exchanges result) (reply : Reply) :
    ⟨.commit, reply⟩ ∉ exchanges := by
  cases moved <;> simp

/-- What the update has returned was not rejected as unreadable. -/
theorem not_unreadable (moved : StatusMoved id next now exchanges result) {reply : Reply}
    (sent : ⟨.setStatus id next now, reply⟩ ∈ exchanges) : result ≠ .error unreadableRow := by
  cases moved with
  | denied locked failure => simp at sent
  | failed locked moved error => simp [unreadableRow]
  | moved locked previous taken => simp

end StatusMoved

/-- The transaction does not fail for an unreadable row once the update has returned a row. -/
theorem not_unreadable_of_returned {failure : Failure} {row : ReportRow}
    (transacted : Transacted (moveStatus id next now) exchanges (.error failure))
    (returned : Returned id next now exchanges row) : failure ≠ unreadableRow := by
  obtain ⟨cells, others, sent, _⟩ := returned
  cases transacted with
  | refused text => simp [Failure.ofRefusal, unreadableRow]
  | uncommitted text opened course => simp [Failure.ofRefusal, unreadableRow]
  | abandoned opened course =>
    rintro rfl
    exact (of_course_moveStatus course).not_unreadable (by simpa using sent) rfl

/-- A transaction that has given a row has it from the update. -/
theorem returned_of_transacted {previous : Status} {row : ReportRow}
    (transacted : Transacted (moveStatus id next now) exchanges (.ok (previous, row))) :
    Returned id next now exchanges row := by
  cases transacted with
  | committed opened course acknowledged =>
    cases of_course_moveStatus course with
    | @moved locked _ cells others _ taken => exact ⟨cells, others, by simp, taken⟩

/-- A change of status is its transaction, and then the row is taken as a report. -/
theorem of_course_changeStatus {result : Except Failure StatusChange}
    (course : (changeStatus id next now).run.Course exchanges result) :
    (∃ failure, Transacted (moveStatus id next now) exchanges (.error failure) ∧
        result = .error failure) ∨
      ∃ previous row, Transacted (moveStatus id next now) exchanges (.ok (previous, row)) ∧
        result = (row.toReport.map fun report => ⟨previous, report⟩) := by
  obtain ⟨failure, transacted, rfl⟩ | ⟨⟨previous, row⟩, _, _, transacted, taking, rfl⟩ :=
    Attempt.course_bind.mp course
  · exact .inl ⟨failure, of_course_transaction transacted, rfl⟩
  refine .inr ⟨previous, row, ?_⟩
  obtain ⟨failure, taken, rfl⟩ | ⟨report, _, _, taken, ending, rfl⟩ :=
    Attempt.course_bind.mp taking
  · obtain ⟨rfl, read⟩ := Attempt.course_ofExcept.mp taken
    rw [← read, List.append_nil]
    exact ⟨of_course_transaction transacted, rfl⟩
  · obtain ⟨rfl, read⟩ := Attempt.course_ofExcept.mp taken
    obtain ⟨rfl, rfl⟩ := Attempt.course_pure.mp ending
    rw [← read, List.append_nil, List.append_nil]
    exact ⟨of_course_transaction transacted, rfl⟩

theorem committed_iff_of_course {result : Except Failure StatusChange}
    (course : (changeStatus id next now).run.Course exchanges result) :
    Committed exchanges ↔ (∃ change, result = .ok change) ∨
      (result = .error unreadableRow ∧
        ∃ row, Returned id next now exchanges row ∧ row.toReport = .error unreadableRow) := by
  have leaves (said : List Exchange) (answer : Except Failure (Status × ReportRow))
      (course : (moveStatus id next now).run.Course said answer) :=
    (of_course_moveStatus course).not_commit
  obtain ⟨failure, transacted, rfl⟩ | ⟨previous, row, transacted, rfl⟩ :=
    of_course_changeStatus course
  · rw [transacted.committed_iff leaves]
    constructor
    · rintro ⟨_, ⟨⟩⟩
    · rintro (⟨_, ⟨⟩⟩ | ⟨unreadable, row, returned, _⟩)
      injection unreadable with unreadable
      exact absurd unreadable (not_unreadable_of_returned transacted returned)
  · rw [transacted.committed_iff leaves]
    refine iff_of_true ⟨_, rfl⟩ ?_
    cases read : row.toReport with
    | ok report => exact .inl ⟨_, rfl⟩
    | error failure =>
      obtain rfl := ReportRow.unreadable_of_toReport read
      exact .inr ⟨rfl, row, returned_of_transacted transacted, read⟩

/-- `COMMIT` is acknowledged if and only if the status is reported as changed, or the row that the
update has returned holds a word outside its vocabulary and the call fails for that. -/
theorem committed_changeStatus_iff {σ : Type} (server : Server σ) (state : σ) (id : Int)
    (next : Status) (now : Instant) :
    let transcript := (store.changeStatus id next now).run.hold server state
    Committed transcript.exchanges ↔ (∃ change, transcript.value = .ok change) ∨
      (transcript.value = .error unreadableRow ∧ ∃ row,
        Returned id next now transcript.exchanges row ∧ row.toReport = .error unreadableRow) :=
  committed_iff_of_course (Dialogue.course_hold server _ state)

/-- A report from a source that is not known becomes triaged, and the call fails. -/
theorem committed_changeStatus_unknown_source :
    let cells : Row := [("id", .int 1), ("public_id", .text "P0000001"),
      ("created_at", .text "2024-01-01T00:00:00Z"), ("updated_at", .text "2024-01-02T00:00:00Z"),
      ("status", .text "triaged"), ("lat", .int 52), ("lng", .int 5), ("accuracy_m", .int 5),
      ("tags", .array []), ("source", .text "fax"), ("reporter_key", .text "user:1"),
      ("bike_group_id", .int 1)]
    let script : Script := { replies := [.rows [[("status", .text "new")]], .rows [cells]] }
    let transcript := (store.changeStatus 1 .triaged default).run.hold Script.server script
    transcript.value = .error unreadableRow ∧ Committed transcript.exchanges := by
  intro cells script transcript
  refine ⟨by rfl, .nothing, ?_, rfl⟩
  change _ ∈ [(⟨.begin, .nothing⟩ : Exchange), _, _, ⟨.commit, .nothing⟩]
  simp

end Database

end AbandonedBikes
