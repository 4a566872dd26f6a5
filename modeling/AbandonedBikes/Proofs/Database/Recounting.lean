import AbandonedBikes.Proofs.Database.Columns
import AbandonedBikes.Proofs.Database.Course
import AbandonedBikes.Recompute.Command
/-!
# A recount in the database

A recount reads the row of the group and the rows of its reports, and then writes what a replay of these
reports yields. Whatever the database answers, an update is sent only after both could be read, and it
holds nothing else. Entries of the audit log come after it and are not updates.
-/

namespace AbandonedBikes

/-- The first row of the reply holds the bike group. -/
def Reply.Finds (reply : Reply) (group : BikeGroup) : Prop :=
  ∃ row others columns, reply = .rows (row :: others) ∧ GroupRow.decode row = .ok columns ∧
    columns.toGroup = .ok group

/-- The rows of the reply hold the reports, each in its place. -/
def Reply.Lists (reply : Reply) (reports : List Report) : Prop :=
  ∃ rows, reply.rows? = .ok rows ∧ List.Forall₂ (fun row report =>
    ∃ columns, ReportRow.decode row = .ok columns ∧ columns.toReport = .ok report) rows reports

/-- What the update of a group binds for the evidence about it. A counter is cut off at the largest number
that its column can hold, and without a report the time of the last one stays. -/
def Evidence.bound (evidence : Evidence) (before : BikeGroup) (now : Instant) : List Parameter :=
  [.int before.id, .ofInstant now, .ofInstant (evidence.lastReportAt.getD before.lastReportAt),
    .int (cutCounter evidence.totalReports), .int (cutCounter evidence.uniqueReporters),
    .int (cutCounter evidence.sameReporter), .int (cutCounter evidence.distinctReporter),
    .ofOption .ofInstant evidence.firstQualifyingAt, .ofOption .ofInstant evidence.lastQualifyingAt,
    .text evidence.strength.name]

/-- The statement writes what a replay yields of the reports that the database has given for the
group. -/
def Statement.Replays (statement : Statement) (settings : Settings) (group : Int) (now : Instant)
    (exchanges : List Exchange) : Prop :=
  ∃ found listed before history,
    ⟨.groupById group, found⟩ ∈ exchanges ∧ found.Finds before ∧
    ⟨.reportsInGroup group, listed⟩ ∈ exchanges ∧ listed.Lists history ∧
    statement.parameters = (settings.replayRules.replay history).bound before now

namespace Database

variable {exchanges : List Exchange}

theorem of_course_group?_some {id : Int} {group : BikeGroup}
    (course : (group? id).run.Course exchanges (.ok (some group))) :
    ∃ reply, exchanges = [⟨.groupById id, reply⟩] ∧ reply.Finds group := by
  obtain ⟨failure, -, failed⟩ | ⟨columns?, _, _, asked, taken, rfl⟩ := Attempt.course_bind.mp course
  · injection failed
  obtain ⟨rfl, checked⟩ := Attempt.course_ofExcept.mp taken
  obtain ⟨reply, -, rfl, rfl⟩ | ⟨row, others, columns, decoded, rfl, rfl⟩ :=
    Query.of_course_first?_ok asked
  · injection checked with same
    injection same
  · obtain ⟨found, known, same⟩ := of_bind_ok checked.symm
    injection same with same
    injection same with same
    exact ⟨_, rfl, row, others, columns, rfl, decoded, same ▸ known⟩

theorem of_course_reports_ok {statement : Statement} {history : List Report}
    (course : (reports statement).run.Course exchanges (.ok history)) :
    ∃ reply, exchanges = [⟨statement, reply⟩] ∧ reply.Lists history := by
  obtain ⟨reply, rfl, answered⟩ := Query.of_course_checked course
  obtain ⟨columns, read, taken⟩ := of_bind_ok answered.symm
  obtain ⟨rows, given, decoded⟩ := of_bind_ok (Query.of_answer_ok read)
  exact ⟨reply, rfl, rows, given, forall₂_comp (forall₂_of_mapM decoded) (forall₂_of_mapM taken)⟩

open Recompute (service)

variable {settings : Settings} {group : Int} {now : Instant}

/-- Writing a group is one update. -/
theorem of_course_updateGroup {group : BikeGroup} {result : Except Failure Unit}
    (course : (updateGroup group).run.Course exchanges result) :
    ∃ reply, exchanges = [⟨.updateGroup group, reply⟩] := by
  obtain ⟨failure, writing, -⟩ | ⟨count, _, _, writing, counting, rfl⟩ :=
    Attempt.course_bind.mp course
  · obtain ⟨reply, rfl, -⟩ := Query.course_sending.mp writing
    exact ⟨reply, rfl⟩
  · obtain ⟨reply, rfl, -⟩ := Query.course_sending.mp writing
    split at counting
    · obtain ⟨rfl, -⟩ := Attempt.course_throw.mp counting
      exact ⟨reply, rfl⟩
    · obtain ⟨rfl, -⟩ := Attempt.course_pure.mp counting
      exact ⟨reply, rfl⟩

theorem replays_of_course_recount {trigger : Option Int} {result : Except Failure Recount}
    (course : ((service settings).recount group trigger now).run.Course exchanges result)
    {after : BikeGroup} {reply : Reply} (sent : ⟨.updateGroup after, reply⟩ ∈ exchanges) :
    (Statement.updateGroup after).Replays settings group now exchanges := by
  obtain ⟨failure, finding, -⟩ | ⟨group?, _, _, finding, checking, rfl⟩ :=
    Attempt.course_bind.mp course
  · obtain ⟨found, rfl, -⟩ := Query.of_course_checked finding
    simp at sent
  obtain ⟨failure, there, -⟩ | ⟨before, _, _, there, reading, rfl⟩ :=
    Attempt.course_bind.mp checking
  · obtain ⟨found, rfl, -⟩ := Query.of_course_checked finding
    obtain ⟨rfl, -⟩ := Attempt.course_orElse.mp there
    simp at sent
  obtain ⟨rfl, is_there⟩ := Attempt.course_orElse.mp there
  obtain rfl : group? = some before := by cases group? <;> cases is_there; rfl
  obtain ⟨found, rfl, finds⟩ := of_course_group?_some finding
  obtain ⟨failure, listing, -⟩ | ⟨history, _, _, listing, updating, rfl⟩ :=
    Attempt.course_bind.mp reading
  · obtain ⟨listed, rfl, -⟩ := Query.of_course_checked listing
    simp at sent
  obtain ⟨listed, rfl, lists⟩ := of_course_reports_ok listing
  obtain ⟨_, writing⟩ := Attempt.of_course_bind_pure updating
  obtain ⟨written, rfl⟩ := of_course_updateGroup writing
  obtain ⟨rfl, -⟩ : after = _ ∧ reply = written := by simpa using sent
  exact ⟨found, listed, before, history, by simp, finds, by simp, lists, rfl⟩

/-- What follows a recount that was asked for are entries of the audit log. -/
theorem appends_of_course_recordStrength {recount : Recount} {report : Int}
    {result : Except Failure Unit}
    (course : ((service settings).recordStrength recount report).run.Course exchanges result) :
    ∀ exchange ∈ exchanges, ∃ entry, exchange.statement = .appendEvent entry := by
  rw [Service.recordStrength] at course
  split at course
  · obtain ⟨reply, _, rfl, ending⟩ := Dialogue.course_ask.mp course
    obtain ⟨rfl, -⟩ := Dialogue.course_done.mp ending
    intro exchange member
    obtain rfl := List.mem_singleton.mp member
    exact ⟨_, rfl⟩
  · obtain ⟨rfl, -⟩ := Attempt.course_pure.mp course
    exact List.forall_mem_nil _

/-- The update of a recount that was asked for writes what a replay yields. -/
theorem replays_of_course_recompute {result : Except Failure Recount}
    (course : ((service settings).recompute group now).run.Course exchanges result)
    {after : BikeGroup} {reply : Reply} (sent : ⟨.updateGroup after, reply⟩ ∈ exchanges) :
    (Statement.updateGroup after).Replays settings group now exchanges := by
  obtain ⟨failure, recounting, -⟩ | ⟨recount, first, rest, recounting, recording, rfl⟩ :=
    Attempt.course_bind.mp course
  · exact replays_of_course_recount recounting sent
  · have appends : ∀ exchange ∈ rest, ∃ entry, exchange.statement = .appendEvent entry := by
      dsimp only at recording
      split at recording
      · obtain ⟨_, course⟩ := Attempt.of_course_bind_pure recording
        exact appends_of_course_recordStrength course
      · obtain ⟨rfl, -⟩ := Attempt.course_pure.mp recording
        exact List.forall_mem_nil _
    rcases List.mem_append.mp sent with sent | sent
    · obtain ⟨found, listed, before, history, read, finds, read_too, lists, bound⟩ :=
        replays_of_course_recount recounting sent
      exact ⟨found, listed, before, history, List.mem_append_left _ read, finds,
        List.mem_append_left _ read_too, lists, bound⟩
    · obtain ⟨entry, append⟩ := appends _ sent
      cases append

end Database

end AbandonedBikes
