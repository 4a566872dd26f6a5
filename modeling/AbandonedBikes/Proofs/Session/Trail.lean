import Mathlib.Data.List.Forall2
import AbandonedBikes.Proofs.Audit.Payload
import AbandonedBikes.Proofs.Session.Basic
/-!
# What a session records

A log in memory takes every entry, so after a session it holds the facts of all turns in order and
nothing else. `Session.of_trail` is the induction for properties that join the tables with the log: it
goes over the turns of the session and keeps the list of the facts recorded so far.
-/

namespace AbandonedBikes

namespace MemoryLog

/-- The records of the log are about some facts, one by one. -/
def Holds (log : MemoryLog) (facts : List Fact) : Prop :=
  List.Forall₂ AuditRecord.Tells log.records facts

theorem onlyReads : behaviour.OnlyReads := fun _ _ => rfl

/-- Every fact that the log is offered is recorded. -/
theorem Holds.noting {log : MemoryLog} {facts : List Fact} (holds : log.Holds facts)
    (notes : List Note) :
    (behaviour.noting log notes).Holds (facts ++ notes.map Note.fact) := by
  induction notes generalizing log facts with
  | nil =>
    rw [List.map_nil, List.append_nil]
    exact holds
  | cons note rest ih =>
    have one : (log.append (note.fact.entryBy note.actor)).2.Holds (facts ++ [note.fact]) :=
      List.rel_append holds (.cons (AuditRecord.tells_record note.fact note.actor _ _) .nil)
    have all := ih one
    rwa [List.append_assoc] at all

/-- The records of the log are numbered upwards, and the next number is free. -/
def Sequential (log : MemoryLog) : Prop :=
  Ascending (log.records.map AuditRecord.seq) (log.nextSeq - 1)

theorem Sequential.noting {log : MemoryLog} (sequential : log.Sequential) (notes : List Note) :
    (behaviour.noting log notes).Sequential := by
  induction notes generalizing log with
  | nil => exact sequential
  | cons note rest ih =>
    apply ih
    have appended := Ascending.concat sequential
    rw [Int.sub_add_cancel] at appended
    change Ascending ((log.records ++ [_]).map AuditRecord.seq) (log.nextSeq + 1 - 1)
    rw [List.map_append, Int.add_sub_cancel]
    exact appended

/-- A fact that is told once has exactly one record. -/
theorem existsUnique_tells {records : List AuditRecord} {facts : List Fact}
    (told : List.Forall₂ AuditRecord.Tells records facts) (once : facts.Nodup) {fact : Fact}
    (member : fact ∈ facts) : ∃! i : Fin records.length, records[i].Tells fact := by
  obtain ⟨i, bound, rfl⟩ := List.getElem_of_mem member
  have length := told.length_eq
  refine ⟨⟨i, by omega⟩, told.get (by omega) bound, ?_⟩
  intro j tells
  have told_at_j := told.get j.isLt (by omega)
  have same := told_at_j.unique tells
  exact Fin.ext ((once.getElem_inj_iff).mp same)

/-- Every record is about one of the facts, and about no other fact. -/
theorem existsUnique_told {records : List AuditRecord} {facts : List Fact}
    (told : List.Forall₂ AuditRecord.Tells records facts) {record : AuditRecord}
    (member : record ∈ records) : ∃! fact, record.Tells fact ∧ fact ∈ facts := by
  obtain ⟨i, bound, rfl⟩ := List.getElem_of_mem member
  have length := told.length_eq
  have tells := told.get bound (by omega)
  exact ⟨_, ⟨tells, List.getElem_mem _⟩, fun other also => also.1.unique tells⟩

/-- The records of one type are about the facts of this type. -/
theorem Holds.ofType {log : MemoryLog} {facts : List Fact} (holds : log.Holds facts)
    (eventType : String) :
    List.Forall₂ AuditRecord.Tells (log.recordsOfType eventType)
      (facts.filter fun fact => fact.eventType == eventType) := by
  refine List.rel_filter ?_ holds
  intro record fact tells
  simp only [tells.eventType]

end MemoryLog

namespace Session

variable (settings : Settings) (log : MemoryLog)

/-- What holds of empty tables and an empty log, and is kept by every turn, holds after every session. -/
theorem of_trail [Trigonometry] {P : Tables → List Served → List Fact → Prop} (empty : log.records = [])
    (start : P {} [] [])
    (step : ∀ tables served facts request result notes after, P tables served facts →
      Turn settings tables request result notes after →
        P after (served ++ [⟨request, result⟩]) (facts ++ notes.map Note.fact))
    (requests : List Request) :
    ∃ facts, (of MemoryLog.behaviour settings log requests).world.log.Holds facts ∧
      P (of MemoryLog.behaviour settings log requests).tables
        (of MemoryLog.behaviour settings log requests).served facts := by
  induction requests using List.reverseRecOn with
  | nil =>
    refine ⟨[], ?_, start⟩
    change List.Forall₂ AuditRecord.Tells log.records []
    rw [empty]
    exact .nil
  | append_singleton earlier request ih =>
    obtain ⟨facts, holds, kept⟩ := ih
    obtain ⟨notes, turn, recorded⟩ := Service.serve_turn MemoryLog.behaviour settings
      (of MemoryLog.behaviour settings log earlier).world request
    rw [of_concat]
    refine ⟨facts ++ notes.map Note.fact, ?_, step _ _ _ _ _ _ _ kept turn⟩
    have taken := holds.noting notes
    rw [← recorded MemoryLog.onlyReads] at taken
    exact taken

end Session

end AbandonedBikes
