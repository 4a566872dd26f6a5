import AbandonedBikes.Attempt
import AbandonedBikes.Audit.Entry
/-!
# Audit logs

A log takes entries and gives back the records of a report. How a log behaves is described by
functions on its state: one keeps its records in memory, another refuses every entry.
-/

namespace AbandonedBikes

/-- The calls of an audit log whose effects are those of `m`. -/
structure AuditLog (m : Type → Type) where
  append : AuditEntry → Attempt m AuditRecord
  /-- The records of a report in the order in which they were made. -/
  recordsFor : Int → Attempt m (List AuditRecord)

/-- The log beside a state that it does not touch. -/
def AuditLog.beside (σ : Type) {m : Type → Type} [Monad m] (log : AuditLog m) :
    AuditLog (StateT σ m) where
  append entry := (log.append entry).beside σ
  recordsFor report := (log.recordsFor report).beside σ

/-- How a log with states of type `σ` answers. -/
structure AuditBehaviour (σ : Type) where
  append : σ → AuditEntry → Except Failure AuditRecord × σ
  recordsFor : σ → Int → Except Failure (List AuditRecord) × σ

/-- The log of a behaviour, which carries its state along. -/
def AuditBehaviour.log {σ : Type} (behaviour : AuditBehaviour σ) {m : Type → Type} [Monad m] :
    AuditLog (StateT σ m) where
  append entry := ExceptT.mk fun state => pure (behaviour.append state entry)
  recordsFor report := ExceptT.mk fun state => pure (behaviour.recordsFor state report)

@[simp] theorem AuditBehaviour.run_append {σ : Type} (behaviour : AuditBehaviour σ)
    {m : Type → Type} [Monad m] (entry : AuditEntry) (state : σ) :
    ((behaviour.log : AuditLog (StateT σ m)).append entry).run.run state =
      pure (behaviour.append state entry) :=
  rfl

/-- A log kept in memory. -/
structure MemoryLog where
  /-- The time that the next record gets. -/
  clock : Instant := .atSecond 0
  nextSeq : Int := 1
  records : List AuditRecord := []
deriving Inhabited

namespace MemoryLog

/-- Records an entry under the next sequence number. -/
def append (log : MemoryLog) (entry : AuditEntry) : AuditRecord × MemoryLog :=
  let record := entry.record log.nextSeq log.clock
  (record, { log with nextSeq := log.nextSeq + 1, records := log.records ++ [record] })

def recordsFor (log : MemoryLog) (report : Int) : List AuditRecord :=
  log.records.filter fun record => record.report == report

def recordsOfType (log : MemoryLog) (eventType : String) : List AuditRecord :=
  log.records.filter fun record => record.eventType == eventType

/-- The types of the records of a report in order. -/
def typesFor (log : MemoryLog) (report : Int) : List String :=
  (log.recordsFor report).map AuditRecord.eventType

/-- How the log answers. It takes every entry. -/
def behaviour : AuditBehaviour MemoryLog where
  append log entry := let (record, log) := log.append entry; (.ok record, log)
  recordsFor log report := (.ok (log.recordsFor report), log)

end MemoryLog

/-- A log that is down: it takes no entry and has none. -/
def unavailableLog : AuditBehaviour Unit where
  append _ entry := (.error (.other ("audit log unavailable for " ++ entry.eventType)), ())
  recordsFor _ _ := (.ok [], ())

end AbandonedBikes
