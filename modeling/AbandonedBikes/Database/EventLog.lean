import AbandonedBikes.Audit.Log
import AbandonedBikes.Database.Store
/-!
# The audit log over a database

Rows of the log are only ever added. Nobody acts on a failure of the log, so of each failure only a
message is kept.
-/

namespace AbandonedBikes.Database

/-- Creates the table of the log. -/
def migrateEvents : Attempt Dialogue Unit :=
  (migrate SchemaStep.forEvents).failing fun _ => .other "report_events migration failed"

/-- The failure of an entry that the database has not taken. -/
def notAppended (entry : AuditEntry) : Failure :=
  .other ("append " ++ entry.eventType ++ " for report " ++ toString entry.report)

def appendEvent (entry : AuditEntry) : Attempt Dialogue AuditRecord :=
  (Query.one (.appendEvent entry) AuditRecord.decode).failing fun _ => notAppended entry

/-- The records that a statement gives. -/
def events (statement : Statement) : Attempt Dialogue (List AuditRecord) :=
  (Query.all statement AuditRecord.decode).failing fun error => .other error.message

/-- The records of a type from a sequence number on, up to a limit. -/
def eventsByType (eventType : String) (start : Int) (limit : Nat) :
    Attempt Dialogue (List AuditRecord) :=
  events (.eventsByType eventType start limit)

/-- The log that keeps its records in the database. -/
def log : AuditLog Dialogue where
  append := appendEvent
  recordsFor report := events (.eventsForReport report)

end AbandonedBikes.Database
