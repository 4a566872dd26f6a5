import AbandonedBikes.Audit.Fact
/-!
# Entries of the audit log

The caller says what to record; the log adds a sequence number and a time. The payload of an entry
is any JSON value, which need not be a fact.
-/

namespace AbandonedBikes

/-- An entry that is to be recorded. -/
structure AuditEntry where
  eventType : String
  report : Int
  payload : Json
  actor : Option String := none
  schemaVersion : Int := 1
deriving Inhabited

/-- An entry as the log keeps it. -/
structure AuditRecord where
  seq : Int
  time : Instant
  eventType : String
  report : Int
  actor : Option String
  payload : Json
  schemaVersion : Int
deriving Inhabited

/-- The entry for a fact, of which nobody is yet named as the actor. -/
def Fact.entry (fact : Fact) : AuditEntry where
  eventType := fact.eventType
  report := fact.report
  payload := fact.toPayload

/-- The entry for a fact that somebody brought about. -/
def Fact.entryBy (fact : Fact) (actor : String) : AuditEntry :=
  { fact.entry with actor := some actor }

namespace AuditEntry

def toJson (entry : AuditEntry) : Json :=
  .object [("event_type", .text entry.eventType), ("report_id", .int entry.report),
    ("payload", entry.payload), ("actor", Json.ofOption Json.text entry.actor),
    ("schema_v", .int entry.schemaVersion)]

/-- The entry as it is recorded. -/
def record (entry : AuditEntry) (seq : Int) (time : Instant) : AuditRecord where
  seq := seq
  time := time
  eventType := entry.eventType
  report := entry.report
  actor := entry.actor
  payload := entry.payload
  schemaVersion := entry.schemaVersion

end AuditEntry

namespace AuditRecord

/-- The fact in the payload, if it is one. -/
def fact? (record : AuditRecord) : Option Fact := Fact.ofPayload? record.payload

def fieldNames : List String :=
  ["seq", "ts", "event_type", "report_id", "actor", "payload", "schema_v"]

def toJson (record : AuditRecord) : Json :=
  .object [("seq", .int record.seq), ("ts", Json.ofInstant record.time),
    ("event_type", .text record.eventType), ("report_id", .int record.report),
    ("actor", Json.ofOption Json.text record.actor), ("payload", record.payload),
    ("schema_v", .int record.schemaVersion)]

/-- The payload may be any value, but has to be there. -/
def ofJson? (value : Json) : Option AuditRecord := do
  let fields ← Fields.of? fieldNames value
  let seq ← fields.required? "seq" Json.id?
  let time ← fields.required? "ts" Json.instant?
  let eventType ← fields.required? "event_type" Json.text?
  let report ← fields.required? "report_id" Json.id?
  let actor ← fields.optional? "actor" Json.text?
  let payload ← fields.required? "payload" some
  let schemaVersion ← fields.required? "schema_v" (Json.int? Literal.signed16)
  some { seq, time, eventType, report, actor, payload, schemaVersion }

end AuditRecord

end AbandonedBikes
