import AbandonedBikes.Audit.Entry
import AbandonedBikes.Database.Reply
import AbandonedBikes.Failure
import AbandonedBikes.Group.BikeGroup
import AbandonedBikes.Group.DuplicateGroup
import AbandonedBikes.Wire.Report
import AbandonedBikes.Report.Report
/-!
# Rows of reports and groups

A row is read in two steps. First every column is taken in the type that the table gives it; a null
where the table has none is an error of the query. Then words and keys are checked, and a row that
holds one outside its vocabulary is unreadable. Counters that are negative count as zero.
-/

namespace AbandonedBikes

/-- The failure of a row that holds a word outside its vocabulary. -/
def unreadableRow : Failure := .other "unreadable row"

/-- A word of a row that has been checked. -/
def checkedWord {α : Type} (word : Except UnknownWord α) : Except Failure α :=
  word.mapError fun _ => unreadableRow

namespace Row

/-- A time in the precision of the database. -/
def instant? (value : Json) : Option Instant := (Json.instant? value).map Instant.inMicros

/-- A counter column. -/
def count? : Json → Option Int := Json.int? Literal.signed32

end Row

/-- A row of the table of reports. -/
structure ReportRow where
  id : Int
  publicId : String
  createdAt : Instant
  updatedAt : Instant
  status : String
  lat : Float
  lng : Float
  accuracy : Float
  tags : List String
  note : Option String
  source : String
  reporterKey : String
  bikeGroup : Int
  duplicateGroup : Option Int
deriving Inhabited

namespace ReportRow

/-- Takes the columns of a row. -/
def decode (row : Row) : Except QueryError ReportRow := do
  let id ← row.required "id" Json.id?
  let publicId ← row.required "public_id" Json.text?
  let createdAt ← row.required "created_at" Row.instant?
  let updatedAt ← row.required "updated_at" Row.instant?
  let status ← row.required "status" Json.text?
  let lat ← row.required "lat" Json.double?
  let lng ← row.required "lng" Json.double?
  let accuracy ← row.required "accuracy_m" Json.double?
  let tags ← row.required "tags" (Json.list? Json.text?)
  let note := row.optional? "note" Json.text?
  let source ← row.required "source" Json.text?
  let reporterKey ← row.required "reporter_key" Json.text?
  let bikeGroup ← row.required "bike_group_id" Json.id?
  let duplicateGroup := row.optional? "dedupe_group_id" Json.id?
  return { id, publicId, createdAt, updatedAt, status, lat, lng, accuracy, tags, note, source,
           reporterKey, bikeGroup, duplicateGroup }

/-- The report in a row. -/
def toReport (row : ReportRow) : Except Failure Report := do
  let status ← checkedWord (Status.read row.status)
  let source ← checkedWord (Source.read row.source)
  let reporter ← checkedWord (Reporter.ofKey row.reporterKey)
  return { row with
    status, source, reporter
    location := ⟨row.lat, row.lng, row.accuracy⟩ }

end ReportRow

/-- A row of the table of bike groups. -/
structure GroupRow where
  id : Int
  createdAt : Instant
  updatedAt : Instant
  anchorLat : Float
  anchorLng : Float
  lastReportAt : Instant
  totalReports : Int
  uniqueReporters : Int
  sameReporter : Int
  distinctReporter : Int
  firstQualifyingAt : Option Instant
  lastQualifyingAt : Option Instant
  strength : String
deriving Inhabited

namespace GroupRow

/-- Takes the columns of a row. -/
def decode (row : Row) : Except QueryError GroupRow := do
  let id ← row.required "id" Json.id?
  let createdAt ← row.required "created_at" Row.instant?
  let updatedAt ← row.required "updated_at" Row.instant?
  let anchorLat ← row.required "anchor_lat" Json.double?
  let anchorLng ← row.required "anchor_lng" Json.double?
  let lastReportAt ← row.required "last_report_at" Row.instant?
  let totalReports ← row.required "total_reports" Row.count?
  let uniqueReporters ← row.required "unique_reporters" Row.count?
  let sameReporter ← row.required "same_reporter_reconfirmations" Row.count?
  let distinctReporter ← row.required "distinct_reporter_reconfirmations" Row.count?
  let firstQualifyingAt := row.optional? "first_qualifying_reconfirmation_at" Row.instant?
  let lastQualifyingAt := row.optional? "last_qualifying_reconfirmation_at" Row.instant?
  let strength ← row.required "signal_strength" Json.text?
  return { id, createdAt, updatedAt, anchorLat, anchorLng, lastReportAt, totalReports,
           uniqueReporters, sameReporter, distinctReporter, firstQualifyingAt, lastQualifyingAt,
           strength }

/-- The counter in a column. -/
def counter (count : Int) : UInt32 := UInt32.ofNat count.toNat

/-- The bike group in a row. -/
def toGroup (row : GroupRow) : Except Failure BikeGroup := do
  let strength ← checkedWord (Strength.read row.strength)
  return { row with
    strength
    anchor := ⟨row.anchorLat, row.anchorLng⟩
    totalReports := counter row.totalReports
    uniqueReporters := counter row.uniqueReporters
    sameReporter := counter row.sameReporter
    distinctReporter := counter row.distinctReporter }

end GroupRow

/-- The duplicate group in a row. -/
def DuplicateGroup.decode (row : Row) : Except QueryError DuplicateGroup := do
  let id ← row.required "id" Json.id?
  let canonical ← row.required "canonical_report_id" Json.id?
  let merged ← row.required "merged_report_ids" IdSet.ofJson?
  let createdAt ← row.required "created_at" Row.instant?
  let createdBy ← row.required "created_by" Json.text?
  return { id, canonical, merged, createdAt, createdBy }

/-- The record in a row of the audit log. The payload may be any value, null included, but the row must
have it. -/
def AuditRecord.decode (row : Row) : Except QueryError AuditRecord := do
  let seq ← row.required "seq" Json.id?
  let time ← row.required "ts" Row.instant?
  let eventType ← row.required "event_type" Json.text?
  let report ← row.required "report_id" Json.id?
  let actor := row.optional? "actor" Json.text?
  let payload ← row.required "payload" some
  let schemaVersion ← row.required "schema_v" (Json.int? Literal.signed16)
  return { seq, time, eventType, report, actor, payload, schemaVersion }

end AbandonedBikes
