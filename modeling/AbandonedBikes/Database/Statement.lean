import AbandonedBikes.Audit.Entry
import AbandonedBikes.Database.Schema
import AbandonedBikes.Group.BikeGroup
import AbandonedBikes.Report.Candidates
/-!
# Statements of the database

Everything that is ever asked of the database is one of these statements. A statement has a text,
which depends on its kind alone, and parameters for the places `$1`, `$2` and so on.
-/

namespace AbandonedBikes

/-- The condition on candidates as the server is given it: a longitude may lie in either of two
ranges. -/
structure CandidateFilter where
  since : Instant
  statuses : List Status
  lat : Float × Float
  lng : (Float × Float) × (Float × Float)

/-- The condition for a query. Without a box every place on earth is taken. -/
def CandidateQuery.filter (query : CandidateQuery) : CandidateFilter where
  since := query.since
  statuses := query.statuses
  lat :=
    match query.bounds with
    | some bounds => (bounds.minLat, bounds.maxLat)
    | none => (-90.0, 90.0)
  lng :=
    match query.bounds with
    | some bounds => bounds.lng.ranges
    | none => ((-180.0, 180.0), (-180.0, 180.0))

/-- A statement with everything that its parameters are made of. -/
inductive Statement where
  | begin
  | commit
  | rollback
  | create (step : SchemaStep)
  | reportById (id : Int)
  | candidates (filter : CandidateFilter)
  | reportsInGroup (group : Int)
  | reportsByStatus (status : Option Status)
  | insertReport (report : NewReport) (group : Int)
  | lockStatus (report : Int)
  | setStatus (report : Int) (status : Status) (now : Instant)
  | insertGroup (anchor : Point) (now : Instant)
  | groupById (id : Int)
  | groupIds
  | updateGroup (group : BikeGroup)
  | lockReports (ids : List Int)
  | lockDuplicateGroup (canonical : Int)
  | insertDuplicateGroup (canonical : Int) (now : Instant) (createdBy : String)
  | setMerged (group : Int) (merged : List Int)
  | setDuplicateGroup (group : Int) (now : Instant) (members : List Int)
  | duplicateGroupById (id : Int)
  | duplicateGroupFor (canonical : Int)
  | appendEvent (entry : AuditEntry)
  | eventsForReport (report : Int)
  | eventsByType (eventType : String) (start : Int) (limit : Nat)

/-- A parameter as it is sent. -/
inductive Parameter where
  | null
  | int (n : Int)
  | float (x : Float)
  | text (s : String)
  | time (t : Instant)
  | ints (ns : List Int)
  | texts (ss : List String)
  | json (value : Json)
  /-- A public identifier that is drawn when the statement is sent. -/
  | freshPublicId

namespace Parameter

/-- A time in the precision of the database. -/
def ofInstant (t : Instant) : Parameter := .time t.inMicros

def ofOption {α : Type} (write : α → Parameter) : Option α → Parameter
  | some value => write value
  | none => .null

/-- The largest value of a counter column. -/
def largestCount : Nat := 2147483647

/-- A counter; one that is too large for its column is cut off. -/
def ofCount (count : UInt32) : Parameter := .int (min count.toNat largestCount)

end Parameter

namespace Statement

/-- The columns of reports. -/
def reportColumns : String :=
  "id, public_id, created_at, updated_at, status, lat, lng, accuracy_m, tags, note, source, " ++
  "reporter_key, bike_group_id, dedupe_group_id"

/-- The columns of bike groups. -/
def groupColumns : String :=
  "id, created_at, updated_at, anchor_lat, anchor_lng, last_report_at, total_reports, " ++
  "unique_reporters, same_reporter_reconfirmations, distinct_reporter_reconfirmations, " ++
  "first_qualifying_reconfirmation_at, last_qualifying_reconfirmation_at, signal_strength"

/-- The columns of duplicate groups. -/
def duplicateGroupColumns : String :=
  "id, canonical_report_id, merged_report_ids, created_at, created_by"

/-- The columns of the audit log. -/
def eventColumns : String := "seq, ts, event_type, report_id, actor, payload, schema_v"

/-- The text of a statement. -/
def text : Statement → String
  | .begin => "BEGIN"
  | .commit => "COMMIT"
  | .rollback => "ROLLBACK"
  | .create step => step.text
  | .reportById _ => "SELECT " ++ reportColumns ++ " FROM reports WHERE id = $1"
  | .candidates _ =>
    "SELECT " ++ reportColumns ++ " FROM reports WHERE created_at >= $1 AND status = ANY($2) " ++
    "AND lat BETWEEN $3 AND $4 AND (lng BETWEEN $5 AND $6 OR lng BETWEEN $7 AND $8) " ++
    "ORDER BY created_at ASC, id ASC"
  | .reportsInGroup _ =>
    "SELECT " ++ reportColumns ++ " FROM reports WHERE bike_group_id = $1 " ++
    "ORDER BY created_at ASC, id ASC"
  | .reportsByStatus _ =>
    "SELECT " ++ reportColumns ++ " FROM reports WHERE $1::TEXT IS NULL OR status = $1 " ++
    "ORDER BY created_at DESC, id DESC"
  | .insertReport .. =>
    "INSERT INTO reports (public_id, created_at, updated_at, status, lat, lng, accuracy_m, tags, " ++
    "note, source, reporter_key, bike_group_id) " ++
    "VALUES ($1, $2, $2, 'new', $3, $4, $5, $6, $7, $8, $9, $10) RETURNING " ++ reportColumns
  | .lockStatus _ => "SELECT status FROM reports WHERE id = $1 FOR UPDATE"
  | .setStatus .. =>
    "UPDATE reports SET status = $2, updated_at = $3 WHERE id = $1 RETURNING " ++ reportColumns
  | .insertGroup .. =>
    "INSERT INTO bike_groups (created_at, updated_at, anchor_lat, anchor_lng, last_report_at) " ++
    "VALUES ($1, $1, $2, $3, $1) RETURNING " ++ groupColumns
  | .groupById _ => "SELECT " ++ groupColumns ++ " FROM bike_groups WHERE id = $1"
  | .groupIds => "SELECT id FROM bike_groups ORDER BY id ASC"
  | .updateGroup _ =>
    "UPDATE bike_groups SET updated_at = $2, last_report_at = $3, total_reports = $4, " ++
    "unique_reporters = $5, same_reporter_reconfirmations = $6, " ++
    "distinct_reporter_reconfirmations = $7, first_qualifying_reconfirmation_at = $8, " ++
    "last_qualifying_reconfirmation_at = $9, signal_strength = $10 WHERE id = $1"
  | .lockReports _ => "SELECT id FROM reports WHERE id = ANY($1) ORDER BY id FOR UPDATE"
  | .lockDuplicateGroup _ =>
    "SELECT " ++ duplicateGroupColumns ++
    " FROM dedupe_groups WHERE canonical_report_id = $1 FOR UPDATE"
  | .insertDuplicateGroup .. =>
    "INSERT INTO dedupe_groups (canonical_report_id, created_at, created_by) " ++
    "VALUES ($1, $2, $3) RETURNING " ++ duplicateGroupColumns
  | .setMerged .. => "UPDATE dedupe_groups SET merged_report_ids = $2 WHERE id = $1"
  | .setDuplicateGroup .. =>
    "UPDATE reports SET dedupe_group_id = $1, updated_at = $2 WHERE id = ANY($3)"
  | .duplicateGroupById _ =>
    "SELECT " ++ duplicateGroupColumns ++ " FROM dedupe_groups WHERE id = $1"
  | .duplicateGroupFor _ =>
    "SELECT " ++ duplicateGroupColumns ++ " FROM dedupe_groups WHERE canonical_report_id = $1"
  | .appendEvent _ =>
    "INSERT INTO report_events (event_type, report_id, actor, payload, schema_v) " ++
    "VALUES ($1, $2, $3, $4, $5) RETURNING " ++ eventColumns
  | .eventsForReport _ =>
    "SELECT " ++ eventColumns ++ " FROM report_events WHERE report_id = $1 ORDER BY seq ASC"
  | .eventsByType .. =>
    "SELECT " ++ eventColumns ++ " FROM report_events WHERE event_type = $1 AND seq >= $2 " ++
    "ORDER BY seq ASC LIMIT $3"

/-- The parameters of a statement in order. A limit is sent as a signed word of 64 bits. -/
def parameters : Statement → List Parameter
  | .begin | .commit | .rollback | .create _ | .groupIds => []
  | .reportById id | .groupById id | .duplicateGroupById id => [.int id]
  | .candidates filter =>
    [.ofInstant filter.since, .texts (filter.statuses.map Status.name),
      .float filter.lat.1, .float filter.lat.2, .float filter.lng.1.1, .float filter.lng.1.2,
      .float filter.lng.2.1, .float filter.lng.2.2]
  | .reportsInGroup group => [.int group]
  | .reportsByStatus status => [.ofOption (fun status => .text status.name) status]
  | .insertReport report group =>
    [.freshPublicId, .ofInstant report.createdAt, .float report.location.lat,
      .float report.location.lng, .float report.location.accuracy, .texts report.tags,
      .ofOption .text report.note, .text report.source.name, .text report.reporter.key, .int group]
  | .lockStatus report => [.int report]
  | .setStatus report status now => [.int report, .text status.name, .ofInstant now]
  | .insertGroup anchor now => [.ofInstant now, .float anchor.lat, .float anchor.lng]
  | .updateGroup group =>
    [.int group.id, .ofInstant group.updatedAt, .ofInstant group.lastReportAt,
      .ofCount group.totalReports, .ofCount group.uniqueReporters, .ofCount group.sameReporter,
      .ofCount group.distinctReporter, .ofOption .ofInstant group.firstQualifyingAt,
      .ofOption .ofInstant group.lastQualifyingAt, .text group.strength.name]
  | .lockReports ids => [.ints ids]
  | .lockDuplicateGroup canonical | .duplicateGroupFor canonical => [.int canonical]
  | .insertDuplicateGroup canonical now createdBy =>
    [.int canonical, .ofInstant now, .text createdBy]
  | .setMerged group merged => [.int group, .ints merged]
  | .setDuplicateGroup group now members => [.int group, .ofInstant now, .ints members]
  | .appendEvent entry =>
    [.text entry.eventType, .int entry.report, .ofOption .text entry.actor, .json entry.payload,
      .int entry.schemaVersion]
  | .eventsForReport report => [.int report]
  | .eventsByType eventType start limit =>
    [.text eventType, .int start, .int (Int.bmod limit (Nat.pow 2 64))]

end Statement

end AbandonedBikes
