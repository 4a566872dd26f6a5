/-!
# The schema of the database

The tables and indexes are created if they are missing, so the steps may be run at every start. White
space in a statement means nothing to the server; it is written with single blanks.
-/

namespace AbandonedBikes

/-- A step that creates a table or an index. -/
inductive SchemaStep where
  | bikeGroups
  | reports
  | reportsByTime
  | reportsByGroup
  | reportsByPlace
  | duplicateGroups
  | events
  | eventsByReport
  | eventsByType
deriving DecidableEq, Repr

namespace SchemaStep

/-- The steps for reports and groups. -/
def forReports : List SchemaStep :=
  [.bikeGroups, .reports, .reportsByTime, .reportsByGroup, .reportsByPlace, .duplicateGroups]

/-- The steps for the audit log. -/
def forEvents : List SchemaStep := [.events, .eventsByReport, .eventsByType]

def text : SchemaStep → String
  | .bikeGroups =>
    "CREATE TABLE IF NOT EXISTS bike_groups ( " ++
    "id BIGSERIAL PRIMARY KEY, " ++
    "created_at TIMESTAMPTZ NOT NULL, " ++
    "updated_at TIMESTAMPTZ NOT NULL, " ++
    "anchor_lat DOUBLE PRECISION NOT NULL, " ++
    "anchor_lng DOUBLE PRECISION NOT NULL, " ++
    "last_report_at TIMESTAMPTZ NOT NULL, " ++
    "total_reports INTEGER NOT NULL DEFAULT 0, " ++
    "unique_reporters INTEGER NOT NULL DEFAULT 0, " ++
    "same_reporter_reconfirmations INTEGER NOT NULL DEFAULT 0, " ++
    "distinct_reporter_reconfirmations INTEGER NOT NULL DEFAULT 0, " ++
    "first_qualifying_reconfirmation_at TIMESTAMPTZ, " ++
    "last_qualifying_reconfirmation_at TIMESTAMPTZ, " ++
    "signal_strength TEXT NOT NULL DEFAULT 'none' )"
  | .reports =>
    "CREATE TABLE IF NOT EXISTS reports ( " ++
    "id BIGSERIAL PRIMARY KEY, " ++
    "public_id TEXT NOT NULL UNIQUE, " ++
    "created_at TIMESTAMPTZ NOT NULL, " ++
    "updated_at TIMESTAMPTZ NOT NULL, " ++
    "status TEXT NOT NULL DEFAULT 'new', " ++
    "lat DOUBLE PRECISION NOT NULL, " ++
    "lng DOUBLE PRECISION NOT NULL, " ++
    "accuracy_m DOUBLE PRECISION NOT NULL, " ++
    "tags TEXT[] NOT NULL, " ++
    "note TEXT, " ++
    "source TEXT NOT NULL DEFAULT 'web', " ++
    "reporter_key TEXT NOT NULL, " ++
    "bike_group_id BIGINT NOT NULL REFERENCES bike_groups(id), " ++
    "dedupe_group_id BIGINT )"
  | .reportsByTime => "CREATE INDEX IF NOT EXISTS reports_created_at_idx ON reports (created_at)"
  | .reportsByGroup =>
    "CREATE INDEX IF NOT EXISTS reports_bike_group_idx ON reports (bike_group_id, created_at)"
  | .reportsByPlace => "CREATE INDEX IF NOT EXISTS reports_lat_lng_idx ON reports (lat, lng)"
  | .duplicateGroups =>
    "CREATE TABLE IF NOT EXISTS dedupe_groups ( " ++
    "id BIGSERIAL PRIMARY KEY, " ++
    "canonical_report_id BIGINT NOT NULL UNIQUE REFERENCES reports(id), " ++
    "merged_report_ids BIGINT[] NOT NULL DEFAULT '\x7b\x7d', " ++
    "created_at TIMESTAMPTZ NOT NULL, " ++
    "created_by TEXT NOT NULL )"
  | .events =>
    "CREATE TABLE IF NOT EXISTS report_events ( " ++
    "seq BIGSERIAL PRIMARY KEY, " ++
    "ts TIMESTAMPTZ NOT NULL DEFAULT now(), " ++
    "event_type TEXT NOT NULL, " ++
    "report_id BIGINT NOT NULL, " ++
    "actor TEXT, " ++
    "payload JSONB NOT NULL, " ++
    "schema_v SMALLINT NOT NULL DEFAULT 1 )"
  | .eventsByReport =>
    "CREATE INDEX IF NOT EXISTS report_events_report_idx ON report_events (report_id, seq)"
  | .eventsByType =>
    "CREATE INDEX IF NOT EXISTS report_events_type_idx ON report_events (event_type, seq)"

end SchemaStep

end AbandonedBikes
