import AbandonedBikes.Wire.Field
import AbandonedBikes.Report.Report
import AbandonedBikes.Group.BikeGroup
import AbandonedBikes.Group.DuplicateGroup
/-!
# Reports and groups as JSON
-/

namespace AbandonedBikes

namespace Point

def toJson (point : Point) : Json :=
  .object [("lat", Json.ofFloat point.lat), ("lng", Json.ofFloat point.lng)]

def ofJson? (value : Json) : Option Point := do
  let fields ← Fields.of? ["lat", "lng"] value
  let lat ← fields.required? "lat" Json.float?
  let lng ← fields.required? "lng" Json.float?
  some ⟨lat, lng⟩

end Point

namespace Location

def toJson (location : Location) : Json :=
  .object [("lat", Json.ofFloat location.lat), ("lng", Json.ofFloat location.lng),
    ("accuracy_m", Json.ofFloat location.accuracy)]

def ofJson? (value : Json) : Option Location := do
  let fields ← Fields.of? ["lat", "lng", "accuracy_m"] value
  let lat ← fields.required? "lat" Json.float?
  let lng ← fields.required? "lng" Json.float?
  let accuracy ← fields.required? "accuracy_m" Json.float?
  some ⟨lat, lng, accuracy⟩

end Location

namespace Reporter

def toJson (reporter : Reporter) : Json := .text reporter.key

/-- Any text is taken; its mark is not checked. -/
def ofJson? (value : Json) : Option Reporter := value.text?.map Reporter.mk

end Reporter

/-- A member that is left out if there is no value. -/
def Json.ifSome {α : Type} (name : String) (write : α → Json) : Option α → List (String × Json)
  | some value => [(name, write value)]
  | none => []

namespace Report

def fieldNames : List String :=
  ["id", "public_id", "created_at", "updated_at", "status", "location", "tags", "note", "source",
    "reporter", "bike_group_id", "dedupe_group_id"]

/-- The note and the duplicate group are left out if there are none. -/
def toJson (report : Report) : Json :=
  .object ([("id", .int report.id), ("public_id", .text report.publicId),
    ("created_at", Json.ofInstant report.createdAt),
    ("updated_at", Json.ofInstant report.updatedAt), ("status", .text report.status.name),
    ("location", report.location.toJson), ("tags", .array (report.tags.map Json.text))] ++
    Json.ifSome "note" Json.text report.note ++
    [("source", .text report.source.name), ("reporter", report.reporter.toJson),
      ("bike_group_id", .int report.bikeGroup)] ++
    Json.ifSome "dedupe_group_id" Json.int report.duplicateGroup)

def ofJson? (value : Json) : Option Report := do
  let fields ← Fields.of? fieldNames value
  let id ← fields.required? "id" Json.id?
  let publicId ← fields.required? "public_id" Json.text?
  let createdAt ← fields.required? "created_at" Json.instant?
  let updatedAt ← fields.required? "updated_at" Json.instant?
  let status ← fields.required? "status" (Json.named? Status.ofName?)
  let location ← fields.required? "location" Location.ofJson?
  let tags ← fields.required? "tags" (Json.list? Json.text?)
  let note ← fields.optional? "note" Json.text?
  let source ← fields.required? "source" (Json.named? Source.ofName?)
  let reporter ← fields.required? "reporter" Reporter.ofJson?
  let bikeGroup ← fields.required? "bike_group_id" Json.id?
  let duplicateGroup ← fields.optional? "dedupe_group_id" Json.id?
  some { id, publicId, createdAt, updatedAt, status, location, tags, note, source, reporter,
         bikeGroup, duplicateGroup }

end Report

namespace SignalSummary

def fieldNames : List String :=
  ["total_reports", "unique_reporters", "same_reporter_reconfirmations",
    "distinct_reporter_reconfirmations", "first_qualifying_reconfirmation_at",
    "last_qualifying_reconfirmation_at", "last_report_at", "has_qualifying_reconfirmation"]

def toJson (summary : SignalSummary) : Json :=
  .object [("total_reports", .int summary.totalReports.toNat),
    ("unique_reporters", .int summary.uniqueReporters.toNat),
    ("same_reporter_reconfirmations", .int summary.sameReporter.toNat),
    ("distinct_reporter_reconfirmations", .int summary.distinctReporter.toNat),
    ("first_qualifying_reconfirmation_at", Json.ofOption Json.ofInstant summary.firstQualifyingAt),
    ("last_qualifying_reconfirmation_at", Json.ofOption Json.ofInstant summary.lastQualifyingAt),
    ("last_report_at", Json.ofInstant summary.lastReportAt),
    ("has_qualifying_reconfirmation", .bool summary.hasQualifying)]

def ofJson? (value : Json) : Option SignalSummary := do
  let fields ← Fields.of? fieldNames value
  let totalReports ← fields.required? "total_reports" Json.word32?
  let uniqueReporters ← fields.required? "unique_reporters" Json.word32?
  let sameReporter ← fields.required? "same_reporter_reconfirmations" Json.word32?
  let distinctReporter ← fields.required? "distinct_reporter_reconfirmations" Json.word32?
  let firstQualifyingAt ← fields.optional? "first_qualifying_reconfirmation_at" Json.instant?
  let lastQualifyingAt ← fields.optional? "last_qualifying_reconfirmation_at" Json.instant?
  let lastReportAt ← fields.required? "last_report_at" Json.instant?
  let hasQualifying ← fields.required? "has_qualifying_reconfirmation" Json.bool?
  some { totalReports, uniqueReporters, sameReporter, distinctReporter, firstQualifyingAt,
         lastQualifyingAt, lastReportAt, hasQualifying }

end SignalSummary

namespace BikeGroup

def fieldNames : List String :=
  ["id", "created_at", "updated_at", "anchor", "last_report_at", "total_reports",
    "unique_reporters", "same_reporter_reconfirmations", "distinct_reporter_reconfirmations",
    "first_qualifying_reconfirmation_at", "last_qualifying_reconfirmation_at", "signal_strength"]

def toJson (group : BikeGroup) : Json :=
  .object [("id", .int group.id), ("created_at", Json.ofInstant group.createdAt),
    ("updated_at", Json.ofInstant group.updatedAt), ("anchor", group.anchor.toJson),
    ("last_report_at", Json.ofInstant group.lastReportAt),
    ("total_reports", .int group.totalReports.toNat),
    ("unique_reporters", .int group.uniqueReporters.toNat),
    ("same_reporter_reconfirmations", .int group.sameReporter.toNat),
    ("distinct_reporter_reconfirmations", .int group.distinctReporter.toNat),
    ("first_qualifying_reconfirmation_at", Json.ofOption Json.ofInstant group.firstQualifyingAt),
    ("last_qualifying_reconfirmation_at", Json.ofOption Json.ofInstant group.lastQualifyingAt),
    ("signal_strength", .text group.strength.name)]

def ofJson? (value : Json) : Option BikeGroup := do
  let fields ← Fields.of? fieldNames value
  let id ← fields.required? "id" Json.id?
  let createdAt ← fields.required? "created_at" Json.instant?
  let updatedAt ← fields.required? "updated_at" Json.instant?
  let anchor ← fields.required? "anchor" Point.ofJson?
  let lastReportAt ← fields.required? "last_report_at" Json.instant?
  let totalReports ← fields.required? "total_reports" Json.word32?
  let uniqueReporters ← fields.required? "unique_reporters" Json.word32?
  let sameReporter ← fields.required? "same_reporter_reconfirmations" Json.word32?
  let distinctReporter ← fields.required? "distinct_reporter_reconfirmations" Json.word32?
  let firstQualifyingAt ← fields.optional? "first_qualifying_reconfirmation_at" Json.instant?
  let lastQualifyingAt ← fields.optional? "last_qualifying_reconfirmation_at" Json.instant?
  let strength ← fields.required? "signal_strength" (Json.named? Strength.ofName?)
  some { id, createdAt, updatedAt, anchor, lastReportAt, totalReports, uniqueReporters,
         sameReporter, distinctReporter, firstQualifyingAt, lastQualifyingAt, strength }

end BikeGroup

namespace IdSet

def toJson (set : IdSet) : Json := .array (set.ids.map Json.int)

/-- Any order and repetitions are taken. -/
def ofJson? (value : Json) : Option IdSet := (Json.list? Json.id? value).map IdSet.ofList

end IdSet

namespace DuplicateGroup

def fieldNames : List String :=
  ["id", "canonical_report_id", "merged_report_ids", "created_at", "created_by"]

def toJson (group : DuplicateGroup) : Json :=
  .object [("id", .int group.id), ("canonical_report_id", .int group.canonical),
    ("merged_report_ids", group.merged.toJson), ("created_at", Json.ofInstant group.createdAt),
    ("created_by", .text group.createdBy)]

def ofJson? (value : Json) : Option DuplicateGroup := do
  let fields ← Fields.of? fieldNames value
  let id ← fields.required? "id" Json.id?
  let canonical ← fields.required? "canonical_report_id" Json.id?
  let merged ← fields.required? "merged_report_ids" IdSet.ofJson?
  let createdAt ← fields.required? "created_at" Json.instant?
  let createdBy ← fields.required? "created_by" Json.text?
  some { id, canonical, merged, createdAt, createdBy }

end DuplicateGroup

end AbandonedBikes
