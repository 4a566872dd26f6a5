import AbandonedBikes.Wire.Report
import AbandonedBikes.Report.Duplicates
import AbandonedBikes.Signal.Timeline
import AbandonedBikes.Signal.Triage
/-!
# Views for operators as JSON
-/

namespace AbandonedBikes

namespace Suggestion

def toJson (suggestion : Suggestion) : Json :=
  .object [("report_id", .int suggestion.report), ("score", Json.ofFloat suggestion.score),
    ("distance_meters", Json.ofFloat suggestion.distance)]

def ofJson? (value : Json) : Option Suggestion := do
  let fields ← Fields.of? ["report_id", "score", "distance_meters"] value
  let report ← fields.required? "report_id" Json.id?
  let score ← fields.required? "score" Json.float?
  let distance ← fields.required? "distance_meters" Json.float?
  some ⟨report, score, distance⟩

end Suggestion

namespace TimelineEntry

def fieldNames : List String :=
  ["report_id", "public_id", "created_at", "reporter_label", "reporter_match_kind", "qualified",
    "ignored_same_day"]

def toJson (entry : TimelineEntry) : Json :=
  .object [("report_id", .int entry.report), ("public_id", .text entry.publicId),
    ("created_at", Json.ofInstant entry.createdAt), ("reporter_label", .text entry.label),
    ("reporter_match_kind", Json.ofOption (fun kind => .text kind.name) entry.matchKind),
    ("qualified", .bool entry.qualified), ("ignored_same_day", .bool entry.ignoredSameDay)]

def ofJson? (value : Json) : Option TimelineEntry := do
  let fields ← Fields.of? fieldNames value
  let report ← fields.required? "report_id" Json.id?
  let publicId ← fields.required? "public_id" Json.text?
  let createdAt ← fields.required? "created_at" Json.instant?
  let label ← fields.required? "reporter_label" Json.text?
  let matchKind ← fields.optional? "reporter_match_kind" (Json.named? MatchKind.ofName?)
  let qualified ← fields.required? "qualified" Json.bool?
  let ignoredSameDay ← fields.required? "ignored_same_day" Json.bool?
  some { report, publicId, createdAt, label, matchKind, qualified, ignoredSameDay }

end TimelineEntry

namespace SignalDetails

def toJson (details : SignalDetails) : Json :=
  .object [("bike_group", details.group.toJson), ("signal_summary", details.summary.toJson),
    ("signal_strength", .text details.strength.name),
    ("timeline", .array (details.timeline.map TimelineEntry.toJson))]

def ofJson? (value : Json) : Option SignalDetails := do
  let fields ← Fields.of? ["bike_group", "signal_summary", "signal_strength", "timeline"] value
  let group ← fields.required? "bike_group" BikeGroup.ofJson?
  let summary ← fields.required? "signal_summary" SignalSummary.ofJson?
  let strength ← fields.required? "signal_strength" (Json.named? Strength.ofName?)
  let timeline ← fields.required? "timeline" (Json.list? TimelineEntry.ofJson?)
  some { group, summary, strength, timeline }

end SignalDetails

namespace OperatorView

def toJson (view : OperatorView) : Json :=
  .object [("report", view.report.toJson), ("bike_group_id", .int view.bikeGroup),
    ("signal_summary", view.summary.toJson), ("signal_strength", .text view.strength.name)]

def ofJson? (value : Json) : Option OperatorView := do
  let fields ← Fields.of? ["report", "bike_group_id", "signal_summary", "signal_strength"] value
  let report ← fields.required? "report" Report.ofJson?
  let bikeGroup ← fields.required? "bike_group_id" Json.id?
  let summary ← fields.required? "signal_summary" SignalSummary.ofJson?
  let strength ← fields.required? "signal_strength" (Json.named? Strength.ofName?)
  some { report, bikeGroup, summary, strength }

end OperatorView

namespace SignalFilter

def fieldNames : List String :=
  ["status", "signal_strength", "strong_only", "has_qualifying_reconfirmation", "sort"]

def toJson (filter : SignalFilter) : Json :=
  .object [("status", Json.ofOption (fun status => .text status.name) filter.status),
    ("signal_strength", Json.ofOption (fun strength => .text strength.name) filter.strength),
    ("strong_only", .bool filter.strongOnly),
    ("has_qualifying_reconfirmation", Json.ofOption Json.bool filter.hasQualifying),
    ("sort", .text filter.sort.name)]

/-- Every field may be missing; the switch and the sort must not be null. -/
def ofJson? (value : Json) : Option SignalFilter := do
  let fields ← Fields.of? fieldNames value
  let status ← fields.optional? "status" (Json.named? Status.ofName?)
  let strength ← fields.optional? "signal_strength" (Json.named? Strength.ofName?)
  let strongOnly ← fields.withDefault? "strong_only" false Json.bool?
  let hasQualifying ← fields.optional? "has_qualifying_reconfirmation" Json.bool?
  let sort ← fields.withDefault? "sort" .newest (Json.named? ReportSort.ofName?)
  some { status, strength, strongOnly, hasQualifying, sort }

end SignalFilter

end AbandonedBikes
