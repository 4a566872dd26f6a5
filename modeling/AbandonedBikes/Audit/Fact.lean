import AbandonedBikes.Report.Source
import AbandonedBikes.Report.Status
import AbandonedBikes.Report.Strength
import AbandonedBikes.Wire.Field
/-!
# Facts about reports

The audit log records what happened to single reports. A fact is written as an object whose `type`
names its kind; the same name is the type of the entry that holds it. Reading ignores members that
the kind does not have.
-/

namespace AbandonedBikes

/-- Something that happened to a report. -/
inductive Fact where
  | created (report group : Int) (source : Source)
  | statusChanged (report : Int) (previous next : Status)
  | merged (report canonical group : Int)
  | reconfirmationCounted (report group : Int) (kind : MatchKind)
  | reconfirmationIgnored (report group : Int)
  | strengthChanged (report group : Int) (previous next : Strength)
deriving DecidableEq, Repr

namespace Fact

/-- The type of the entry that records the fact. -/
def eventType : Fact → String
  | .created .. => "created"
  | .statusChanged .. => "status_changed"
  | .merged .. => "merged"
  | .reconfirmationCounted .. => "signal_reconfirmation_counted"
  | .reconfirmationIgnored .. => "signal_reconfirmation_ignored_same_day"
  | .strengthChanged .. => "signal_strength_changed"

/-- The report that the fact is about. -/
def report : Fact → Int
  | .created report .. => report
  | .statusChanged report .. => report
  | .merged report .. => report
  | .reconfirmationCounted report .. => report
  | .reconfirmationIgnored report .. => report
  | .strengthChanged report .. => report

/-- The fact as JSON. -/
def toPayload (fact : Fact) : Json :=
  .object (("type", .text fact.eventType) :: match fact with
    | .created report group source =>
      [("report_id", .int report), ("bike_group_id", .int group), ("source", .text source.name)]
    | .statusChanged report previous next =>
      [("report_id", .int report), ("from", .text previous.name), ("to", .text next.name)]
    | .merged report canonical group =>
      [("report_id", .int report), ("canonical_report_id", .int canonical),
        ("dedupe_group_id", .int group)]
    | .reconfirmationCounted report group kind =>
      [("report_id", .int report), ("bike_group_id", .int group),
        ("reporter_match_kind", .text kind.name)]
    | .reconfirmationIgnored report group =>
      [("report_id", .int report), ("bike_group_id", .int group)]
    | .strengthChanged report group previous next =>
      [("report_id", .int report), ("bike_group_id", .int group),
        ("previous_signal_strength", .text previous.name), ("signal_strength", .text next.name)])

/-- A word inside a fact. An object with one member names it too if that member is null or empty. -/
def word? {α : Type} (ofName? : String → Option α) : Json → Option α
  | .object [(word, .object [])] => ofName? word
  | value => Json.named? ofName? value

/-- The fields of a fact in order, without its type. -/
def fieldNames : String → List String
  | "created" => ["report_id", "bike_group_id", "source"]
  | "status_changed" => ["report_id", "from", "to"]
  | "merged" => ["report_id", "canonical_report_id", "dedupe_group_id"]
  | "signal_reconfirmation_counted" => ["report_id", "bike_group_id", "reporter_match_kind"]
  | "signal_reconfirmation_ignored_same_day" => ["report_id", "bike_group_id"]
  | "signal_strength_changed" =>
    ["report_id", "bike_group_id", "previous_signal_strength", "signal_strength"]
  | _ => []

/-- Reads the fields of a fact of the given type. -/
def ofFields? (eventType : String) (fields : Fields) : Option Fact :=
  match eventType with
  | "created" => do
    let report ← fields.required? "report_id" Json.id?
    let group ← fields.required? "bike_group_id" Json.id?
    let source ← fields.required? "source" (word? Source.ofName?)
    some (.created report group source)
  | "status_changed" => do
    let report ← fields.required? "report_id" Json.id?
    let previous ← fields.required? "from" (word? Status.ofName?)
    let next ← fields.required? "to" (word? Status.ofName?)
    some (.statusChanged report previous next)
  | "merged" => do
    let report ← fields.required? "report_id" Json.id?
    let canonical ← fields.required? "canonical_report_id" Json.id?
    let group ← fields.required? "dedupe_group_id" Json.id?
    some (.merged report canonical group)
  | "signal_reconfirmation_counted" => do
    let report ← fields.required? "report_id" Json.id?
    let group ← fields.required? "bike_group_id" Json.id?
    let kind ← fields.required? "reporter_match_kind" (word? MatchKind.ofName?)
    some (.reconfirmationCounted report group kind)
  | "signal_reconfirmation_ignored_same_day" => do
    let report ← fields.required? "report_id" Json.id?
    let group ← fields.required? "bike_group_id" Json.id?
    some (.reconfirmationIgnored report group)
  | "signal_strength_changed" => do
    let report ← fields.required? "report_id" Json.id?
    let group ← fields.required? "bike_group_id" Json.id?
    let previous ← fields.required? "previous_signal_strength" (word? Strength.ofName?)
    let next ← fields.required? "signal_strength" (word? Strength.ofName?)
    some (.strengthChanged report group previous next)
  | _ => none

/-- Reads a fact: an object with a `type`, or an array that starts with the type. -/
def ofPayload? : Json → Option Fact
  | .object members => do
    let eventType ← (members.lookup "type").bind Json.text?
    ofFields? eventType members
  | .array (tag :: items) => do
    let eventType ← tag.text?
    let fields ← Fields.of? (fieldNames eventType) (.array items)
    ofFields? eventType fields
  | _ => none

end Fact

end AbandonedBikes
