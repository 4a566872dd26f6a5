import AbandonedBikes.Report.Report
import AbandonedBikes.Geo.Bounds
/-!
# Candidate queries

Before reports are compared one by one, the store selects those that can matter: not too old, with
one of the given statuses and, if a box is given, inside it.
-/

namespace AbandonedBikes

/-- What the store is asked for. The start of the window is included. -/
structure CandidateQuery where
  since : Instant
  statuses : List Status
  bounds : Option Bounds

/-- Whether a report is selected. -/
def CandidateQuery.selects (query : CandidateQuery) (report : Report) : Bool :=
  decide (query.since ≤ report.createdAt) && query.statuses.contains report.status &&
    match query.bounds with
    | some bounds => bounds.contains report.location.point
    | none => true

end AbandonedBikes
