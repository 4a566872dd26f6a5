import AbandonedBikes.Service.Basic
import AbandonedBikes.Signal.Timeline
import AbandonedBikes.Signal.Triage
/-!
# What operators do

Operators move reports through their lifecycle, merge duplicates, and look at reports together with
the signal of their bikes.
-/

namespace AbandonedBikes

/-- Everything about one report. -/
structure ReportDetails where
  report : Report
  records : List AuditRecord
  signal : SignalDetails
  duplicates : Option DuplicateGroup
deriving Inhabited

namespace Service

variable {m : Type → Type} [Monad m]

/-- Moves a report to a status and records who did it. -/
def updateStatus (service : Service m) (report : Int) (next : Status) (actor : String)
    (now : Instant) : Attempt m Report := do
  let change ← service.store.changeStatus report next now
  service.record (.statusChanged report change.previous next) actor
  return change.report

/-- Records the reports that a merge has added to a duplicate group. -/
def recordMerged (service : Service m) (canonical group : Int) (operator : String) :
    List Int → Attempt m Unit
  | [] => pure ()
  | report :: rest => do
    service.record (.merged report canonical group) operator
    service.recordMerged canonical group operator rest

/-- Merges duplicates into a canonical report. -/
def mergeDuplicates (service : Service m) (canonical : Int) (duplicates : IdSet)
    (operator : String) (now : Instant) : Attempt m MergeOutcome :=
  if duplicates.isEmpty then throw Failure.nothingToMerge
  else if canonical ∈ duplicates then throw (Failure.mergedIntoItself canonical)
  else do
    let outcome ← service.store.mergeReports canonical duplicates operator now
    service.recordMerged canonical outcome.group.id operator outcome.newlyMerged.ids
    return outcome

/-- The group of a report. -/
def groupOf (service : Service m) (report : Report) : Attempt m BikeGroup := do
  Attempt.orElse (.missingBikeGroup report.bikeGroup (some report.id))
    (← service.store.group? report.bikeGroup)

/-- The duplicate group that a report points at. -/
def duplicatesOf (service : Service m) (report : Report) : Attempt m (Option DuplicateGroup) :=
  match report.duplicateGroup with
  | some group => service.store.duplicateGroup? group
  | none => pure none

/-- Everything about the report with a number. -/
def details (service : Service m) (id : Int) : Attempt m ReportDetails := do
  let report ← Attempt.orElse (.reportNotFound id) (← service.store.report? id)
  let group ← service.groupOf report
  let history ← service.store.reportsInGroup group.id
  let records ← service.log.recordsFor id
  let duplicates ← service.duplicatesOf report
  let signal := Timeline.details service.settings.replayRules group history
  return { report, records, signal, duplicates }

/-- The views of some reports. A group is loaded when a report asks for one that is not known. -/
def views (service : Service m) : List (Int × BikeGroup) → List Report →
    Attempt m (List OperatorView)
  | _, [] => return []
  | known, report :: rest => do
    match known.lookup report.bikeGroup with
    | some group => return OperatorView.of report group :: (← service.views known rest)
    | none =>
      let group ← service.groupOf report
      return OperatorView.of report group :: (← service.views ((group.id, group) :: known) rest)

/-- The reports that operators ask for, together with the signal of their bikes. -/
def operatorReports (service : Service m) (filter : SignalFilter) :
    Attempt m (List OperatorView) := do
  let reports ← service.store.listReports filter.status
  return filter.apply (← service.views [] reports)

end Service

end AbandonedBikes
