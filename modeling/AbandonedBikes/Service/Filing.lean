import AbandonedBikes.Geo.Cell
import AbandonedBikes.Report.Duplicates
import AbandonedBikes.Report.Matching
import AbandonedBikes.Service.Basic
/-!
# Filing a report

A new report joins the bike group that it matches best, or opens one. Then the group is recounted,
what happened is recorded, and possible duplicates are suggested. The time of the report's creation
counts as the present.
-/

namespace AbandonedBikes

/-- What filing a report yields. -/
structure Filed where
  report : Report
  /-- The group after the recount. -/
  group : BikeGroup
  /-- Whether the report has opened the group. -/
  opened : Bool
  classification : Classification
  previous : Strength
  suggestions : List Suggestion
deriving Inhabited

namespace Filed

/-- Whether the report has changed the strength of its group. -/
def changed (filed : Filed) : Bool := filed.previous != filed.group.strength

/-- The numbers of the suggested duplicates. -/
def suggested (filed : Filed) : List Int := filed.suggestions.map Suggestion.report

end Filed

namespace Service

variable {m : Type → Type} [Monad m]

/-- Checks that the cells around a report have names, if reports are filed one at a time there. -/
def checkCells (service : Service m) (point : Point) : Attempt m Unit :=
  if service.settings.serializeByCell then
    Attempt.ofExcept
      (match Cell.neighbourhood point service.settings.cellPrecision with
        | .ok _ => .ok ()
        | .error error => .error (.other error.message))
  else pure ()

/-- The group that a new report joins, and whether the report has opened it. -/
def chooseGroup [Trigonometry] (service : Service m) (report : NewReport) :
    Attempt m (BikeGroup × Bool) := do
  let point := report.location.point
  let matching ← Attempt.orElse .outsideCalendar
    (service.settings.matching? point report.tags report.createdAt)
  let candidates ← service.store.candidates matching.query
  match matching.best? candidates with
  | some best =>
    let group ← Attempt.orElse (.missingBikeGroup best.group none)
      (← service.store.group? best.group)
    return (group, false)
  | none => return (← service.store.createGroup point report.createdAt, true)

/-- The suggested duplicates of a report. -/
def suggestDuplicates [Trigonometry] (service : Service m) (report : Report) (now : Instant) :
    Attempt m (List Suggestion) := do
  let search ← Attempt.orElse .outsideCalendar (service.settings.duplicateSearch? report now)
  let candidates ← service.store.candidates search.query
  Attempt.orElse .contradictoryScores (search.rank? candidates)

/-- The failure of a report that is not in the history of the group that it was filed in. -/
def missingFromHistory (report group : Int) : Failure :=
  .other ("report " ++ toString report ++ " missing from history of bike group " ++ toString group)

/-- Files a report. -/
def fileReport [Trigonometry] (service : Service m) (new : NewReport) : Attempt m Filed := do
  let now := new.createdAt
  service.checkCells new.location.point
  let (group, opened) ← service.chooseGroup new
  let report ← service.store.insertReport new group.id
  service.record (.created report.id group.id report.source) report.reporter.actor
  let recount ← service.recount group.id (some report.id) now
  let classification ← Attempt.orElse (missingFromHistory report.id group.id)
    (recount.evidence.classificationOf? report.id)
  service.recordClassification report.id group.id classification
  service.recordStrength recount report.id
  let suggestions ← service.suggestDuplicates report now
  return { report, group := recount.group, opened, classification, previous := recount.previous,
           suggestions }

end Service

end AbandonedBikes
