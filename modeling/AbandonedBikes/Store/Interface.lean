import AbandonedBikes.Attempt
import AbandonedBikes.Group.BikeGroup
import AbandonedBikes.Group.DuplicateGroup
import AbandonedBikes.Report.Candidates
/-!
# What a store offers

The system keeps reports, bike groups and duplicate groups in a store. It is described by its calls
alone, so that the same service runs over tables in memory and over a database.
-/

namespace AbandonedBikes

/-- A change of status that was made. -/
structure StatusChange where
  previous : Status
  report : Report
deriving Inhabited

/-- The calls of a store whose effects are those of `m`. -/
structure SignalStore (m : Type → Type) where
  report? : Int → Attempt m (Option Report)
  /-- The selected reports in chronological order. -/
  candidates : CandidateQuery → Attempt m (List Report)
  /-- The history of a bike group in chronological order. -/
  reportsInGroup : Int → Attempt m (List Report)
  /-- The reports with a status, or all of them, the newest first. -/
  listReports : Option Status → Attempt m (List Report)
  /-- Files a report in a bike group. -/
  insertReport (report : NewReport) (group : Int) : Attempt m Report
  /-- Moves a report to a status that may follow its present one. -/
  changeStatus (report : Int) (next : Status) (now : Instant) : Attempt m StatusChange
  createGroup (anchor : Point) (now : Instant) : Attempt m BikeGroup
  group? : Int → Attempt m (Option BikeGroup)
  groupIds : Attempt m (List Int)
  /-- Overwrites what a recount yields. The anchor and the time of creation stay. -/
  updateGroup : BikeGroup → Attempt m Unit
  /-- Adds duplicates to the duplicate group of a canonical report and points every member at it. -/
  mergeReports (canonical : Int) (duplicates : IdSet) (createdBy : String) (now : Instant) :
    Attempt m MergeOutcome
  duplicateGroup? : Int → Attempt m (Option DuplicateGroup)
  /-- The duplicate group of a canonical report. -/
  duplicateGroupFor? : Int → Attempt m (Option DuplicateGroup)

/-- The store beside a state that it does not touch. -/
def SignalStore.beside (σ : Type) {m : Type → Type} [Monad m] (store : SignalStore m) :
    SignalStore (StateT σ m) where
  report? id := (store.report? id).beside σ
  candidates query := (store.candidates query).beside σ
  reportsInGroup group := (store.reportsInGroup group).beside σ
  listReports status := (store.listReports status).beside σ
  insertReport report group := (store.insertReport report group).beside σ
  changeStatus report next now := (store.changeStatus report next now).beside σ
  createGroup anchor now := (store.createGroup anchor now).beside σ
  group? id := (store.group? id).beside σ
  groupIds := store.groupIds.beside σ
  updateGroup group := (store.updateGroup group).beside σ
  mergeReports canonical duplicates createdBy now :=
    (store.mergeReports canonical duplicates createdBy now).beside σ
  duplicateGroup? id := (store.duplicateGroup? id).beside σ
  duplicateGroupFor? canonical := (store.duplicateGroupFor? canonical).beside σ

end AbandonedBikes
