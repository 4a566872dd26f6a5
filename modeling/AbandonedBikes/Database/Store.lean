import AbandonedBikes.Database.Query
import AbandonedBikes.Database.Row
import AbandonedBikes.Store.Interface
/-!
# The store over a database

Each call of the store is a dialogue. A change of status and a merge run in a transaction that locks
what it reads; every other call is a single statement.
-/

namespace AbandonedBikes.Database

/-- Runs some steps of the schema in order. -/
def migrate : List SchemaStep → Query Unit
  | [] => pure ()
  | step :: rest => do
    let _ ← Query.execute (.create step)
    migrate rest

/-- Creates the tables for reports and groups. -/
def migrateReports : Attempt Dialogue Unit := (migrate SchemaStep.forReports).call

/-- The reports that a statement gives. -/
def reports (statement : Statement) : Attempt Dialogue (List Report) := do
  let rows ← (Query.all statement ReportRow.decode).call
  Attempt.ofExcept (rows.mapM ReportRow.toReport)

def report? (id : Int) : Attempt Dialogue (Option Report) := do
  let row ← (Query.first? (.reportById id) ReportRow.decode).call
  Attempt.ofExcept (row.mapM ReportRow.toReport)

def insertReport (report : NewReport) (group : Int) : Attempt Dialogue Report := do
  let row ← (Query.one (.insertReport report group) ReportRow.decode).call
  Attempt.ofExcept row.toReport

/-- Changes the status of a report that is locked, and gives its former status and its new row. -/
def moveStatus (id : Int) (next : Status) (now : Instant) :
    Attempt Dialogue (Status × ReportRow) := do
  let locked ← (Query.first? (.lockStatus id) fun row => row.single "status" Json.text?).call
  let word ← Attempt.orElse (.reportNotFound id) locked
  let previous ← Attempt.ofExcept (checkedWord (Status.read word))
  if previous.canBecome next then
    let row ← (Query.one (.setStatus id next now) ReportRow.decode).call
    return (previous, row)
  else throw (Failure.invalidTransition previous next)

/-- The row is taken as a report only when the transaction is over. -/
def changeStatus (id : Int) (next : Status) (now : Instant) : Attempt Dialogue StatusChange := do
  let (previous, row) ← transaction (moveStatus id next now)
  return ⟨previous, ← Attempt.ofExcept row.toReport⟩

def createGroup (anchor : Point) (now : Instant) : Attempt Dialogue BikeGroup := do
  let row ← (Query.one (.insertGroup anchor now) GroupRow.decode).call
  Attempt.ofExcept row.toGroup

def group? (id : Int) : Attempt Dialogue (Option BikeGroup) := do
  let row ← (Query.first? (.groupById id) GroupRow.decode).call
  Attempt.ofExcept (row.mapM GroupRow.toGroup)

/-- The number in the only cell of a row. -/
def onlyId (row : Row) : Except QueryError Int := row.single "id" Json.id?

def groupIds : Attempt Dialogue (List Int) := (Query.all .groupIds onlyId).call

def updateGroup (group : BikeGroup) : Attempt Dialogue Unit := do
  let affected ← (Query.execute (.updateGroup group)).call
  if affected = 0 then throw (Failure.missingBikeGroup group.id none)

/-- Locks the reports of a merge, all of which have to be there. -/
def lockMembers (canonical : Int) (duplicates : IdSet) : Attempt Dialogue Unit := do
  let found ← (Query.all (.lockReports (duplicates.insert canonical).ids) onlyId).call
  if canonical ∉ found then throw (Failure.canonicalNotFound canonical)
  else match duplicates.ids.find? fun id => decide (id ∉ found) with
    | some missing => throw (Failure.duplicateNotFound missing)
    | none => pure ()

/-- The duplicate group of a canonical report, and whether it had to be opened. -/
def openDuplicateGroup (canonical : Int) (createdBy : String) (now : Instant) :
    Attempt Dialogue (DuplicateGroup × Bool) := do
  match ← (Query.first? (.lockDuplicateGroup canonical) DuplicateGroup.decode).call with
  | some group => return (group, false)
  | none =>
    let group ← (Query.one (.insertDuplicateGroup canonical now createdBy)
      DuplicateGroup.decode).call
    return (group, true)

/-- The statements of a merge. -/
def merge (canonical : Int) (duplicates : IdSet) (createdBy : String) (now : Instant) :
    Attempt Dialogue MergeOutcome := do
  lockMembers canonical duplicates
  let (before, created) ← openDuplicateGroup canonical createdBy now
  let newlyMerged := duplicates.diff before.merged
  let group := { before with merged := before.merged.union newlyMerged }
  let _ ← (Query.execute (.setMerged group.id group.merged.ids)).call
  let _ ← (Query.execute (.setDuplicateGroup group.id now group.members.ids)).call
  return ⟨group, created, newlyMerged⟩

def duplicateGroup? (id : Int) : Attempt Dialogue (Option DuplicateGroup) :=
  (Query.first? (.duplicateGroupById id) DuplicateGroup.decode).call

def duplicateGroupFor? (canonical : Int) : Attempt Dialogue (Option DuplicateGroup) :=
  (Query.first? (.duplicateGroupFor canonical) DuplicateGroup.decode).call

/-- The store that keeps everything in the database. -/
def store : SignalStore Dialogue where
  report? := report?
  candidates query := reports (.candidates query.filter)
  reportsInGroup group := reports (.reportsInGroup group)
  listReports status := reports (.reportsByStatus status)
  insertReport := insertReport
  changeStatus := changeStatus
  createGroup := createGroup
  group? := group?
  groupIds := groupIds
  updateGroup := updateGroup
  mergeReports canonical duplicates createdBy now :=
    transaction (merge canonical duplicates createdBy now)
  duplicateGroup? := duplicateGroup?
  duplicateGroupFor? := duplicateGroupFor?

end AbandonedBikes.Database
