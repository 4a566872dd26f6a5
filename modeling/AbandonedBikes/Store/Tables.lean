import AbandonedBikes.Store.Interface
import AbandonedBikes.Store.PublicId
/-!
# Tables in memory

The tables hold reports, bike groups and duplicate groups in the order of their numbers, and count
the numbers given out. Each operation is a pure function. One that can be refused gives back no
tables if it is, so a refusal changes nothing.
-/

namespace AbandonedBikes

/-- Reports, bike groups and duplicate groups. -/
structure Tables where
  reports : List Report := []
  groups : List BikeGroup := []
  duplicateGroups : List DuplicateGroup := []
  lastReport : Int := 0
  lastGroup : Int := 0
  lastDuplicateGroup : Int := 0
deriving Inhabited

namespace Tables

def report? (tables : Tables) (id : Int) : Option Report :=
  tables.reports.find? fun report => report.id == id

def group? (tables : Tables) (id : Int) : Option BikeGroup :=
  tables.groups.find? fun group => group.id == id

def duplicateGroup? (tables : Tables) (id : Int) : Option DuplicateGroup :=
  tables.duplicateGroups.find? fun group => group.id == id

def duplicateGroupFor? (tables : Tables) (canonical : Int) : Option DuplicateGroup :=
  tables.duplicateGroups.find? fun group => group.canonical == canonical

def groupIds (tables : Tables) : List Int := tables.groups.map BikeGroup.id

def candidates (tables : Tables) (query : CandidateQuery) : List Report :=
  Report.chronological (tables.reports.filter query.selects)

def reportsInGroup (tables : Tables) (group : Int) : List Report :=
  Report.chronological (tables.reports.filter fun report => report.bikeGroup == group)

/-- The reports with a status, or all of them, the newest first. -/
def listReports (tables : Tables) (status : Option Status) : List Report :=
  (Report.chronological
    (tables.reports.filter fun report => status.all fun wanted => report.status == wanted)).reverse

/-- The report that is stored when a new one is filed. -/
def stored (tables : Tables) (report : NewReport) (group : Int) : Report where
  id := tables.lastReport + 1
  publicId := PublicId.text report.draw
  createdAt := report.createdAt
  updatedAt := report.createdAt
  status := .new
  location := report.location
  tags := report.tags
  note := report.note
  source := report.source
  reporter := report.reporter
  bikeGroup := group
  duplicateGroup := none

/-- Files a report under the next number. -/
def insertReport (tables : Tables) (report : NewReport) (group : Int) : Report × Tables :=
  let stored := tables.stored report group
  (stored, { tables with
    reports := tables.reports ++ [stored]
    lastReport := stored.id })

/-- Replaces the report with a number. -/
def replaceReport (tables : Tables) (report : Report) : Tables :=
  { tables with reports := tables.reports.map fun r => if r.id = report.id then report else r }

/-- Moves a report to a status that may follow its present one. -/
def changeStatus (tables : Tables) (id : Int) (next : Status) (now : Instant) :
    Except Failure (StatusChange × Tables) :=
  match tables.report? id with
  | none => .error (.reportNotFound id)
  | some report =>
    if report.status.canBecome next then
      let changed := { report with status := next, updatedAt := now }
      .ok (⟨report.status, changed⟩, tables.replaceReport changed)
    else .error (.invalidTransition report.status next)

/-- Opens a bike group under the next number. -/
def createGroup (tables : Tables) (anchor : Point) (now : Instant) : BikeGroup × Tables :=
  let group := BikeGroup.anchoredAt (tables.lastGroup + 1) anchor now
  (group, { tables with groups := tables.groups ++ [group], lastGroup := group.id })

/-- A group with everything that a recount yields taken from another one. -/
def overwrite (group updated : BikeGroup) : BikeGroup :=
  { updated with id := group.id, createdAt := group.createdAt, anchor := group.anchor }

/-- Overwrites what a recount yields for the group with the number of the given one. -/
def updateGroup (tables : Tables) (updated : BikeGroup) : Except Failure Tables :=
  match tables.group? updated.id with
  | none => .error (.missingBikeGroup updated.id none)
  | some _ => .ok { tables with
      groups := tables.groups.map fun group =>
        if group.id = updated.id then overwrite group updated else group }

/-- The smallest of some numbers that is no report. -/
def missingReport? (tables : Tables) (ids : IdSet) : Option Int :=
  ids.ids.find? fun id => (tables.report? id).isNone

/-- Points members at their duplicate group. -/
def pointAt (tables : Tables) (group : DuplicateGroup) (now : Instant) : Tables :=
  { tables with
    reports := tables.reports.map fun report =>
      if report.id ∈ group.members then
        { report with duplicateGroup := some group.id, updatedAt := now }
      else report }

/-- Puts back a duplicate group, or adds one under the next number. -/
def putDuplicateGroup (tables : Tables) (group : DuplicateGroup) (created : Bool) : Tables :=
  if created then
    { tables with
      duplicateGroups := tables.duplicateGroups ++ [group]
      lastDuplicateGroup := group.id }
  else
    { tables with
      duplicateGroups := tables.duplicateGroups.map fun g => if g.id = group.id then group else g }

/-- Adds duplicates to the duplicate group of a canonical report, which is opened if there is none,
and points every member at it. All reports have to be there. -/
def mergeReports (tables : Tables) (canonical : Int) (duplicates : IdSet) (createdBy : String)
    (now : Instant) : Except Failure (MergeOutcome × Tables) :=
  if (tables.report? canonical).isNone then .error (.canonicalNotFound canonical)
  else match tables.missingReport? duplicates with
    | some missing => .error (.duplicateNotFound missing)
    | none =>
      let existing := tables.duplicateGroupFor? canonical
      let before := existing.getD
        ⟨tables.lastDuplicateGroup + 1, canonical, IdSet.empty, now, createdBy⟩
      let newlyMerged := duplicates.diff before.merged
      let group := { before with merged := before.merged.union newlyMerged }
      let created := existing.isNone
      .ok (⟨group, created, newlyMerged⟩, (tables.putDuplicateGroup group created).pointAt group now)

/-! ## The tables as a store -/

/-- A call that reads. -/
def reading {α : Type} (read : Tables → α) : Attempt (StateM Tables) α :=
  ExceptT.mk fun tables => pure (.ok (read tables), tables)

/-- A call that cannot be refused. -/
def writing {α : Type} (write : Tables → α × Tables) : Attempt (StateM Tables) α :=
  ExceptT.mk fun tables => let (value, tables) := write tables; pure (.ok value, tables)

/-- A call that changes nothing if it is refused. -/
def attempting {α : Type} (write : Tables → Except Failure (α × Tables)) :
    Attempt (StateM Tables) α :=
  ExceptT.mk fun tables =>
    match write tables with
    | .ok (value, tables) => pure (.ok value, tables)
    | .error failure => pure (.error failure, tables)

@[simp] theorem run_reading {α : Type} (read : Tables → α) (tables : Tables) :
    (reading read).run.run tables = (.ok (read tables), tables) := rfl

@[simp] theorem run_writing {α : Type} (write : Tables → α × Tables) (tables : Tables) :
    (writing write).run.run tables = (.ok (write tables).1, (write tables).2) := rfl

theorem run_attempting_ok {α : Type} {write : Tables → Except Failure (α × Tables)}
    {tables after : Tables} {value : α} (h : write tables = .ok (value, after)) :
    (attempting write).run.run tables = (.ok value, after) := by
  simp only [attempting, ExceptT.run, ExceptT.mk, StateT.run, h]
  rfl

/-- A refused call leaves the tables alone. -/
theorem run_attempting_error {α : Type} {write : Tables → Except Failure (α × Tables)}
    {tables : Tables} {failure : Failure} (h : write tables = .error failure) :
    (attempting write).run.run tables = (.error failure, tables) := by
  simp only [attempting, ExceptT.run, ExceptT.mk, StateT.run, h]
  rfl

/-- The store that keeps everything in memory. -/
def store : SignalStore (StateM Tables) where
  report? id := reading (report? · id)
  candidates query := reading (candidates · query)
  reportsInGroup group := reading (reportsInGroup · group)
  listReports status := reading (listReports · status)
  insertReport report group := writing (insertReport · report group)
  changeStatus report next now := attempting (changeStatus · report next now)
  createGroup anchor now := writing (createGroup · anchor now)
  group? id := reading (group? · id)
  groupIds := reading groupIds
  updateGroup group := attempting fun tables => (tables.updateGroup group).map fun t => ((), t)
  mergeReports canonical duplicates createdBy now :=
    attempting (mergeReports · canonical duplicates createdBy now)
  duplicateGroup? id := reading (duplicateGroup? · id)
  duplicateGroupFor? canonical := reading (duplicateGroupFor? · canonical)

end Tables

end AbandonedBikes
