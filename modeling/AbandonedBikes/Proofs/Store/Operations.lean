import AbandonedBikes.Store.Tables
import AbandonedBikes.Proofs.Replay.Chronology
/-!
# What the operations on the tables do

Each operation has lemmas that read the tables after it, and each one that can be refused has a lemma
that says what a success means. Proofs about calls and runs use these and leave the operations closed.
-/

namespace AbandonedBikes.Tables

variable {tables after : Tables}

/-! ## Looking up -/

theorem mem_of_report? {id : Int} {report : Report} (h : tables.report? id = some report) :
    report ∈ tables.reports ∧ report.id = id :=
  ⟨List.mem_of_find?_eq_some h, by simpa using List.find?_some h⟩

theorem mem_of_group? {id : Int} {group : BikeGroup} (h : tables.group? id = some group) :
    group ∈ tables.groups ∧ group.id = id :=
  ⟨List.mem_of_find?_eq_some h, by simpa using List.find?_some h⟩

theorem mem_of_duplicateGroupFor? {canonical : Int} {group : DuplicateGroup}
    (h : tables.duplicateGroupFor? canonical = some group) :
    group ∈ tables.duplicateGroups ∧ group.canonical = canonical :=
  ⟨List.mem_of_find?_eq_some h, by simpa using List.find?_some h⟩

theorem exists_report_iff {id : Int} :
    (tables.report? id).isSome = true ↔ ∃ report ∈ tables.reports, report.id = id := by
  simp [report?, List.find?_isSome]

theorem exists_group? {group : BikeGroup} (member : group ∈ tables.groups) :
    ∃ found, tables.group? group.id = some found := by
  rw [← Option.isSome_iff_exists, group?, List.find?_isSome]
  exact ⟨group, member, by simp⟩

theorem duplicateGroupFor?_eq_none {canonical : Int}
    (h : tables.duplicateGroupFor? canonical = none) :
    ∀ group ∈ tables.duplicateGroups, group.canonical ≠ canonical := by
  simpa [duplicateGroupFor?] using h

theorem mem_reportsInGroup {group : Int} {report : Report} :
    report ∈ tables.reportsInGroup group ↔
      report ∈ tables.reports ∧ report.bikeGroup = group := by
  simp [reportsInGroup]

/-! ## Filing and opening -/

section

variable (tables) (new : NewReport) (group : Int) (anchor : Point) (now : Instant)

@[simp] theorem insertReport_reports :
    (tables.insertReport new group).2.reports = tables.reports ++ [tables.stored new group] := rfl

@[simp] theorem insertReport_groups :
    (tables.insertReport new group).2.groups = tables.groups := rfl

@[simp] theorem insertReport_duplicateGroups :
    (tables.insertReport new group).2.duplicateGroups = tables.duplicateGroups := rfl

@[simp] theorem stored_id : (tables.stored new group).id = tables.lastReport + 1 := rfl

@[simp] theorem stored_bikeGroup : (tables.stored new group).bikeGroup = group := rfl

@[simp] theorem stored_duplicateGroup : (tables.stored new group).duplicateGroup = none := rfl

@[simp] theorem createGroup_reports :
    (tables.createGroup anchor now).2.reports = tables.reports := rfl

@[simp] theorem createGroup_groups :
    (tables.createGroup anchor now).2.groups =
      tables.groups ++ [BikeGroup.anchoredAt (tables.lastGroup + 1) anchor now] := rfl

@[simp] theorem createGroup_duplicateGroups :
    (tables.createGroup anchor now).2.duplicateGroups = tables.duplicateGroups := rfl

end

/-! ## Changing a status -/

@[simp] theorem replaceReport_groups (report : Report) :
    (tables.replaceReport report).groups = tables.groups := rfl

@[simp] theorem replaceReport_duplicateGroups (report : Report) :
    (tables.replaceReport report).duplicateGroups = tables.duplicateGroups := rfl

/-- The report with another status. -/
def withStatus (report : Report) (next : Status) (now : Instant) : Report :=
  { report with status := next, updatedAt := now }

@[simp] theorem withStatus_id (report : Report) (next : Status) (now : Instant) :
    (withStatus report next now).id = report.id := rfl

@[simp] theorem withStatus_duplicateGroup (report : Report) (next : Status) (now : Instant) :
    (withStatus report next now).duplicateGroup = report.duplicateGroup := rfl

@[simp] theorem withStatus_asFiled (report : Report) (next : Status) (now : Instant) :
    (withStatus report next now).asFiled = report.asFiled := rfl

theorem of_changeStatus {id : Int} {next : Status} {now : Instant} {change : StatusChange}
    (h : tables.changeStatus id next now = .ok (change, after)) :
    ∃ report, tables.report? id = some report ∧ report.status.canBecome next = true ∧
      change = ⟨report.status, withStatus report next now⟩ ∧
      after = tables.replaceReport (withStatus report next now) := by
  unfold changeStatus at h
  cases found : tables.report? id with
  | none => simp [found] at h
  | some report =>
    simp only [found] at h
    split at h
    next allowed =>
      injection h with pair
      injection pair with change_eq after_eq
      exact ⟨report, rfl, allowed, change_eq.symm, after_eq.symm⟩
    next => simp at h

/-! ## Overwriting a group -/

/-- The tables with a group overwritten. -/
def overwritten (tables : Tables) (updated : BikeGroup) : Tables :=
  { tables with
    groups := tables.groups.map fun group =>
      if group.id = updated.id then overwrite group updated else group }

@[simp] theorem overwritten_reports (updated : BikeGroup) :
    (tables.overwritten updated).reports = tables.reports := rfl

@[simp] theorem overwritten_duplicateGroups (updated : BikeGroup) :
    (tables.overwritten updated).duplicateGroups = tables.duplicateGroups := rfl

@[simp] theorem overwrite_id (group updated : BikeGroup) :
    (overwrite group updated).id = group.id := rfl

theorem mem_overwritten {group updated : BikeGroup}
    (member : group ∈ (tables.overwritten updated).groups) :
    ∃ old ∈ tables.groups, old.id = group.id ∧
      ((group.id = updated.id ∧ group = overwrite old updated) ∨
        (group.id ≠ updated.id ∧ group = old)) := by
  obtain ⟨old, old_member, rfl⟩ := List.mem_map.mp member
  by_cases same : old.id = updated.id
  · refine ⟨old, old_member, ?_, .inl ⟨?_, ?_⟩⟩ <;> simp [same]
  · refine ⟨old, old_member, ?_, .inr ⟨?_, ?_⟩⟩ <;> simp [same]

theorem exists_overwritten {group updated : BikeGroup} (member : group ∈ tables.groups) :
    ∃ after ∈ (tables.overwritten updated).groups, after.id = group.id := by
  refine ⟨_, List.mem_map.mpr ⟨group, member, rfl⟩, ?_⟩
  split <;> rfl

theorem updateGroup_of_found {updated found : BikeGroup}
    (h : tables.group? updated.id = some found) :
    tables.updateGroup updated = .ok (tables.overwritten updated) := by
  rw [updateGroup, h]
  rfl

theorem of_updateGroup {updated : BikeGroup} (h : tables.updateGroup updated = .ok after) :
    (∃ found, tables.group? updated.id = some found) ∧ after = tables.overwritten updated := by
  cases found : tables.group? updated.id with
  | none => simp [updateGroup, found] at h
  | some group =>
    rw [updateGroup_of_found found] at h
    injection h with same
    exact ⟨⟨group, rfl⟩, same.symm⟩

/-! ## Merging -/

/-- What a merge yields if it is not refused. -/
def mergeOutcome (tables : Tables) (canonical : Int) (duplicates : IdSet) (createdBy : String)
    (now : Instant) : MergeOutcome :=
  let existing := tables.duplicateGroupFor? canonical
  let before := existing.getD
    ⟨tables.lastDuplicateGroup + 1, canonical, IdSet.empty, now, createdBy⟩
  let newlyMerged := duplicates.diff before.merged
  ⟨{ before with merged := before.merged.union newlyMerged }, existing.isNone, newlyMerged⟩

theorem mergeOutcome_of_none {canonical : Int} (h : tables.duplicateGroupFor? canonical = none)
    (duplicates : IdSet) (createdBy : String) (now : Instant) :
    tables.mergeOutcome canonical duplicates createdBy now =
      ⟨⟨tables.lastDuplicateGroup + 1, canonical,
        IdSet.empty.union (duplicates.diff IdSet.empty), now, createdBy⟩, true,
        duplicates.diff IdSet.empty⟩ := by
  simp [mergeOutcome, h]

theorem mergeOutcome_of_some {canonical : Int} {group : DuplicateGroup}
    (h : tables.duplicateGroupFor? canonical = some group)
    (duplicates : IdSet) (createdBy : String) (now : Instant) :
    tables.mergeOutcome canonical duplicates createdBy now =
      ⟨{ group with merged := group.merged.union (duplicates.diff group.merged) }, false,
        duplicates.diff group.merged⟩ := by
  simp [mergeOutcome, h]

/-- The tables after a merge with some outcome. -/
def afterMerge (tables : Tables) (outcome : MergeOutcome) (now : Instant) : Tables :=
  (tables.putDuplicateGroup outcome.group outcome.created).pointAt outcome.group now

/-- A merge needs all its reports, and then does what its outcome says. -/
theorem of_mergeReports {canonical : Int} {duplicates : IdSet} {createdBy : String} {now : Instant}
    {outcome : MergeOutcome}
    (h : tables.mergeReports canonical duplicates createdBy now = .ok (outcome, after)) :
    (∃ report ∈ tables.reports, report.id = canonical) ∧
      (∀ id ∈ duplicates, ∃ report ∈ tables.reports, report.id = id) ∧
      outcome = tables.mergeOutcome canonical duplicates createdBy now ∧
      after = tables.afterMerge outcome now := by
  unfold mergeReports at h
  split at h
  next => simp at h
  next known =>
    split at h
    next => simp at h
    next complete =>
      injection h with pair
      injection pair with outcome_eq after_eq
      refine ⟨?_, ?_, outcome_eq.symm, ?_⟩
      · rw [← exists_report_iff, Option.isSome_iff_ne_none]
        simpa using known
      · intro id member
        have present := List.find?_eq_none.mp complete id member
        rw [← exists_report_iff, Option.isSome_iff_ne_none]
        simpa using present
      · rw [← after_eq, ← outcome_eq]
        rfl

section

variable (tables) (outcome : MergeOutcome) (now : Instant)

/-- A report as a merge leaves it. -/
def pointed (group : DuplicateGroup) (now : Instant) (report : Report) : Report :=
  if report.id ∈ group.members then
    { report with duplicateGroup := some group.id, updatedAt := now }
  else report

@[simp] theorem pointed_id (group : DuplicateGroup) (report : Report) :
    (pointed group now report).id = report.id := by
  rw [pointed]
  split <;> rfl

@[simp] theorem pointed_asFiled (group : DuplicateGroup) (report : Report) :
    (pointed group now report).asFiled = report.asFiled := by
  rw [pointed]
  split <;> rfl

theorem pointed_duplicateGroup (group : DuplicateGroup) (report : Report) :
    (pointed group now report).duplicateGroup =
      if report.id ∈ group.members then some group.id else report.duplicateGroup := by
  rw [pointed]
  split <;> rfl

/-- Everything that a merge changes. -/
theorem afterMerge_eq :
    tables.afterMerge outcome now =
      { tables with
        reports := tables.reports.map (pointed outcome.group now)
        duplicateGroups :=
          if outcome.created then tables.duplicateGroups ++ [outcome.group]
          else tables.duplicateGroups.map fun group =>
            if group.id = outcome.group.id then outcome.group else group
        lastDuplicateGroup :=
          if outcome.created then outcome.group.id else tables.lastDuplicateGroup } := by
  rw [afterMerge, putDuplicateGroup]
  cases outcome.created <;> rfl

@[simp] theorem afterMerge_lastReport :
    (tables.afterMerge outcome now).lastReport = tables.lastReport := by
  rw [afterMerge_eq]

@[simp] theorem afterMerge_lastGroup :
    (tables.afterMerge outcome now).lastGroup = tables.lastGroup := by
  rw [afterMerge_eq]

@[simp] theorem afterMerge_groups : (tables.afterMerge outcome now).groups = tables.groups := by
  rw [afterMerge_eq]

theorem afterMerge_lastDuplicateGroup :
    (tables.afterMerge outcome now).lastDuplicateGroup =
      if outcome.created then outcome.group.id else tables.lastDuplicateGroup := by
  rw [afterMerge_eq]

theorem afterMerge_duplicateGroups :
    (tables.afterMerge outcome now).duplicateGroups =
      if outcome.created then tables.duplicateGroups ++ [outcome.group]
      else tables.duplicateGroups.map fun group =>
        if group.id = outcome.group.id then outcome.group else group := by
  rw [afterMerge_eq]

theorem afterMerge_reports :
    (tables.afterMerge outcome now).reports = tables.reports.map (pointed outcome.group now) := by
  rw [afterMerge_eq]

end

end AbandonedBikes.Tables
