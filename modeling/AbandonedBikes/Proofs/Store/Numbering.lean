import Mathlib.Data.List.Nodup
import Mathlib.Logic.Relation
import AbandonedBikes.Proofs.Store.Operations
/-!
# Numbers in the tables

Reports, bike groups and duplicate groups are numbered upwards in the order in which they are made,
and no number is given out twice. `Tables.Write` is one operation that changes the tables;
`Tables.Numbered` holds of empty tables and every write keeps it.
-/

namespace AbandonedBikes

/-- Numbers in ascending order up to the last one that was given out. -/
structure Ascending (ids : List Int) (last : Int) : Prop where
  pairwise : ids.Pairwise (· < ·)
  le_last : ∀ id ∈ ids, id ≤ last

namespace Ascending

variable {ids : List Int} {last : Int}

theorem nil (last : Int) : Ascending [] last := ⟨List.Pairwise.nil, by simp⟩

theorem nodup (ascending : Ascending ids last) : ids.Nodup :=
  ascending.pairwise.imp Int.ne_of_lt

theorem concat (ascending : Ascending ids last) : Ascending (ids ++ [last + 1]) (last + 1) where
  pairwise := by
    rw [List.pairwise_append]
    refine ⟨ascending.pairwise, List.pairwise_singleton _ _, ?_⟩
    intro id member next single
    have bound := ascending.le_last id member
    rw [List.mem_singleton] at single
    omega
  le_last := by
    intro id member
    cases List.mem_append.mp member with
    | inl member =>
      have bound := ascending.le_last id member
      omega
    | inr member =>
      rw [List.mem_singleton] at member
      omega

end Ascending

namespace Tables

variable {tables after : Tables}

/-- One operation that changes the tables. -/
inductive Write : Tables → Tables → Prop
  | insertReport (tables : Tables) (new : NewReport) (group : Int) :
    Write tables (tables.insertReport new group).2
  | changeStatus {tables after : Tables} {id : Int} {next : Status} {now : Instant}
      {change : StatusChange} (h : tables.changeStatus id next now = .ok (change, after)) :
    Write tables after
  | createGroup (tables : Tables) (anchor : Point) (now : Instant) :
    Write tables (tables.createGroup anchor now).2
  | updateGroup {tables after : Tables} {updated : BikeGroup}
      (h : tables.updateGroup updated = .ok after) : Write tables after
  | mergeReports {tables after : Tables} {canonical : Int} {duplicates : IdSet}
      {createdBy : String} {now : Instant} {outcome : MergeOutcome}
      (h : tables.mergeReports canonical duplicates createdBy now = .ok (outcome, after)) :
    Write tables after

/-- Any number of writes, one after another. -/
abbrev Writes : Tables → Tables → Prop := Relation.ReflTransGen Write

/-- Everything in the tables is numbered upwards. -/
structure Numbered (tables : Tables) : Prop where
  reports : Ascending (tables.reports.map Report.id) tables.lastReport
  groups : Ascending (tables.groups.map BikeGroup.id) tables.lastGroup
  duplicateGroups :
    Ascending (tables.duplicateGroups.map DuplicateGroup.id) tables.lastDuplicateGroup

namespace Numbered

theorem empty : Numbered {} := ⟨.nil 0, .nil 0, .nil 0⟩

theorem report_unique (numbered : tables.Numbered) {a b : Report} (ha : a ∈ tables.reports)
    (hb : b ∈ tables.reports) (same : a.id = b.id) : a = b :=
  List.inj_on_of_nodup_map numbered.reports.nodup ha hb same

theorem group_unique (numbered : tables.Numbered) {a b : BikeGroup} (ha : a ∈ tables.groups)
    (hb : b ∈ tables.groups) (same : a.id = b.id) : a = b :=
  List.inj_on_of_nodup_map numbered.groups.nodup ha hb same

theorem duplicateGroup_unique (numbered : tables.Numbered) {a b : DuplicateGroup}
    (ha : a ∈ tables.duplicateGroups) (hb : b ∈ tables.duplicateGroups) (same : a.id = b.id) :
    a = b :=
  List.inj_on_of_nodup_map numbered.duplicateGroups.nodup ha hb same

theorem report_le (numbered : tables.Numbered) {report : Report} (member : report ∈ tables.reports) :
    report.id ≤ tables.lastReport :=
  numbered.reports.le_last _ (List.mem_map_of_mem member)

theorem group_le (numbered : tables.Numbered) {group : BikeGroup} (member : group ∈ tables.groups) :
    group.id ≤ tables.lastGroup :=
  numbered.groups.le_last _ (List.mem_map_of_mem member)

theorem insertReport (numbered : tables.Numbered) (new : NewReport) (group : Int) :
    (tables.insertReport new group).2.Numbered where
  reports := by
    rw [insertReport_reports, List.map_append]
    exact numbered.reports.concat
  groups := numbered.groups
  duplicateGroups := numbered.duplicateGroups

theorem changeStatus (numbered : tables.Numbered) {id : Int} {next : Status} {now : Instant}
    {change : StatusChange} (h : tables.changeStatus id next now = .ok (change, after)) :
    after.Numbered := by
  obtain ⟨report, _, _, _, rfl⟩ := of_changeStatus h
  have ids : (tables.replaceReport (withStatus report next now)).reports.map Report.id =
      tables.reports.map Report.id := by
    simp only [replaceReport, List.map_map]
    refine List.map_congr_left fun r _ => ?_
    simp only [Function.comp]
    split
    next same => exact same.symm
    next => rfl
  exact ⟨ids ▸ numbered.reports, numbered.groups, numbered.duplicateGroups⟩

theorem createGroup (numbered : tables.Numbered) (anchor : Point) (now : Instant) :
    (tables.createGroup anchor now).2.Numbered where
  reports := numbered.reports
  groups := by
    rw [createGroup_groups, List.map_append]
    exact numbered.groups.concat
  duplicateGroups := numbered.duplicateGroups

theorem updateGroup (numbered : tables.Numbered) {updated : BikeGroup}
    (h : tables.updateGroup updated = .ok after) : after.Numbered := by
  obtain ⟨_, rfl⟩ := of_updateGroup h
  have ids : (tables.overwritten updated).groups.map BikeGroup.id =
      tables.groups.map BikeGroup.id := by
    simp only [overwritten, List.map_map]
    refine List.map_congr_left fun group _ => ?_
    simp only [Function.comp]
    split <;> rfl
  exact ⟨numbered.reports, ids ▸ numbered.groups, numbered.duplicateGroups⟩

theorem mergeReports (numbered : tables.Numbered) {canonical : Int} {duplicates : IdSet}
    {createdBy : String} {now : Instant} {outcome : MergeOutcome}
    (h : tables.mergeReports canonical duplicates createdBy now = .ok (outcome, after)) :
    after.Numbered := by
  obtain ⟨_, _, outcome_eq, rfl⟩ := of_mergeReports h
  have report_ids : (tables.afterMerge outcome now).reports.map Report.id =
      tables.reports.map Report.id := by
    rw [afterMerge_reports, List.map_map]
    exact List.map_congr_left fun report _ => pointed_id now outcome.group report
  constructor
  · rw [report_ids, afterMerge_lastReport]
    exact numbered.reports
  · rw [afterMerge_groups, afterMerge_lastGroup]
    exact numbered.groups
  · rw [afterMerge_duplicateGroups, afterMerge_lastDuplicateGroup]
    cases found : tables.duplicateGroupFor? canonical with
    | none =>
      rw [outcome_eq, mergeOutcome_of_none found]
      simpa using numbered.duplicateGroups.concat
    | some group =>
      have same_ids : (tables.duplicateGroups.map fun g =>
          if g.id = outcome.group.id then outcome.group else g).map DuplicateGroup.id =
          tables.duplicateGroups.map DuplicateGroup.id := by
        rw [List.map_map]
        refine List.map_congr_left fun g _ => ?_
        simp only [Function.comp]
        split
        next same => exact same.symm
        next => rfl
      have extended : outcome.created = false := by
        rw [outcome_eq, mergeOutcome_of_some found]
      rw [extended, if_neg Bool.false_ne_true, if_neg Bool.false_ne_true, same_ids]
      exact numbered.duplicateGroups

/-- Every write keeps the numbering. -/
theorem write (numbered : tables.Numbered) (h : Write tables after) : after.Numbered := by
  cases h with
  | insertReport new group => exact numbered.insertReport new group
  | changeStatus h => exact numbered.changeStatus h
  | createGroup anchor now => exact numbered.createGroup anchor now
  | updateGroup h => exact numbered.updateGroup h
  | mergeReports h => exact numbered.mergeReports h

theorem writes (numbered : tables.Numbered) (h : Writes tables after) : after.Numbered := by
  induction h with
  | refl => exact numbered
  | tail _ last ih => exact ih.write last

end Numbered

end Tables

end AbandonedBikes
