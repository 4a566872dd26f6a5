import AbandonedBikes.Proofs.Lookups
import AbandonedBikes.Proofs.Store.Numbering
/-!
# What a merge does to the duplicate groups

A merge looks for the group of its canonical report and puts back a group under the same number, or
opens one. As long as no two groups share a canonical report, the groups after a merge are its own
outcome and all groups of other canonical reports. `Merge.Made` collects what later proofs need of a
merge that is not refused; they do not look at the tables' operation again.
-/

namespace AbandonedBikes

@[simp] theorem DuplicateGroup.mem_members {group : DuplicateGroup} {id : Int} :
    id ∈ group.members ↔ id = group.canonical ∨ id ∈ group.merged :=
  IdSet.mem_insert

/-- A set of numbers is determined by its members. -/
theorem IdSet.ext {a b : IdSet} (same : ∀ id, id ∈ a ↔ id ∈ b) : a = b := by
  have ids : a.ids.Perm b.ids := by
    rw [List.perm_ext_iff_of_nodup (a.ascending.imp Int.ne_of_lt) (b.ascending.imp Int.ne_of_lt)]
    exact same
  have equal := ids.eq_of_pairwise (fun _ _ _ _ lt gt => absurd lt (Int.lt_asymm gt))
    a.ascending b.ascending
  cases a
  cases b
  cases equal
  rfl

/-- No two duplicate groups share their canonical report. -/
def Tables.OneGroupEach (tables : Tables) : Prop :=
  (tables.duplicateGroups.map DuplicateGroup.canonical).Nodup

theorem Tables.OneGroupEach.unique {tables : Tables} (single : tables.OneGroupEach)
    {a b : DuplicateGroup} (ha : a ∈ tables.duplicateGroups) (hb : b ∈ tables.duplicateGroups)
    (same : a.canonical = b.canonical) : a = b :=
  List.inj_on_of_nodup_map single ha hb same

theorem Tables.OneGroupEach.duplicateGroupFor?_eq {tables : Tables} (single : tables.OneGroupEach)
    {group : DuplicateGroup} (member : group ∈ tables.duplicateGroups) :
    tables.duplicateGroupFor? group.canonical = some group :=
  (find?_key_eq_some_iff single).mpr ⟨member, rfl⟩

/-- Every member of a duplicate group is a stored report. -/
def Tables.MembersKnown (tables : Tables) : Prop :=
  ∀ group ∈ tables.duplicateGroups, ∀ id ∈ group.members, ∃ report ∈ tables.reports, report.id = id

/-- A merge that was made, and what it yielded. -/
structure Merge where
  canonical : Int
  duplicates : IdSet
  operator : String
  now : Instant
  outcome : MergeOutcome

namespace Merge

/-- A merge is about its canonical report and the duplicates it names. -/
def Involves (merge : Merge) (id : Int) : Prop := id = merge.canonical ∨ id ∈ merge.duplicates

/-- The merge opens a group with its duplicates in it. -/
structure Opens (merge : Merge) (tables : Tables) : Prop where
  fresh : ∀ group ∈ tables.duplicateGroups, group.canonical ≠ merge.canonical
  created : merge.outcome.created = true
  id : merge.outcome.group.id = tables.lastDuplicateGroup + 1
  createdAt : merge.outcome.group.createdAt = merge.now
  createdBy : merge.outcome.group.createdBy = merge.operator
  merged : ∀ k, k ∈ merge.outcome.group.merged ↔ k ∈ merge.duplicates

/-- The merge adds its duplicates to a group that is there. -/
structure Extends (merge : Merge) (before : DuplicateGroup) : Prop where
  created : merge.outcome.created = false
  id : merge.outcome.group.id = before.id
  createdAt : merge.outcome.group.createdAt = before.createdAt
  createdBy : merge.outcome.group.createdBy = before.createdBy
  merged : ∀ k, k ∈ merge.outcome.group.merged ↔ k ∈ before.merged ∨ k ∈ merge.duplicates

/-- A merge opens the group of its canonical report, or it extends the one that is there. -/
inductive Kind (merge : Merge) (tables : Tables) : Prop
  | opens (opens : merge.Opens tables)
  | grows {before : DuplicateGroup} (member : before ∈ tables.duplicateGroups)
      (owner : before.canonical = merge.canonical) (growth : merge.Extends before)

/-- What a merge has done if it was not refused. -/
structure Made (merge : Merge) (tables after : Tables) : Prop where
  known : ∀ id, merge.Involves id → ∃ report ∈ tables.reports, report.id = id
  owner : merge.outcome.group.canonical = merge.canonical
  kind : merge.Kind tables
  mem_groups : ∀ group, group ∈ after.duplicateGroups ↔ group = merge.outcome.group ∨
    (group ∈ tables.duplicateGroups ∧ group.canonical ≠ merge.canonical)
  single : after.OneGroupEach
  reports : after.reports = tables.reports.map (Tables.pointed merge.outcome.group merge.now)

/-- The duplicates that a merge adds are new to the group of its canonical report. -/
structure Adds (merge : Merge) (tables : Tables) : Prop where
  merged : ∀ id, id ∈ merge.outcome.group.merged ↔ id ∈ merge.outcome.newlyMerged ∨
    ∃ before ∈ tables.duplicateGroups, before.canonical = merge.canonical ∧ id ∈ before.merged
  fresh : ∀ before ∈ tables.duplicateGroups, before.canonical = merge.canonical →
    ∀ id ∈ merge.outcome.newlyMerged, id ∉ before.merged

variable {merge : Merge} {tables after : Tables}

theorem owner_of_outcome
    (h : merge.outcome =
      tables.mergeOutcome merge.canonical merge.duplicates merge.operator merge.now) :
    merge.outcome.group.canonical = merge.canonical := by
  rw [h]
  cases found : tables.duplicateGroupFor? merge.canonical with
  | none => rw [Tables.mergeOutcome_of_none found]
  | some before =>
    rw [Tables.mergeOutcome_of_some found]
    exact (Tables.mem_of_duplicateGroupFor? found).2

theorem kind_of_outcome
    (h : merge.outcome =
      tables.mergeOutcome merge.canonical merge.duplicates merge.operator merge.now) :
    merge.Kind tables := by
  cases found : tables.duplicateGroupFor? merge.canonical with
  | none =>
    rw [Tables.mergeOutcome_of_none found] at h
    refine .opens ⟨Tables.duplicateGroupFor?_eq_none found, ?_, ?_, ?_, ?_, ?_⟩ <;> rw [h]
    simp
  | some before =>
    obtain ⟨member, same⟩ := Tables.mem_of_duplicateGroupFor? found
    rw [Tables.mergeOutcome_of_some found] at h
    refine .grows member same ?_
    constructor <;> rw [h]
    intro k
    rw [IdSet.mem_union, IdSet.mem_diff]
    by_cases known : k ∈ before.merged <;> simp [known]

theorem adds_of_outcome (single : tables.OneGroupEach)
    (h : merge.outcome =
      tables.mergeOutcome merge.canonical merge.duplicates merge.operator merge.now) :
    merge.Adds tables := by
  cases found : tables.duplicateGroupFor? merge.canonical with
  | none =>
    have none_there := Tables.duplicateGroupFor?_eq_none found
    rw [Tables.mergeOutcome_of_none found] at h
    refine ⟨fun id => ?_, fun before member same => absurd same (none_there before member)⟩
    rw [h, IdSet.mem_union, or_iff_right IdSet.not_mem_empty, or_iff_left]
    rintro ⟨before, member, same, _⟩
    exact none_there before member same
  | some group =>
    obtain ⟨group_member, owner⟩ := Tables.mem_of_duplicateGroupFor? found
    have only {before : DuplicateGroup} (member : before ∈ tables.duplicateGroups)
        (same : before.canonical = merge.canonical) : before = group :=
      single.unique member group_member (same.trans owner.symm)
    rw [Tables.mergeOutcome_of_some found] at h
    refine ⟨fun id => ?_, fun before member same id added => ?_⟩
    · rw [h, IdSet.mem_union, or_comm]
      refine or_congr_right ⟨fun old => ⟨group, group_member, owner, old⟩, ?_⟩
      rintro ⟨before, member, same, old⟩
      rwa [only member same] at old
    · rw [h, IdSet.mem_diff] at added
      rw [only member same]
      exact added.2

section Kind

variable (kind : merge.Kind tables) {id : Int}
include kind

/-- A duplicate is merged, whether the group is opened for it or was there. -/
theorem Kind.mem_merged (named : id ∈ merge.duplicates) : id ∈ merge.outcome.group.merged := by
  cases kind with
  | opens opens => exact (opens.merged id).mpr named
  | grows _ _ growth => exact (growth.merged id).mpr (.inr named)

/-- A merged report is a duplicate or comes from an earlier merge. -/
theorem Kind.of_mem_merged (merged : id ∈ merge.outcome.group.merged) :
    id ∈ merge.duplicates ∨ ∃ before ∈ tables.duplicateGroups,
      before.canonical = merge.canonical ∧ id ∈ before.merged := by
  cases kind with
  | opens opens => exact .inl ((opens.merged id).mp merged)
  | @grows before member owner growth =>
    rcases (growth.merged id).mp merged with old | named
    · exact .inr ⟨before, member, owner, old⟩
    · exact .inl named

/-- Merged now are the duplicates that were not merged before. -/
theorem Adds.mem_newlyMerged (adds : merge.Adds tables) :
    id ∈ merge.outcome.newlyMerged ↔ id ∈ merge.duplicates ∧
      ∀ before ∈ tables.duplicateGroups, before.canonical = merge.canonical →
        id ∉ before.merged := by
  constructor
  · intro new
    have fresh {before : DuplicateGroup} (member : before ∈ tables.duplicateGroups)
        (owner : before.canonical = merge.canonical) : id ∉ before.merged :=
      adds.fresh before member owner id new
    rcases kind.of_mem_merged ((adds.merged id).mpr (.inl new)) with named | ⟨_, member, owner, old⟩
    · exact ⟨named, fun _ member owner => fresh member owner⟩
    · exact absurd old (fresh member owner)
  · rintro ⟨named, fresh⟩
    rcases (adds.merged id).mp (kind.mem_merged named) with new | ⟨before, member, owner, old⟩
    · exact new
    · exact absurd old (fresh before member owner)

end Kind

/-- A group is the one that a merge extends if it has its number or its canonical report. -/
theorem id_eq_iff_of_extends (numbered : tables.Numbered) (single : tables.OneGroupEach)
    {before group : DuplicateGroup} (before_member : before ∈ tables.duplicateGroups)
    (owner : before.canonical = merge.canonical) (growth : merge.Extends before)
    (member : group ∈ tables.duplicateGroups) :
    group.id = merge.outcome.group.id ↔ group.canonical = merge.canonical := by
  rw [growth.id]
  constructor
  · intro same
    rw [numbered.duplicateGroup_unique member before_member same, owner]
  · intro same
    rw [single.unique member before_member (same.trans owner.symm)]

theorem mem_groups_afterMerge (numbered : tables.Numbered) (single : tables.OneGroupEach)
    (kind : merge.Kind tables) (group : DuplicateGroup) :
    group ∈ (tables.afterMerge merge.outcome merge.now).duplicateGroups ↔
      group = merge.outcome.group ∨
        (group ∈ tables.duplicateGroups ∧ group.canonical ≠ merge.canonical) := by
  rw [Tables.afterMerge_duplicateGroups]
  cases kind with
  | opens opens =>
    rw [if_pos opens.created, List.mem_append, List.mem_singleton, or_comm]
    exact or_congr_right ⟨fun member => ⟨member, opens.fresh group member⟩, And.left⟩
  | @grows before before_member owner growth =>
    have hit {g : DuplicateGroup} (member : g ∈ tables.duplicateGroups) :=
      id_eq_iff_of_extends numbered single before_member owner growth member
    rw [growth.created, if_neg Bool.false_ne_true, List.mem_map]
    constructor
    · rintro ⟨g, member, rfl⟩
      split
      next => exact .inl rfl
      next miss => exact .inr ⟨member, fun same => miss ((hit member).mpr same)⟩
    · rintro (rfl | ⟨member, other⟩)
      · exact ⟨before, before_member, if_pos growth.id.symm⟩
      · exact ⟨group, member, if_neg fun same => other ((hit member).mp same)⟩

theorem oneGroupEach_afterMerge (numbered : tables.Numbered) (single : tables.OneGroupEach)
    (owner : merge.outcome.group.canonical = merge.canonical) (kind : merge.Kind tables) :
    (tables.afterMerge merge.outcome merge.now).OneGroupEach := by
  rw [Tables.OneGroupEach, Tables.afterMerge_duplicateGroups]
  cases kind with
  | opens opens =>
    rw [if_pos opens.created, List.map_append, List.map_singleton, owner]
    refine List.Nodup.append single (List.nodup_singleton _) ?_
    rw [List.disjoint_singleton]
    intro taken
    obtain ⟨group, member, same⟩ := List.mem_map.mp taken
    exact opens.fresh group member same
  | grows before_member before_owner growth =>
    have same_canonicals : (tables.duplicateGroups.map fun group =>
        if group.id = merge.outcome.group.id then merge.outcome.group else group).map
          DuplicateGroup.canonical = tables.duplicateGroups.map DuplicateGroup.canonical := by
      rw [List.map_map]
      refine List.map_congr_left fun group member => ?_
      simp only [Function.comp]
      split
      next same =>
        have hit := id_eq_iff_of_extends numbered single before_member before_owner growth member
        rw [hit.mp same, owner]
      next => rfl
    rw [growth.created, if_neg Bool.false_ne_true, same_canonicals]
    exact single

/-- A merge that is not refused is made. -/
theorem made_of_mergeReports (numbered : tables.Numbered) (single : tables.OneGroupEach)
    (h : tables.mergeReports merge.canonical merge.duplicates merge.operator merge.now =
      .ok (merge.outcome, after)) : merge.Made tables after := by
  obtain ⟨canonical_known, duplicates_known, outcome, rfl⟩ := Tables.of_mergeReports h
  have owner := owner_of_outcome outcome
  have kind := kind_of_outcome outcome
  constructor
  · rintro id (rfl | member)
    · exact canonical_known
    · exact duplicates_known id member
  · exact owner
  · exact kind
  · exact mem_groups_afterMerge numbered single kind
  · exact oneGroupEach_afterMerge numbered single owner kind
  · exact Tables.afterMerge_reports tables merge.outcome merge.now

theorem adds_of_mergeReports (single : tables.OneGroupEach)
    (h : tables.mergeReports merge.canonical merge.duplicates merge.operator merge.now =
      .ok (merge.outcome, after)) : merge.Adds tables :=
  adds_of_outcome single (Tables.of_mergeReports h).2.2.1

namespace Made

variable (made : merge.Made tables after)
include made

/-- The tables end with the group that the merge has yielded. -/
theorem duplicateGroupFor?_eq :
    after.duplicateGroupFor? merge.canonical = some merge.outcome.group := by
  rw [← made.owner]
  exact made.single.duplicateGroupFor?_eq ((made.mem_groups _).mpr (.inl rfl))

/-- The group of the canonical report keeps its number. -/
theorem id_eq (single : tables.OneGroupEach) {before : DuplicateGroup}
    (member : before ∈ tables.duplicateGroups) (same : before.canonical = merge.canonical) :
    before.id = merge.outcome.group.id := by
  cases made.kind with
  | opens opens => exact absurd same (opens.fresh before member)
  | @grows group group_member owner growth =>
    rw [single.unique member group_member (same.trans owner.symm), growth.id]

/-- What a merge is about is in its group. -/
theorem mem_of_involves {id : Int} (involved : merge.Involves id) :
    id ∈ merge.outcome.group.members := by
  rw [DuplicateGroup.mem_members, made.owner]
  exact involved.imp_right made.kind.mem_merged

/-- A group that was there has not lost its number or a member. -/
theorem exists_grown (single : tables.OneGroupEach) {group : DuplicateGroup}
    (member : group ∈ tables.duplicateGroups) :
    ∃ later ∈ after.duplicateGroups, later.canonical = group.canonical ∧ later.id = group.id ∧
      ∀ id ∈ group.members, id ∈ later.members := by
  by_cases same : group.canonical = merge.canonical
  · cases made.kind with
    | opens opens => exact absurd same (opens.fresh group member)
    | grows before_member owner growth =>
      obtain rfl := single.unique member before_member (same.trans owner.symm)
      refine ⟨merge.outcome.group, (made.mem_groups _).mpr (.inl rfl), ?_, growth.id, ?_⟩
      · rw [made.owner, same]
      · intro id old
        rw [DuplicateGroup.mem_members] at old ⊢
        rw [made.owner, ← same, growth.merged]
        exact old.imp_right Or.inl
  · have kept := (made.mem_groups group).mpr (.inr ⟨member, same⟩)
    exact ⟨group, kept, rfl, rfl, fun _ old => old⟩

theorem exists_report {report : Report} (member : report ∈ tables.reports) :
    ∃ later ∈ after.reports, later.id = report.id := by
  rw [made.reports]
  exact ⟨_, List.mem_map_of_mem member, Tables.pointed_id merge.now merge.outcome.group report⟩

/-- A merge takes in nobody but members and reports that it has checked. -/
theorem membersKnown (known : tables.MembersKnown) : after.MembersKnown := by
  have stays {id : Int} (stored : ∃ report ∈ tables.reports, report.id = id) :
      ∃ report ∈ after.reports, report.id = id := by
    obtain ⟨report, member, rfl⟩ := stored
    exact made.exists_report member
  intro group member id id_member
  rcases (made.mem_groups group).mp member with rfl | ⟨old, _⟩
  · rw [DuplicateGroup.mem_members, made.owner] at id_member
    cases id_member with
    | inl same => exact stays (made.known id (.inl same))
    | inr merged =>
      rcases made.kind.of_mem_merged merged with named | ⟨before, before_member, _, old⟩
      · exact stays (made.known id (.inr named))
      · exact stays (known before before_member id (DuplicateGroup.mem_members.mpr (.inr old)))
  · exact stays (known group old id id_member)

end Made

end Merge

namespace Tables.OneGroupEach

variable {tables after : Tables}

/-- Every write keeps one group for each canonical report. -/
theorem write (numbered : tables.Numbered) (single : tables.OneGroupEach)
    (h : Write tables after) : after.OneGroupEach := by
  cases h with
  | insertReport new group => exact single
  | changeStatus h =>
    obtain ⟨_, _, _, _, rfl⟩ := of_changeStatus h
    exact single
  | createGroup anchor now => exact single
  | updateGroup h =>
    obtain ⟨_, rfl⟩ := of_updateGroup h
    exact single
  | @mergeReports _ canonical duplicates operator now outcome h =>
    have made : Merge.Made ⟨canonical, duplicates, operator, now, outcome⟩ tables after :=
      Merge.made_of_mergeReports numbered single h
    exact made.single

/-- Tables that are reached by writes have one group for each canonical report. -/
theorem of_writes (h : Writes {} tables) : tables.OneGroupEach := by
  induction h with
  | refl => exact List.nodup_nil
  | tail earlier last ih => exact ih.write (Numbered.empty.writes earlier) last

end Tables.OneGroupEach

namespace Tables.MembersKnown

variable {tables after : Tables}

/-- No write takes a report away, so every write keeps the members known. -/
theorem write (numbered : tables.Numbered) (single : tables.OneGroupEach)
    (known : tables.MembersKnown) (h : Write tables after) : after.MembersKnown := by
  cases h with
  | insertReport new group =>
    intro duplicates member id id_member
    obtain ⟨report, stored, same⟩ := known duplicates member id id_member
    exact ⟨report, List.mem_append_left _ stored, same⟩
  | changeStatus h =>
    obtain ⟨changed, _, _, _, rfl⟩ := of_changeStatus h
    intro duplicates member id id_member
    obtain ⟨report, stored, rfl⟩ := known duplicates member id id_member
    refine ⟨_, List.mem_map_of_mem stored, ?_⟩
    split
    next same => exact same.symm
    next => rfl
  | createGroup anchor now => exact known
  | updateGroup h =>
    obtain ⟨_, rfl⟩ := of_updateGroup h
    exact known
  | @mergeReports _ canonical duplicates operator now outcome h =>
    have made : Merge.Made ⟨canonical, duplicates, operator, now, outcome⟩ tables after :=
      Merge.made_of_mergeReports numbered single h
    exact made.membersKnown known

/-- In tables that are reached by writes every member of a duplicate group is stored. -/
theorem of_writes (h : Writes {} tables) : tables.MembersKnown := by
  induction h with
  | refl => exact fun group member => absurd member List.not_mem_nil
  | tail earlier last ih =>
    exact write (Numbered.empty.writes earlier) (OneGroupEach.of_writes earlier) ih last

end Tables.MembersKnown

end AbandonedBikes
