import Mathlib.Data.List.Infix
import AbandonedBikes.Proofs.Session.Counters
/-!
# What stays as a session goes on

Reports are never taken out of the tables. What was filed of a report stays, and only its status, the time
of its last change and its duplicate group may change. A bike group keeps its number, its anchor and the
time at which it was opened; all else in it is overwritten by recounts. New reports and groups come last,
under larger numbers than all before them, and so do duplicate groups, of which the number is all that is
said here. `Tables.Extends` says so of two states of the tables.

A group is opened by its first report, and nothing is put into it that has a smaller number. So its anchor
and its creation can be read off that report for good, which is the invariant `Tables.Anchored`.
-/

namespace AbandonedBikes

/-- The group as it was opened, before any recount. -/
def BikeGroup.asOpened (group : BikeGroup) : BikeGroup :=
  .anchoredAt group.id group.anchor group.createdAt

/-- What stays of a group from its opening on. -/
theorem BikeGroup.kept_of_asOpened_eq {a b : BikeGroup} (same : a.asOpened = b.asOpened) :
    a.id = b.id ∧ a.anchor = b.anchor ∧ a.createdAt = b.createdAt := by
  injection same with number creation _ anchor
  exact ⟨number, anchor, creation⟩

/-- The place where a report was filed does not change. -/
theorem Report.location_of_asFiled_eq {a b : Report} (same : a.asFiled = b.asFiled) :
    a.location = b.location := by
  injection same

/-- The report is the first one of the group, which is anchored at its place and its time. -/
structure Report.Anchors (report : Report) (reports : List Report) (group : BikeGroup) : Prop where
  house : report.bikeGroup = group.id
  first : ∀ other ∈ reports, other.bikeGroup = group.id → report.id ≤ other.id
  anchor : group.anchor = report.location.point
  createdAt : group.createdAt = report.createdAt

namespace Tables

variable {tables after last : Tables}

/-- Every report is still there as it was filed, every group as it was opened, and what is new comes
after them. -/
structure Extends (tables after : Tables) : Prop where
  reports : tables.reports.map Report.asFiled <+: after.reports.map Report.asFiled
  groups : tables.groups.map BikeGroup.asOpened <+: after.groups.map BikeGroup.asOpened
  duplicateGroups :
    tables.duplicateGroups.map DuplicateGroup.id <+: after.duplicateGroups.map DuplicateGroup.id

theorem Extends.refl (tables : Tables) : tables.Extends tables :=
  ⟨List.prefix_rfl, List.prefix_rfl, List.prefix_rfl⟩

theorem Extends.trans (first : tables.Extends after) (second : after.Extends last) :
    tables.Extends last :=
  ⟨first.reports.trans second.reports, first.groups.trans second.groups,
    first.duplicateGroups.trans second.duplicateGroups⟩

/-- A merge puts back a duplicate group under its number, or it adds one at the end. -/
theorem duplicateGroups_prefix_of_mergeReports {canonical : Int} {duplicates : IdSet}
    {createdBy : String} {now : Instant} {outcome : MergeOutcome}
    (h : tables.mergeReports canonical duplicates createdBy now = .ok (outcome, after)) :
    tables.duplicateGroups.map DuplicateGroup.id <+: after.duplicateGroups.map DuplicateGroup.id := by
  obtain ⟨_, _, _, rfl⟩ := of_mergeReports h
  rw [afterMerge_duplicateGroups]
  split
  next =>
    rw [List.map_append]
    exact List.prefix_append _ _
  next =>
    have same_ids : (tables.duplicateGroups.map fun group =>
        if group.id = outcome.group.id then outcome.group else group).map DuplicateGroup.id =
        tables.duplicateGroups.map DuplicateGroup.id := by
      rw [List.map_map]
      refine List.map_congr_left fun group _ => ?_
      simp only [Function.comp]
      split
      next same => exact same.symm
      next => rfl
    rw [same_ids]

/-- The groups are the same but for what recounts overwrite. -/
def SameGroups (tables after : Tables) : Prop :=
  after.groups.map BikeGroup.asOpened = tables.groups.map BikeGroup.asOpened

theorem SameGroups.exists_group (same : SameGroups tables after) {group : BikeGroup}
    (member : group ∈ after.groups) : ∃ old ∈ tables.groups, old.asOpened = group.asOpened := by
  have image : group.asOpened ∈ after.groups.map BikeGroup.asOpened := List.mem_map_of_mem member
  rw [same] at image
  exact List.mem_map.mp image

theorem sameGroups_overwritten (tables : Tables) (updated : BikeGroup) :
    SameGroups tables (tables.overwritten updated) := by
  simp only [SameGroups, overwritten, List.map_map]
  refine List.map_congr_left fun group _ => ?_
  simp only [Function.comp]
  split <;> rfl

/-- Every group is anchored by one of the reports. -/
def Anchored (tables : Tables) : Prop :=
  ∀ group ∈ tables.groups, ∃ report ∈ tables.reports, report.Anchors tables.reports group

/-- What an anchor is made of does not change after the filing. -/
theorem Anchored.same (anchored : tables.Anchored) (reports : SameReports tables after)
    (groups : SameGroups tables after) : after.Anchored := by
  intro group member
  obtain ⟨old, old_member, opened⟩ := groups.exists_group member
  obtain ⟨number, anchor, creation⟩ := BikeGroup.kept_of_asOpened_eq opened
  obtain ⟨first, first_member, anchors⟩ := anchored old old_member
  obtain ⟨later, later_member, filed⟩ := reports.symm.exists_report first_member
  have place : later.location = first.location := Report.location_of_asFiled_eq filed
  obtain ⟨same_number, same_creation, _, same_house⟩ := Report.kept_of_asFiled_eq filed
  refine ⟨later, later_member, ?_, ?_, ?_, ?_⟩
  · rw [same_house, anchors.house, number]
  · intro other other_member house
    obtain ⟨other_old, other_old_member, other_filed⟩ := reports.exists_report other_member
    obtain ⟨other_number, _, _, other_house⟩ := Report.kept_of_asFiled_eq other_filed
    have bound := anchors.first other_old other_old_member
      (other_house.trans (house.trans number.symm))
    omega
  · rw [← anchor, anchors.anchor, place]
  · rw [← creation, anchors.createdAt, same_creation]

end Tables

namespace Filing

variable [Trigonometry] {settings : Settings} {tables : Tables} {new : NewReport}
variable (filing : Filing settings tables new)

/-- The recount at the end of a filing keeps the groups as they were opened. -/
theorem map_asOpened_after : filing.after.groups.map BikeGroup.asOpened =
    filing.placed.groups.map BikeGroup.asOpened :=
  Tables.sameGroups_overwritten filing.inserted _

theorem extends_after : tables.Extends filing.after where
  reports := by
    rw [filing.after_reports, List.map_append]
    exact List.prefix_append _ _
  groups := by
    rw [map_asOpened_after]
    rcases Tables.place_cases filing.place with ⟨_, same, _⟩ | ⟨_, _, same⟩
    · rw [same]
    · rw [same, Tables.createGroup_groups, List.map_append]
      exact List.prefix_append _ _
  duplicateGroups := by
    change _ <+: filing.placed.duplicateGroups.map DuplicateGroup.id
    rw [filing.placed_duplicateGroups]

/-- A new report has the largest number, so it is the first one only of a group that it opens. -/
theorem anchored_after (numbered : tables.Numbered) (populated : tables.Populated)
    (anchored : tables.Anchored) : filing.after.Anchored := by
  intro group member
  have image : group.asOpened ∈ filing.after.groups.map BikeGroup.asOpened :=
    List.mem_map_of_mem member
  have next : filing.report.id = tables.lastReport + 1 := by
    rw [← filing.placed_lastReport]
    rfl
  have old_anchor : group.asOpened ∈ tables.groups.map BikeGroup.asOpened →
      ∃ report ∈ filing.after.reports, report.Anchors filing.after.reports group := by
    intro old_image
    obtain ⟨old, old_member, opened⟩ := List.mem_map.mp old_image
    obtain ⟨number, anchor, creation⟩ := BikeGroup.kept_of_asOpened_eq opened
    obtain ⟨first, first_member, anchors⟩ := anchored old old_member
    rw [filing.after_reports]
    refine ⟨first, List.mem_append_left _ first_member, ?_⟩
    refine ⟨anchors.house.trans number, ?_, anchor ▸ anchors.anchor, creation ▸ anchors.createdAt⟩
    intro other other_member house
    rw [List.mem_append, List.mem_singleton] at other_member
    rcases other_member with other_member | rfl
    · exact anchors.first other other_member (house.trans number.symm)
    · have bound := numbered.report_le first_member
      omega
  rw [map_asOpened_after] at image
  rcases Tables.place_cases filing.place with ⟨_, same, _⟩ | ⟨_, opens, same⟩
  · rw [same] at image
    exact old_anchor image
  · rw [same, Tables.createGroup_groups, List.map_append, List.map_singleton, List.mem_append,
      List.mem_singleton] at image
    rcases image with image | opened
    · exact old_anchor image
    · have house : filing.report.bikeGroup = tables.lastGroup + 1 := congrArg BikeGroup.id opens
      have number : group.id = tables.lastGroup + 1 := congrArg BikeGroup.id opened
      refine ⟨filing.report, ?_, ?_⟩
      · rw [filing.after_reports]
        exact List.mem_append_right _ (List.mem_singleton_self _)
      · refine ⟨house.trans number.symm, ?_, congrArg BikeGroup.anchor opened,
          congrArg BikeGroup.createdAt opened⟩
        intro other other_member other_house
        rw [filing.after_reports, List.mem_append, List.mem_singleton] at other_member
        rcases other_member with other_member | rfl
        · -- No report can be in a group that is opened only now.
          obtain ⟨home, home_member, home_id⟩ := populated.housed other other_member
          have bound := numbered.group_le home_member
          omega
        · exact Int.le_refl _

end Filing

namespace Effect

variable [Trigonometry] {settings : Settings} {tables after : Tables} {request : Request}
variable {result : Except Failure Answer}

/-- An effect files a report, or it keeps what was filed and opened. -/
theorem filing_cases (effect : Effect settings tables request result after)
    (numbered : tables.Numbered) :
    (Tables.SameReports tables after ∧ Tables.SameGroups tables after) ∨
      ∃ new, ∃ filing : Filing settings tables new, after = filing.after := by
  cases effect with
  | refused | detailed | listed => exact .inl ⟨rfl, rfl⟩
  | @filed new filing => exact .inr ⟨new, filing, rfl⟩
  | statusChanged actor h =>
    have same := Tables.sameFilings_changeStatus numbered h
    exact .inl ⟨same.reports, congrArg (List.map BikeGroup.asOpened) same.groups⟩
  | merged nonempty proper h =>
    have same := Tables.sameFilings_mergeReports h
    exact .inl ⟨same.reports, congrArg (List.map BikeGroup.asOpened) same.groups⟩
  | recounted now found => exact .inl ⟨rfl, Tables.sameGroups_overwritten _ _⟩

theorem extending (effect : Effect settings tables request result after)
    (numbered : tables.Numbered) : tables.Extends after := by
  have duplicateGroups : tables.duplicateGroups.map DuplicateGroup.id <+:
      after.duplicateGroups.map DuplicateGroup.id := by
    cases effect with
    | refused | detailed | listed | recounted => exact List.prefix_rfl
    | filed filing => exact filing.extends_after.duplicateGroups
    | statusChanged actor h =>
      obtain ⟨report, _, _, _, rfl⟩ := Tables.of_changeStatus h
      rw [Tables.replaceReport_duplicateGroups]
    | merged nonempty proper h => exact Tables.duplicateGroups_prefix_of_mergeReports h
  rcases effect.filing_cases numbered with ⟨reports, groups⟩ | ⟨new, filing, rfl⟩
  · exact ⟨reports ▸ List.prefix_rfl, groups ▸ List.prefix_rfl, duplicateGroups⟩
  · exact filing.extends_after

theorem anchored (effect : Effect settings tables request result after)
    (numbered : tables.Numbered) (populated : tables.Populated) (anchored : tables.Anchored) :
    after.Anchored := by
  rcases effect.filing_cases numbered with ⟨reports, groups⟩ | ⟨new, filing, rfl⟩
  · exact anchored.same reports groups
  · exact filing.anchored_after numbered populated anchored

end Effect

namespace Session

variable [Trigonometry] {σ : Type} (behaviour : AuditBehaviour σ) (settings : Settings) (log : σ)

theorem extends_of (requests more : List Request) :
    (of behaviour settings log requests).tables.Extends
      (of behaviour settings log (requests ++ more)).tables := by
  induction more using List.reverseRecOn with
  | nil =>
    rw [List.append_nil]
    exact .refl _
  | append_singleton earlier request ih =>
    rw [← List.append_assoc, of_concat]
    have effect := Service.serve_effect behaviour settings
      (of behaviour settings log (requests ++ earlier)).world request
    exact ih.trans (effect.extending (numbered_of behaviour settings log (requests ++ earlier)))

theorem anchored_of (requests : List Request) :
    (of behaviour settings log requests).tables.Anchored := by
  have invariant := of_induction behaviour settings log
    (P := fun tables _ =>
      tables.Numbered ∧ tables.Counted settings.replayRules ∧ tables.Anchored)
    ⟨.empty, ⟨by simp, by simp, by simp⟩, by simp [Tables.Anchored]⟩
    (fun _ _ _ _ _ kept effect =>
      ⟨kept.1.writes effect.writes, effect.counted kept.1 kept.2.1,
        effect.anchored kept.1 kept.2.1.populated kept.2.2⟩) requests
  exact invariant.2.2

/-- As a session goes on, every report stays as it was filed and every group as it was opened, each in its
place, and later ones have larger numbers than all before them. So do duplicate groups. At any time the
anchor and the creation of a group are the place and the creation of the report with the smallest number
in it. -/
theorem continues_of (requests more : List Request) :
    let earlier := (of behaviour settings log requests).tables
    let later := (of behaviour settings log (requests ++ more)).tables
    (earlier.reports.map Report.asFiled <+: later.reports.map Report.asFiled ∧
        (later.reports.map Report.id).Pairwise (· < ·)) ∧
      (earlier.groups.map BikeGroup.asOpened <+: later.groups.map BikeGroup.asOpened ∧
        (later.groups.map BikeGroup.id).Pairwise (· < ·)) ∧
      (earlier.duplicateGroups.map DuplicateGroup.id <+: later.duplicateGroups.map DuplicateGroup.id ∧
        (later.duplicateGroups.map DuplicateGroup.id).Pairwise (· < ·)) ∧
      ∀ group ∈ later.groups, ∃ report ∈ later.reports, report.Anchors later.reports group := by
  intro earlier later
  have extended : earlier.Extends later := extends_of behaviour settings log requests more
  have numbered : later.Numbered := numbered_of behaviour settings log (requests ++ more)
  have anchored : later.Anchored := anchored_of behaviour settings log (requests ++ more)
  exact ⟨⟨extended.reports, numbered.reports.pairwise⟩,
    ⟨extended.groups, numbered.groups.pairwise⟩,
    ⟨extended.duplicateGroups, numbered.duplicateGroups.pairwise⟩, anchored⟩

end Session

end AbandonedBikes
