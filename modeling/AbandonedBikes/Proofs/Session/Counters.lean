import AbandonedBikes.Proofs.Session.Basic
/-!
# Cached counters

A bike group caches what a replay of its reports yields. The cache is written by recounts only, while
reports come and go to other statuses and duplicate groups without one. That it is never stale is the
invariant `Tables.Counted`.

A status change and a merge touch nothing that a replay looks at. A filing is the only way in which a
group gets another report, and for a moment the counters of this one group are stale;
`Tables.CountedBut` says that those of all others are still right. The recount at its end puts them
right, whatever they were.
-/

namespace AbandonedBikes

/-- The group carries the counters, times and strength of the evidence. -/
structure BikeGroup.Carries (group : BikeGroup) (evidence : Evidence) : Prop where
  totalReports : group.totalReports = evidence.totalReports
  uniqueReporters : group.uniqueReporters = evidence.uniqueReporters
  sameReporter : group.sameReporter = evidence.sameReporter
  distinctReporter : group.distinctReporter = evidence.distinctReporter
  firstQualifyingAt : group.firstQualifyingAt = evidence.firstQualifyingAt
  lastQualifyingAt : group.lastQualifyingAt = evidence.lastQualifyingAt
  lastReportAt : some group.lastReportAt = evidence.lastReportAt
  strength : group.strength = evidence.strength

/-- What a recount writes into a group that has a report. -/
theorem BikeGroup.carries_overwrite (old before : BikeGroup) {evidence : Evidence} {last : Instant}
    (present : evidence.lastReportAt = some last) (now : Instant) :
    (Tables.overwrite old (evidence.applyTo before now)).Carries evidence where
  totalReports := rfl
  uniqueReporters := rfl
  sameReporter := rfl
  distinctReporter := rfl
  firstQualifyingAt := rfl
  lastQualifyingAt := rfl
  lastReportAt := by
    change some (evidence.lastReportAt.getD before.lastReportAt) = _
    rw [present]
    rfl
  strength := rfl

namespace Tables

/-- The reports that carry the number of a group, in the order of their filing. -/
def members (tables : Tables) (group : Int) : List Report :=
  tables.reports.filter fun report => report.bikeGroup == group

theorem mem_members {tables : Tables} {group : Int} {report : Report} :
    report ∈ tables.members group ↔ report ∈ tables.reports ∧ report.bikeGroup = group := by
  simp [members]

@[simp] theorem replay_reportsInGroup (rules : ReplayRules) (tables : Tables) (group : Int) :
    rules.replay (tables.reportsInGroup group) = rules.replay (tables.members group) :=
  rules.replay_chronological _

/-- Every report has its group, and every group has a report. -/
structure Populated (tables : Tables) : Prop where
  housed : ∀ report ∈ tables.reports, ∃ group ∈ tables.groups, group.id = report.bikeGroup
  inhabited : ∀ group ∈ tables.groups, ∃ report ∈ tables.reports, report.bikeGroup = group.id

/-- Every report has its group, every group has a report, and all groups but one carry what a replay
of their reports yields. -/
structure CountedBut (rules : ReplayRules) (stale : Int) (tables : Tables) : Prop where
  housed : ∀ report ∈ tables.reports, ∃ group ∈ tables.groups, group.id = report.bikeGroup
  inhabited : ∀ group ∈ tables.groups, ∃ report ∈ tables.reports, report.bikeGroup = group.id
  counted : ∀ group ∈ tables.groups, group.id ≠ stale →
    group.Carries (rules.replay (tables.members group.id))

/-- Every report has its group, every group has a report, and every group carries what a replay of
its reports yields. -/
structure Counted (rules : ReplayRules) (tables : Tables) : Prop where
  housed : ∀ report ∈ tables.reports, ∃ group ∈ tables.groups, group.id = report.bikeGroup
  inhabited : ∀ group ∈ tables.groups, ∃ report ∈ tables.reports, report.bikeGroup = group.id
  counted : ∀ group ∈ tables.groups, group.Carries (rules.replay (tables.members group.id))

variable {rules : ReplayRules} {tables after : Tables}

theorem CountedBut.populated {stale : Int} (counted : tables.CountedBut rules stale) :
    tables.Populated :=
  ⟨counted.housed, counted.inhabited⟩

theorem Counted.populated (counted : tables.Counted rules) : tables.Populated :=
  ⟨counted.housed, counted.inhabited⟩

theorem Counted.countedBut (counted : tables.Counted rules) (stale : Int) :
    tables.CountedBut rules stale :=
  ⟨counted.housed, counted.inhabited, fun group member _ => counted.counted group member⟩

/-- Overwriting a group moves no report. -/
theorem Populated.overwritten (populated : tables.Populated) (updated : BikeGroup) :
    (tables.overwritten updated).Populated where
  housed := by
    intro report member
    obtain ⟨group, group_member, same⟩ := populated.housed report member
    obtain ⟨written, written_member, kept⟩ := exists_overwritten group_member
    exact ⟨written, written_member, kept.trans same⟩
  inhabited := by
    intro group member
    obtain ⟨old, old_member, same, _⟩ := mem_overwritten member
    obtain ⟨report, report_member, house⟩ := populated.inhabited old old_member
    exact ⟨report, report_member, house.trans same⟩

/-- A recount puts right the one group whose counters may be stale. -/
theorem CountedBut.recounted {before : BikeGroup} (counted : tables.CountedBut rules before.id)
    (now : Instant) : (tables.recounted rules before now).Counted rules where
  housed := (counted.populated.overwritten _).housed
  inhabited := (counted.populated.overwritten _).inhabited
  counted := by
    intro group member
    obtain ⟨old, old_member, same, written⟩ := mem_overwritten member
    rcases written with ⟨hit, rfl⟩ | ⟨miss, rfl⟩
    · obtain ⟨report, report_member, house⟩ := counted.inhabited old old_member
      have belongs : report ∈ tables.members before.id := mem_members.mpr
        ⟨report_member, house.trans (same.trans hit)⟩
      obtain ⟨last, present⟩ := rules.exists_lastReportAt belongs
      rw [← replay_reportsInGroup] at present
      have carries := BikeGroup.carries_overwrite old before present now
      rw [hit]
      change (overwrite old _).Carries (rules.replay (tables.members before.id))
      rw [← replay_reportsInGroup]
      exact carries
    · exact counted.counted group old_member miss

/-- The reports are the same but for what may change after they were filed. -/
def SameReports (tables after : Tables) : Prop :=
  after.reports.map Report.asFiled = tables.reports.map Report.asFiled

namespace SameReports

theorem symm (same : SameReports tables after) : SameReports after tables := Eq.symm same

theorem exists_report (same : SameReports tables after) {report : Report}
    (member : report ∈ after.reports) : ∃ old ∈ tables.reports, old.asFiled = report.asFiled := by
  have image : report.asFiled ∈ after.reports.map Report.asFiled := List.mem_map_of_mem member
  rw [same] at image
  exact List.mem_map.mp image

theorem replay_members (same : SameReports tables after) (rules : ReplayRules) (group : Int) :
    rules.replay (after.members group) = rules.replay (tables.members group) := by
  have filed (tables : Tables) : (tables.members group).map Report.asFiled =
      (tables.reports.map Report.asFiled).filter fun report => report.bikeGroup == group := by
    rw [members, List.filter_map]
    rfl
  rw [← rules.replay_map_asFiled, filed, same, ← filed, rules.replay_map_asFiled]

end SameReports

/-- Nothing that a replay looks at has changed. -/
structure SameFilings (tables after : Tables) : Prop where
  groups : after.groups = tables.groups
  reports : SameReports tables after

namespace SameFilings

theorem populated (same : SameFilings tables after) (populated : tables.Populated) :
    after.Populated where
  housed := by
    intro report member
    obtain ⟨old, old_member, filed⟩ := same.reports.exists_report member
    obtain ⟨_, _, _, kept⟩ := Report.kept_of_asFiled_eq filed
    obtain ⟨group, group_member, house⟩ := populated.housed old old_member
    exact ⟨group, same.groups ▸ group_member, house.trans kept⟩
  inhabited := by
    intro group member
    obtain ⟨report, report_member, house⟩ := populated.inhabited group (same.groups ▸ member)
    obtain ⟨later, later_member, filed⟩ := same.reports.symm.exists_report report_member
    obtain ⟨_, _, _, kept⟩ := Report.kept_of_asFiled_eq filed
    exact ⟨later, later_member, kept.trans house⟩

theorem counted (same : SameFilings tables after) (counted : tables.Counted rules) :
    after.Counted rules where
  housed := (same.populated counted.populated).housed
  inhabited := (same.populated counted.populated).inhabited
  counted := by
    intro group member
    rw [same.reports.replay_members]
    exact counted.counted group (same.groups ▸ member)

end SameFilings

/-- A status change touches nothing that a replay looks at, since only one report has its number. -/
theorem sameFilings_changeStatus (numbered : tables.Numbered) {id : Int} {next : Status}
    {now : Instant} {change : StatusChange}
    (h : tables.changeStatus id next now = .ok (change, after)) : SameFilings tables after := by
  obtain ⟨report, found, _, _, rfl⟩ := of_changeStatus h
  refine ⟨rfl, ?_⟩
  simp only [SameReports, replaceReport, List.map_map]
  refine List.map_congr_left fun r r_member => ?_
  simp only [Function.comp]
  split
  next same =>
    obtain rfl := numbered.report_unique r_member (mem_of_report? found).1 same
    exact withStatus_asFiled r next now
  next => rfl

theorem sameFilings_mergeReports {canonical : Int} {duplicates : IdSet} {createdBy : String}
    {now : Instant} {outcome : MergeOutcome}
    (h : tables.mergeReports canonical duplicates createdBy now = .ok (outcome, after)) :
    SameFilings tables after := by
  obtain ⟨_, _, _, rfl⟩ := of_mergeReports h
  refine ⟨afterMerge_groups _ _ _, ?_⟩
  rw [SameReports, afterMerge_reports, List.map_map]
  exact List.map_congr_left fun report _ => pointed_asFiled now outcome.group report

end Tables

namespace Filing

variable [Trigonometry] {settings : Settings} {tables : Tables} {new : NewReport}
variable (filing : Filing settings tables new)

/-- The only group that a placement may add is that of the report. -/
theorem mem_placed_groups {group : BikeGroup} (member : group ∈ filing.placed.groups) :
    group ∈ tables.groups ∨ group.id = filing.group.id := by
  rcases Tables.place_cases filing.place with ⟨_, same, _⟩ | ⟨_, opened, same⟩
  · exact .inl (same ▸ member)
  · rw [same, Tables.createGroup_groups, List.mem_append, List.mem_singleton] at member
    rcases member with member | rfl
    · exact .inl member
    · exact .inr (congrArg BikeGroup.id opened.symm)

theorem subset_placed_groups {group : BikeGroup} (member : group ∈ tables.groups) :
    group ∈ filing.placed.groups := by
  rcases Tables.place_cases filing.place with ⟨_, same, _⟩ | ⟨_, _, same⟩
  · rw [same]
    exact member
  · rw [same, Tables.createGroup_groups]
    exact List.mem_append_left _ member

theorem members_of_ne {group : Int} (other : group ≠ filing.group.id) :
    filing.inserted.members group = tables.members group := by
  rw [Tables.members, inserted_reports, placed_reports, List.filter_append]
  simpa [Tables.members] using Ne.symm other

/-- Before the recount at the end of a filing, every report has its group already. -/
theorem populated_inserted (populated : tables.Populated) : filing.inserted.Populated where
  housed := by
    intro report member
    rw [inserted_reports, placed_reports, List.mem_append, List.mem_singleton] at member
    rcases member with member | rfl
    · obtain ⟨group, group_member, house⟩ := populated.housed report member
      exact ⟨group, filing.subset_placed_groups group_member, house⟩
    · exact ⟨filing.before, (Tables.mem_of_group? filing.found).1, filing.before_id⟩
  inhabited := by
    intro group member
    rw [inserted_reports, placed_reports]
    cases filing.mem_placed_groups member with
    | inl member =>
      obtain ⟨report, report_member, house⟩ := populated.inhabited group member
      exact ⟨report, List.mem_append_left _ report_member, house⟩
    | inr same =>
      exact ⟨filing.report, List.mem_append_right _ (List.mem_singleton_self _), same.symm⟩

/-- Before the recount at the end of a filing, only the group of the report is stale. -/
theorem countedBut_inserted (counted : tables.Counted settings.replayRules) :
    filing.inserted.CountedBut settings.replayRules filing.before.id where
  housed := (filing.populated_inserted counted.populated).housed
  inhabited := (filing.populated_inserted counted.populated).inhabited
  counted := by
    intro group member fresh
    rw [before_id] at fresh
    rw [filing.members_of_ne fresh]
    cases filing.mem_placed_groups member with
    | inl member => exact counted.counted group member
    | inr same => exact absurd same fresh

end Filing

/-- Every effect keeps the counters right. -/
theorem Effect.counted [Trigonometry] {settings : Settings} {tables after : Tables} {request : Request}
    {result : Except Failure Answer} (effect : Effect settings tables request result after)
    (numbered : tables.Numbered) (counted : tables.Counted settings.replayRules) :
    after.Counted settings.replayRules := by
  cases effect with
  | refused | detailed | listed => exact counted
  | filed filing => exact (filing.countedBut_inserted counted).recounted _
  | statusChanged actor h => exact (Tables.sameFilings_changeStatus numbered h).counted counted
  | merged nonempty proper h => exact (Tables.sameFilings_mergeReports h).counted counted
  | recounted now found => exact (counted.countedBut _).recounted now

/-- After every session every report has its group, every group has a report, and the counters,
times and strength of every group are those of a replay of its reports. -/
theorem Session.counted_of [Trigonometry] {σ : Type} (behaviour : AuditBehaviour σ)
    (settings : Settings) (log : σ) (requests : List Request) :
    (of behaviour settings log requests).tables.Counted settings.replayRules := by
  have invariant := of_induction behaviour settings log
    (P := fun tables _ => tables.Numbered ∧ tables.Counted settings.replayRules)
    ⟨.empty, by simp, by simp, by simp⟩
    (fun _ _ _ _ _ kept effect =>
      ⟨kept.1.writes effect.writes, effect.counted kept.1 kept.2⟩) requests
  exact invariant.2

end AbandonedBikes
