import AbandonedBikes.Proofs.Store.Merging
/-!
# What a merge changes and what it leaves alone

A merge checks its reports, looks for the duplicate group of its canonical report, adds to it and points
every member at it, those of earlier merges as well. `Tables.RefusesMerge` says when it is refused and
with which failure. `Merge.Changes` describes a merge that is not refused by looking things up before and
after it: outside its own group and the members of this group nothing is different.

The main statement adds that the same merge finds nothing to do when it is made again.
-/

namespace AbandonedBikes

namespace Tables

variable {tables after : Tables} {canonical : Int} {duplicates : IdSet} {createdBy : String}
  {now : Instant}

/-! ## Refusals -/

/-- Why the tables refuse a merge. The canonical report is looked for first, and of the duplicates that
are missing the smallest one is named. -/
inductive RefusesMerge (tables : Tables) (canonical : Int) (duplicates : IdSet) : Failure → Prop
  | canonical (unknown : tables.report? canonical = none) :
    RefusesMerge tables canonical duplicates (.canonicalNotFound canonical)
  | duplicate {missing : Int} (known : tables.report? canonical ≠ none)
      (named : missing ∈ duplicates) (unknown : tables.report? missing = none)
      (smallest : ∀ other ∈ duplicates, tables.report? other = none → missing ≤ other) :
    RefusesMerge tables canonical duplicates (.duplicateNotFound missing)

/-- A call on the tables fails just if they refuse it. -/
theorem attempting_error_iff {α : Type} {write : Tables → Except Failure (α × Tables)}
    {failure : Failure} :
    ((attempting write).run.run tables).1 = .error failure ↔ write tables = .error failure := by
  cases written : write tables with
  | error cause => rw [run_attempting_error written, Except.error.injEq, Except.error.injEq]
  | ok pair =>
    rw [run_attempting_ok written]
    simp

theorem missingReport?_eq_some_iff {ids : IdSet} {missing : Int} :
    tables.missingReport? ids = some missing ↔ missing ∈ ids ∧ tables.report? missing = none ∧
      ∀ other ∈ ids, tables.report? other = none → missing ≤ other := by
  rw [missingReport?, find?_ascending_eq_some_iff ids.ascending]
  simp only [Option.isNone_iff_eq_none]
  rfl

theorem missingReport?_eq_none {ids : IdSet} (known : ∀ id ∈ ids, tables.report? id ≠ none) :
    tables.missingReport? ids = none := by
  refine List.find?_eq_none.mpr fun id member => ?_
  rw [Option.isNone_iff_eq_none]
  exact known id member

variable (createdBy now) in
theorem mergeReports_error_iff {failure : Failure} :
    tables.mergeReports canonical duplicates createdBy now = .error failure ↔
      tables.RefusesMerge canonical duplicates failure := by
  rw [mergeReports]
  constructor
  · intro refused
    split at refused
    next unknown =>
      injection refused with same
      exact same ▸ .canonical (Option.isNone_iff_eq_none.mp unknown)
    next known =>
      rw [Option.isNone_iff_eq_none] at known
      split at refused
      next missing found =>
        injection refused with same
        obtain ⟨named, unknown, smallest⟩ := missingReport?_eq_some_iff.mp found
        exact same ▸ .duplicate known named unknown smallest
      next => injection refused
  · intro refuses
    cases refuses with
    | canonical unknown => rw [if_pos (Option.isNone_iff_eq_none.mpr unknown)]
    | duplicate known named unknown smallest =>
      have found := missingReport?_eq_some_iff.mpr ⟨named, unknown, smallest⟩
      rw [if_neg (mt Option.isNone_iff_eq_none.mp known), found]

theorem mergeReports_of_known (canonical_known : tables.report? canonical ≠ none)
    (duplicates_known : ∀ id ∈ duplicates, tables.report? id ≠ none) :
    tables.mergeReports canonical duplicates createdBy now =
      .ok (tables.mergeOutcome canonical duplicates createdBy now,
        tables.afterMerge (tables.mergeOutcome canonical duplicates createdBy now) now) := by
  rw [mergeReports, if_neg (mt Option.isNone_iff_eq_none.mp canonical_known),
    missingReport?_eq_none duplicates_known]
  rfl

/-! ## Looking up after a merge -/

theorem report?_map_pointed (group : DuplicateGroup) (id : Int)
    (reports : after.reports = tables.reports.map (pointed group now)) :
    after.report? id = (tables.report? id).map (pointed group now) := by
  have same_number : ((fun report : Report => report.id == id) ∘ pointed group now) =
      fun report => report.id == id := by
    funext report
    rw [Function.comp_apply, pointed_id]
  rw [report?, reports, List.find?_map, same_number]
  rfl

theorem pointed_of_mem {group : DuplicateGroup} {report : Report}
    (member : report.id ∈ group.members) :
    pointed group now report =
      { report with duplicateGroup := some group.id, updatedAt := now } :=
  if_pos member

theorem pointed_of_not_mem {group : DuplicateGroup} {report : Report}
    (other : report.id ∉ group.members) : pointed group now report = report :=
  if_neg other

theorem pointed_pointed (group : DuplicateGroup) (report : Report) :
    pointed group now (pointed group now report) = pointed group now report := by
  by_cases member : report.id ∈ group.members
  · have still_member : (pointed group now report).id ∈ group.members := by rwa [pointed_id]
    rw [pointed_of_mem still_member, pointed_of_mem member]
  · rw [pointed_of_not_mem member, pointed_of_not_mem member]

/-- A number leads to the duplicate group that has it. -/
theorem Numbered.duplicateGroup?_eq_some_iff (numbered : tables.Numbered) {id : Int}
    {group : DuplicateGroup} :
    tables.duplicateGroup? id = some group ↔ group ∈ tables.duplicateGroups ∧ group.id = id :=
  find?_key_eq_some_iff numbered.duplicateGroups.nodup

end Tables

namespace Merge

variable {merge : Merge} {tables after : Tables}

/-! ## What a merge changes -/

/-- All that a merge changes, by looking up reports and duplicate groups before and after it. -/
structure Changes (merge : Merge) (tables after : Tables) : Prop where
  owner : merge.outcome.group.canonical = merge.canonical
  kind : merge.Kind tables
  /-- Merged now are the duplicates that were not merged before. -/
  newlyMerged : ∀ id, id ∈ merge.outcome.newlyMerged ↔ id ∈ merge.duplicates ∧
    ∀ before ∈ tables.duplicateGroups, before.canonical = merge.canonical → id ∉ before.merged
  members : ∀ id ∈ merge.outcome.group.members, ∃ report, tables.report? id = some report ∧
    after.report? id = some
      { report with duplicateGroup := some merge.outcome.group.id, updatedAt := merge.now }
  other_reports : ∀ id, id ∉ merge.outcome.group.members → after.report? id = tables.report? id
  group : after.duplicateGroup? merge.outcome.group.id = some merge.outcome.group
  other_groups : ∀ id, id ≠ merge.outcome.group.id →
    after.duplicateGroup? id = tables.duplicateGroup? id
  bike_groups : after.groups = tables.groups
  lastReport : after.lastReport = tables.lastReport
  lastGroup : after.lastGroup = tables.lastGroup
  /-- A number is given out only for a group that is opened. -/
  lastDuplicateGroup : after.lastDuplicateGroup =
    if merge.outcome.created then tables.lastDuplicateGroup + 1 else tables.lastDuplicateGroup

namespace Made

variable (made : merge.Made tables after)
include made

theorem duplicateGroup?_of_ne (numbered : tables.Numbered) (single : tables.OneGroupEach)
    (numbered_after : after.Numbered) {id : Int} (other : id ≠ merge.outcome.group.id) :
    after.duplicateGroup? id = tables.duplicateGroup? id := by
  refine Option.ext fun group => ?_
  rw [numbered_after.duplicateGroup?_eq_some_iff, numbered.duplicateGroup?_eq_some_iff,
    made.mem_groups]
  constructor
  · rintro ⟨rfl | ⟨member, _⟩, rfl⟩
    · exact absurd rfl other
    · exact ⟨member, rfl⟩
  · rintro ⟨member, rfl⟩
    refine ⟨.inr ⟨member, fun same => other ?_⟩, rfl⟩
    exact made.id_eq single member same

theorem lookup_member (known : after.MembersKnown) {id : Int}
    (member : id ∈ merge.outcome.group.members) :
    ∃ report, tables.report? id = some report ∧ after.report? id = some
      { report with duplicateGroup := some merge.outcome.group.id, updatedAt := merge.now } := by
  have lookup := Tables.report?_map_pointed merge.outcome.group id made.reports
  -- The merge has checked its own reports only, but members of earlier merges are stored as well.
  have stored := known merge.outcome.group ((made.mem_groups _).mpr (.inl rfl)) id member
  rw [← Tables.exists_report_iff, lookup, Option.isSome_map, Option.isSome_iff_exists] at stored
  obtain ⟨report, found⟩ := stored
  have number := (Tables.mem_of_report? found).2
  refine ⟨report, found, ?_⟩
  rw [lookup, found, Option.map_some, Tables.pointed_of_mem (number ▸ member)]

theorem lookup_other {id : Int} (other : id ∉ merge.outcome.group.members) :
    after.report? id = tables.report? id := by
  rw [Tables.report?_map_pointed merge.outcome.group id made.reports]
  cases found : tables.report? id with
  | none => rfl
  | some report =>
    have number := (Tables.mem_of_report? found).2
    rw [Option.map_some, Tables.pointed_of_not_mem (number ▸ other)]

end Made

theorem changes_of_mergeReports (numbered : tables.Numbered) (single : tables.OneGroupEach)
    (known : tables.MembersKnown)
    (h : tables.mergeReports merge.canonical merge.duplicates merge.operator merge.now =
      .ok (merge.outcome, after)) : merge.Changes tables after := by
  have made := made_of_mergeReports numbered single h
  have adds := adds_of_mergeReports single h
  have numbered_after := numbered.mergeReports h
  have known_after := made.membersKnown known
  obtain ⟨_, _, _, after_eq⟩ := Tables.of_mergeReports h
  have everything := after_eq.trans (Tables.afterMerge_eq tables merge.outcome merge.now)
  constructor
  · exact made.owner
  · exact made.kind
  · exact fun id => adds.mem_newlyMerged made.kind
  · exact fun id member => made.lookup_member known_after member
  · exact fun id other => made.lookup_other other
  · exact numbered_after.duplicateGroup?_eq_some_iff.mpr
      ⟨(made.mem_groups _).mpr (.inl rfl), rfl⟩
  · exact fun id other => made.duplicateGroup?_of_ne numbered single numbered_after other
  · rw [everything]
  · rw [everything]
  · rw [everything]
  · rw [everything]
    cases made.kind with
    | opens opens => simp only [opens.created, if_true, opens.id]
    | grows _ _ growth => simp only [growth.created, Bool.false_eq_true, if_false]

/-! ## The same merge again -/

/-- A merge that is made again finds its group complete. -/
theorem outcome_again (made : merge.Made tables after) :
    after.mergeOutcome merge.canonical merge.duplicates merge.operator merge.now =
      ⟨merge.outcome.group, false, IdSet.empty⟩ := by
  have nothing_new : merge.duplicates.diff merge.outcome.group.merged = IdSet.empty := by
    refine IdSet.ext fun id => ?_
    rw [IdSet.mem_diff]
    refine ⟨fun ⟨named, new⟩ => ?_, fun impossible => absurd impossible IdSet.not_mem_empty⟩
    exact absurd (made.kind.mem_merged named) new
  rw [Tables.mergeOutcome_of_some made.duplicateGroupFor?_eq, nothing_new]
  rfl

/-- Putting back the group and pointing the members at it once more does nothing. -/
theorem afterMerge_again (made : merge.Made tables after) (numbered_after : after.Numbered) :
    after.afterMerge ⟨merge.outcome.group, false, IdSet.empty⟩ merge.now = after := by
  have pointed_before : after.reports.map (Tables.pointed merge.outcome.group merge.now) =
      after.reports := by
    rw [made.reports, List.map_map]
    exact List.map_congr_left fun report _ => Tables.pointed_pointed merge.outcome.group report
  -- No other group has the number of this one, so each group is put back where it was.
  have put_before : (after.duplicateGroups.map fun group =>
      if group.id = merge.outcome.group.id then merge.outcome.group else group) =
      after.duplicateGroups := by
    refine (List.map_congr_left fun group member => ?_).trans (List.map_id _)
    split
    next same =>
      have there := (made.mem_groups merge.outcome.group).mpr (.inl rfl)
      exact (numbered_after.duplicateGroup_unique member there same).symm
    next => rfl
  rw [Tables.afterMerge_eq]
  simp only [pointed_before, put_before, Bool.false_eq_true, if_false]

theorem mergeReports_again (made : merge.Made tables after) (numbered_after : after.Numbered) :
    after.mergeReports merge.canonical merge.duplicates merge.operator merge.now =
      .ok (⟨merge.outcome.group, false, IdSet.empty⟩, after) := by
  have stored {id : Int} (involved : merge.Involves id) : after.report? id ≠ none := by
    obtain ⟨report, member, rfl⟩ := made.known id involved
    rw [← Option.isSome_iff_ne_none, Tables.exists_report_iff]
    exact made.exists_report member
  rw [Tables.mergeReports_of_known (stored (.inl rfl)) fun id named => stored (.inr named),
    outcome_again made, afterMerge_again made numbered_after]

end Merge

/-- A merge is refused just if a report is missing, and has then changed nothing. Otherwise it changes its
duplicate group and the members of it, and nothing more when it is made again. -/
theorem Tables.mergeReports_within_frame {tables : Tables} (reached : Tables.Writes {} tables)
    (canonical : Int) (duplicates : IdSet) (operator : String) (now : Instant) :
    let call := (store.mergeReports canonical duplicates operator now).run.run
    let answer := (call tables).1
    let after := (call tables).2
    (∀ failure, answer = .error failure ↔ tables.RefusesMerge canonical duplicates failure) ∧
      (∀ failure, answer = .error failure → after = tables) ∧
      ∀ outcome, answer = .ok outcome →
        Merge.Changes ⟨canonical, duplicates, operator, now, outcome⟩ tables after ∧
          call after = (.ok ⟨outcome.group, false, IdSet.empty⟩, after) := by
  have numbered := Numbered.empty.writes reached
  have single := OneGroupEach.of_writes reached
  have known := MembersKnown.of_writes reached
  intro call
  refine ⟨fun failure => attempting_error_iff.trans (mergeReports_error_iff operator now), ?_⟩
  cases made : tables.mergeReports canonical duplicates operator now with
  | error failure =>
    have result : call tables = (.error failure, tables) := run_attempting_error made
    rw [result]
    refine ⟨fun _ _ => rfl, fun _ done => ?_⟩
    injection done
  | ok pair =>
    obtain ⟨outcome, after⟩ := pair
    let merge : Merge := ⟨canonical, duplicates, operator, now, outcome⟩
    have result : call tables = (.ok outcome, after) := run_attempting_ok made
    have ends : merge.Made tables after := Merge.made_of_mergeReports numbered single made
    have changes : merge.Changes tables after :=
      Merge.changes_of_mergeReports numbered single known made
    have again := Merge.mergeReports_again ends (numbered.mergeReports made)
    rw [result]
    refine ⟨fun _ refused => ?_, fun _ done => ?_⟩
    · injection refused
    · injection done with same
      subst same
      exact ⟨changes, run_attempting_ok again⟩

/-- The second of two overlapping merges adds the report that the first one has not merged. -/
theorem Tables.mergeReports_within_frame_overlapping :
    let filed := (((({} : Tables).insertReport default 1).2.insertReport default 1).2.insertReport
      default 1).2
    let tables := filed.afterMerge (filed.mergeOutcome 1 (IdSet.ofList [2]) "ops" default) default
    let group : DuplicateGroup := ⟨1, 1, IdSet.ofList [2, 3], default, "ops"⟩
    let call := (store.mergeReports 1 (IdSet.ofList [2, 3]) "ops" default).run.run
    Tables.Writes {} tables ∧
      (call tables).1 = .ok ⟨group, false, IdSet.ofList [3]⟩ ∧
      call (call tables).2 = (.ok ⟨group, false, IdSet.empty⟩, (call tables).2) := by
  intro filed tables group call
  have first : filed.mergeReports 1 (IdSet.ofList [2]) "ops" default =
      .ok (filed.mergeOutcome 1 (IdSet.ofList [2]) "ops" default, tables) := by rfl
  have filings : Tables.Writes {} filed :=
    .tail (.tail (.single (.insertReport _ _ _)) (.insertReport _ _ _)) (.insertReport _ _ _)
  have reached : Tables.Writes {} tables := .tail filings (.mergeReports first)
  have answer : (call tables).1 = .ok ⟨group, false, IdSet.ofList [3]⟩ := by rfl
  have framed := Tables.mergeReports_within_frame reached 1 (IdSet.ofList [2, 3]) "ops" default
  exact ⟨reached, answer, (framed.2.2 _ answer).2⟩

end AbandonedBikes
