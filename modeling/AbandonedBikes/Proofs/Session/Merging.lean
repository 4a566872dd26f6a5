import AbandonedBikes.Proofs.Session.Basic
import AbandonedBikes.Proofs.Store.Merging
/-!
# Merges and duplicate groups

The duplicate groups after a session are determined by the merges that were made in it. `Traced` is
the invariant that ties the two together: what each group has of the merges into its canonical report,
that the outcome of a merge lives on in a group, and which merge each report points back at. Only a
merge changes any of this; all other requests are covered by one frame, `Tables.KeepsDuplicates`.
-/

namespace AbandonedBikes

/-- The merge that was asked for and made. -/
def Served.merge? : Served → Option Merge
  | ⟨.merge canonical duplicates operator now, .ok (.merged outcome)⟩ =>
    some ⟨canonical, duplicates, operator, now, outcome⟩
  | _ => none

/-- The merges among some merges that are into one canonical report. -/
def mergesInto (canonical : Int) (merges : List Merge) : List Merge :=
  merges.filter fun merge => merge.canonical == canonical

/-- The last merge whose group had a report as a member. -/
def lastMergeOf (id : Int) (merges : List Merge) : Option Merge :=
  merges.reverse.find? fun merge => decide (id ∈ merge.outcome.group.members)

/-- The merges that were made in a session, in order. -/
def Session.merges {σ : Type} (session : Session σ) : List Merge :=
  session.served.filterMap Served.merge?

theorem mem_mergesInto {canonical : Int} {merges : List Merge} {merge : Merge} :
    merge ∈ mergesInto canonical merges ↔ merge ∈ merges ∧ merge.canonical = canonical := by
  simp [mergesInto]

theorem mergesInto_concat_same (merges : List Merge) (merge : Merge) :
    mergesInto merge.canonical (merges ++ [merge]) =
      mergesInto merge.canonical merges ++ [merge] := by
  simp [mergesInto]

theorem mergesInto_concat_other {canonical : Int} (merges : List Merge) {merge : Merge}
    (other : merge.canonical ≠ canonical) :
    mergesInto canonical (merges ++ [merge]) = mergesInto canonical merges := by
  simp [mergesInto, other]

theorem lastMergeOf_concat (id : Int) (merges : List Merge) (merge : Merge) :
    lastMergeOf id (merges ++ [merge]) =
      if id ∈ merge.outcome.group.members then some merge else lastMergeOf id merges := by
  by_cases member : id ∈ merge.outcome.group.members
  · simp only [lastMergeOf, List.reverse_append, List.reverse_singleton, List.singleton_append,
      List.find?_cons, decide_eq_true member, if_pos member]
  · simp only [lastMergeOf, List.reverse_append, List.reverse_singleton, List.singleton_append,
      List.find?_cons, decide_eq_false member, if_neg member]

theorem mem_of_lastMergeOf {id : Int} {merges : List Merge} {merge : Merge}
    (h : lastMergeOf id merges = some merge) :
    merge ∈ merges ∧ id ∈ merge.outcome.group.members :=
  ⟨List.mem_reverse.mp (List.mem_of_find?_eq_some h), by simpa using List.find?_some h⟩

theorem lastMergeOf_eq_none {id : Int} {merges : List Merge} :
    lastMergeOf id merges = none ↔ ∀ merge ∈ merges, id ∉ merge.outcome.group.members := by
  simp [lastMergeOf]

/-- What a duplicate group has of the merges into its canonical report. -/
structure DuplicateGroup.MadeBy (merges : List Merge) (group : DuplicateGroup) : Prop where
  /-- The first of them has opened the group, and no other one. -/
  opened : ∃ first rest, merges = first :: rest ∧ first.outcome.created = true ∧
    (∀ merge ∈ rest, merge.outcome.created = false) ∧ group.id = first.outcome.group.id ∧
    group.createdAt = first.now ∧ group.createdBy = first.operator
  merged : ∀ id, id ∈ group.merged ↔ ∃ merge ∈ merges, id ∈ merge.duplicates
  proper : group.canonical ∉ group.merged

namespace DuplicateGroup

variable {tables : Tables} {merge : Merge}

theorem madeBy_opened (opens : merge.Opens tables)
    (owner : merge.outcome.group.canonical = merge.canonical)
    (proper : merge.canonical ∉ merge.duplicates) : merge.outcome.group.MadeBy [merge] where
  opened := ⟨merge, [], rfl, opens.created, by simp, rfl, opens.createdAt, opens.createdBy⟩
  merged := by
    intro id
    rw [opens.merged]
    simp
  proper := by
    rw [opens.merged, owner]
    exact proper

theorem MadeBy.extended {merges : List Merge} {before : DuplicateGroup}
    (made : before.MadeBy merges) (same : before.canonical = merge.canonical)
    (growth : merge.Extends before) (owner : merge.outcome.group.canonical = merge.canonical)
    (proper : merge.canonical ∉ merge.duplicates) :
    merge.outcome.group.MadeBy (merges ++ [merge]) where
  opened := by
    obtain ⟨first, rest, rfl, created, later, id, createdAt, createdBy⟩ := made.opened
    refine ⟨first, rest ++ [merge], rfl, created, ?_, ?_, ?_, ?_⟩
    · intro other member
      cases List.mem_append.mp member with
      | inl member => exact later other member
      | inr member =>
        rw [List.mem_singleton.mp member]
        exact growth.created
    · exact growth.id.trans id
    · exact growth.createdAt.trans createdAt
    · exact growth.createdBy.trans createdBy
  merged := by
    intro id
    rw [growth.merged, made.merged]
    simp [or_and_right, exists_or]
  proper := by
    rw [growth.merged, owner]
    rintro (old | new)
    · exact made.proper (same ▸ old)
    · exact proper new

/-- The merged reports depend on nothing but the duplicates that were named, whatever the order of the
merges and however often they were made. -/
theorem MadeBy.merged_eq {first second : List Merge} {group other : DuplicateGroup}
    (made : group.MadeBy first) (other_made : other.MadeBy second)
    (same : ∀ id, (∃ merge ∈ first, id ∈ merge.duplicates) ↔
      ∃ merge ∈ second, id ∈ merge.duplicates) : group.merged = other.merged := by
  apply IdSet.ext
  intro id
  rw [made.merged, other_made.merged, same]

end DuplicateGroup

/-- The tables have the duplicate groups and pointers that some merges have left. -/
structure Traced (tables : Tables) (merges : List Merge) : Prop where
  single : tables.OneGroupEach
  made : ∀ group ∈ tables.duplicateGroups, group.MadeBy (mergesInto group.canonical merges)
  /-- The group of an outcome only grows. -/
  kept : ∀ merge ∈ merges, ∃ group ∈ tables.duplicateGroups, group.canonical = merge.canonical ∧
    group.id = merge.outcome.group.id ∧ ∀ id ∈ merge.outcome.group.members, id ∈ group.members
  includes : ∀ merge ∈ merges, ∀ id, merge.Involves id → id ∈ merge.outcome.group.members
  known : ∀ group ∈ tables.duplicateGroups, ∀ id ∈ group.members,
    ∃ report ∈ tables.reports, report.id = id
  pointed : ∀ report ∈ tables.reports, report.duplicateGroup =
    (lastMergeOf report.id merges).map fun merge => merge.outcome.group.id

/-- Duplicate groups stay, and so does what reports point at. New reports point at nothing. -/
structure Tables.KeepsDuplicates (tables after : Tables) : Prop where
  groups : after.duplicateGroups = tables.duplicateGroups
  reports : ∀ report ∈ tables.reports, ∃ later ∈ after.reports, later.id = report.id
  pointers : ∀ report ∈ after.reports,
    (∃ old ∈ tables.reports, old.id = report.id ∧ old.duplicateGroup = report.duplicateGroup) ∨
      (tables.lastReport < report.id ∧ report.duplicateGroup = none)

namespace Tables.KeepsDuplicates

variable {tables after : Tables}

theorem of_same (groups : after.duplicateGroups = tables.duplicateGroups)
    (reports : after.reports = tables.reports) : tables.KeepsDuplicates after := by
  refine ⟨groups, ?_, ?_⟩ <;> rw [reports]
  · exact fun report member => ⟨report, member, rfl⟩
  · exact fun report member => .inl ⟨report, member, rfl, rfl⟩

theorem of_changeStatus {id : Int} {next : Status} {now : Instant} {change : StatusChange}
    (h : tables.changeStatus id next now = .ok (change, after)) : tables.KeepsDuplicates after := by
  obtain ⟨changed, found, _, _, rfl⟩ := Tables.of_changeStatus h
  refine ⟨rfl, ?_, ?_⟩
  · intro report member
    refine ⟨_, List.mem_map_of_mem member, ?_⟩
    split
    next same => exact same.symm
    next => rfl
  · intro report member
    obtain ⟨old, old_member, rfl⟩ := List.mem_map.mp member
    split
    next => exact .inl ⟨changed, (mem_of_report? found).1, rfl, rfl⟩
    next => exact .inl ⟨old, old_member, rfl, rfl⟩

theorem of_filing [Trigonometry] {settings : Settings} {new : NewReport}
    (filing : Filing settings tables new) :
    tables.KeepsDuplicates filing.after := by
  refine ⟨filing.placed_duplicateGroups, ?_, ?_⟩
  · intro report member
    rw [filing.after_reports]
    exact ⟨report, List.mem_append_left _ member, rfl⟩
  · intro report member
    rw [filing.after_reports, List.mem_append, List.mem_singleton] at member
    rcases member with member | rfl
    · exact .inl ⟨report, member, rfl, rfl⟩
    · right
      have number : filing.report.id = tables.lastReport + 1 := filing.placed_lastReport ▸ rfl
      exact ⟨by omega, rfl⟩

end Tables.KeepsDuplicates

namespace Traced

variable {tables after : Tables} {merges : List Merge}

theorem empty : Traced {} [] := by
  refine ⟨List.nodup_nil, ?_, ?_, ?_, ?_, ?_⟩ <;> simp

/-- Every member that an outcome has had is a report. -/
theorem known_outcome (traced : Traced tables merges) {merge : Merge} (made : merge ∈ merges)
    {id : Int} (member : id ∈ merge.outcome.group.members) :
    ∃ report ∈ tables.reports, report.id = id := by
  obtain ⟨group, group_member, _, _, grown⟩ := traced.kept merge made
  exact traced.known group group_member id (grown id member)

theorem frame (traced : Traced tables merges) (numbered : tables.Numbered)
    (keeps : tables.KeepsDuplicates after) : Traced after merges where
  single := by
    rw [Tables.OneGroupEach, keeps.groups]
    exact traced.single
  made := keeps.groups ▸ traced.made
  kept := keeps.groups ▸ traced.kept
  includes := traced.includes
  known := by
    intro group member id id_member
    obtain ⟨report, report_member, rfl⟩ := traced.known group (keeps.groups ▸ member) id id_member
    exact keeps.reports report report_member
  pointed := by
    intro report member
    rcases keeps.pointers report member with ⟨old, old_member, same, pointer⟩ | ⟨new, pointer⟩
    · rw [← pointer, traced.pointed old old_member, same]
    · have apart : lastMergeOf report.id merges = none := by
        rw [lastMergeOf_eq_none]
        intro merge made id_member
        obtain ⟨known, known_member, same⟩ := traced.known_outcome made id_member
        have bound := numbered.report_le known_member
        omega
      rw [pointer, apart]
      rfl

section

variable (traced : Traced tables merges) {merge : Merge} (step : merge.Made tables after)
include traced step

theorem made_concat (proper : merge.canonical ∉ merge.duplicates) :
    ∀ group ∈ after.duplicateGroups,
      group.MadeBy (mergesInto group.canonical (merges ++ [merge])) := by
  intro group member
  rcases (step.mem_groups group).mp member with rfl | ⟨old, other⟩
  · rw [step.owner, mergesInto_concat_same]
    cases step.kind with
    | opens opens =>
      have first : mergesInto merge.canonical merges = [] := by
        rw [List.eq_nil_iff_forall_not_mem]
        intro earlier into
        obtain ⟨made, same⟩ := mem_mergesInto.mp into
        obtain ⟨group, group_member, owner, _⟩ := traced.kept earlier made
        exact opens.fresh group group_member (owner.trans same)
      rw [first]
      exact DuplicateGroup.madeBy_opened opens step.owner proper
    | @grows before before_member same growth =>
      have made := traced.made before before_member
      rw [same] at made
      exact made.extended same growth step.owner proper
  · rw [mergesInto_concat_other _ (Ne.symm other)]
    exact traced.made group old

theorem kept_concat : ∀ earlier ∈ merges ++ [merge], ∃ group ∈ after.duplicateGroups,
    group.canonical = earlier.canonical ∧ group.id = earlier.outcome.group.id ∧
      ∀ id ∈ earlier.outcome.group.members, id ∈ group.members := by
  intro earlier made
  cases List.mem_append.mp made with
  | inl made =>
    obtain ⟨group, group_member, owner, number, grown⟩ := traced.kept earlier made
    obtain ⟨later, later_member, same_owner, same_number, more⟩ :=
      step.exists_grown traced.single group_member
    exact ⟨later, later_member, same_owner.trans owner, same_number.trans number,
      fun id member => more id (grown id member)⟩
  | inr made =>
    obtain rfl := List.mem_singleton.mp made
    have there := (step.mem_groups earlier.outcome.group).mpr (.inl rfl)
    exact ⟨earlier.outcome.group, there, step.owner, rfl, fun _ member => member⟩

theorem known_concat : after.MembersKnown := step.membersKnown traced.known

theorem pointed_concat : ∀ report ∈ after.reports, report.duplicateGroup =
    (lastMergeOf report.id (merges ++ [merge])).map fun merge => merge.outcome.group.id := by
  intro report member
  rw [step.reports] at member
  obtain ⟨old, old_member, rfl⟩ := List.mem_map.mp member
  rw [Tables.pointed_id, Tables.pointed_duplicateGroup, lastMergeOf_concat]
  split
  next => rfl
  next => exact traced.pointed old old_member

/-- One more merge. -/
theorem concat (proper : merge.canonical ∉ merge.duplicates) : Traced after (merges ++ [merge]) where
  single := step.single
  made := traced.made_concat step proper
  kept := traced.kept_concat step
  includes := by
    intro earlier made
    cases List.mem_append.mp made with
    | inl made => exact traced.includes earlier made
    | inr made =>
      rw [List.mem_singleton.mp made]
      exact fun _ => step.mem_of_involves
  known := traced.known_concat step
  pointed := traced.pointed_concat step

end

end Traced

/-- The merges of a session with one more request. -/
theorem filterMap_merge?_concat (served : List Served) (last : Served) :
    (served ++ [last]).filterMap Served.merge? =
      served.filterMap Served.merge? ++ last.merge?.toList := by
  rw [List.filterMap_append]
  cases h : last.merge? <;> simp [h]

/-- Every effect leaves the duplicate groups and pointers of the merges made so far. -/
theorem Effect.traced [Trigonometry] {settings : Settings} {tables after : Tables} {request : Request}
    {result : Except Failure Answer} {merges : List Merge}
    (effect : Effect settings tables request result after) (numbered : tables.Numbered)
    (traced : Traced tables merges) :
    Traced after (merges ++ (Served.merge? ⟨request, result⟩).toList) := by
  have frame (keeps : tables.KeepsDuplicates after)
      (silent : Served.merge? ⟨request, result⟩ = none) :
      Traced after (merges ++ (Served.merge? ⟨request, result⟩).toList) := by
    rw [silent, Option.toList_none, List.append_nil]
    exact traced.frame numbered keeps
  cases effect with
  | refused request failure => exact frame (.of_same rfl rfl) (by cases request <;> rfl)
  | filed filing => exact frame (.of_filing filing) rfl
  | statusChanged actor h => exact frame (.of_changeStatus h) rfl
  | merged nonempty proper h =>
    exact traced.concat (Merge.made_of_mergeReports numbered traced.single h) proper
  | recounted now found => exact frame (.of_same rfl rfl) rfl
  | detailed => exact frame (.of_same rfl rfl) rfl
  | listed => exact frame (.of_same rfl rfl) rfl

/-- After every session the duplicate groups and pointers are those that its merges have left. -/
theorem Session.traced_of [Trigonometry] {σ : Type} (behaviour : AuditBehaviour σ)
    (settings : Settings) (log : σ) (requests : List Request) :
    Traced (of behaviour settings log requests).tables
      (of behaviour settings log requests).merges := by
  have invariant := of_induction behaviour settings log
    (P := fun tables served => tables.Numbered ∧ Traced tables (served.filterMap Served.merge?))
    ⟨.empty, .empty⟩
    (fun _ _ _ _ _ kept effect =>
      ⟨kept.1.writes effect.writes, filterMap_merge?_concat _ _ ▸ effect.traced kept.1 kept.2⟩)
    requests
  exact invariant.2

namespace Traced

variable {tables : Tables} {merges : List Merge}

/-- The members of a group are what the merges into its canonical report are about. -/
theorem mem_members_iff (traced : Traced tables merges) {group : DuplicateGroup}
    (member : group ∈ tables.duplicateGroups) (id : Int) :
    id ∈ group.members ↔
      ∃ merge ∈ merges, merge.canonical = group.canonical ∧ merge.Involves id := by
  have made := traced.made group member
  rw [DuplicateGroup.mem_members, made.merged]
  constructor
  · rintro (rfl | ⟨merge, into, duplicate⟩)
    · obtain ⟨first, rest, split, _⟩ := made.opened
      have into : first ∈ mergesInto group.canonical merges := split ▸ List.mem_cons_self
      obtain ⟨made, owner⟩ := mem_mergesInto.mp into
      exact ⟨first, made, owner, .inl owner.symm⟩
    · obtain ⟨made, owner⟩ := mem_mergesInto.mp into
      exact ⟨merge, made, owner, .inr duplicate⟩
  · rintro ⟨merge, made, owner, same | duplicate⟩
    · exact .inl (same.trans owner)
    · exact .inr ⟨merge, mem_mergesInto.mpr ⟨made, owner⟩, duplicate⟩

/-- A pointer is to a group that has the report as a member. -/
theorem exists_group_of_pointer (traced : Traced tables merges) {report : Report}
    (member : report ∈ tables.reports) {id : Int} (pointer : report.duplicateGroup = some id) :
    ∃ group ∈ tables.duplicateGroups, group.id = id ∧ report.id ∈ group.members := by
  rw [traced.pointed report member, Option.map_eq_some_iff] at pointer
  obtain ⟨merge, last, rfl⟩ := pointer
  obtain ⟨made, had⟩ := mem_of_lastMergeOf last
  obtain ⟨group, group_member, _, number, grown⟩ := traced.kept merge made
  exact ⟨group, group_member, number, grown _ had⟩

end Traced

/-- After every session a report has a duplicate group exactly if a merge into it was made, and then
it has one. The group belongs to its first merge and has merged what any of them named. Every pointer
of a report is to a group that has it as a member. -/
theorem Session.duplicateGroups_of [Trigonometry] {σ : Type} (behaviour : AuditBehaviour σ)
    (settings : Settings) (log : σ) (requests : List Request) (canonical : Int) :
    let session := of behaviour settings log requests
    let groups := session.tables.duplicateGroups
    ((∃ group ∈ groups, group.canonical = canonical) ↔
        ∃ merge ∈ session.merges, merge.canonical = canonical) ∧
      (∀ group ∈ groups, group.canonical = canonical →
        (groups.map DuplicateGroup.canonical).count canonical = 1 ∧
          group.MadeBy (mergesInto canonical session.merges)) ∧
      ∀ report ∈ session.tables.reports, ∀ id, report.duplicateGroup = some id →
        ∃ group ∈ groups, group.id = id ∧ report.id ∈ group.members := by
  intro session groups
  have traced : Traced session.tables session.merges := traced_of behaviour settings log requests
  refine ⟨?_, ?_, ?_⟩
  · constructor
    · rintro ⟨group, member, rfl⟩
      obtain ⟨merge, made, owner, _⟩ := (traced.mem_members_iff member group.canonical).mp
        (DuplicateGroup.mem_members.mpr (.inl rfl))
      exact ⟨merge, made, owner⟩
    · rintro ⟨merge, made, rfl⟩
      obtain ⟨group, member, owner, _⟩ := traced.kept merge made
      exact ⟨group, member, owner⟩
  · rintro group member rfl
    refine ⟨?_, traced.made group member⟩
    exact List.count_eq_one_of_mem traced.single (List.mem_map_of_mem member)
  · intro report member id pointer
    exact traced.exists_group_of_pointer member pointer

end AbandonedBikes
