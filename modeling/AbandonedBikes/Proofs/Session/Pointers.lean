import AbandonedBikes.Proofs.Session.Merging
/-!
# Pointers and membership

Every merge points the members of its group at it, and takes no report out of any other group. A report
that merges into different canonical reports are about is therefore a member of several groups, while
it points at one of them, that of the last merge. Pointers and membership agree exactly in those
sessions in which this never happens.
-/

namespace AbandonedBikes

namespace Tables

/-- Every member of a duplicate group points at it. -/
def PointersAgree (tables : Tables) : Prop :=
  ∀ group ∈ tables.duplicateGroups, ∀ report ∈ tables.reports,
    report.id ∈ group.members → report.duplicateGroup = some group.id

instance (tables : Tables) : Decidable tables.PointersAgree :=
  inferInstanceAs (Decidable (∀ group ∈ tables.duplicateGroups, ∀ report ∈ tables.reports,
    report.id ∈ group.members → report.duplicateGroup = some group.id))

/-- No report is a member of two duplicate groups. -/
def GroupsDisjoint (tables : Tables) : Prop :=
  ∀ group ∈ tables.duplicateGroups, ∀ other ∈ tables.duplicateGroups,
    ∀ id ∈ group.members, id ∈ other.members → group = other

end Tables

namespace Traced

variable {tables : Tables} {merges : List Merge}

/-- A member points at a group that it is a member of, if not always at this one. -/
theorem exists_pointer (traced : Traced tables merges) {group : DuplicateGroup} {report : Report}
    (group_member : group ∈ tables.duplicateGroups) (member : report ∈ tables.reports)
    (has : report.id ∈ group.members) :
    ∃ other ∈ tables.duplicateGroups, report.id ∈ other.members ∧
      report.duplicateGroup = some other.id := by
  obtain ⟨merge, made, _, involved⟩ := (traced.mem_members_iff group_member report.id).mp has
  cases last : lastMergeOf report.id merges with
  | none =>
    have apart := lastMergeOf_eq_none.mp last merge made
    exact absurd (traced.includes merge made report.id involved) apart
  | some final =>
    have pointer : report.duplicateGroup = some final.outcome.group.id := by
      rw [traced.pointed report member, last]
      rfl
    obtain ⟨other, other_member, number, has_too⟩ := traced.exists_group_of_pointer member pointer
    exact ⟨other, other_member, has_too, number ▸ pointer⟩

theorem pointersAgree_iff (traced : Traced tables merges) (numbered : tables.Numbered) :
    tables.PointersAgree ↔ tables.GroupsDisjoint := by
  constructor
  · intro agree group group_member other other_member id has has_too
    obtain ⟨report, member, rfl⟩ := traced.known group group_member id has
    have pointer := agree group group_member report member has
    rw [agree other other_member report member has_too] at pointer
    have same := Option.some.inj pointer
    exact numbered.duplicateGroup_unique group_member other_member same.symm
  · intro disjoint group group_member report member has
    obtain ⟨other, other_member, has_too, pointer⟩ :=
      traced.exists_pointer group_member member has
    rw [disjoint group group_member other other_member report.id has has_too]
    exact pointer

theorem groupsDisjoint_iff (traced : Traced tables merges) :
    tables.GroupsDisjoint ↔ ∀ merge ∈ merges, ∀ other ∈ merges,
      merge.canonical ≠ other.canonical → ∀ id, merge.Involves id → ¬ other.Involves id := by
  constructor
  · intro disjoint merge made other other_made apart id involved involved_too
    obtain ⟨group, group_member, owner, _, grown⟩ := traced.kept merge made
    obtain ⟨rival, rival_member, rival_owner, _, rival_grown⟩ := traced.kept other other_made
    have has := grown id (traced.includes merge made id involved)
    have has_too := rival_grown id (traced.includes other other_made id involved_too)
    have same := disjoint group group_member rival rival_member id has has_too
    rw [← owner, same, rival_owner] at apart
    exact apart rfl
  · intro apart group group_member other other_member id has has_too
    by_contra different
    obtain ⟨merge, made, owner, involved⟩ := (traced.mem_members_iff group_member id).mp has
    obtain ⟨rival, rival_made, rival_owner, involved_too⟩ :=
      (traced.mem_members_iff other_member id).mp has_too
    refine apart merge made rival rival_made ?_ id involved involved_too
    rw [owner, rival_owner]
    exact fun same => different (traced.single.unique group_member other_member same)

end Traced

/-- After every session a report points at the group of the last merge that had it as a member. That is
its group if it is a member of one only. Pointers and membership agree exactly if no report is a member
of two groups, and that is so exactly if merges into different canonical reports are about different
reports. -/
theorem Session.pointers_of [Trigonometry] {σ : Type} (behaviour : AuditBehaviour σ)
    (settings : Settings) (log : σ) (requests : List Request) :
    let session := of behaviour settings log requests
    let tables := session.tables
    (∀ report ∈ tables.reports, report.duplicateGroup =
        (lastMergeOf report.id session.merges).map fun merge => merge.outcome.group.id) ∧
      (∀ group ∈ tables.duplicateGroups, ∀ report ∈ tables.reports, report.id ∈ group.members →
        (∀ other ∈ tables.duplicateGroups, report.id ∈ other.members → other = group) →
        report.duplicateGroup = some group.id) ∧
      (tables.PointersAgree ↔ tables.GroupsDisjoint) ∧
      (tables.GroupsDisjoint ↔ ∀ merge ∈ session.merges, ∀ other ∈ session.merges,
        merge.canonical ≠ other.canonical → ∀ id, merge.Involves id → ¬ other.Involves id) := by
  intro session tables
  have traced : Traced tables session.merges := traced_of behaviour settings log requests
  have numbered : tables.Numbered := numbered_of behaviour settings log requests
  refine ⟨traced.pointed, ?_, traced.pointersAgree_iff numbered, traced.groupsDisjoint_iff⟩
  intro group group_member report member has only
  obtain ⟨other, other_member, has_too, pointer⟩ := traced.exists_pointer group_member member has
  rw [only other other_member has_too] at pointer
  exact pointer

/-- Three reports of different bikes. The second one is merged into the first and then into the third.
It stays a member of the first group, but points at the other one. -/
theorem Session.pointers_disagree :
    let settings : Settings :=
      { matchLookbackDays := -1, duplicateLookbackDays := -1, serializeByCell := false }
    let requests : List Request :=
      [.file default, .file default, .file default,
        .merge 1 (.ofList [2]) "first" (.atSecond 0), .merge 3 (.ofList [2]) "second" (.atSecond 0)]
    let tables := (of MemoryLog.behaviour settings {} requests).tables
    tables.reports.map (fun report => (report.id, report.duplicateGroup)) =
        [(1, some 1), (2, some 2), (3, some 2)] ∧
      tables.duplicateGroups.map (fun group => (group.id, group.members.ids)) =
        [(1, [1, 2]), (2, [2, 3])] ∧
      ¬ tables.PointersAgree := by
  decide +kernel

end AbandonedBikes
