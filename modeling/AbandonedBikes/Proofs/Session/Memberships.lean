import AbandonedBikes.Proofs.Session.Trail
import AbandonedBikes.Proofs.Store.Merging
/-!
# Memberships and what is recorded about them

A merge changes the tables first and then records every report that it has added to its group. Between
the two nothing can fail, and a report that was merged before is not added again. So the facts about
merges in the log are the memberships of the duplicate groups, each of them once. `Tables.Told` is this
invariant: the facts have no repetition, and they are the same as the memberships.
-/

namespace AbandonedBikes

/-- The fact that a report was merged into a duplicate group. -/
def DuplicateGroup.membership (group : DuplicateGroup) (id : Int) : Fact :=
  .merged id group.canonical group.id

/-- The facts that are about merges. -/
def mergeFacts (facts : List Fact) : List Fact :=
  facts.filter fun fact => fact.eventType == "merged"

theorem mergeFacts_append (first second : List Fact) :
    mergeFacts (first ++ second) = mergeFacts first ++ mergeFacts second := by
  simp [mergeFacts]

theorem mergeFacts_classification (classification : Classification) (report group : Int) :
    mergeFacts ((classification.notes report group).map Note.fact) = [] := by
  cases classification <;> rfl

theorem mergeFacts_recount (recount : Recount) (report : Int) :
    mergeFacts ((recount.notes report).map Note.fact) = [] := by
  rw [Recount.notes]
  split <;> rfl

theorem mergeFacts_recompute (recount : Recount) :
    mergeFacts ((Service.recomputeNotes recount).map Note.fact) = [] := by
  rw [Service.recomputeNotes]
  split
  next => exact mergeFacts_recount _ _
  next => rfl

theorem mergeFacts_filing [Trigonometry] {settings : Settings} {tables : Tables} {new : NewReport}
    (filing : Filing settings tables new) : mergeFacts (filing.notes.map Note.fact) = [] := by
  rw [Filing.notes, List.map_cons, List.map_append]
  change mergeFacts (_ ++ _) = []
  rw [mergeFacts_append, mergeFacts_classification, mergeFacts_recount]
  rfl

/-- A merge records nothing but memberships in its group. -/
theorem mergeFacts_merge (outcome : MergeOutcome) (operator : String) :
    mergeFacts ((outcome.notes outcome.group.canonical operator).map Note.fact) =
      outcome.newlyMerged.ids.map outcome.group.membership := by
  rw [MergeOutcome.notes, List.map_map]
  refine List.filter_eq_self.mpr fun fact member => ?_
  obtain ⟨id, _, rfl⟩ := List.mem_map.mp member
  rfl

/-- The facts are the memberships of the duplicate groups, each of them once. -/
structure Tables.Told (tables : Tables) (facts : List Fact) : Prop where
  nodup : facts.Nodup
  mem_iff : ∀ fact, fact ∈ facts ↔
    ∃ group ∈ tables.duplicateGroups, ∃ id ∈ group.merged, fact = group.membership id

namespace Tables.Told

variable {tables after : Tables} {facts : List Fact} {merge : Merge}

theorem empty : Told {} [] := ⟨List.nodup_nil, by simp⟩

theorem frame (told : tables.Told facts) (same : after.duplicateGroups = tables.duplicateGroups) :
    after.Told facts :=
  ⟨told.nodup, same ▸ told.mem_iff⟩

theorem nodup_concat (told : tables.Told facts) (made : merge.Made tables after)
    (adds : merge.Adds tables) :
    (facts ++ merge.outcome.newlyMerged.ids.map merge.outcome.group.membership).Nodup := by
  refine List.Nodup.append told.nodup ?_ ?_
  · refine List.Nodup.map ?_ (merge.outcome.newlyMerged.ascending.imp Int.ne_of_lt)
    intro a b same
    injection same
  · intro fact old new
    obtain ⟨id, added, rfl⟩ := List.mem_map.mp new
    obtain ⟨before, member, known, merged, same⟩ := (told.mem_iff _).mp old
    injection same with same_id same_canonical
    subst same_id
    exact adds.fresh before member (same_canonical.symm.trans made.owner) id added merged

theorem mem_iff_concat (told : tables.Told facts) (single : tables.OneGroupEach)
    (made : merge.Made tables after) (adds : merge.Adds tables) (fact : Fact) :
    fact ∈ facts ++ merge.outcome.newlyMerged.ids.map merge.outcome.group.membership ↔
      ∃ group ∈ after.duplicateGroups, ∃ id ∈ group.merged, fact = group.membership id := by
  have same_membership {before : DuplicateGroup} (member : before ∈ tables.duplicateGroups)
      (same : before.canonical = merge.canonical) (id : Int) :
      before.membership id = merge.outcome.group.membership id := by
    rw [DuplicateGroup.membership, DuplicateGroup.membership, same, made.owner,
      made.id_eq single member same]
  rw [List.mem_append, told.mem_iff]
  constructor
  · rintro (⟨before, member, id, merged, rfl⟩ | new)
    · by_cases same : before.canonical = merge.canonical
      · refine ⟨merge.outcome.group, (made.mem_groups _).mpr (.inl rfl), id, ?_, ?_⟩
        · exact (adds.merged id).mpr (.inr ⟨before, member, same, merged⟩)
        · exact same_membership member same id
      · exact ⟨before, (made.mem_groups _).mpr (.inr ⟨member, same⟩), id, merged, rfl⟩
    · obtain ⟨id, added, rfl⟩ := List.mem_map.mp new
      refine ⟨merge.outcome.group, (made.mem_groups _).mpr (.inl rfl), id, ?_, rfl⟩
      exact (adds.merged id).mpr (.inl added)
  · rintro ⟨group, group_member, id, merged, rfl⟩
    rcases (made.mem_groups group).mp group_member with rfl | ⟨member, _⟩
    · rcases (adds.merged id).mp merged with added | ⟨before, member, same, old⟩
      · exact .inr (List.mem_map.mpr ⟨id, added, rfl⟩)
      · exact .inl ⟨before, member, id, old, (same_membership member same id).symm⟩
    · exact .inl ⟨group, member, id, merged, rfl⟩

/-- A merge records what it adds. -/
theorem concat (told : tables.Told facts) (single : tables.OneGroupEach)
    (made : merge.Made tables after) (adds : merge.Adds tables) :
    after.Told (facts ++ merge.outcome.newlyMerged.ids.map merge.outcome.group.membership) :=
  ⟨told.nodup_concat made adds, told.mem_iff_concat single made adds⟩

end Tables.Told

/-- A turn leaves the duplicate groups alone and records nothing about merges, or it is a merge. -/
theorem Turn.merge_cases [Trigonometry] {settings : Settings} {tables after : Tables}
    {request : Request} {result : Except Failure Answer} {notes : List Note}
    (turn : Turn settings tables request result notes after) :
    (after.duplicateGroups = tables.duplicateGroups ∧ mergeFacts (notes.map Note.fact) = []) ∨
      ∃ merge : Merge, tables.mergeReports merge.canonical merge.duplicates merge.operator merge.now =
        .ok (merge.outcome, after) ∧ notes = merge.outcome.notes merge.canonical merge.operator := by
  cases turn with
  | refused | detailed | listed => exact .inl ⟨rfl, rfl⟩
  | filed filing => exact .inl ⟨filing.placed_duplicateGroups, mergeFacts_filing filing⟩
  | statusChanged actor h =>
    obtain ⟨_, _, _, _, rfl⟩ := Tables.of_changeStatus h
    exact .inl ⟨rfl, rfl⟩
  | @merged canonical duplicates operator now outcome _ nonempty proper h =>
    exact .inr ⟨⟨canonical, duplicates, operator, now, outcome⟩, h, rfl⟩
  | recounted now found => exact .inl ⟨rfl, mergeFacts_recompute _⟩

/-- Every turn keeps the duplicate groups apart and told. -/
theorem Turn.told [Trigonometry] {settings : Settings} {tables after : Tables} {request : Request}
    {result : Except Failure Answer} {notes : List Note} {facts : List Fact}
    (turn : Turn settings tables request result notes after) (numbered : tables.Numbered)
    (single : tables.OneGroupEach) (told : tables.Told (mergeFacts facts)) :
    after.OneGroupEach ∧ after.Told (mergeFacts (facts ++ notes.map Note.fact)) := by
  rw [mergeFacts_append]
  rcases turn.merge_cases with ⟨same, silent⟩ | ⟨merge, h, rfl⟩
  · refine ⟨?_, ?_⟩
    · rw [Tables.OneGroupEach, same]
      exact single
    · rw [silent, List.append_nil]
      exact told.frame same
  · have made := Merge.made_of_mergeReports numbered single h
    have adds := Merge.adds_of_mergeReports single h
    refine ⟨made.single, ?_⟩
    rw [← made.owner, mergeFacts_merge]
    exact told.concat single made adds

/-- After every session the records about merges are in one-to-one correspondence with the memberships
of the duplicate groups: exactly one record is about each of them, and every record is about exactly
one. -/
theorem Session.merge_records_of [Trigonometry] (settings : Settings) (clock : Instant)
    (requests : List Request) :
    let session := of MemoryLog.behaviour settings { clock } requests
    let groups := session.tables.duplicateGroups
    let records := session.world.log.recordsOfType "merged"
    (∀ group ∈ groups, ∀ id ∈ group.merged, ∃! i : Fin records.length,
        records[i].Tells (.merged id group.canonical group.id)) ∧
      ∀ record ∈ records, ∃! fact : Fact, record.Tells fact ∧
        ∃ group ∈ groups, ∃ id ∈ group.merged, fact = .merged id group.canonical group.id := by
  intro session groups records
  obtain ⟨facts, holds, _, _, told⟩ := of_trail settings { clock } rfl
    (P := fun tables _ facts => tables.Numbered ∧ tables.OneGroupEach ∧
      tables.Told (mergeFacts facts))
    ⟨.empty, List.nodup_nil, .empty⟩
    (fun _ _ _ _ _ _ _ kept turn =>
      ⟨kept.1.writes turn.effect.writes, turn.told kept.1 kept.2.1 kept.2.2⟩) requests
  have matched : List.Forall₂ AuditRecord.Tells records (mergeFacts facts) := holds.ofType "merged"
  refine ⟨?_, ?_⟩
  · intro group member id merged
    have told_once := (told.mem_iff _).mpr ⟨group, member, id, merged, rfl⟩
    exact MemoryLog.existsUnique_tells matched told.nodup told_once
  · intro record member
    have about_one := MemoryLog.existsUnique_told matched member
    simp only [told.mem_iff] at about_one
    exact about_one

end AbandonedBikes
