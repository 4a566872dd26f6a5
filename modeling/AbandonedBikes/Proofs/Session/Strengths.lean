import AbandonedBikes.Proofs.Session.Filings
import AbandonedBikes.Proofs.Session.Happenings
/-!
# The recorded changes of strength

The strength of a group is overwritten by a recount and recorded after it, by a filing under the report
that was filed and by a recount on request under the last report of the group. It may go up and down,
since a report may be filed with an early date or put in by hand. A recount that changes nothing is not
recorded.

`StrengthChain` says that recorded changes lead from one strength to another without a gap. That the
changes recorded for a group lead from no strength to the strength it has now is the invariant
`Tables.StrengthsTold`. A recount is the only step that prolongs a chain, whoever asks for it and whatever
report it is put down to.
-/

namespace AbandonedBikes

/-! ## Chains of changes -/

/-- The changes of strength of a group lead from the first strength to the last one. Each starts where
the one before it ends, and changes something. -/
inductive StrengthChain (group : Int) : Strength → List Fact → Strength → Prop
  | unchanged (strength : Strength) : StrengthChain group strength [] strength
  | changed (report : Int) {previous next last : Strength} {rest : List Fact}
      (differs : previous ≠ next) (goes_on : StrengthChain group next rest last) :
    StrengthChain group previous (.strengthChanged report group previous next :: rest) last

/-- One more change prolongs a chain. -/
theorem StrengthChain.concat {group : Int} {first previous next : Strength} {facts : List Fact}
    (chain : StrengthChain group first facts previous) (report : Int) (differs : previous ≠ next) :
    StrengthChain group first (facts ++ [.strengthChanged report group previous next]) next := by
  induction chain with
  | unchanged strength => exact .changed report differs (.unchanged next)
  | changed earlier earlier_differs _ ih => exact .changed earlier earlier_differs (ih differs)

/-- The bike group that a fact names. -/
def Fact.bikeGroup? : Fact → Option Int
  | .created _ group _ | .reconfirmationCounted _ group _ | .reconfirmationIgnored _ group
  | .strengthChanged _ group _ _ => some group
  | .statusChanged .. | .merged .. => none

/-- The changes of strength of a group among some facts. -/
def strengthFacts (group : Int) (facts : List Fact) : List Fact :=
  facts.filter fun fact =>
    fact.eventType == "signal_strength_changed" && fact.bikeGroup? == some group

theorem strengthFacts_append (group : Int) (first second : List Fact) :
    strengthFacts group (first ++ second) = strengthFacts group first ++ strengthFacts group second :=
  List.filter_append ..

theorem strengthFacts_eq_nil {group : Int} {facts : List Fact}
    (silent : ∀ fact ∈ facts, fact.eventType ≠ "signal_strength_changed") :
    strengthFacts group facts = [] := by
  rw [strengthFacts, List.filter_eq_nil_iff]
  intro fact member about
  rw [Bool.and_eq_true, beq_iff_eq] at about
  exact silent fact member about.1

theorem Recount.changed_iff (recount : Recount) :
    recount.changed = true ↔ recount.previous ≠ recount.group.strength := by
  simp [changed]

/-- What a recount has recorded is a change of its own group. -/
theorem strengthFacts_recount (recount : Recount) (report group : Int) :
    strengthFacts group ((recount.notes report).map Note.fact) =
      if recount.changed = true ∧ recount.group.id = group then
        [.strengthChanged report group recount.previous recount.group.strength]
      else [] := by
  rw [Recount.notes]
  by_cases changed : recount.changed = true
  · by_cases same : recount.group.id = group
    · simp [strengthFacts, changed, same, Fact.eventType, Fact.bikeGroup?]
    · simp [strengthFacts, changed, same, Fact.bikeGroup?]
  · simp [strengthFacts, changed]

/-! ## The invariant -/

namespace Tables

/-- The changes recorded for a group lead from no strength to the one it has, and each is put down to a
report of the group. -/
structure StrengthsTold (tables : Tables) (facts : List Fact) : Prop where
  populated : tables.Populated
  chained : ∀ group ∈ tables.groups,
    StrengthChain group.id .none (strengthFacts group.id facts) group.strength
  reported : ∀ group, ∀ fact ∈ strengthFacts group facts,
    ∃ report ∈ tables.reports, report.id = fact.report ∧ report.bikeGroup = group

namespace StrengthsTold

variable {tables after : Tables} {facts more : List Fact} {rules : ReplayRules}

theorem empty : StrengthsTold {} [] := ⟨⟨by simp, by simp⟩, by simp, by simp [strengthFacts]⟩

/-- Facts that are not about strength change nothing. -/
theorem silent (told : tables.StrengthsTold facts)
    (other : ∀ fact ∈ more, fact.eventType ≠ "signal_strength_changed") :
    tables.StrengthsTold (facts ++ more) := by
  have same (group : Int) : strengthFacts group (facts ++ more) = strengthFacts group facts := by
    rw [strengthFacts_append, strengthFacts_eq_nil other, List.append_nil]
  refine ⟨told.populated, ?_, ?_⟩
  · intro group member
    rw [same]
    exact told.chained group member
  · intro group fact member
    rw [same] at member
    exact told.reported group fact member

/-- Nothing that a replay looks at has changed. -/
theorem same (told : tables.StrengthsTold facts) (same : SameFilings tables after) :
    after.StrengthsTold facts where
  populated := same.populated told.populated
  chained := by
    rw [same.groups]
    exact told.chained
  reported := by
    intro group fact member
    obtain ⟨report, report_member, number, house⟩ := told.reported group fact member
    obtain ⟨later, later_member, filed⟩ := same.reports.symm.exists_report report_member
    obtain ⟨same_number, _, _, same_house⟩ := Report.kept_of_asFiled_eq filed
    exact ⟨later, later_member, same_number.trans number, same_house.trans house⟩

/-- Reports are added, and groups that have no strength and none of the reports so far. -/
theorem grown (told : tables.StrengthsTold facts) (populated : after.Populated)
    (reports : ∀ report ∈ tables.reports, report ∈ after.reports)
    (groups : ∀ group ∈ after.groups, group ∈ tables.groups ∨
      (group.strength = .none ∧ ∀ report ∈ tables.reports, report.bikeGroup ≠ group.id)) :
    after.StrengthsTold facts where
  populated := populated
  chained := by
    intro group member
    cases groups group member with
    | inl old => exact told.chained group old
    | inr new =>
      obtain ⟨weak, vacant⟩ := new
      have nothing : strengthFacts group.id facts = [] := by
        rw [List.eq_nil_iff_forall_not_mem]
        intro fact fact_member
        obtain ⟨report, report_member, _, house⟩ := told.reported group.id fact fact_member
        exact vacant report report_member house
      rw [nothing, weak]
      exact .unchanged .none
  reported := by
    intro group fact member
    obtain ⟨report, report_member, about⟩ := told.reported group fact member
    exact ⟨report, reports report report_member, about⟩

/-- A report is put into a group that is there. -/
theorem inserted (told : tables.StrengthsTold facts) (new : NewReport) {group : Int}
    {before : BikeGroup} (found : tables.group? group = some before) :
    (tables.insertReport new group).2.StrengthsTold facts := by
  obtain ⟨present, number⟩ := mem_of_group? found
  refine told.grown ⟨?_, ?_⟩ (fun _ member => List.mem_append_left _ member) fun _ => .inl
  · intro report member
    rw [insertReport_reports, List.mem_append, List.mem_singleton] at member
    rcases member with member | rfl
    · exact told.populated.housed report member
    · exact ⟨before, present, number⟩
  · intro other member
    obtain ⟨report, report_member, house⟩ := told.populated.inhabited other member
    exact ⟨report, List.mem_append_left _ report_member, house⟩

/-- A recount prolongs the chain of its group if it changes the strength. -/
theorem recounted (told : tables.StrengthsTold facts) (numbered : tables.Numbered)
    {before : BikeGroup} (present : before ∈ tables.groups) {report : Report}
    (member : report ∈ tables.reports) (house : report.bikeGroup = before.id) (now : Instant) :
    (tables.recounted rules before now).StrengthsTold
      (facts ++ ((tables.recountOf rules before now).notes report.id).map Note.fact) where
  populated := told.populated.overwritten _
  chained := by
    -- The chain of the recounted group ends in the strength that it had before.
    intro group group_member
    obtain ⟨old, old_member, same, written⟩ := mem_overwritten group_member
    have chain := told.chained old old_member
    rw [strengthFacts_append, strengthFacts_recount]
    rcases written with ⟨hit, rfl⟩ | ⟨miss, rfl⟩
    · obtain rfl := numbered.group_unique old_member present (same.trans hit)
      rw [overwrite_id]
      by_cases changed : (tables.recountOf rules old now).changed = true
      · rw [if_pos ⟨changed, rfl⟩]
        exact chain.concat report.id ((Recount.changed_iff _).mp changed)
      · rw [if_neg fun both => changed both.1, List.append_nil]
        have kept : old.strength = (tables.recountOf rules old now).group.strength := by
          rw [Recount.changed_iff, not_not] at changed
          exact changed
        rw [kept] at chain
        exact chain
    · rw [if_neg fun both => miss both.2.symm, List.append_nil]
      exact chain
  reported := by
    intro group fact fact_member
    rw [strengthFacts_append, strengthFacts_recount, List.mem_append] at fact_member
    cases fact_member with
    | inl old => exact told.reported group fact old
    | inr new =>
      split at new
      next own =>
        rw [List.mem_singleton] at new
        rw [new]
        exact ⟨report, member, rfl, house.trans own.2⟩
      next => simp at new

end StrengthsTold

end Tables

/-! ## Turns -/

/-- A recount on request is put down to a report of its group. -/
theorem Tables.recomputeNotes_eq {tables : Tables} (populated : tables.Populated) {before : BikeGroup}
    (present : before ∈ tables.groups) (rules : ReplayRules) (now : Instant) :
    ∃ report ∈ tables.reports, report.bikeGroup = before.id ∧
      Service.recomputeNotes (tables.recountOf rules before now) =
        (tables.recountOf rules before now).notes report.id := by
  have classified : (tables.recountOf rules before now).evidence.classifications.map Prod.fst =
      (Report.chronological (tables.reportsInGroup before.id)).map Report.id :=
    rules.map_fst_classifications _
  rw [Service.recomputeNotes]
  cases last : (tables.recountOf rules before now).evidence.classifications.getLast? with
  | none =>
    -- The group has a report, so its history is not empty.
    obtain ⟨report, member, house⟩ := populated.inhabited before present
    have history : report ∈ tables.reportsInGroup before.id := mem_reportsInGroup.mpr ⟨member, house⟩
    rw [List.getLast?_eq_none_iff.mp last, List.map_nil, eq_comm, List.map_eq_nil_iff] at classified
    rw [← Report.mem_chronological, classified] at history
    exact absurd history List.not_mem_nil
  | some entry =>
    have number : entry.1 ∈ (Report.chronological (tables.reportsInGroup before.id)).map Report.id :=
      classified ▸ List.mem_map_of_mem (List.mem_of_getLast? last)
    obtain ⟨report, history, same⟩ := List.mem_map.mp number
    obtain ⟨member, house⟩ := mem_reportsInGroup.mp (Report.mem_chronological.mp history)
    exact ⟨report, member, house, by rw [same]⟩

namespace Filing

variable [Trigonometry] {settings : Settings} {tables : Tables} {new : NewReport}
variable (filing : Filing settings tables new)

theorem numbered_inserted (numbered : tables.Numbered) : filing.inserted.Numbered := by
  have placed : filing.placed.Numbered := by
    rcases Tables.place_cases filing.place with ⟨_, same, _⟩ | ⟨_, _, same⟩
    · rw [same]
      exact numbered
    · rw [same]
      exact numbered.createGroup _ _
  exact placed.insertReport new filing.group.id

/-- A group that a filing opens has a number that no report carries, and no strength yet. -/
theorem strengthsTold_inserted {facts : List Fact} (numbered : tables.Numbered)
    (told : tables.StrengthsTold facts) : filing.inserted.StrengthsTold facts := by
  refine told.grown (filing.populated_inserted told.populated) ?_ ?_
  · intro report member
    rw [inserted_reports, placed_reports]
    exact List.mem_append_left _ member
  · intro group member
    rw [inserted_groups] at member
    rcases Tables.place_cases filing.place with ⟨_, same, _⟩ | ⟨_, _, same⟩
    · exact .inl (same ▸ member)
    · rw [same, Tables.createGroup_groups, List.mem_append, List.mem_singleton] at member
      rcases member with member | rfl
      · exact .inl member
      · refine .inr ⟨rfl, fun report report_member carries => ?_⟩
        obtain ⟨house, present, number⟩ := told.populated.housed report report_member
        have bound := numbered.group_le present
        have fresh : report.bikeGroup = tables.lastGroup + 1 := carries
        omega

/-- All that a filing records about strength is what its recount has changed. -/
theorem strengthsTold_after {facts : List Fact} (numbered : tables.Numbered)
    (told : tables.StrengthsTold facts) :
    filing.after.StrengthsTold (facts ++ filing.notes.map Note.fact) := by
  have other : ∀ fact ∈ filing.report.filing filing.classification,
      fact.eventType ≠ "signal_strength_changed" := by
    intro fact member
    have about := (filing.mem_filing member).1
    cases fact <;> simp_all [Fact.isFiling, Fact.eventType]
  have member : filing.report ∈ filing.inserted.reports := by
    rw [inserted_reports]
    exact List.mem_append_right _ (List.mem_singleton_self _)
  rw [filing.map_fact_notes, ← List.append_assoc]
  exact ((filing.strengthsTold_inserted numbered told).silent other).recounted
    (filing.numbered_inserted numbered) (Tables.mem_of_group? filing.found).1 member
    filing.before_id.symm new.createdAt

end Filing

/-- Every turn prolongs the chains as it changes the strengths. -/
theorem Turn.strengthsTold [Trigonometry] {settings : Settings} {tables after : Tables}
    {request : Request} {result : Except Failure Answer} {notes : List Note} {facts : List Fact}
    (turn : Turn settings tables request result notes after) (numbered : tables.Numbered)
    (told : tables.StrengthsTold facts) : after.StrengthsTold (facts ++ notes.map Note.fact) := by
  cases turn with
  | refused | detailed | listed => exact told.silent (by simp)
  | filed filing => exact filing.strengthsTold_after numbered told
  | statusChanged actor h =>
    exact (told.same (Tables.sameFilings_changeStatus numbered h)).silent (by simp [Fact.eventType])
  | merged nonempty proper h =>
    refine (told.same (Tables.sameFilings_mergeReports h)).silent ?_
    intro fact member
    obtain ⟨id, rfl⟩ := MergeOutcome.of_mem_notes member
    simp [Fact.eventType]
  | recounted now found =>
    have present := (Tables.mem_of_group? found).1
    obtain ⟨report, member, house, same⟩ :=
      Tables.recomputeNotes_eq told.populated present settings.replayRules now
    rw [same]
    exact told.recounted numbered present member house now

/-! ## Records -/

/-- The bike group that the payload of a record names. -/
def AuditRecord.bikeGroup? (record : AuditRecord) : Option Int :=
  match record.payload.member? "bike_group_id" with
  | some (.int group) => some group
  | _ => none

theorem AuditRecord.Tells.bikeGroup? {record : AuditRecord} {fact : Fact}
    (tells : record.Tells fact) : record.bikeGroup? = fact.bikeGroup? := by
  rw [AuditRecord.bikeGroup?, tells.payload]
  cases fact <;> rfl

namespace MemoryLog

/-- The records of the changes of strength of a group. -/
def strengthRecords (log : MemoryLog) (group : Int) : List AuditRecord :=
  log.records.filter fun record =>
    record.eventType == "signal_strength_changed" && record.bikeGroup? == some group

theorem Holds.strengths {log : MemoryLog} {facts : List Fact} (holds : log.Holds facts)
    (group : Int) :
    List.Forall₂ AuditRecord.Tells (log.strengthRecords group) (strengthFacts group facts) := by
  refine List.rel_filter ?_ holds
  intro record fact tells
  simp only [tells.eventType, tells.bikeGroup?]

end MemoryLog

/-- Whatever happens to a service in memory, the changes of strength recorded for a group lead from no
strength to the strength that the group has now, and each of them is put down to a report of the group.
The records are in the order of their sequence numbers. -/
theorem World.strengthChain_after [Trigonometry] (settings : Settings) (clock : Instant)
    (happenings : List Happening) :
    let world := after MemoryLog.behaviour settings ⟨{ clock }, {}⟩ happenings
    (world.log.records.map AuditRecord.seq).Pairwise (· < ·) ∧
      ∀ group ∈ world.tables.groups, ∃ facts,
        List.Forall₂ AuditRecord.Tells (world.log.strengthRecords group.id) facts ∧
          StrengthChain group.id .none facts group.strength ∧
          ∀ fact ∈ facts, ∃ report ∈ world.tables.reports,
            report.id = fact.report ∧ report.bikeGroup = group.id := by
  intro world
  obtain ⟨facts, holds, sequential, _, told⟩ := trail settings clock
    (P := fun tables facts => tables.Numbered ∧ tables.StrengthsTold facts)
    ⟨.empty, .empty⟩
    (fun _ _ _ _ _ _ kept turn =>
      ⟨kept.1.writes turn.effect.writes, turn.strengthsTold kept.1 kept.2⟩)
    (fun _ _ new group _ kept found =>
      ⟨kept.1.insertReport new group, kept.2.inserted new found⟩) happenings
  refine ⟨sequential.pairwise, ?_⟩
  intro group member
  exact ⟨strengthFacts group.id facts, holds.strengths group.id, told.chained group member,
    told.reported group.id⟩

end AbandonedBikes
