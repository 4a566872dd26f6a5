import AbandonedBikes.Proofs.Session.Counters
import AbandonedBikes.Proofs.Session.Trail
/-!
# Recounts on request

The counters of a group may be wrong: the store can be used past the service, and a filing may have been
interrupted before its recount. A recount on request puts them right, whatever they were, and leaves all
else alone. It is put down to the last report of the group; if there is none, then nothing is recorded.
A second recount finds what the first one has left and changes only the time of the last change.

`Recount.Heals` says what one recount does. It holds in all tables that writes can reach, since no two
groups have the same number there. The two recounts of the main statement are two uses of it.
-/

namespace AbandonedBikes

/-! ## The group -/

/-- The group after a recount: what is counted is that of the evidence, and the rest is as before. -/
structure BikeGroup.Healed (before after : BikeGroup) (evidence : Evidence) (now : Instant) :
    Prop where
  id : after.id = before.id
  createdAt : after.createdAt = before.createdAt
  anchor : after.anchor = before.anchor
  updatedAt : after.updatedAt = now
  totalReports : after.totalReports = evidence.totalReports
  uniqueReporters : after.uniqueReporters = evidence.uniqueReporters
  sameReporter : after.sameReporter = evidence.sameReporter
  distinctReporter : after.distinctReporter = evidence.distinctReporter
  firstQualifyingAt : after.firstQualifyingAt = evidence.firstQualifyingAt
  lastQualifyingAt : after.lastQualifyingAt = evidence.lastQualifyingAt
  strength : after.strength = evidence.strength
  /-- Without a report there is no other time to take. -/
  lastReportAt : after.lastReportAt = evidence.lastReportAt.getD before.lastReportAt

namespace Evidence

variable (evidence : Evidence) (group : BikeGroup) (now again : Instant)

theorem healed_applyTo : group.Healed (evidence.applyTo group now) evidence now :=
  ⟨rfl, rfl, rfl, rfl, rfl, rfl, rfl, rfl, rfl, rfl, rfl, rfl⟩

/-- The same evidence changes nothing the second time but the time of the last change. -/
theorem applyTo_applyTo : evidence.applyTo (evidence.applyTo group now) again =
    { evidence.applyTo group now with updatedAt := again } := by
  unfold applyTo
  cases evidence.lastReportAt <;> rfl

end Evidence

/-- Nothing of the group is left open. -/
theorem BikeGroup.Healed.eq_applyTo {before after : BikeGroup} {evidence : Evidence} {now : Instant}
    (healed : before.Healed after evidence now) : after = evidence.applyTo before now := by
  cases after
  obtain ⟨rfl, rfl, rfl, rfl, rfl, rfl, rfl, rfl, rfl, rfl, rfl, rfl⟩ := healed
  rfl

/-- The store keeps nothing of the group that a recount has not kept. -/
theorem BikeGroup.Healed.overwrite_eq {before after : BikeGroup} {evidence : Evidence}
    {now : Instant} (healed : before.Healed after evidence now) :
    Tables.overwrite before after = after := by
  rw [healed.eq_applyTo]
  rfl

namespace Tables

variable {tables : Tables}

/-- The tables with another group under its number. -/
def withGroup (tables : Tables) (group : BikeGroup) : Tables :=
  { tables with groups := tables.groups.map fun g => if g.id = group.id then group else g }

/-- The group with the number is the only one that is overwritten. -/
theorem overwritten_eq (numbered : tables.Numbered) {before updated : BikeGroup}
    (found : tables.group? updated.id = some before) (kept : overwrite before updated = updated) :
    tables.overwritten updated = tables.withGroup updated := by
  unfold overwritten withGroup
  congr 1
  refine List.map_congr_left fun group member => ?_
  split
  next same =>
    obtain ⟨present, number⟩ := mem_of_group? found
    rw [numbered.group_unique member present (same.trans number.symm), kept]
  next => rfl

theorem Numbered.withGroup (numbered : tables.Numbered) {before updated : BikeGroup}
    (found : tables.group? updated.id = some before) (kept : overwrite before updated = updated) :
    (tables.withGroup updated).Numbered := by
  rw [← overwritten_eq numbered found kept]
  exact numbered.updateGroup (updateGroup_of_found found)

theorem group?_withGroup {group before : BikeGroup}
    (found : tables.group? group.id = some before) :
    (tables.withGroup group).group? group.id = some group := by
  have same_number : ((fun g : BikeGroup => g.id == group.id) ∘
      fun g => if g.id = group.id then group else g) = fun g => g.id == group.id := by
    funext g
    simp only [Function.comp]
    split
    next same => simp [same]
    next => rfl
  rw [group?, withGroup, List.find?_map, same_number]
  change Option.map _ (tables.group? group.id) = _
  rw [found, Option.map_some, if_pos (mem_of_group? found).2]

theorem members_withGroup (tables : Tables) (group : BikeGroup) (id : Int) :
    (tables.withGroup group).members id = tables.members id := rfl

end Tables

/-! ## The last report -/

/-- The last report in chronological order comes after all others. -/
theorem Report.last_of_chronological {history : List Report} {last : Report}
    (h : (chronological history).getLast? = some last) :
    last ∈ history ∧ ∀ report ∈ history, report.before last = true := by
  have present := mem_chronological.mp (List.mem_of_getLast? h)
  refine ⟨present, fun report member => ?_⟩
  have total := before_total last last
  rw [Bool.or_self] at total
  obtain ⟨earlier, split⟩ := List.getLast?_eq_some_iff.mp h
  have sorted := pairwise_chronological history
  rw [split, List.pairwise_append] at sorted
  have placed : report ∈ chronological history := mem_chronological.mpr member
  rw [split, List.mem_append, List.mem_singleton] at placed
  rcases placed with placed | rfl
  · exact sorted.2.2 report placed last (List.mem_singleton_self _)
  · exact total

/-- A recount on request is put down to the last report of its history, if there is one. -/
theorem Service.recomputeNotes_eq (rules : ReplayRules) {recount : Recount} {history : List Report}
    (replayed : recount.evidence = rules.replay history) :
    recomputeNotes recount =
      match (Report.chronological history).getLast? with
      | some last => recount.notes last.id
      | none => [] := by
  have numbers := congrArg List.getLast? (rules.map_fst_classifications history)
  rw [List.getLast?_map, List.getLast?_map, ← replayed] at numbers
  rw [recomputeNotes]
  cases last : (Report.chronological history).getLast? with
  | none =>
    rw [last, Option.map_none, Option.map_eq_none_iff] at numbers
    rw [numbers]
  | some report =>
    rw [last, Option.map_some, Option.map_eq_some_iff] at numbers
    obtain ⟨entry, found, same⟩ := numbers
    rw [found]
    exact congrArg recount.notes same

/-! ## One recount -/

/-- What a recount of a group on request does in a world. -/
structure Recount.Heals (recount : Recount) (rules : ReplayRules) (before : BikeGroup) (now : Instant)
    (world after : World MemoryLog) : Prop where
  evidence : recount.evidence = rules.replay (world.tables.members before.id)
  previous : recount.previous = before.strength
  healed : before.Healed recount.group recount.evidence now
  lastReportAt : world.tables.members before.id ≠ [] →
    recount.evidence.lastReportAt = some recount.group.lastReportAt
  /-- Nothing else in the tables is touched. -/
  tables : after.tables = world.tables.withGroup recount.group
  silent : recount.changed = false ∨ world.tables.members before.id = [] → after.log = world.log
  /-- One fact is recorded, about the last report. -/
  recorded : recount.changed = true → world.tables.members before.id ≠ [] →
    ∃ last ∈ world.tables.members before.id,
      (∀ report ∈ world.tables.members before.id, report.before last = true) ∧
      after.log = (world.log.append ((Fact.strengthChanged last.id before.id before.strength
        recount.group.strength).entryBy systemActor)).2

namespace Service

variable (settings : Settings) {world : World MemoryLog}

theorem exists_heals (numbered : world.tables.Numbered) {group : Int} {before : BikeGroup}
    (found : world.tables.group? group = some before) (now : Instant) :
    ∃ recount after,
      ((inMemory MemoryLog.behaviour settings).recompute group now).on world = (.ok recount, after) ∧
      recount.Heals settings.replayRules before now world after := by
  refine ⟨_, _, on_recompute_found MemoryLog.behaviour settings found now, ?_⟩
  obtain ⟨_, rfl⟩ := Tables.mem_of_group? found
  set recount := world.tables.recountOf settings.replayRules before now
  have replayed : recount.evidence =
      settings.replayRules.replay (world.tables.members before.id) :=
    Tables.replay_reportsInGroup _ _ _
  have notes := recomputeNotes_eq settings.replayRules replayed
  have healed : before.Healed recount.group recount.evidence now :=
    Evidence.healed_applyTo _ before now
  constructor
  · exact replayed
  · rfl
  · exact healed
  · intro nonempty
    obtain ⟨report, member⟩ := List.exists_mem_of_ne_nil _ nonempty
    obtain ⟨last, present⟩ := settings.replayRules.exists_lastReportAt member
    rw [← replayed] at present
    rw [healed.lastReportAt, present]
    rfl
  · rw [World.noteAll_tables]
    exact Tables.overwritten_eq numbered found healed.overwrite_eq
  · intro quiet
    have nothing : recomputeNotes recount = [] := by
      rw [notes]
      rcases quiet with same | empty
      · split
        next => rw [Recount.notes, same, if_neg Bool.false_ne_true]
        next => rfl
      · rw [empty]
        rfl
    rw [nothing]
    rfl
  · intro changed nonempty
    cases last : (Report.chronological (world.tables.members before.id)).getLast? with
    | none =>
      have none_left := (Report.chronological_perm (world.tables.members before.id)).symm
      rw [List.getLast?_eq_none_iff.mp last, List.perm_nil] at none_left
      exact absurd none_left nonempty
    | some report =>
      obtain ⟨member, latest⟩ := Report.last_of_chronological last
      refine ⟨report, member, latest, ?_⟩
      rw [notes, last]
      simp only [Recount.notes, changed, if_true]
      rfl

/-- A recount on request puts a group right, whatever its counters were, and changes nothing else. If
this changes the strength and the group has a report, then that is recorded, once. A second recount has
the same evidence, changes no strength, records nothing, and only sets the time of the last change. -/
theorem recompute_heals (reached : Tables.Writes {} world.tables) {group : Int} {before : BikeGroup}
    (found : world.tables.group? group = some before) (now again : Instant) :
    let service := inMemory MemoryLog.behaviour settings
    ∃ recount after, (service.recompute group now).on world = (.ok recount, after) ∧
      recount.Heals settings.replayRules before now world after ∧
      ∃ repeated, repeated.evidence = recount.evidence ∧ repeated.changed = false ∧
        repeated.group = { recount.group with updatedAt := again } ∧
        (service.recompute group again).on after =
          (.ok repeated, ⟨after.log, after.tables.withGroup repeated.group⟩) := by
  intro service
  have numbered := Tables.Numbered.empty.writes reached
  obtain ⟨recount, after, answered, first⟩ := exists_heals settings numbered found now
  refine ⟨recount, after, answered, first, ?_⟩
  -- The second recount finds the group that the first one has left, and the same reports.
  have number : recount.group.id = group := first.healed.id.trans (Tables.mem_of_group? found).2
  have found_again : after.tables.group? group = some recount.group := by
    rw [first.tables, ← number]
    exact Tables.group?_withGroup (number ▸ found)
  have numbered_again : after.tables.Numbered := by
    rw [first.tables]
    exact numbered.withGroup (number ▸ found) first.healed.overwrite_eq
  obtain ⟨repeated, last, answered_again, second⟩ :=
    exists_heals settings numbered_again found_again again
  have same_evidence : repeated.evidence = recount.evidence := by
    rw [second.evidence, first.evidence, first.tables, first.healed.id, Tables.members_withGroup]
  have unchanged : repeated.changed = false := by
    rw [Recount.changed, second.previous, second.healed.strength, same_evidence,
      first.healed.strength, bne_self_eq_false]
  refine ⟨repeated, same_evidence, unchanged, ?_, ?_⟩
  · rw [second.healed.eq_applyTo, same_evidence, first.healed.eq_applyTo]
    exact Evidence.applyTo_applyTo _ before now again
  · rw [answered_again]
    exact congrArg _ (World.ext (second.silent (.inl unchanged)) second.tables)

/-- One report is in a group whose counters say that many reporters have confirmed it. -/
theorem recompute_heals_overstated :
    let opened := (({} : Tables).createGroup default default).2
    let wrong : BikeGroup := { BikeGroup.anchoredAt 1 default default with
      totalReports := 9, uniqueReporters := 7, distinctReporter := 6
      strength := .strongDistinctReporters }
    let tables := (opened.insertReport default 1).2.overwritten wrong
    let world : World MemoryLog := ⟨{}, tables⟩
    let service := inMemory MemoryLog.behaviour {}
    Tables.Writes {} tables ∧ tables.group? 1 = some wrong ∧
      ∃ recount after, (service.recompute 1 default).on world = (.ok recount, after) ∧
        recount.Heals ⟨28, 2⟩ wrong default world after ∧ recount.group.strength = .none ∧
        after.log.records.length = 1 := by
  intro opened wrong tables world service
  have reached : Tables.Writes {} tables :=
    .tail (.tail (.single (.createGroup _ default default)) (.insertReport _ default 1))
      (.updateGroup (Tables.updateGroup_of_found rfl))
  have found : tables.group? 1 = some wrong := rfl
  obtain ⟨recount, after, answered, heals, _⟩ :=
    @recompute_heals {} world reached 1 wrong found default (.atSecond 1)
  have weak : recount.group.strength = .none := by
    rw [heals.healed.strength, heals.evidence]
    decide +kernel
  have changed : recount.changed = true := by
    rw [Recount.changed, heals.previous, weak]
    rfl
  have nonempty : tables.members 1 ≠ [] := by
    simp [tables, Tables.members, opened]
  obtain ⟨_, _, _, recorded⟩ := heals.recorded changed nonempty
  refine ⟨reached, found, recount, after, answered, heals, weak, ?_⟩
  rw [recorded]
  rfl

end Service

end AbandonedBikes
