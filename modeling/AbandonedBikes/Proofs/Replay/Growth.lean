import AbandonedBikes.Proofs.Replay.Bounds
/-!
# Evidence only grows

A report that is newer than all others adds one step to the replay of the others. The step takes nothing
back: `ReplayState.LeadsTo` says that counters do not fall and that the time of the first confirmation
stays. `ReplayRules.replay_grows` carries this over to the evidence, whose strength cannot fall either,
since it asks for no more than large enough counters.
-/

namespace AbandonedBikes

/-- A replay that has got from one state to another has kept what it knew. -/
structure ReplayState.LeadsTo (state next : ReplayState) : Prop where
  reporters_le : state.seen.length ≤ next.seen.length
  same_le : state.same ≤ next.same
  distinct_le : state.distinct ≤ next.distinct
  firstQualifyingAt : ∀ first, state.firstQualifyingAt = some first →
    next.firstQualifyingAt = some first

/-- The evidence of a history and that of the same history with one more report, whose classification is
given. -/
structure Evidence.GrowsTo (earlier later : Evidence) (entry : Int × Classification) : Prop where
  classifications : later.classifications = earlier.classifications ++ [entry]
  totalReports : later.totalReports.toNat = earlier.totalReports.toNat + 1
  uniqueReporters_le : earlier.uniqueReporters ≤ later.uniqueReporters
  sameReporter_le : earlier.sameReporter ≤ later.sameReporter
  distinctReporter_le : earlier.distinctReporter ≤ later.distinctReporter
  firstQualifyingAt : ∀ first, earlier.firstQualifyingAt = some first →
    later.firstQualifyingAt = some first
  strength_le : earlier.strength.priority ≤ later.strength.priority

namespace ReplayRules

variable (rules : ReplayRules) {state next : ReplayState} {front back : List Report} {new : Report}

theorem leadsTo_step (state : ReplayState) (report : Report) :
    state.LeadsTo (rules.step state report) where
  reporters_le := by
    change state.seen.length ≤ (state.seen.note report.reporter report.createdAt.day).length
    rw [SeenDays.length_note]
    exact Nat.le_add_right _ _
  same_le := by
    simp only [step]
    split <;> omega
  distinct_le := by
    rw [distinct_step]
    exact Nat.le_add_right _ _
  firstQualifyingAt := by
    intro first known
    simp only [step, known, Option.some_or, ite_self]

theorem strength_le_of_leadsTo (leads : state.LeadsTo next)
    (balanced : state.Balanced) (short : state.reversed.length < 2 ^ 32)
    (next_balanced : next.Balanced) (next_short : next.reversed.length < 2 ^ 32) :
    (rules.evidence state).strength.priority ≤ (rules.evidence next).strength.priority := by
  have reporters_le := leads.reporters_le
  have same_le := leads.same_le
  have distinct_le := leads.distinct_le
  rw [rules.strength_evidence balanced short, rules.strength_evidence next_balanced next_short]
  by_cases strong : 0 < state.distinct ∧ rules.strongMinReporters.toNat ≤ state.seen.length
  · have still : 0 < next.distinct ∧ rules.strongMinReporters.toNat ≤ next.seen.length := by omega
    rw [if_pos strong, if_pos still]
  · rw [if_neg strong]
    by_cases weak : 0 < state.same + state.distinct
    · have still : 0 < next.same + next.distinct := by omega
      rw [if_pos weak, if_pos still]
      split <;> decide
    · rw [if_neg weak]
      exact Nat.zero_le _

/-- A report that is newer than all others is classified after them, and adds to the evidence without
taking anything back, wherever it stands in the list that is given. -/
theorem replay_grows (newest : ∀ report ∈ front ++ back, new.Newer report)
    (short : (front ++ back).length < 2 ^ 32 - 1) :
    (rules.replay (front ++ back)).GrowsTo (rules.replay (front ++ new :: back))
      (new.id, rules.rule (Report.chronological (front ++ back)) new) := by
  let state := (Report.chronological (front ++ back)).foldl rules.step {}
  let next := rules.step state new
  have replayed : rules.replay (front ++ new :: back) = rules.evidence next := by
    rw [replay, Report.chronological_newest newest, List.foldl_append]
    rfl
  have leads : state.LeadsTo next := rules.leadsTo_step state new
  have balanced : state.Balanced := ReplayState.Balanced.empty.foldl rules _
  have next_balanced : next.Balanced := balanced.step rules new
  have length : state.reversed.length = (front ++ back).length :=
    rules.length_reversed_chronological _
  have next_length : next.reversed.length = state.reversed.length + 1 := rfl
  have words : state.reversed.length < 2 ^ 32 := by omega
  have next_words : next.reversed.length < 2 ^ 32 := by omega
  constructor
  · exact rules.classifications_newest newest
  · rw [replayed, rules.toNat_totalReports next_words, next_length]
    exact congrArg (· + 1) (rules.toNat_totalReports words).symm
  · rw [replayed, UInt32.le_iff_toNat_le, rules.toNat_uniqueReporters next_balanced next_words]
    exact (rules.toNat_uniqueReporters balanced words).trans_le leads.reporters_le
  · rw [replayed, UInt32.le_iff_toNat_le, rules.toNat_sameReporter next_balanced next_words]
    exact (rules.toNat_sameReporter balanced words).trans_le leads.same_le
  · rw [replayed, UInt32.le_iff_toNat_le, rules.toNat_distinctReporter next_balanced next_words]
    exact (rules.toNat_distinctReporter balanced words).trans_le leads.distinct_le
  · rw [replayed]
    exact leads.firstQualifyingAt
  · rw [replayed]
    exact rules.strength_le_of_leadsTo leads balanced words next_balanced next_words

/-- A second reporter is put in between two reports of the first one. -/
theorem replay_grows_inserted :
    let opening : Report := { (default : Report) with id := 1, reporter := .user 1 }
    let again : Report := { opening with id := 2, createdAt := .atSecond 3000000 }
    let other : Report :=
      { again with id := 3, reporter := .user 2, createdAt := .atSecond 6000000 }
    let rules : ReplayRules := ⟨28, 2⟩
    (∀ report ∈ [opening] ++ [again], other.Newer report) ∧
      ([opening] ++ [again]).length < 2 ^ 32 - 1 ∧
      (rules.replay ([opening] ++ [again])).GrowsTo (rules.replay ([opening] ++ other :: [again]))
        (other.id, rules.rule (Report.chronological ([opening] ++ [again])) other) := by
  intro opening again other rules
  have newest : ∀ report ∈ [opening] ++ [again], other.Newer report := by
    intro report member
    rcases List.mem_cons.mp member with rfl | member
    · exact .inl (by decide)
    · rw [List.mem_singleton.mp member]
      exact .inl (by decide)
  exact ⟨newest, by decide, rules.replay_grows newest (by decide)⟩

end ReplayRules

end AbandonedBikes
