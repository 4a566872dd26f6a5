import Mathlib.Algebra.Group.Nat.Defs
import AbandonedBikes.Proofs.Replay.Causality
/-!
# Bounds on the evidence

The first report of a history confirms nothing, and every confirmation by another reporter brings in a
reporter. `ReplayState.Balanced` says what follows for the counters of a replay. `ReplayState.Timed` says
that the times of the first and the last confirmation are kept as soon as something is counted, and in
which order they lie. One step of a replay keeps both, the second one if the reports come in the order of
their creation.

The counters of the evidence are words of 32 bits. A history that is shorter than that fits into them, and
so does the sum of its confirmations. `ReplayRules.bounded_replay` is the main statement.
-/

namespace AbandonedBikes

theorem Instant.le_refl (a : Instant) : a ≤ a := (le_iff_lt_or_eq a a).mpr (.inr rfl)

theorem Instant.le_trans {a b c : Instant} (first : a ≤ b) (second : b ≤ c) : a ≤ c := by
  rw [le_iff] at first second ⊢
  omega

theorem Report.createdAt_le_of_before {a b : Report} (before : a.before b = true) :
    a.createdAt ≤ b.createdAt := by
  rw [Instant.le_iff_lt_or_eq]
  rw [before_iff] at before
  exact before.imp_right And.left

namespace SeenDays

theorem length_note (seen : SeenDays) (reporter : Reporter) (day : Int) :
    (seen.note reporter day).length =
      seen.length + if reporter ∈ seen.map Prod.fst then 0 else 1 := by
  have keys := congrArg List.length (keys_note seen reporter day)
  rw [List.length_map] at keys
  rw [keys]
  split <;> simp

theorem length_note_pos (seen : SeenDays) (reporter : Reporter) (day : Int) :
    0 < (seen.note reporter day).length := by
  rw [length_note]
  split
  next known => exact Nat.add_pos_left (by simpa using List.length_pos_of_mem known) 0
  next => exact Nat.succ_pos _

end SeenDays

/-! ## What a step counts -/

namespace ReplayRules

variable (rules : ReplayRules) (state : ReplayState) (report : Report)

/-- Only a report that follows another one confirms something. -/
theorem begun_of_isQualifying (counts : (rules.classify state report).isQualifying = true) :
    state.previousAt ≠ none := by
  intro nothing
  simp [classify, nothing, Classification.isQualifying, Classification.matchKind?] at counts

/-- A confirmation by another reporter is the first report of that reporter. -/
theorem unknown_of_distinct (counts : rules.classify state report = .countedDistinctReporter) :
    report.reporter ∉ state.seen.map Prod.fst := by
  intro known
  obtain ⟨entry, member, same⟩ := List.mem_map.mp known
  have days : (state.seen.lookup report.reporter).isSome = true :=
    List.lookup_isSome_iff.mpr ⟨entry, member, by simp [same]⟩
  rw [classify] at counts
  split at counts
  · cases counts
  · simp only [days, if_true] at counts
    split at counts
    · cases counts
    · split at counts <;> cases counts

theorem counted_step :
    (rules.step state report).same + (rules.step state report).distinct =
      state.same + state.distinct +
        if (rules.classify state report).isQualifying = true then 1 else 0 := by
  cases kind : rules.classify state report <;>
    simp [step, kind, Classification.isQualifying, Classification.matchKind?] <;> omega

theorem distinct_step :
    (rules.step state report).distinct =
      state.distinct +
        if rules.classify state report = .countedDistinctReporter then 1 else 0 := by
  simp only [step]
  split <;> rfl

end ReplayRules

/-! ## The counters of a replay -/

/-- The counters of a replay agree with the reports and the reporters that it has met. -/
structure ReplayState.Balanced (state : ReplayState) : Prop where
  begun : state.previousAt ≠ none → 0 < state.seen.length
  /-- The first report is not counted. -/
  counted_le : state.same + state.distinct ≤ state.reversed.length - 1
  /-- The first reporter is not counted. -/
  distinct_le : state.distinct ≤ state.seen.length - 1
  reporters_le : state.seen.length ≤ state.reversed.length

namespace ReplayState.Balanced

variable {state : ReplayState}

theorem empty : Balanced {} := ⟨fun begun => absurd rfl begun, by simp, by simp, by simp⟩

theorem step (balanced : state.Balanced) (rules : ReplayRules) (report : Report) :
    (rules.step state report).Balanced := by
  have counted := rules.counted_step state report
  have distinct := rules.distinct_step state report
  have reporters : (rules.step state report).seen.length =
      state.seen.length + if report.reporter ∈ state.seen.map Prod.fst then 0 else 1 :=
    SeenDays.length_note _ _ _
  have replayed : (rules.step state report).reversed.length = state.reversed.length + 1 := rfl
  obtain ⟨begun, counted_le, distinct_le, reporters_le⟩ := balanced
  constructor
  · exact fun _ => SeenDays.length_note_pos _ _ _
  · rw [counted, replayed]
    by_cases counts : (rules.classify state report).isQualifying = true
    · have := begun (rules.begun_of_isQualifying state report counts)
      rw [if_pos counts]
      omega
    · rw [if_neg counts]
      omega
  · rw [distinct, reporters]
    by_cases counts : rules.classify state report = .countedDistinctReporter
    · have follows : state.previousAt ≠ none :=
        rules.begun_of_isQualifying state report (by rw [counts]; rfl)
      have := begun follows
      rw [if_pos counts, if_neg (rules.unknown_of_distinct state report counts)]
      omega
    · rw [if_neg counts]
      omega
  · rw [reporters, replayed]
    split <;> omega

theorem foldl (balanced : state.Balanced) (rules : ReplayRules) (history : List Report) :
    (history.foldl rules.step state).Balanced := by
  induction history generalizing state with
  | nil => exact balanced
  | cons report rest ih => exact ih (balanced.step rules report)

end ReplayState.Balanced

/-! ## The times of a replay -/

/-- The first and the last confirmation have their times, in this order, and not after the last
report. -/
structure ReplayState.Timed (state : ReplayState) : Prop where
  nothing : state.same + state.distinct = 0 →
    state.firstQualifyingAt = none ∧ state.lastQualifyingAt = none
  something : 0 < state.same + state.distinct → ∃ first last previous,
    state.firstQualifyingAt = some first ∧ state.lastQualifyingAt = some last ∧
      state.previousAt = some previous ∧ first ≤ last ∧ last ≤ previous

namespace ReplayState.Timed

variable {state : ReplayState}

theorem empty : Timed {} := ⟨fun _ => ⟨rfl, rfl⟩, fun counted => absurd counted (Nat.lt_irrefl 0)⟩

/-- A report that is not older than the one before it keeps the times in order. -/
theorem step (timed : state.Timed) (rules : ReplayRules) {report : Report}
    (later : ∀ previous, state.previousAt = some previous → previous ≤ report.createdAt) :
    (rules.step state report).Timed := by
  have counted := rules.counted_step state report
  by_cases counts : (rules.classify state report).isQualifying = true
  · have first_at : (rules.step state report).firstQualifyingAt =
        state.firstQualifyingAt.or (some report.createdAt) := if_pos counts
    have last_at : (rules.step state report).lastQualifyingAt = some report.createdAt :=
      if_pos counts
    rw [if_pos counts] at counted
    refine ⟨fun none_counted => by omega, fun _ => ?_⟩
    rw [first_at, last_at]
    by_cases before : 0 < state.same + state.distinct
    · obtain ⟨first, last, previous, first_eq, _, previous_eq, first_le, last_le⟩ :=
        timed.something before
      have le_new := Instant.le_trans last_le (later previous previous_eq)
      refine ⟨first, report.createdAt, report.createdAt, by rw [first_eq, Option.some_or], rfl, rfl,
        Instant.le_trans first_le le_new, Instant.le_refl _⟩
    · have nothing_yet := (timed.nothing (by omega)).1
      exact ⟨report.createdAt, report.createdAt, report.createdAt,
        by rw [nothing_yet, Option.none_or], rfl, rfl, Instant.le_refl _, Instant.le_refl _⟩
  · have first_at : (rules.step state report).firstQualifyingAt = state.firstQualifyingAt :=
      if_neg counts
    have last_at : (rules.step state report).lastQualifyingAt = state.lastQualifyingAt :=
      if_neg counts
    rw [if_neg counts, Nat.add_zero] at counted
    constructor
    · rw [counted, first_at, last_at]
      exact timed.nothing
    · rw [counted, first_at, last_at]
      intro some_counted
      obtain ⟨first, last, previous, first_eq, last_eq, previous_eq, first_le, last_le⟩ :=
        timed.something some_counted
      exact ⟨first, last, report.createdAt, first_eq, last_eq, rfl, first_le,
        Instant.le_trans last_le (later previous previous_eq)⟩

theorem isSome_iff (timed : state.Timed) :
    (state.firstQualifyingAt.isSome = true ↔ 0 < state.same + state.distinct) ∧
      (state.lastQualifyingAt.isSome = true ↔ 0 < state.same + state.distinct) := by
  by_cases counted : 0 < state.same + state.distinct
  · obtain ⟨_, _, _, first_eq, last_eq, _⟩ := timed.something counted
    simp [first_eq, last_eq, counted]
  · obtain ⟨first_eq, last_eq⟩ := timed.nothing (by omega)
    simp [first_eq, last_eq, counted]

/-- The induction adds the last report, so that the reports before it are still in order. -/
theorem of_sorted (rules : ReplayRules) {history : List Report}
    (sorted : history.Pairwise fun a b => a.before b = true) :
    (history.foldl rules.step {}).Timed := by
  induction history using List.reverseRecOn with
  | nil => exact empty
  | append_singleton history report ih =>
    rw [List.pairwise_append] at sorted
    rw [List.foldl_append]
    refine (ih sorted.1).step rules fun previous known => ?_
    rw [(rules.tracks_foldl history).previousAt, Option.map_eq_some_iff] at known
    obtain ⟨last, is_last, rfl⟩ := known
    exact Report.createdAt_le_of_before
      (sorted.2.2 last (List.mem_of_getLast? is_last) report (List.mem_singleton_self report))

end ReplayState.Timed

/-! ## The evidence -/

namespace Evidence

/-- The number of reports that confirmed an earlier one. -/
def confirmations (evidence : Evidence) : Nat :=
  evidence.sameReporter.toNat + evidence.distinctReporter.toNat

/-- What holds of the counters, the times and the strength of the evidence of a history. -/
structure Bounds (rules : ReplayRules) (history : List Report) (evidence : Evidence) : Prop where
  /-- The first report confirms nothing. -/
  confirmations_lt : history ≠ [] → evidence.confirmations < evidence.totalReports.toNat
  confirmations_empty : history = [] → evidence.confirmations = 0
  /-- The sum of the two words is the sum of the two numbers. -/
  no_overflow : (evidence.sameReporter + evidence.distinctReporter).toNat = evidence.confirmations
  distinctReporter_lt : history ≠ [] → evidence.distinctReporter < evidence.uniqueReporters
  uniqueReporters_le : evidence.uniqueReporters ≤ evidence.totalReports
  firstQualifyingAt_isSome : evidence.firstQualifyingAt.isSome = true ↔ 0 < evidence.confirmations
  lastQualifyingAt_isSome : evidence.lastQualifyingAt.isSome = true ↔ 0 < evidence.confirmations
  times_ordered : 0 < evidence.confirmations → ∃ first last lastReport,
    evidence.firstQualifyingAt = some first ∧ evidence.lastQualifyingAt = some last ∧
      evidence.lastReportAt = some lastReport ∧ first ≤ last ∧ last ≤ lastReport
  /-- Another reporter who confirms is a second one, so to ask for two reporters asks nothing more. -/
  strength_iff : rules.strongMinReporters ≤ 2 →
    (evidence.strength = .strongDistinctReporters ↔ 0 < evidence.distinctReporter) ∧
      (evidence.strength = .weakSameReporter ↔
        evidence.distinctReporter = 0 ∧ 0 < evidence.sameReporter) ∧
      (evidence.strength = .none ↔ evidence.distinctReporter = 0 ∧ evidence.sameReporter = 0)

end Evidence

namespace ReplayRules

variable (rules : ReplayRules) {state : ReplayState}

/-! A word of the evidence holds a counter that is no larger than the number of reports. -/

section Words

variable (balanced : state.Balanced) (short : state.reversed.length < 2 ^ 32)

include short

theorem toNat_ofNat_of_le {counter : Nat} (bound : counter ≤ state.reversed.length) :
    (UInt32.ofNat counter).toNat = counter :=
  UInt32.toNat_ofNat_of_lt' (Nat.lt_of_le_of_lt bound short)

theorem toNat_totalReports :
    (rules.evidence state).totalReports.toNat = state.reversed.length :=
  toNat_ofNat_of_le short (Nat.le_refl _)

include balanced

theorem toNat_uniqueReporters :
    (rules.evidence state).uniqueReporters.toNat = state.seen.length :=
  toNat_ofNat_of_le short balanced.reporters_le

theorem toNat_sameReporter : (rules.evidence state).sameReporter.toNat = state.same := by
  have := balanced.counted_le
  exact toNat_ofNat_of_le short (by omega)

theorem toNat_distinctReporter :
    (rules.evidence state).distinctReporter.toNat = state.distinct := by
  have := balanced.counted_le
  exact toNat_ofNat_of_le short (by omega)

theorem confirmations_evidence :
    (rules.evidence state).confirmations = state.same + state.distinct := by
  rw [Evidence.confirmations, rules.toNat_sameReporter balanced short,
    rules.toNat_distinctReporter balanced short]

theorem toNat_confirmations :
    ((rules.evidence state).sameReporter + (rules.evidence state).distinctReporter).toNat =
      state.same + state.distinct := by
  have := balanced.counted_le
  rw [UInt32.toNat_add, rules.toNat_sameReporter balanced short,
    rules.toNat_distinctReporter balanced short]
  exact Nat.mod_eq_of_lt (by omega)

theorem strength_evidence :
    (rules.evidence state).strength =
      if 0 < state.distinct ∧ rules.strongMinReporters.toNat ≤ state.seen.length then
        .strongDistinctReporters
      else if 0 < state.same + state.distinct then .weakSameReporter
      else .none := by
  change rules.strength (rules.evidence state).distinctReporter
    (rules.evidence state).uniqueReporters
    (decide (0 < (rules.evidence state).sameReporter + (rules.evidence state).distinctReporter)) = _
  simp only [strength, decide_eq_true_eq, UInt32.lt_iff_toNat_lt, UInt32.le_iff_toNat_le,
    rules.toNat_distinctReporter balanced short, rules.toNat_uniqueReporters balanced short,
    rules.toNat_confirmations balanced short, UInt32.toNat_zero]

theorem strength_iff_of_balanced (few : rules.strongMinReporters ≤ 2) :
    ((rules.evidence state).strength = .strongDistinctReporters ↔ 0 < state.distinct) ∧
      ((rules.evidence state).strength = .weakSameReporter ↔
        state.distinct = 0 ∧ 0 < state.same) ∧
      ((rules.evidence state).strength = .none ↔ state.distinct = 0 ∧ state.same = 0) := by
  have enough : 0 < state.distinct → rules.strongMinReporters.toNat ≤ state.seen.length := by
    intro some_distinct
    have := balanced.distinct_le
    have : rules.strongMinReporters.toNat ≤ 2 := UInt32.le_iff_toNat_le.mp few
    omega
  rw [rules.strength_evidence balanced short]
  by_cases some_distinct : 0 < state.distinct
  · rw [if_pos ⟨some_distinct, enough some_distinct⟩]
    simp only [reduceCtorEq, true_iff, false_iff]
    omega
  · rw [if_neg fun strong => some_distinct strong.1]
    split <;> simp only [reduceCtorEq, true_iff, false_iff] <;> omega

end Words

/-- The replay of a history goes through each of its reports once. -/
theorem length_reversed_chronological (history : List Report) :
    ((Report.chronological history).foldl rules.step {}).reversed.length = history.length :=
  (rules.tracks_foldl _).length_reversed.trans (Report.chronological_perm history).length_eq

/-- The evidence of every history whose reports can be counted is within the bounds. -/
theorem bounded_replay (history : List Report) (short : history.length < 2 ^ 32) :
    (rules.replay history).Bounds rules history := by
  let state := (Report.chronological history).foldl rules.step {}
  have balanced : state.Balanced := ReplayState.Balanced.empty.foldl rules _
  have timed : state.Timed := .of_sorted rules (Report.pairwise_chronological history)
  have replayed : state.reversed.length = history.length :=
    rules.length_reversed_chronological history
  have words : state.reversed.length < 2 ^ 32 := replayed ▸ short
  have begun : history ≠ [] → 0 < state.seen.length := by
    intro some_report
    obtain ⟨report, member⟩ := List.exists_mem_of_ne_nil history some_report
    obtain ⟨last, is_last⟩ := rules.exists_lastReportAt member
    exact balanced.begun (Option.ne_none_iff_exists'.mpr ⟨last, is_last⟩)
  have confirmations := rules.confirmations_evidence balanced words
  have total := rules.toNat_totalReports words
  have unique := rules.toNat_uniqueReporters balanced words
  have same := rules.toNat_sameReporter balanced words
  have distinct := rules.toNat_distinctReporter balanced words
  have strength := rules.strength_iff_of_balanced balanced words
  have counted_le := balanced.counted_le
  have distinct_le := balanced.distinct_le
  change (rules.evidence state).Bounds rules history
  constructor
  · intro some_report
    have := List.length_pos_of_ne_nil some_report
    omega
  · rintro rfl
    rw [replayed, List.length_nil] at counted_le
    omega
  · rw [rules.toNat_confirmations balanced words, confirmations]
  · intro some_report
    have := begun some_report
    rw [UInt32.lt_iff_toNat_lt]
    omega
  · rw [UInt32.le_iff_toNat_le, unique, total]
    exact balanced.reporters_le
  · rw [confirmations]
    exact timed.isSome_iff.1
  · rw [confirmations]
    exact timed.isSome_iff.2
  · rw [confirmations]
    exact timed.something
  · intro few
    simp only [UInt32.lt_iff_toNat_lt, ← UInt32.toNat_inj, UInt32.toNat_zero, same, distinct]
    exact strength few

/-- The second reporter confirms the bike after the first one has done so himself. -/
theorem bounded_replay_both_confirm :
    let opening : Report := { (default : Report) with id := 1, reporter := .user 1 }
    let again : Report := { opening with id := 2, createdAt := .atSecond 3000000 }
    let other : Report :=
      { again with id := 3, reporter := .user 2, createdAt := .atSecond 6000000 }
    let rules : ReplayRules := ⟨28, 2⟩
    let history := [other, opening, again]
    history.length < 2 ^ 32 ∧ (rules.replay history).Bounds rules history :=
  ⟨by decide, bounded_replay ⟨28, 2⟩ _ (by decide)⟩

end ReplayRules

end AbandonedBikes
