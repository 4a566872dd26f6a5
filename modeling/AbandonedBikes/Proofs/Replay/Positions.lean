import Mathlib.Algebra.Group.Nat.Defs
import Mathlib.Data.Fintype.Basic
import Mathlib.Data.List.FinRange
import AbandonedBikes.Proofs.Replay.Rule
/-!
# The evidence of a history by its positions

A history in chronological order has positions. `ReplayRules.classificationAt` classifies a position
by asking which earlier positions exist, and `ReplayRules.Describes` says what every part of the
evidence is in these terms. Neither mentions the state that a replay carries along.

The main statement is that a replay of any history, given in any order, yields the evidence so
described. The counters of the evidence are words of 32 bits, so the history must be shorter.
-/

namespace AbandonedBikes

namespace Classification

theorem isQualifying_eq (classification : Classification) :
    classification.isQualifying =
      decide (classification = .countedSameReporter ∨ classification = .countedDistinctReporter) := by
  cases classification <;> rfl

end Classification

namespace ReplayRules

variable (rules : ReplayRules)

/-- The classification of a position of a history by the positions before it. -/
def classificationAt (history : List Report) (i : Fin history.length) : Classification :=
  if i.val = 0 then .initial
  else if ∃ j < i, (history.get j).reporter = (history.get i).reporter ∧
      (history.get j).createdAt.day = (history.get i).createdAt.day then .ignoredSameDay
  else if ∃ j : Fin history.length, j.val + 1 = i.val ∧
      rules.tooSoon (history.get j).createdAt (history.get i).createdAt = true then .nonQualifying
  else if ∃ j < i, (history.get j).reporter = (history.get i).reporter then .countedSameReporter
  else .countedDistinctReporter

/-- Whether a position counts as a reconfirmation. -/
def CountedAt (history : List Report) (i : Fin history.length) : Prop :=
  rules.classificationAt history i = .countedSameReporter ∨
    rules.classificationAt history i = .countedDistinctReporter

instance (history : List Report) (i : Fin history.length) :
    Decidable (rules.CountedAt history i) :=
  inferInstanceAs (Decidable (_ ∨ _))

/-- What the evidence of a chronological history is, position by position. -/
structure Describes (history : List Report) (evidence : Evidence) : Prop where
  classifications : evidence.classifications =
    (List.finRange history.length).map fun i =>
      ((history.get i).id, rules.classificationAt history i)
  totalReports : evidence.totalReports.toNat = history.length
  uniqueReporters : evidence.uniqueReporters.toNat = (history.map Report.reporter).toFinset.card
  sameReporter : evidence.sameReporter.toNat =
    (List.finRange history.length).countP fun i =>
      rules.classificationAt history i = .countedSameReporter
  distinctReporter : evidence.distinctReporter.toNat =
    (List.finRange history.length).countP fun i =>
      rules.classificationAt history i = .countedDistinctReporter
  /-- The first counted position, if there is one. -/
  firstQualifyingAt : evidence.firstQualifyingAt =
    ((List.finRange history.length).find? fun i => rules.CountedAt history i).map fun i =>
      (history.get i).createdAt
  /-- The last counted position, if there is one. -/
  lastQualifyingAt : evidence.lastQualifyingAt =
    ((List.finRange history.length).reverse.find? fun i => rules.CountedAt history i).map fun i =>
      (history.get i).createdAt
  lastReportAt : evidence.lastReportAt = history.getLast?.map Report.createdAt

theorem getElem_ruled (earlier history : List Report) (i : Nat)
    (bound : i < (rules.ruled earlier history).length) (bound' : i < history.length) :
    (rules.ruled earlier history)[i] =
      (history[i], rules.rule (earlier ++ history.take i) history[i]) := by
  induction history generalizing earlier i with
  | nil => simp at bound'
  | cons report rest ih =>
    cases i with
    | zero => simp [ruled]
    | succ i =>
      have rest_bound : i < rest.length := by simpa using bound'
      simp [ruled, ih (earlier ++ [report]) i (by simpa using rest_bound) rest_bound]

/-- The reports before a position are those at earlier positions. -/
theorem exists_mem_take_iff {history : List Report} (i : Fin history.length)
    (p : Report → Prop) :
    (∃ report ∈ history.take i, p report) ↔ ∃ j < i, p (history.get j) := by
  constructor
  · rintro ⟨report, member, holds⟩
    obtain ⟨j, bound, rfl⟩ := List.mem_take_iff_getElem.mp member
    have early : j < i.val := by omega
    exact ⟨⟨j, by omega⟩, early, holds⟩
  · rintro ⟨j, early, holds⟩
    have bound : j.val < min i.val history.length := by
      have := j.isLt
      have : j.val < i.val := early
      omega
    exact ⟨history.get j, List.mem_take_iff_getElem.mpr ⟨j, bound, rfl⟩, holds⟩

theorem classificationAt_eq_rule (history : List Report) (i : Fin history.length) :
    rules.classificationAt history i = rules.rule (history.take i) (history.get i) := by
  obtain ⟨i, bound⟩ := i
  cases i with
  | zero => simp [classificationAt, rule]
  | succ i =>
    have earlier : i < history.length := by omega
    have previous : (history.take (i + 1)).getLast? = some history[i] := by
      simp [List.getLast?_take, List.getElem?_eq_getElem earlier]
    have soon : (∃ j : Fin history.length, j.val + 1 = i + 1 ∧
        rules.tooSoon (history.get j).createdAt history[i + 1].createdAt = true) ↔
        rules.tooSoon history[i].createdAt history[i + 1].createdAt = true := by
      constructor
      · rintro ⟨⟨j, _⟩, next, holds⟩
        obtain rfl : j = i := by simpa using next
        exact holds
      · intro holds
        exact ⟨⟨i, earlier⟩, rfl, holds⟩
    have position := @exists_mem_take_iff history ⟨i + 1, bound⟩
    simp only [classificationAt, rule, previous, Nat.add_eq_zero_iff, Nat.one_ne_zero, and_false,
      if_false, position, List.get_eq_getElem] at soon ⊢
    simp only [soon]

theorem ruled_eq_map_finRange (history : List Report) :
    rules.ruled [] history =
      (List.finRange history.length).map fun i =>
        (history.get i, rules.classificationAt history i) := by
  refine List.ext_getElem (by simp) ?_
  intro i bound bound'
  have inside : i < history.length := by simpa using bound
  rw [getElem_ruled rules [] history i bound inside]
  simp [classificationAt_eq_rule]

theorem describes_evidence {history : List Report} {state : ReplayState}
    (tracks : rules.Tracks history state) (short : history.length < 2 ^ 32) :
    rules.Describes history (rules.evidence state) := by
  have small {n : Nat} (bound : n ≤ history.length) : (UInt32.ofNat n).toNat = n :=
    UInt32.toNat_ofNat_of_lt' (Nat.lt_of_le_of_lt bound short)
  have positions := rules.ruled_eq_map_finRange history
  have total := tracks.length_reversed
  constructor
  · simp only [evidence, tracks.reversed, positions, List.map_map]
    rfl
  · simp only [evidence, total, small (Nat.le_refl _)]
  · have bound : state.seen.length ≤ history.length := by
      rw [tracks.seen.length_eq]
      simpa using List.toFinset_card_le (history.map Report.reporter)
    change (UInt32.ofNat state.seen.length).toNat = _
    rw [small bound, tracks.seen.length_eq]
  · have bound : state.same ≤ history.length := by
      rw [tracks.same, ← rules.length_ruled [] history]
      exact List.countP_le_length
    change (UInt32.ofNat state.same).toNat = _
    rw [small bound, tracks.same, positions, List.countP_map]
    rfl
  · have bound : state.distinct ≤ history.length := by
      rw [tracks.distinct, ← rules.length_ruled [] history]
      exact List.countP_le_length
    change (UInt32.ofNat state.distinct).toNat = _
    rw [small bound, tracks.distinct, positions, List.countP_map]
    rfl
  · change state.firstQualifyingAt = _
    rw [tracks.firstQualifyingAt, positions, List.find?_map, Option.map_map]
    simp only [Classification.isQualifying_eq]
    rfl
  · change state.lastQualifyingAt = _
    rw [tracks.lastQualifyingAt, positions, ← List.map_reverse, List.find?_map, Option.map_map]
    simp only [Classification.isQualifying_eq]
    rfl
  · change state.previousAt = _
    rw [tracks.previousAt]

/-- A replay sorts its history and yields the evidence that the positions of the sorted history
describe. -/
theorem replay_describes (history : List Report) (short : history.length < 2 ^ 32) :
    (Report.chronological history).Perm history ∧
      (Report.chronological history).Pairwise (fun a b =>
        a.createdAt < b.createdAt ∨ (a.createdAt = b.createdAt ∧ a.id ≤ b.id)) ∧
      rules.Describes (Report.chronological history) (rules.replay history) := by
  have sorted := Report.chronological_perm history
  refine ⟨sorted, ?_, ?_⟩
  · exact (Report.pairwise_chronological history).imp fun order => (Report.before_iff _ _).mp order
  · exact rules.describes_evidence (rules.tracks_foldl _) (sorted.length_eq ▸ short)

/-- Two reports that are given with the later one first. -/
theorem replay_describes_swapped :
    let opening : Report := { (default : Report) with id := 1, createdAt := .atSecond 0 }
    let later : Report := { (default : Report) with id := 2, createdAt := .atSecond 3000000 }
    let rules : ReplayRules := ⟨28, 2⟩
    let history := [later, opening]
    history.length < 2 ^ 32 ∧
      (Report.chronological history).Perm history ∧
      (Report.chronological history).Pairwise (fun a b =>
        a.createdAt < b.createdAt ∨ (a.createdAt = b.createdAt ∧ a.id ≤ b.id)) ∧
      rules.Describes (Report.chronological history) (rules.replay history) :=
  ⟨by decide, replay_describes ⟨28, 2⟩ _ (by decide)⟩

end ReplayRules

end AbandonedBikes
