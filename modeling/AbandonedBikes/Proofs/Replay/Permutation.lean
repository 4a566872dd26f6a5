import AbandonedBikes.Proofs.Lookups
import AbandonedBikes.Proofs.Replay.Causality
import AbandonedBikes.Signal.Timeline
/-!
# Histories in any order

The reports of a bike come from the store in one order, from a query in another, and callers may shuffle
them. As long as they have different numbers, neither the evidence nor the timeline depends on that
order: there is only one chronological order of them, and a number leads to the same report wherever
the report stands.
-/

namespace AbandonedBikes

variable {first second history : List Report}

/-- A permuted history has the same chronological order. -/
theorem Report.chronological_eq_of_permuted (numbers : (first.map Report.id).Nodup)
    (permuted : first.Perm second) : chronological first = chronological second :=
  chronological_eq_of_perm numbers (pairwise_chronological second)
    ((chronological_perm second).trans permuted.symm)

theorem ReplayRules.replay_eq_of_permuted (rules : ReplayRules)
    (numbers : (first.map Report.id).Nodup) (permuted : first.Perm second) :
    rules.replay first = rules.replay second := by
  rw [replay, replay, Report.chronological_eq_of_permuted numbers permuted]

namespace Timeline

/-- A number leads to the report that has it, if there is only one. -/
theorem find?_eq_some_iff (numbers : (history.map Report.id).Nodup) {id : Int} {report : Report} :
    find? history id = some report ↔ report ∈ history ∧ report.id = id := by
  have backwards : (history.reverse.map Report.id).Nodup := by
    rw [List.map_reverse, List.nodup_reverse]
    exact numbers
  rw [find?, find?_key_eq_some_iff backwards, List.mem_reverse]

theorem find?_eq_of_permuted (numbers : (first.map Report.id).Nodup)
    (permuted : first.Perm second) : find? first = find? second := by
  funext id
  refine Option.ext fun report => ?_
  rw [find?_eq_some_iff numbers, find?_eq_some_iff ((permuted.map Report.id).nodup numbers),
    permuted.mem_iff]

/-- The entries look up reports by their numbers and do nothing else with the history. -/
theorem entries_congr (same : find? first = find? second) (known : List Reporter)
    (classified : List (Int × Classification)) :
    entries first known classified = entries second known classified := by
  induction classified generalizing known with
  | nil => rfl
  | cons entry rest ih => simp only [entries, same, ih]

/-- The evidence and everything that operators see of it are the same for a history in any order. -/
theorem same_for_permuted (rules : ReplayRules) (numbers : (first.map Report.id).Nodup)
    (permuted : first.Perm second) :
    rules.replay first = rules.replay second ∧
      ∀ group, details rules group first = details rules group second := by
  have evidence := rules.replay_eq_of_permuted numbers permuted
  refine ⟨evidence, fun group => ?_⟩
  have timeline := entries_congr (find?_eq_of_permuted numbers permuted) []
    (rules.replay first).classifications
  rw [evidence] at timeline
  rw [details, details, evidence, timeline]

/-- Two reports of one instant and an earlier one by another reporter, given backwards. -/
theorem same_for_permuted_backwards :
    let anne := Reporter.user 1
    let bert := Reporter.user 2
    let opening : Report := { (default : Report) with id := 1, reporter := anne }
    let later : Report :=
      { (default : Report) with id := 2, reporter := bert, createdAt := .atSecond 3000000 }
    let last : Report := { later with id := 3, reporter := anne }
    let rules : ReplayRules := ⟨28, 2⟩
    let history := [opening, later, last]
    (history.map Report.id).Nodup ∧ history.Perm history.reverse ∧
      rules.replay history = rules.replay history.reverse ∧
      ∀ group, details rules group history = details rules group history.reverse :=
  ⟨by decide, (List.reverse_perm _).symm,
    same_for_permuted ⟨28, 2⟩ (by decide) (List.reverse_perm _).symm⟩

end Timeline

end AbandonedBikes
