import AbandonedBikes.Signal.Replay
/-!
# Chronological order

Reports are ordered by the instant of their creation and, within an instant, by their numbers. The
order is total, so sorting a history twice does nothing more than sorting it once, and a replay may
be given the reports of a group in any order that sorts to the same list.

A replay looks at the number, the creation and the reporter of a report only. `Report.asFiled`
forgets what may change after a report was filed; a replay cannot tell the difference.
-/

namespace AbandonedBikes

namespace Instant

theorem lt_trans {a b c : Instant} (first : a < b) (second : b < c) : a < c := by
  rw [lt_iff] at first second ⊢
  omega

theorem lt_or_eq_or_lt (a b : Instant) : a < b ∨ a = b ∨ b < a := by
  have same : a.second = b.second → a.nanos = b.nanos → a = b := by
    cases a
    cases b
    rintro rfl rfl
    rfl
  rw [lt_iff, lt_iff]
  by_cases seconds : a.second = b.second
  · by_cases nanos : a.nanos = b.nanos
    · exact .inr (.inl (same seconds nanos))
    · omega
  · omega

end Instant

namespace Report

theorem before_iff (a b : Report) :
    a.before b = true ↔ a.createdAt < b.createdAt ∨ (a.createdAt = b.createdAt ∧ a.id ≤ b.id) := by
  simp [before]

theorem before_trans (a b c : Report) (first : a.before b = true) (second : b.before c = true) :
    a.before c = true := by
  rw [before_iff] at first second ⊢
  rcases first with early | ⟨same, ids⟩
  · rcases second with later | ⟨same, _⟩
    · exact .inl (Instant.lt_trans early later)
    · exact .inl (same ▸ early)
  · rcases second with later | ⟨same', ids'⟩
    · exact .inl (same ▸ later)
    · exact .inr ⟨same.trans same', Int.le_trans ids ids'⟩

theorem before_total (a b : Report) : (a.before b || b.before a) = true := by
  rw [Bool.or_eq_true, before_iff, before_iff]
  rcases Instant.lt_or_eq_or_lt a.createdAt b.createdAt with early | same | late
  · exact .inl (.inl early)
  · rcases Int.le_total a.id b.id with ids | ids
    · exact .inl (.inr ⟨same, ids⟩)
    · exact .inr (.inr ⟨same.symm, ids⟩)
  · exact .inr (.inl late)

/-- The order does not contradict itself. -/
theorem ranks_before (reports : List Report) : Ranks (fun a b => !b.before a) reports where
  asymm a _ b _ first := by
    have either := before_total a b
    simp_all
  trans a _ b _ c _ first second := by
    simp only [Bool.not_eq_false'] at first second ⊢
    exact before_trans c b a second first

theorem chronological_perm (reports : List Report) : (chronological reports).Perm reports :=
  perm_insertionSort _ reports

theorem pairwise_chronological (reports : List Report) :
    (chronological reports).Pairwise fun a b => a.before b = true :=
  (pairwise_insertionSort (ranks_before reports)).imp fun {a b} => by simp

@[simp] theorem mem_chronological {report : Report} {reports : List Report} :
    report ∈ chronological reports ↔ report ∈ reports :=
  (chronological_perm reports).mem_iff

@[simp] theorem chronological_chronological (reports : List Report) :
    chronological (chronological reports) = chronological reports :=
  insertionSort_of_pairwise ((pairwise_chronological reports).imp fun {a b} => by simp)

/-- The report as it was filed, before anyone changed its status or merged it. -/
def asFiled (report : Report) : Report :=
  { report with status := .new, updatedAt := report.createdAt, duplicateGroup := none }

@[simp] theorem asFiled_id (report : Report) : report.asFiled.id = report.id := rfl

@[simp] theorem asFiled_createdAt (report : Report) :
    report.asFiled.createdAt = report.createdAt := rfl

@[simp] theorem asFiled_reporter (report : Report) :
    report.asFiled.reporter = report.reporter := rfl

@[simp] theorem asFiled_bikeGroup (report : Report) :
    report.asFiled.bikeGroup = report.bikeGroup := rfl

/-- What stays of a report from its filing on. -/
theorem kept_of_asFiled_eq {a b : Report} (same : a.asFiled = b.asFiled) :
    a.id = b.id ∧ a.createdAt = b.createdAt ∧ a.source = b.source ∧ a.bikeGroup = b.bikeGroup := by
  injection same with number _ creation _ _ _ _ _ source _ house
  exact ⟨number, creation, source, house⟩

theorem before_asFiled (a b : Report) : a.asFiled.before b.asFiled = a.before b := rfl

theorem chronological_map_asFiled (reports : List Report) :
    chronological (reports.map asFiled) = (chronological reports).map asFiled :=
  (map_insertionSort (fun a b => congrArg not (before_asFiled b a)) reports).symm

end Report

namespace ReplayRules

variable (rules : ReplayRules)

@[simp] theorem step_asFiled (state : ReplayState) (report : Report) :
    rules.step state report.asFiled = rules.step state report := rfl

theorem foldl_step_asFiled (state : ReplayState) (history : List Report) :
    (history.map Report.asFiled).foldl rules.step state = history.foldl rules.step state := by
  rw [List.foldl_map]
  rfl

@[simp] theorem replay_chronological (history : List Report) :
    rules.replay (Report.chronological history) = rules.replay history := by
  simp only [replay, Report.chronological_chronological]

/-- What happens to a report after it was filed does not change the evidence. -/
theorem replay_map_asFiled (history : List Report) :
    rules.replay (history.map Report.asFiled) = rules.replay history := by
  simp only [replay, Report.chronological_map_asFiled, foldl_step_asFiled]

end ReplayRules

end AbandonedBikes
