import Mathlib.Data.List.Nodup
import AbandonedBikes.Proofs.Replay.Rule
/-!
# What a later report leaves as it was

A report that comes after all others in the history of its bike is replayed last, wherever it stands in
the list that is given. It is classified by what was there before, and every other report keeps the
classification that it had. Reports of one instant come in the order of their numbers, so it is enough
that the new report is created no earlier than the others and has the largest number.
-/

namespace AbandonedBikes

/-! ## The latest report -/

namespace Instant

theorem lt_irrefl (a : Instant) : ¬ a < a := by
  rw [lt_iff]
  omega

theorem le_iff_lt_or_eq (a b : Instant) : a ≤ b ↔ a < b ∨ a = b := by
  have same : a = b ↔ a.second = b.second ∧ a.nanos = b.nanos := by
    cases a
    cases b
    simp
  rw [le_iff, lt_iff, same]
  omega

end Instant

namespace Report

/-- Only reports with the same number come both before and after each other. -/
theorem id_eq_of_before {a b : Report} (first : a.before b = true) (second : b.before a = true) :
    a.id = b.id := by
  rw [before_iff] at first second
  rcases first with early | ⟨same, ids⟩
  · rcases second with late | ⟨same, _⟩
    · exact absurd (Instant.lt_trans early late) (Instant.lt_irrefl _)
    · exact absurd early (same ▸ Instant.lt_irrefl _)
  · rcases second with late | ⟨_, ids'⟩
    · exact absurd late (same ▸ Instant.lt_irrefl _)
    · exact Int.le_antisymm ids ids'

/-- A report that is created no earlier and has a larger number comes after the other one. -/
theorem before_of_le {earlier later : Report} (time : earlier.createdAt ≤ later.createdAt)
    (number : earlier.id ≤ later.id) : earlier.before later = true := by
  rw [before_iff]
  rcases (Instant.le_iff_lt_or_eq _ _).mp time with early | same
  · exact .inl early
  · exact .inr ⟨same, number⟩

/-- A report was created after another one, or in the same instant under a larger number. -/
def Newer (a b : Report) : Prop :=
  b.createdAt < a.createdAt ∨ (b.createdAt = a.createdAt ∧ b.id < a.id)

theorem newer_of_before {a b : Report} (before : b.before a = true) (different : b.id ≠ a.id) :
    a.Newer b := by
  rw [before_iff] at before
  obtain earlier | ⟨same, ids⟩ := before
  · exact .inl earlier
  · exact .inr ⟨same, by omega⟩

theorem Newer.not_before {a b : Report} (newer : a.Newer b) : a.before b = false := by
  rw [← Bool.not_eq_true]
  intro before
  rw [before_iff] at before
  obtain earlier | ⟨same, ids⟩ := newer
  · rcases before with later | ⟨same, _⟩
    · exact Instant.lt_irrefl _ (Instant.lt_trans earlier later)
    · exact Instant.lt_irrefl _ (same ▸ earlier)
  · rcases before with later | ⟨_, ids'⟩
    · exact Instant.lt_irrefl _ (same ▸ later)
    · omega

variable {history front back : List Report} {new : Report}

/-- Reports with different numbers have only one chronological order. -/
theorem chronological_eq_of_perm {sorted : List Report} (numbers : (history.map Report.id).Nodup)
    (ordered : sorted.Pairwise fun a b => a.before b = true) (same : sorted.Perm history) :
    chronological history = sorted := by
  have same_reports : (chronological history).Perm sorted :=
    (chronological_perm history).trans same.symm
  refine List.Perm.eq_of_pairwise ?_ (pairwise_chronological _) ordered same_reports
  intro a b a_member b_member first second
  have a_present := mem_chronological.mp a_member
  have b_present := same.mem_iff.mp b_member
  exact List.inj_on_of_nodup_map numbers a_present b_present (id_eq_of_before first second)

/-- Sorting puts a report that is newer than all others in the last place. -/
theorem chronological_newest (newest : ∀ report ∈ front ++ back, new.Newer report) :
    chronological (front ++ new :: back) = chronological (front ++ back) ++ [new] := by
  have not_before (report : Report) (member : report ∈ front ++ back) : new.before report = false :=
    (newest report member).not_before
  refine insertionSort_last (fun report member => ?_) fun report member => ?_
  · have either := before_total report new
    rw [not_before report (List.mem_append_left _ member), Bool.or_false] at either
    rw [either, Bool.not_true]
  · rw [not_before report (List.mem_append_right _ member), Bool.not_false]

/-- A report that no other one comes after is newer than those with other numbers. -/
theorem newest_of_latest (numbers : ((history ++ [new]).map Report.id).Nodup)
    (latest : ∀ report ∈ history, report.before new = true) :
    ∀ report ∈ history ++ [], new.Newer report := by
  intro report member
  rw [List.append_nil] at member
  rw [List.map_append, List.nodup_append] at numbers
  refine newer_of_before (latest report member) ?_
  exact numbers.2.2 report.id (List.mem_map_of_mem member) new.id (by simp)

end Report

namespace ReplayRules

variable (rules : ReplayRules) {history front back : List Report} {new : Report}

theorem classifications_newest (newest : ∀ report ∈ front ++ back, new.Newer report) :
    (rules.replay (front ++ new :: back)).classifications =
      (rules.replay (front ++ back)).classifications ++
        [(new.id, rules.rule (Report.chronological (front ++ back)) new)] := by
  rw [classifications_replay, classifications_replay, Report.chronological_newest newest,
    ruled_concat, List.map_append]
  rfl

/-- A later report does not change how an earlier one is classified. -/
theorem classificationOf?_concat (numbers : ((history ++ [new]).map Report.id).Nodup)
    (latest : ∀ report ∈ history, report.before new = true) {report : Report}
    (member : report ∈ history) :
    (rules.replay (history ++ [new])).classificationOf? report.id =
      (rules.replay history).classificationOf? report.id := by
  obtain ⟨classification, known⟩ := rules.exists_classificationOf? member
  have entries := rules.classifications_newest (Report.newest_of_latest numbers latest)
  rw [List.append_nil] at entries
  rw [known]
  rw [Evidence.classificationOf?] at known ⊢
  rw [entries, List.lookup_append, known, Option.some_or]

end ReplayRules

end AbandonedBikes
