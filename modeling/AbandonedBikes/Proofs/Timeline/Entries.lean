import AbandonedBikes.Proofs.Replay.Permutation
import AbandonedBikes.Proofs.Timeline.Labels
/-!
# The entries of a timeline

A timeline goes through the classified reports and labels each by the reporters met so far. Since the
place of a reporter stays what it was when the reporter first appeared, the same entries come out if every
report is labelled by the reporters of the whole history: `Timeline.timeline_details`. What operators can
read off a timeline follows from this.
-/

namespace AbandonedBikes

variable {history : List Report}

/-- A report has the classification that it has in the order of the replay. -/
theorem ReplayRules.classificationOf?_of_mem (rules : ReplayRules)
    (numbers : (history.map Report.id).Nodup) {report : Report} {classification : Classification}
    (member : (report, classification) ∈ rules.ruled [] (Report.chronological history)) :
    (rules.replay history).classificationOf? report.id = some classification := by
  have keys : ((rules.replay history).classifications.map Prod.fst).Nodup := by
    rw [map_fst_classifications]
    exact (((Report.chronological_perm history).map Report.id).nodup_iff).mpr numbers
  refine lookup_of_mem keys ?_
  rw [classifications_replay]
  exact List.mem_map.mpr ⟨(report, classification), member, rfl⟩

/-- What an entry says of a report, and of its classification in the evidence. -/
structure TimelineEntry.Shows (evidence : Evidence) (report : Report) (entry : TimelineEntry) :
    Prop where
  id : entry.report = report.id
  publicId : entry.publicId = report.publicId
  createdAt : entry.createdAt = report.createdAt
  classified : ∃ classification, evidence.classificationOf? report.id = some classification ∧
    entry.matchKind = classification.matchKind? ∧
    entry.qualified = classification.isQualifying ∧
    entry.ignoredSameDay = decide (classification = .ignoredSameDay)

namespace Timeline

/-- What operators can read off the timeline of a history in chronological order. -/
structure Tells (history : List Report) (evidence : Evidence) (timeline : List TimelineEntry) :
    Prop where
  /-- The entries stand for the reports, one for each and in the same order. -/
  shows_each : List.Forall₂ (TimelineEntry.Shows evidence) history timeline
  same_label : ∀ (i j : Nat) (a b : Report) (x y : TimelineEntry),
    history[i]? = some a → timeline[i]? = some x → history[j]? = some b → timeline[j]? = some y →
    (x.label = y.label ↔ a.reporter = b.reporter)
  /-- A reporter who appears for the first time is labelled by the number of reporters before. -/
  new_label : ∀ (i : Nat) (report : Report) (entry : TimelineEntry),
    history[i]? = some report → timeline[i]? = some entry →
    (∀ earlier ∈ history.take i, earlier.reporter ≠ report.reporter) →
    entry.label = label ((history.take i).map Report.reporter).toFinset.card

/-- The induction goes on from the reports that were listed before, whose reporters are met. -/
theorem entries_eq_map (numbers : (history.map Report.id).Nodup) (earlier : List Report)
    (classified : List (Report × Classification))
    (inside : ∀ report ∈ classified.map Prod.fst, report ∈ history) :
    entries history (met earlier) (classified.map fun (r, c) => (r.id, c)) =
      classified.map fun (r, c) => entry (met (earlier ++ classified.map Prod.fst)) r c := by
  induction classified generalizing earlier with
  | nil => rfl
  | cons first rest ih =>
    obtain ⟨report, classification⟩ := first
    rw [List.map_cons, List.forall_mem_cons] at inside
    have found := (find?_eq_some_iff numbers).mpr ⟨inside.1, rfl⟩
    have later := ih (earlier ++ [report]) inside.2
    have here : report.reporter ∈ met (earlier ++ [report]) := by
      rw [met_concat, mem_meet]
      exact .inr rfl
    have place := idxOf_met (rest.map Prod.fst) here
    rw [met_concat, List.append_assoc, List.singleton_append] at later
    rw [met_concat, List.append_assoc, List.singleton_append] at place
    simp only [List.map_cons, entries, found, later]
    simp only [entry, place]

/-- Every report has an entry, in chronological order, which is labelled by the place of its reporter
among all reporters. -/
theorem timeline_details (rules : ReplayRules) (group : BikeGroup)
    (numbers : (history.map Report.id).Nodup) :
    (details rules group history).timeline =
      (rules.ruled [] (Report.chronological history)).map fun (r, c) =>
        entry (met (Report.chronological history)) r c := by
  have inside : ∀ report ∈ (rules.ruled [] (Report.chronological history)).map Prod.fst,
      report ∈ history := by
    intro report member
    rw [rules.map_fst_ruled] at member
    exact Report.mem_chronological.mp member
  have listed := entries_eq_map numbers [] _ inside
  rw [rules.map_fst_ruled, List.nil_append] at listed
  rw [details, rules.classifications_replay]
  exact listed

section Labels

variable {classified : List (Report × Classification)} (are : classified.map Prod.fst = history)

include are

theorem exists_entry_eq {i : Nat} {report : Report} {shown : TimelineEntry}
    (report_at : history[i]? = some report)
    (entry_at : (classified.map fun (r, c) => entry (met history) r c)[i]? = some shown) :
    ∃ classification, shown = entry (met history) report classification := by
  rw [← are, List.getElem?_map, Option.map_eq_some_iff] at report_at
  obtain ⟨⟨_, classification⟩, pair_at, rfl⟩ := report_at
  rw [List.getElem?_map, pair_at, Option.map_some, Option.some_inj] at entry_at
  exact ⟨classification, entry_at.symm⟩

/-- Entries that are labelled by the reporters of the whole history tell what they should. -/
theorem tells_of_classified {evidence : Evidence}
    (known : ∀ report classification, (report, classification) ∈ classified →
      evidence.classificationOf? report.id = some classification) :
    Tells history evidence (classified.map fun (r, c) => entry (met history) r c) where
  shows_each := by
    subst are
    rw [List.forall₂_map_left_iff, List.forall₂_map_right_iff, List.forall₂_same]
    rintro ⟨report, classification⟩ member
    exact ⟨rfl, rfl, rfl, classification, known report classification member, rfl, rfl, rfl⟩
  same_label := by
    intro i j a b x y a_at x_at b_at y_at
    obtain ⟨_, rfl⟩ := exists_entry_eq are a_at x_at
    obtain ⟨_, rfl⟩ := exists_entry_eq are b_at y_at
    have member : a.reporter ∈ met history := mem_met.mpr ⟨a, List.mem_of_getElem? a_at, rfl⟩
    exact label_inj.trans (List.idxOf_inj member)
  new_label := by
    intro i report shown report_at entry_at unseen
    obtain ⟨_, rfl⟩ := exists_entry_eq are report_at entry_at
    have first : history.take (i + 1) = history.take i ++ [report] := by
      rw [List.take_add_one, report_at, Option.toList_some]
    have here : report.reporter ∈ met (history.take i ++ [report]) :=
      mem_met.mpr ⟨report, by simp, rfl⟩
    have place := idxOf_met (history.drop (i + 1)) here
    rw [← first, List.take_append_drop, first, idxOf_met_of_new unseen] at place
    exact congrArg label place

end Labels

/-- Reports with different numbers are listed from the oldest to the newest, each once, under labels that
stand for their reporters and for nobody else. -/
theorem details_tells (rules : ReplayRules) (group : BikeGroup)
    (numbers : (history.map Report.id).Nodup) :
    (Report.chronological history).Perm history ∧
      (Report.chronological history).Pairwise (fun a b => b.Newer a) ∧
      Function.Injective label ∧
      Tells (Report.chronological history) (rules.replay history)
        (details rules group history).timeline := by
  have sorted := Report.chronological_perm history
  have different : (Report.chronological history).Pairwise fun a b => a.id ≠ b.id :=
    List.pairwise_map.mp ((sorted.map Report.id).nodup_iff.mpr numbers)
  refine ⟨sorted, ?_, fun i j => label_inj.mp, ?_⟩
  · exact (Report.pairwise_chronological history).imp₂ (fun a b => Report.newer_of_before) different
  · rw [timeline_details rules group numbers]
    exact tells_of_classified (rules.map_fst_ruled [] _) fun report classification member =>
      rules.classificationOf?_of_mem numbers member

/-- The first reporter comes back after the second one. -/
theorem details_tells_returning :
    let opening : Report := { (default : Report) with id := 1, reporter := .user 1 }
    let other : Report :=
      { opening with id := 2, reporter := .user 2, createdAt := .atSecond 3000000 }
    let again : Report := { other with id := 3, reporter := .user 1 }
    let rules : ReplayRules := ⟨28, 2⟩
    let group := BikeGroup.anchoredAt 1 opening.location.point (.atSecond 0)
    let history := [again, opening, other]
    (history.map Report.id).Nodup ∧
      (Report.chronological history).Perm history ∧
      (Report.chronological history).Pairwise (fun a b => b.Newer a) ∧
      Function.Injective label ∧
      Tells (Report.chronological history) (rules.replay history)
        (details rules group history).timeline :=
  ⟨by decide, details_tells ⟨28, 2⟩ _ (by decide)⟩

end Timeline

end AbandonedBikes
