import AbandonedBikes.Proofs.Replay.Bounds
import AbandonedBikes.Proofs.Timeline.Entries
/-!
# The summary of a bike and its timeline

Operators see two accounts of the same evidence. The summary shows counters that a recount has stored with
the bike group; the timeline is made anew from the reports. `SignalSummary.Sums` says that the first
account can be counted off the second one.

Both go back to the classifications of one replay: its counters are counts of classifications, and every
classified report has an entry. Reporters are counted by their labels, which stand for them.
-/

namespace AbandonedBikes

/-- The figures of a summary are those that can be counted off a timeline. -/
structure SignalSummary.Sums (summary : SignalSummary) (timeline : List TimelineEntry) : Prop where
  totalReports : summary.totalReports.toNat = timeline.length
  uniqueReporters :
    summary.uniqueReporters.toNat = (timeline.map TimelineEntry.label).toFinset.card
  sameReporter : summary.sameReporter.toNat =
    timeline.countP fun entry => entry.matchKind = some .sameReporter
  distinctReporter : summary.distinctReporter.toNat =
    timeline.countP fun entry => entry.matchKind = some .distinctReporter
  /-- The time of the first qualified entry, if there is one. -/
  firstQualifyingAt : summary.firstQualifyingAt =
    (timeline.filter TimelineEntry.qualified).head?.map TimelineEntry.createdAt
  /-- The time of the last qualified entry, if there is one. -/
  lastQualifyingAt : summary.lastQualifyingAt =
    (timeline.filter TimelineEntry.qualified).getLast?.map TimelineEntry.createdAt
  hasQualifying : summary.hasQualifying = true ↔ ∃ entry ∈ timeline, entry.qualified = true

/-- The classification of a report that confirms an earlier one. -/
def MatchKind.counted : MatchKind → Classification
  | .sameReporter => .countedSameReporter
  | .distinctReporter => .countedDistinctReporter

theorem Classification.matchKind?_eq_some_iff {classification : Classification} {kind : MatchKind} :
    classification.matchKind? = some kind ↔ classification = kind.counted := by
  cases classification <;> cases kind <;> decide

namespace Timeline

variable {history : List Report}

section Classified

variable {classified : List (Report × Classification)}

theorem countP_matchKind (known : List Reporter) (kind : MatchKind) :
    (classified.map fun (r, c) => entry known r c).countP
        (fun shown => shown.matchKind = some kind) =
      classified.countP fun (_, c) => c = kind.counted := by
  rw [List.countP_map]
  refine List.countP_congr fun ⟨_, classification⟩ _ => ?_
  rw [Function.comp_apply, decide_eq_true_iff, decide_eq_true_iff]
  exact Classification.matchKind?_eq_some_iff

/-- There are as many labels as reporters. -/
theorem card_labels (are : classified.map Prod.fst = history) :
    ((classified.map fun (r, c) => entry (met history) r c).map TimelineEntry.label).toFinset.card =
      (history.map Report.reporter).toFinset.card := by
  let name (reporter : Reporter) : String := label ((met history).idxOf reporter)
  have labels : (classified.map fun (r, c) => entry (met history) r c).map TimelineEntry.label =
      (history.map Report.reporter).map name := by
    have named := congrArg (List.map (name ∘ Report.reporter)) are
    rw [List.map_map] at named
    rw [List.map_map, List.map_map]
    exact named
  have image : ((history.map Report.reporter).map name).toFinset =
      (history.map Report.reporter).toFinset.image name := by
    ext text
    simp only [List.mem_toFinset, Finset.mem_image, List.mem_map]
  have apart : Set.InjOn name (history.map Report.reporter).toFinset := by
    intro a a_member b _ same
    have known : a ∈ met history := by
      rw [mem_met]
      simpa using a_member
    exact (List.idxOf_inj known).mp (label_inj.mp same)
  rw [labels, image, Finset.card_image_of_injOn apart]

end Classified

variable {rules : ReplayRules} {state : ReplayState}

/-- The state of a replay stores what can be counted off the entries of the replayed reports. -/
theorem sums_of_tracks (tracks : rules.Tracks history state) (balanced : state.Balanced)
    (timed : state.Timed) (short : history.length < 2 ^ 32) (group : BikeGroup) (now : Instant) :
    (((rules.evidence state).applyTo group now).summary).Sums
      ((rules.ruled [] history).map fun (r, c) => entry (met history) r c) := by
  have words : state.reversed.length < 2 ^ 32 := tracks.length_reversed ▸ short
  have first_at : state.firstQualifyingAt =
      (((rules.ruled [] history).map fun (r, c) => entry (met history) r c).find?
        TimelineEntry.qualified).map TimelineEntry.createdAt := by
    rw [tracks.firstQualifyingAt, List.find?_map, Option.map_map]
    rfl
  constructor
  · change (rules.evidence state).totalReports.toNat = _
    rw [rules.toNat_totalReports words, tracks.length_reversed, List.length_map,
      rules.length_ruled]
  · change (rules.evidence state).uniqueReporters.toNat = _
    rw [rules.toNat_uniqueReporters balanced words, tracks.seen.length_eq,
      card_labels (rules.map_fst_ruled [] history)]
  · change (rules.evidence state).sameReporter.toNat = _
    rw [rules.toNat_sameReporter balanced words, tracks.same, countP_matchKind]
    rfl
  · change (rules.evidence state).distinctReporter.toNat = _
    rw [rules.toNat_distinctReporter balanced words, tracks.distinct, countP_matchKind]
    rfl
  · rw [List.head?_filter, ← first_at]
    rfl
  · rw [List.getLast?_filter, ← List.map_reverse, List.find?_map, Option.map_map]
    exact tracks.lastQualifyingAt
  · change decide (0 < (rules.evidence state).sameReporter +
      (rules.evidence state).distinctReporter) = true ↔ _
    rw [decide_eq_true_iff, UInt32.lt_iff_toNat_lt, rules.toNat_confirmations balanced words,
      UInt32.toNat_zero, ← timed.isSome_iff.1, first_at, Option.isSome_map, List.find?_isSome]

/-- What is stored with a bike group after a recount can be counted off the timeline of its reports. -/
theorem summary_sums (rules : ReplayRules) (group : BikeGroup) (now : Instant)
    (numbers : (history.map Report.id).Nodup) (short : history.length < 2 ^ 32) :
    let shown := details rules ((rules.replay history).applyTo group now) history
    shown.summary.Sums shown.timeline := by
  intro shown
  have sorted := Report.chronological_perm history
  have timeline : shown.timeline =
      (rules.ruled [] (Report.chronological history)).map fun (r, c) =>
        entry (met (Report.chronological history)) r c :=
    timeline_details rules _ numbers
  rw [timeline]
  exact sums_of_tracks (rules.tracks_foldl _) (ReplayState.Balanced.empty.foldl rules _)
    (.of_sorted rules (Report.pairwise_chronological history)) (sorted.length_eq ▸ short) group now

/-- The first reporter confirms the bike a month later, and a second one a month after that. -/
theorem summary_sums_both_confirm :
    let opening : Report := { (default : Report) with id := 1, reporter := .user 1 }
    let again : Report := { opening with id := 2, createdAt := .atSecond 3000000 }
    let other : Report :=
      { again with id := 3, reporter := .user 2, createdAt := .atSecond 6000000 }
    let rules : ReplayRules := ⟨28, 2⟩
    let group := BikeGroup.anchoredAt 1 opening.location.point (.atSecond 0)
    let history := [other, opening, again]
    let shown := details rules ((rules.replay history).applyTo group (.atSecond 7000000)) history
    (history.map Report.id).Nodup ∧ history.length < 2 ^ 32 ∧ shown.summary.Sums shown.timeline :=
  ⟨by decide, by decide, summary_sums ⟨28, 2⟩ _ _ (by decide) (by decide)⟩

end Timeline

end AbandonedBikes
