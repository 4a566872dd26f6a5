import AbandonedBikes.Proofs.Replay.Renaming
import AbandonedBikes.Proofs.Timeline.Labels
/-!
# The anonymity of the timeline

Operators see which reports have the same reporter, and not who that is. Two histories that agree in
numbers, public numbers and times, and whose reporters correspond, look the same to them:
`Timeline.same_for_renamed`. The labels are given out by the order of appearance, so the renaming has to
be carried through the list of the reporters met so far.
-/

namespace AbandonedBikes

/-- Two reports agree in what is shown of them, the reporter of the second one having another name. -/
structure Report.Alike (rename : Reporter → Reporter) (report other : Report) : Prop where
  id : other.id = report.id
  publicId : other.publicId = report.publicId
  createdAt : other.createdAt = report.createdAt
  reporter : other.reporter = rename report.reporter

variable {rename : Reporter → Reporter} {first second history : List Report}

/-- What is shown of the second history is what is shown of the first one under other names. -/
theorem map_shown_of_alike (alike : List.Forall₂ (Report.Alike rename) first second) :
    second.map (Report.shown fun reporter => reporter) = first.map (Report.shown rename) := by
  induction alike with
  | nil => rfl
  | cons same _ ih =>
    rw [List.map_cons, List.map_cons, ih]
    simp only [Report.shown, same.id, same.publicId, same.createdAt, same.reporter]

namespace Timeline

theorem find?_map_shown (history : List Report) (id : Int) :
    find? (history.map (.shown rename)) id = (find? history id).map (.shown rename) := by
  rw [find?, ← List.map_reverse, List.find?_map]
  rfl

/-! ## Reporters met under other names -/

section Names

variable {known : List Reporter} {reporter : Reporter}
  (same : ∀ other ∈ known, rename other = rename reporter → other = reporter)

include same

theorem contains_map_rename :
    (known.map rename).contains (rename reporter) = known.contains reporter := by
  rw [Bool.eq_iff_iff, List.contains_iff_mem, List.contains_iff_mem, List.mem_map]
  constructor
  · rintro ⟨other, member, equal⟩
    exact same other member equal ▸ member
  · exact fun member => ⟨reporter, member, rfl⟩

theorem meet_map_rename :
    meet (known.map rename) (rename reporter) = (meet known reporter).map rename := by
  rw [meet, meet, contains_map_rename same]
  split
  · rfl
  · rw [List.map_append, List.map_singleton]

theorem idxOf_map_rename : (known.map rename).idxOf (rename reporter) = known.idxOf reporter := by
  induction known with
  | nil => rfl
  | cons other rest ih =>
    rw [List.forall_mem_cons] at same
    have equal : (rename other == rename reporter) = (other == reporter) := by
      rw [Bool.eq_iff_iff, beq_iff_eq, beq_iff_eq]
      exact ⟨same.1, congrArg rename⟩
    rw [List.map_cons, List.idxOf_cons, List.idxOf_cons, equal, ih same.2]

theorem entry_shown {report : Report} (is_reporter : report.reporter = reporter)
    (classification : Classification) :
    entry (known.map rename) (report.shown rename) classification =
      entry known report classification := by
  subst is_reporter
  rw [entry, entry, Report.shown_reporter, idxOf_map_rename same]
  rfl

end Names

/-- The reporters met so far are among those of the history, so they are kept apart from the next one as
well. -/
theorem entries_map_shown (apart : KeepsApart rename history) {known : List Reporter}
    (inside : ∀ reporter ∈ known, ∃ report ∈ history, report.reporter = reporter)
    (classified : List (Int × Classification)) :
    entries (history.map (.shown rename)) (known.map rename) classified =
      entries history known classified := by
  induction classified generalizing known with
  | nil => rfl
  | cons entry rest ih =>
    obtain ⟨id, classification⟩ := entry
    rw [entries, entries, find?_map_shown]
    cases found : find? history id with
    | none => exact ih inside
    | some report =>
      have member : report ∈ history := List.mem_reverse.mp (List.mem_of_find?_eq_some found)
      have inside' : ∀ reporter ∈ meet known report.reporter,
          ∃ report ∈ history, report.reporter = reporter := by
        intro reporter met
        rcases mem_meet.mp met with before | rfl
        · exact inside reporter before
        · exact ⟨report, member, rfl⟩
      have same {known : List Reporter}
          (inside : ∀ reporter ∈ known, ∃ report ∈ history, report.reporter = reporter) :
          ∀ other ∈ known, rename other = rename report.reporter → other = report.reporter := by
        intro other other_known equal
        obtain ⟨r, r_member, rfl⟩ := inside other other_known
        exact apart r r_member report member equal
      simp only [Option.map_some, Report.shown_reporter, meet_map_rename (same inside), ih inside',
        entry_shown (same inside') rfl]

/-- Nothing that operators see of a history depends on who the reporters are, nor on the status, the
place, the tags, the note, the source, the last change or the groups of its reports. -/
theorem same_for_renamed (rules : ReplayRules) (alike : List.Forall₂ (Report.Alike rename) first second)
    (apart : KeepsApart rename first) :
    rules.replay first = rules.replay second ∧
      ∀ group, details rules group first = details rules group second := by
  have shown := map_shown_of_alike alike
  have unnamed := KeepsApart.unchanged second
  have evidence : rules.replay first = rules.replay second := by
    rw [← rules.replay_map_shown apart, ← shown, rules.replay_map_shown unnamed]
  refine ⟨evidence, fun group => ?_⟩
  have nobody {history : List Report} : ∀ reporter ∈ ([] : List Reporter),
      ∃ report ∈ history, report.reporter = reporter := by simp
  have timeline (classified : List (Int × Classification)) :
      entries first [] classified = entries second [] classified := by
    have renamed := entries_map_shown apart nobody classified
    have kept := entries_map_shown unnamed nobody classified
    rw [← renamed, ← kept, shown]
    rfl
  rw [details, details, evidence, timeline]

/-- Two reporters change their names, and the reports are changed in everything that is not shown. -/
theorem same_for_renamed_swapped :
    let anne : Reporter := ⟨"user:1"⟩
    let bert : Reporter := ⟨"anon:2"⟩
    let rename (reporter : Reporter) : Reporter := if reporter = anne then bert else anne
    let opening : Report := { (default : Report) with id := 1, reporter := anne }
    let later : Report := { opening with id := 2, reporter := bert, createdAt := .atSecond 3000000 }
    let again : Report := { later with id := 3, reporter := anne }
    let change (report : Report) : Report :=
      { report with
        reporter := rename report.reporter
        status := .invalid
        updatedAt := .atSecond 4000000
        tags := ["rusty"]
        note := some "no saddle"
        duplicateGroup := some 1 }
    let rules : ReplayRules := ⟨28, 2⟩
    let first := [again, opening, later]
    let second := [change again, change opening, change later]
    List.Forall₂ (Report.Alike rename) first second ∧ KeepsApart rename first ∧
      rules.replay first = rules.replay second ∧
      ∀ group, details rules group first = details rules group second := by
  intro anne bert rename opening later again change rules first second
  have same (report : Report) : report.Alike rename (change report) := ⟨rfl, rfl, rfl, rfl⟩
  have alike : List.Forall₂ (Report.Alike rename) first second :=
    .cons (same again) (.cons (same opening) (.cons (same later) .nil))
  have apart : KeepsApart rename first := by
    unfold KeepsApart
    decide
  exact ⟨alike, apart, same_for_renamed rules alike apart⟩

end Timeline

end AbandonedBikes
