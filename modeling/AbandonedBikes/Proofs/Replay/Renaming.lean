import Mathlib.Data.Finset.Card
import AbandonedBikes.Proofs.Replay.Rule
/-!
# A replay under other names

A replay compares reporters with each other and does nothing else with them, so it cannot tell who they
are. `Report.shown` forgets everything of a report that a replay does not look at, and gives its reporter
another name. As long as different reporters of a history get different names, the evidence stays the
same.
-/

namespace AbandonedBikes

/-- Different reporters of a history have different names. -/
def KeepsApart (rename : Reporter → Reporter) (history : List Report) : Prop :=
  ∀ a ∈ history, ∀ b ∈ history, rename a.reporter = rename b.reporter → a.reporter = b.reporter

namespace KeepsApart

variable {rename : Reporter → Reporter} {history others : List Report}

theorem unchanged (history : List Report) : KeepsApart (fun reporter => reporter) history :=
  fun _ _ _ _ same => same

theorem subset (apart : KeepsApart rename history) (inside : others ⊆ history) :
    KeepsApart rename others :=
  fun a a_member b b_member => apart a (inside a_member) b (inside b_member)

/-- As many names are needed as there are reporters. -/
theorem card_reporters (apart : KeepsApart rename history) :
    ((history.map Report.reporter).map rename).toFinset.card =
      (history.map Report.reporter).toFinset.card := by
  have image : ((history.map Report.reporter).map rename).toFinset =
      (history.map Report.reporter).toFinset.image rename := by
    ext reporter
    simp
  rw [image]
  refine Finset.card_image_of_injOn fun first first_member second second_member same => ?_
  rw [Finset.mem_coe, List.mem_toFinset, List.mem_map] at first_member second_member
  obtain ⟨a, a_member, rfl⟩ := first_member
  obtain ⟨b, b_member, rfl⟩ := second_member
  exact apart a a_member b b_member same

theorem eq_iff (apart : KeepsApart rename history) {a b : Report} (a_member : a ∈ history)
    (b_member : b ∈ history) : rename a.reporter = rename b.reporter ↔ a.reporter = b.reporter :=
  ⟨apart a a_member b b_member, fun same => congrArg rename same⟩

end KeepsApart

namespace Report

/-- What is shown of a report, its reporter having another name. -/
def shown (rename : Reporter → Reporter) (report : Report) : Report :=
  { (default : Report) with
    id := report.id
    publicId := report.publicId
    createdAt := report.createdAt
    reporter := rename report.reporter }

variable (rename : Reporter → Reporter) (report : Report)

@[simp] theorem shown_id : (report.shown rename).id = report.id := rfl

@[simp] theorem shown_publicId : (report.shown rename).publicId = report.publicId := rfl

@[simp] theorem shown_createdAt : (report.shown rename).createdAt = report.createdAt := rfl

@[simp] theorem shown_reporter : (report.shown rename).reporter = rename report.reporter := rfl

theorem before_shown (a b : Report) : (a.shown rename).before (b.shown rename) = a.before b := rfl

theorem chronological_map_shown (reports : List Report) :
    chronological (reports.map (shown rename)) = (chronological reports).map (shown rename) :=
  (map_insertionSort (fun a b => congrArg not (before_shown rename b a)) reports).symm

end Report

namespace ReplayRules

variable (rules : ReplayRules) {rename : Reporter → Reporter} {earlier history : List Report}

theorem rule_shown {report : Report} (apart : KeepsApart rename (earlier ++ [report])) :
    rules.rule (earlier.map (.shown rename)) (report.shown rename) = rules.rule earlier report := by
  have same {r : Report} (member : r ∈ earlier) :
      rename r.reporter = rename report.reporter ↔ r.reporter = report.reporter :=
    apart.eq_iff (List.mem_append_left _ member) (by simp)
  have sameDay : (∃ r ∈ earlier, rename r.reporter = rename report.reporter ∧
        r.createdAt.day = report.createdAt.day) ↔
      ∃ r ∈ earlier, r.reporter = report.reporter ∧ r.createdAt.day = report.createdAt.day :=
    exists_congr fun r => and_congr_right fun member => and_congr_left fun _ => same member
  have known : (∃ r ∈ earlier, rename r.reporter = rename report.reporter) ↔
      ∃ r ∈ earlier, r.reporter = report.reporter :=
    exists_congr fun r => and_congr_right fun member => same member
  unfold rule
  rw [List.getLast?_map]
  cases earlier.getLast? with
  | none => rfl
  | some previous =>
    simp only [Option.map_some, List.mem_map, exists_exists_and_eq_and, Report.shown_reporter,
      Report.shown_createdAt, sameDay, known]

theorem ruled_map_shown (earlier : List Report) (apart : KeepsApart rename (earlier ++ history)) :
    rules.ruled (earlier.map (.shown rename)) (history.map (.shown rename)) =
      (rules.ruled earlier history).map fun (r, c) => (r.shown rename, c) := by
  induction history generalizing earlier with
  | nil => rfl
  | cons report rest ih =>
    have before : KeepsApart rename (earlier ++ [report]) := apart.subset (by simp)
    have whole : KeepsApart rename (earlier ++ [report] ++ rest) := apart.subset (by simp)
    have first := rules.rule_shown before
    have later := ih (earlier ++ [report]) whole
    rw [List.map_append] at later
    simp only [ruled, List.map_cons, first]
    exact congrArg _ later

/-- Both states have replayed the same history, under different names. -/
theorem evidence_shown {state other : ReplayState} (tracks : rules.Tracks history state)
    (others : rules.Tracks (history.map (.shown rename)) other)
    (apart : KeepsApart rename history) : rules.evidence other = rules.evidence state := by
  have ruled : rules.ruled [] (history.map (.shown rename)) =
      (rules.ruled [] history).map fun (r, c) => (r.shown rename, c) :=
    rules.ruled_map_shown [] apart
  have reversed : other.reversed = state.reversed := by
    apply List.reverse_injective
    rw [others.reversed, tracks.reversed, ruled, List.map_map]
    rfl
  have previousAt : other.previousAt = state.previousAt := by
    rw [others.previousAt, tracks.previousAt, List.getLast?_map, Option.map_map]
    rfl
  have seen : other.seen.length = state.seen.length := by
    rw [others.seen.length_eq, tracks.seen.length_eq, ← apart.card_reporters, List.map_map,
      List.map_map]
    rfl
  have same : other.same = state.same := by
    rw [others.same, tracks.same, ruled, List.countP_map]
    rfl
  have distinct : other.distinct = state.distinct := by
    rw [others.distinct, tracks.distinct, ruled, List.countP_map]
    rfl
  have firstQualifyingAt : other.firstQualifyingAt = state.firstQualifyingAt := by
    rw [others.firstQualifyingAt, tracks.firstQualifyingAt, ruled, List.find?_map, Option.map_map]
    rfl
  have lastQualifyingAt : other.lastQualifyingAt = state.lastQualifyingAt := by
    rw [others.lastQualifyingAt, tracks.lastQualifyingAt, ruled, ← List.map_reverse, List.find?_map,
      Option.map_map]
    rfl
  simp only [evidence, reversed, previousAt, seen, same, distinct, firstQualifyingAt,
    lastQualifyingAt]

/-- The evidence of a history does not depend on the names of its reporters, nor on anything that is
not shown. -/
theorem replay_map_shown (apart : KeepsApart rename history) :
    rules.replay (history.map (.shown rename)) = rules.replay history := by
  rw [replay, replay, Report.chronological_map_shown]
  refine rules.evidence_shown (rules.tracks_foldl _) (rules.tracks_foldl _) (apart.subset ?_)
  exact fun report member => Report.mem_chronological.mp member

end ReplayRules

end AbandonedBikes
