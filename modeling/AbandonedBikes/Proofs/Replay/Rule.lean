import Mathlib.Data.Finset.Card
import AbandonedBikes.Proofs.Replay.Chronology
/-!
# The rule that a replay follows

A report is classified by the reports before it in the history of its bike. `ReplayRules.rule` says
so directly: it asks whether an earlier report with some property exists. The replay itself keeps a
table of the days on which each reporter was seen, and counters.

`ReplayRules.Tracks` ties the state of a replay to the whole history replayed so far. One step keeps
it, so it holds after every history, and the state classifies the next report by the rule.
-/

namespace AbandonedBikes

namespace SeenDays

theorem lookup_note (seen : SeenDays) (reporter other : Reporter) (day : Int) :
    (seen.note reporter day).lookup other =
      if other = reporter then some (day :: (seen.lookup reporter).getD []) else seen.lookup other := by
  induction seen with
  | nil =>
    by_cases same : other = reporter
    · simp [note, same]
    · simp [note, same]
  | cons entry rest ih =>
    obtain ⟨known, days⟩ := entry
    by_cases found : known = reporter
    · subst found
      by_cases same : other = known
      · simp [note, same]
      · have skip : (other == known) = false := beq_false_of_ne same
        simp [note, List.lookup_cons, same, skip]
    · have skip : (reporter == known) = false := beq_false_of_ne (Ne.symm found)
      simp only [note, if_neg found, List.lookup_cons, ih, skip]
      by_cases same : other = known
      · subst same
        simp [found]
      · have skip' : (other == known) = false := beq_false_of_ne same
        simp only [skip']

theorem keys_note (seen : SeenDays) (reporter : Reporter) (day : Int) :
    (seen.note reporter day).map Prod.fst =
      if reporter ∈ seen.map Prod.fst then seen.map Prod.fst
      else seen.map Prod.fst ++ [reporter] := by
  induction seen with
  | nil => simp [note]
  | cons entry rest ih =>
    obtain ⟨known, days⟩ := entry
    by_cases found : known = reporter
    · simp [note, found]
    · have back : reporter ≠ known := Ne.symm found
      simp only [note, if_neg found, List.map_cons, ih, List.mem_cons, back, false_or]
      split <;> rfl

/-- The table holds exactly the reporters of a history, each once, with the days of their reports. -/
structure Shows (seen : SeenDays) (history : List Report) : Prop where
  nodup : (seen.map Prod.fst).Nodup
  reporters : ∀ reporter,
    reporter ∈ seen.map Prod.fst ↔ ∃ report ∈ history, report.reporter = reporter
  days : ∀ reporter day,
    day ∈ (seen.lookup reporter).getD [] ↔
      ∃ report ∈ history, report.reporter = reporter ∧ report.createdAt.day = day

theorem shows_nil : Shows [] [] := ⟨List.nodup_nil, by simp, by simp⟩

namespace Shows

variable {seen : SeenDays} {history : List Report}

theorem note (shown : seen.Shows history) (report : Report) :
    (seen.note report.reporter report.createdAt.day).Shows (history ++ [report]) where
  nodup := by
    rw [keys_note]
    split
    · exact shown.nodup
    next unknown =>
      rw [List.nodup_append]
      refine ⟨shown.nodup, by simp, ?_⟩
      intro known member other single same
      rw [List.mem_singleton] at single
      exact unknown (single ▸ same ▸ member)
  reporters := by
    intro reporter
    have old := shown.reporters reporter
    rw [keys_note]
    split
    next known =>
      rw [old]
      constructor
      · rintro ⟨r, member, same⟩
        exact ⟨r, List.mem_append_left _ member, same⟩
      · rintro ⟨r, member, same⟩
        rcases List.mem_append.mp member with member | member
        · exact ⟨r, member, same⟩
        · rw [List.mem_singleton.mp member] at same
          exact old.mp (same ▸ known)
    next unknown =>
      rw [List.mem_append, old, List.mem_singleton]
      simp only [List.mem_append, List.mem_singleton, or_and_right, exists_or, exists_eq_left,
        eq_comm (a := reporter)]
  days := by
    intro reporter day
    have old := shown.days reporter day
    simp only [List.mem_append, List.mem_singleton, or_and_right, exists_or, exists_eq_left, ← old]
    rw [lookup_note]
    by_cases same : reporter = report.reporter
    · subst same
      simp only [if_true, Option.getD_some, List.mem_cons, true_and]
      rw [or_comm, eq_comm]
    · simp [same, Ne.symm same]

theorem isSome_lookup (shown : seen.Shows history) (reporter : Reporter) :
    (seen.lookup reporter).isSome = true ↔ ∃ report ∈ history, report.reporter = reporter := by
  rw [← shown.reporters reporter, List.lookup_isSome_iff, List.mem_map]
  constructor
  · rintro ⟨entry, member, same⟩
    exact ⟨entry, member, (eq_of_beq same).symm⟩
  · rintro ⟨entry, member, rfl⟩
    exact ⟨entry, member, beq_self_eq_true entry.1⟩

theorem any_lookup (shown : seen.Shows history) (reporter : Reporter) (day : Int) :
    ((seen.lookup reporter).any fun days => days.contains day) = true ↔
      ∃ report ∈ history, report.reporter = reporter ∧ report.createdAt.day = day := by
  rw [← shown.days reporter day]
  cases seen.lookup reporter <;> simp

theorem length_eq (shown : seen.Shows history) :
    seen.length = (history.map Report.reporter).toFinset.card := by
  have keys : (seen.map Prod.fst).toFinset = (history.map Report.reporter).toFinset := by
    ext reporter
    simp only [List.mem_toFinset, shown.reporters reporter, List.mem_map]
  rw [← keys, List.toFinset_card_of_nodup shown.nodup, List.length_map]

end Shows

end SeenDays

namespace ReplayRules

variable (rules : ReplayRules)

/-- The classification of a report by the reports before it. -/
def rule (earlier : List Report) (report : Report) : Classification :=
  match earlier.getLast? with
  | none => .initial
  | some previous =>
    if ∃ r ∈ earlier, r.reporter = report.reporter ∧ r.createdAt.day = report.createdAt.day then
      .ignoredSameDay
    else if rules.tooSoon previous.createdAt report.createdAt then .nonQualifying
    else if ∃ r ∈ earlier, r.reporter = report.reporter then .countedSameReporter
    else .countedDistinctReporter

/-- The reports of a history with their classifications, the history going on from some reports. -/
def ruled (earlier : List Report) : List Report → List (Report × Classification)
  | [] => []
  | report :: rest => (report, rules.rule earlier report) :: ruled (earlier ++ [report]) rest

@[simp] theorem ruled_nil (earlier : List Report) : rules.ruled earlier [] = [] := rfl

/-- Later reports do not change how earlier ones are classified. -/
theorem ruled_append (earlier first second : List Report) :
    rules.ruled earlier (first ++ second) =
      rules.ruled earlier first ++ rules.ruled (earlier ++ first) second := by
  induction first generalizing earlier with
  | nil => simp
  | cons report rest ih => simp [ruled, ih]

theorem ruled_concat (history : List Report) (report : Report) :
    rules.ruled [] (history ++ [report]) =
      rules.ruled [] history ++ [(report, rules.rule history report)] := by
  simp [ruled_append, ruled]

@[simp] theorem map_fst_ruled (earlier history : List Report) :
    (rules.ruled earlier history).map Prod.fst = history := by
  induction history generalizing earlier with
  | nil => rfl
  | cons report rest ih => simp [ruled, ih]

@[simp] theorem length_ruled (earlier history : List Report) :
    (rules.ruled earlier history).length = history.length := by
  rw [← List.length_map (f := Prod.fst), map_fst_ruled]

/-- The state of a replay says what the rule says about the history replayed so far. -/
structure Tracks (history : List Report) (state : ReplayState) : Prop where
  reversed : state.reversed.reverse = (rules.ruled [] history).map fun (r, c) => (r.id, c)
  previousAt : state.previousAt = history.getLast?.map Report.createdAt
  seen : state.seen.Shows history
  same : state.same = (rules.ruled [] history).countP fun (_, c) => c = .countedSameReporter
  distinct :
    state.distinct = (rules.ruled [] history).countP fun (_, c) => c = .countedDistinctReporter
  firstQualifyingAt : state.firstQualifyingAt =
    ((rules.ruled [] history).find? fun (_, c) => c.isQualifying).map fun (r, _) => r.createdAt
  lastQualifyingAt : state.lastQualifyingAt =
    ((rules.ruled [] history).reverse.find? fun (_, c) => c.isQualifying).map
      fun (r, _) => r.createdAt

theorem tracks_nil : rules.Tracks [] {} :=
  ⟨rfl, rfl, SeenDays.shows_nil, rfl, rfl, rfl, rfl⟩

namespace Tracks

variable {rules} {history : List Report} {state : ReplayState}

theorem length_reversed (tracks : rules.Tracks history state) :
    state.reversed.length = history.length := by
  have replayed := congrArg List.length tracks.reversed
  simpa using replayed

/-- The table of the days stands for the reports replayed so far. -/
theorem classify_eq (tracks : rules.Tracks history state) (report : Report) :
    rules.classify state report = rules.rule history report := by
  unfold classify rule
  rw [tracks.previousAt]
  cases history.getLast? with
  | none => rfl
  | some previous =>
    have sameDay := tracks.seen.any_lookup report.reporter report.createdAt.day
    have known := tracks.seen.isSome_lookup report.reporter
    simp only [Option.map_some, sameDay, known]

theorem step (tracks : rules.Tracks history state) (report : Report) :
    rules.Tracks (history ++ [report]) (rules.step state report) := by
  have classified := tracks.classify_eq report
  constructor
  · simp only [ReplayRules.step, List.reverse_cons, tracks.reversed, classified, ruled_concat,
      List.map_append, List.map_cons, List.map_nil]
  · simp [ReplayRules.step]
  · exact tracks.seen.note report
  · simp only [ReplayRules.step, classified, tracks.same, ruled_concat, List.countP_append,
      List.countP_singleton, decide_eq_true_eq]
    split <;> rfl
  · simp only [ReplayRules.step, classified, tracks.distinct, ruled_concat, List.countP_append,
      List.countP_singleton, decide_eq_true_eq]
    split <;> rfl
  · simp only [ReplayRules.step, classified, tracks.firstQualifyingAt, ruled_concat,
      List.find?_append, List.find?_singleton]
    cases (rules.ruled [] history).find? fun (_, c) => c.isQualifying <;>
      cases (rules.rule history report).isQualifying <;> simp
  · simp only [ReplayRules.step, classified, tracks.lastQualifyingAt, ruled_concat,
      List.reverse_append, List.reverse_singleton, List.singleton_append, List.find?_cons]
    cases (rules.rule history report).isQualifying <;> simp

theorem foldl (tracks : rules.Tracks history state) (rest : List Report) :
    rules.Tracks (history ++ rest) (rest.foldl rules.step state) := by
  induction rest generalizing history state with
  | nil => simpa using tracks
  | cons report rest ih => simpa using ih (tracks.step report)

end Tracks

theorem tracks_foldl (history : List Report) :
    rules.Tracks history (history.foldl rules.step {}) := by
  simpa using rules.tracks_nil.foldl history

theorem classifications_replay (history : List Report) :
    (rules.replay history).classifications =
      (rules.ruled [] (Report.chronological history)).map fun (r, c) => (r.id, c) :=
  (rules.tracks_foldl (Report.chronological history)).reversed

theorem lastReportAt_replay (history : List Report) :
    (rules.replay history).lastReportAt =
      (Report.chronological history).getLast?.map Report.createdAt :=
  (rules.tracks_foldl (Report.chronological history)).previousAt

/-- Every report of a history is classified. -/
theorem exists_classificationOf? {history : List Report} {report : Report}
    (member : report ∈ history) :
    ∃ classification, (rules.replay history).classificationOf? report.id = some classification := by
  have ruled : report ∈ (rules.ruled [] (Report.chronological history)).map Prod.fst := by
    simpa using member
  obtain ⟨⟨_, classification⟩, entry, rfl⟩ := List.mem_map.mp ruled
  rw [← Option.isSome_iff_exists, Evidence.classificationOf?, classifications_replay,
    List.lookup_isSome_iff]
  exact ⟨_, List.mem_map_of_mem entry, beq_self_eq_true _⟩

/-- The classifications are those of the reports of the history, in chronological order. -/
theorem map_fst_classifications (history : List Report) :
    (rules.replay history).classifications.map Prod.fst =
      (Report.chronological history).map Report.id := by
  rw [classifications_replay, List.map_map]
  have numbers := congrArg (List.map Report.id)
    (rules.map_fst_ruled [] (Report.chronological history))
  rw [List.map_map] at numbers
  exact numbers

/-- Only an empty history has no last report. -/
theorem exists_lastReportAt {history : List Report} {report : Report} (member : report ∈ history) :
    ∃ last, (rules.replay history).lastReportAt = some last := by
  have present : report ∈ Report.chronological history := Report.mem_chronological.mpr member
  rw [lastReportAt_replay, List.getLast?_eq_some_getLast (List.ne_nil_of_mem present)]
  exact ⟨_, rfl⟩

end ReplayRules

end AbandonedBikes
