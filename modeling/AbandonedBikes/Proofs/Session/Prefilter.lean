import AbandonedBikes.Proofs.Replay.Chronology
import AbandonedBikes.Proofs.Report.Duplicates
import AbandonedBikes.Proofs.Report.Matching
import AbandonedBikes.Proofs.Session.Basic
/-!
# Filing without the prefilter

The store hands out candidates by status, time and a box around the place. Filing would come to the
same end if it looked at all stored reports: a report that the store holds back does not pass the gates
of the matching or of the search for duplicates, and neither of them depends on the order of its
candidates.

This takes two things from floating point arithmetic. The box has to reach the reports that pass, and
their scores have to be numbers. `Matching.Sound` and `DuplicateSearch.Sound` say so of the stored
reports.
-/

namespace AbandonedBikes

theorem Instant.le_of_not_lt {a b : Instant} (h : ¬ a < b) : b ≤ a := by
  rw [lt_iff] at h
  rw [le_iff]
  omega

/-- Nothing is lost by a selection that keeps all that is found. -/
theorem filterMap_filter_of_isSome {α β : Type} {find : α → Option β} {select : α → Bool}
    {xs : List α} (complete : ∀ x ∈ xs, (find x).isSome = true → select x = true) :
    (xs.filter select).filterMap find = xs.filterMap find := by
  rw [List.filterMap_filter]
  refine List.filterMap_congr fun x member => ?_
  split
  next => rfl
  next left_out =>
    have nothing : ¬ (find x).isSome = true := mt (complete x member) left_out
    exact (Option.not_isSome_iff_eq_none.mp nothing).symm

theorem Tables.filterMap_candidates_perm {β : Type} {find : Report → Option β} {tables : Tables}
    {query : CandidateQuery}
    (complete : ∀ report ∈ tables.reports, (find report).isSome = true → query.selects report = true)
    {all : List Report} (same : all.Perm tables.reports) :
    ((tables.candidates query).filterMap find).Perm (all.filterMap find) := by
  have unsorted := (Report.chronological_perm (tables.reports.filter query.selects)).filterMap find
  rw [filterMap_filter_of_isSome complete] at unsorted
  exact unsorted.trans (same.filterMap find).symm

/-! ## The matching -/

namespace Matching

theorem contains_statuses {status : Status} (valid : status ≠ .invalid) :
    statuses.contains status = true := by
  cases status with
  | invalid => exact absurd rfl valid
  | new | triaged | forwarded | resolved => rfl

variable [Trigonometry] {matching : Matching} {tables : Tables}

/-- What the matching takes from floating point arithmetic. -/
structure Sound (matching : Matching) (reports : List Report) : Prop where
  /-- The box reaches every report that passes the gates, the radius being one of them. -/
  inside : ∀ report ∈ reports, matching.Passes report →
    (Bounds.around matching.point matching.radius).contains report.location.point = true
  numeric : ∀ report ∈ reports, ∀ score,
    matching.score? report = some score → Binary64.isNaN score = false

namespace Sound

theorem selects {reports : List Report} (sound : matching.Sound reports) {report : Report}
    (member : report ∈ reports) (passes : matching.Passes report) :
    matching.query.selects report = true := by
  have recent : matching.since ≤ report.createdAt := Instant.le_of_not_lt passes.window
  simp only [CandidateQuery.selects, query, recent, contains_statuses passes.status,
    sound.inside report member passes, decide_true, Bool.and_self]

theorem numbers {all reports : List Report} (sound : matching.Sound reports)
    (same : all.Perm reports) :
    ∀ entry ∈ scored matching.score? all, Binary64.isNaN entry.score = false := by
  intro entry member
  obtain ⟨report, stored, _, score⟩ := mem_scored.mp member
  exact sound.numeric report (same.mem_iff.mp stored) entry.score score

/-- The best match among the candidates is for the group of the best match among all reports. -/
theorem best?_candidates (sound : matching.Sound tables.reports) {all : List Report}
    (same : all.Perm tables.reports) :
    (matching.best? (tables.candidates matching.query)).map GroupMatch.group =
      (matching.best? all).map GroupMatch.group := by
  have scores : (scored matching.score? (tables.candidates matching.query)).Perm
      (scored matching.score? all) := by
    refine Tables.filterMap_candidates_perm (fun report member scored => ?_) same
    rw [Option.isSome_map] at scored
    exact sound.selects member (score?_isSome_iff.mp scored)
  exact bestBy_group_eq (sound.numbers same) fun _ => scores.mem_iff

theorem best?_eq_none_iff {reports : List Report} (sound : matching.Sound reports) :
    matching.best? reports = none ↔ ∀ report ∈ reports, ¬ matching.Passes report :=
  (bestBy_eq_none_iff (sound.numbers (.refl reports))).trans <| by simp only [score?_eq_none_iff]

end Sound

end Matching

/-! ## The search for duplicates -/

namespace DuplicateSearch

variable [Trigonometry] {search : DuplicateSearch}

/-- What the search takes from floating point arithmetic. -/
structure Sound (search : DuplicateSearch) (reports : List Report) : Prop where
  /-- The box reaches every report that passes the gates, the radius being one of them. -/
  inside : ∀ report ∈ reports, search.Passes report →
    (Bounds.around search.report.location.point search.radius).contains
      report.location.point = true
  numeric : ∀ report ∈ reports, ∀ suggestion,
    search.suggest? report = some suggestion → Binary64.isNaN suggestion.score = false

namespace Sound

theorem of_none_passes {reports : List Report}
    (none_passes : ∀ report ∈ reports, ¬ search.Passes report) : search.Sound reports where
  inside report member passes := absurd passes (none_passes report member)
  numeric report member suggestion suggested :=
    absurd (suggest?_isSome_iff.mp (by rw [suggested]; rfl)) (none_passes report member)

/-- The report itself is never suggested, so nothing is asked of it. -/
theorem concat_self {reports : List Report} (sound : search.Sound reports) :
    search.Sound (reports ++ [search.report]) := by
  have itself : ¬ search.Passes search.report := fun passes => passes.other rfl
  have alone : search.Sound [search.report] :=
    of_none_passes fun report member => List.mem_singleton.mp member ▸ itself
  constructor
  · intro report member
    rcases List.mem_append.mp member with earlier | last
    · exact sound.inside report earlier
    · exact alone.inside report last
  · intro report member
    rcases List.mem_append.mp member with earlier | last
    · exact sound.numeric report earlier
    · exact alone.numeric report last

theorem selects {reports : List Report} (sound : search.Sound reports) {report : Report}
    (member : report ∈ reports) (passes : search.Passes report) :
    search.query.selects report = true := by
  have recent : search.since ≤ report.createdAt := Instant.le_of_not_lt passes.window
  have still_open : Status.openStatuses.contains report.status = true := passes.status
  simp only [CandidateQuery.selects, query, recent, still_open,
    sound.inside report member passes, decide_true, Bool.and_self]

/-- The ranking of the candidates is that of all reports, if the reports have different numbers. -/
theorem rank?_candidates {tables : Tables} (sound : search.Sound tables.reports)
    (numbered : tables.Numbered) {all : List Report} (same : all.Perm tables.reports) :
    search.rank? (tables.candidates search.query) = search.rank? all := by
  refine rankBy_eq_of_perm search.names_suggest? ?_ ?_ ?_
  · intro a ha b hb
    exact numbered.report_unique (same.mem_iff.mp ha) (same.mem_iff.mp hb)
  · intro suggestion member
    obtain ⟨report, stored, suggested⟩ := List.mem_filterMap.mp member
    exact sound.numeric report (same.mem_iff.mp stored) suggestion suggested
  · refine Tables.filterMap_candidates_perm (fun report member suggested => ?_) same
    exact sound.selects member (suggest?_isSome_iff.mp suggested)

end Sound

end DuplicateSearch

/-! ## Filing -/

/-- The group of the best match is the group in which a report is placed, unless it is opened for it. -/
theorem Tables.match_of_place [Trigonometry] {tables placed : Tables} {settings : Settings}
    {new : NewReport} {group : BikeGroup} {opened : Bool}
    (h : tables.place settings new = .ok ((group, opened), placed)) :
    ∃ matching, settings.matching? new.location.point new.tags new.createdAt = some matching ∧
      (matching.best? (tables.candidates matching.query)).map GroupMatch.group =
        if opened then none else some group.id := by
  obtain ⟨matching, calendar, ⟨best, matched, same, joins, _⟩ | ⟨unmatched, opens, _⟩⟩ := of_place h
  · exact ⟨matching, calendar, by rw [matched, joins, ← same]; rfl⟩
  · exact ⟨matching, calendar, by rw [unmatched, opens]; rfl⟩

namespace Filing

variable [Trigonometry] {settings : Settings} {tables : Tables} {new : NewReport}
variable (filing : Filing settings tables new)

/-- A group is opened under a new number. -/
theorem opened_iff (numbered : tables.Numbered) :
    filing.opened = true ↔ tables.group? filing.group.id = none := by
  rcases Tables.place_cases filing.place with ⟨joined, _, found⟩ | ⟨opened, group, _⟩
  · simp [joined, found]
  · have unknown : tables.group? filing.group.id = none := by
      refine Option.eq_none_iff_forall_ne_some.mpr fun other found => ?_
      obtain ⟨member, number⟩ := Tables.mem_of_group? found
      have known := numbered.group_le member
      rw [number, group] at known
      exact absurd known (Int.not_le.mpr (Int.lt_succ _))
    simp [opened, unknown]

/-- What an answered filing says of its steps. -/
theorem of_answer {filed : Filed} (h : filing.answer = .ok filed) :
    filed.report = filing.report ∧ filed.group.id = filing.group.id ∧
      filed.opened = filing.opened ∧
      filing.after.suggestions settings filing.report new.createdAt = .ok filed.suggestions := by
  unfold answer at h
  cases suggestions : filing.after.suggestions settings filing.report new.createdAt with
  | error failure =>
    rw [suggestions] at h
    injection h
  | ok found =>
    rw [suggestions] at h
    injection h with same
    subst same
    exact ⟨rfl, filing.before_id, rfl, rfl⟩

end Filing

/-- The suggestions are a ranking of candidates. -/
theorem Tables.rank_of_suggestions [Trigonometry] {tables : Tables} {settings : Settings}
    {report : Report} {now : Instant} {suggestions : List Suggestion}
    (h : tables.suggestions settings report now = .ok suggestions) :
    ∃ search, settings.duplicateSearch? report now = some search ∧
      search.rank? (tables.candidates search.query) = some suggestions := by
  unfold Tables.suggestions at h
  split at h
  next => simp at h
  next search calendar =>
    split at h
    next ranked rank =>
      injection h with same
      exact ⟨search, calendar, same ▸ rank⟩
    next => simp at h

theorem Settings.duplicateSearch?_report {settings : Settings} {report : Report} {now : Instant}
    {search : DuplicateSearch} (h : settings.duplicateSearch? report now = some search) :
    search.report = report := by
  obtain ⟨since, _, rfl⟩ := Option.map_eq_some_iff.mp h
  rfl

namespace Filing

variable [Trigonometry] {settings : Settings} {tables : Tables} {new : NewReport}
variable (filing : Filing settings tables new) {search : DuplicateSearch}

/-- The report that is filed takes part in the search for its own duplicates. -/
theorem sound_after
    (calendar : settings.duplicateSearch? filing.report new.createdAt = some search)
    (sound : search.Sound tables.reports) : search.Sound filing.after.reports := by
  rw [filing.after_reports, ← Settings.duplicateSearch?_report calendar]
  exact sound.concat_self

/-- With scores that are numbers the suggestions do not stop a filing. -/
theorem exists_answer
    (calendar : settings.duplicateSearch? filing.report new.createdAt = some search)
    (sound : search.Sound tables.reports) : ∃ filed, filing.answer = .ok filed := by
  have numeric : ∀ suggestion ∈
      DuplicateSearch.scored search.suggest? (filing.after.candidates search.query),
      Binary64.isNaN suggestion.score = false := by
    intro suggestion member
    obtain ⟨report, selected, suggested⟩ := List.mem_filterMap.mp member
    have stored := (List.mem_filter.mp (Report.mem_chronological.mp selected)).1
    exact (filing.sound_after calendar sound).numeric report stored suggestion suggested
  rw [answer, Tables.suggestions, calendar]
  simp only [DuplicateSearch.rank?, DuplicateSearch.rankBy_of_numbers numeric]
  exact ⟨_, rfl⟩

end Filing

namespace Service

variable {σ : Type} (behaviour : AuditBehaviour σ) (settings : Settings) {world : World σ}

/-- A report that is filed has joined the group that all stored reports together would choose, in
whatever order, and has opened one just if none of them passes the gates. Its suggestions are those
that all stored reports would give, itself included. -/
theorem fileReport_without_prefilter [Trigonometry] (reached : Tables.Writes {} world.tables)
    {new : NewReport} {filed : Filed}
    (answered : (((inMemory behaviour settings).fileReport new).on world).1 = .ok filed)
    (match_sound : ∀ matching,
      settings.matching? new.location.point new.tags new.createdAt = some matching →
        matching.Sound world.tables.reports)
    (search_sound : ∀ search,
      settings.duplicateSearch? filed.report new.createdAt = some search →
        search.Sound world.tables.reports) :
    let after := (((inMemory behaviour settings).fileReport new).on world).2.tables
    (∃ matching,
      settings.matching? new.location.point new.tags new.createdAt = some matching ∧
        (∀ all, all.Perm world.tables.reports →
          (matching.best? all).map GroupMatch.group =
            if filed.opened then none else some filed.group.id) ∧
        (filed.opened = true ↔ ∀ report ∈ world.tables.reports, ¬ matching.Passes report)) ∧
      filed.report.bikeGroup = filed.group.id ∧
      (filed.opened = true ↔ world.tables.group? filed.group.id = none) ∧
      after.reports = world.tables.reports ++ [filed.report] ∧
      ∃ search, settings.duplicateSearch? filed.report new.createdAt = some search ∧
        ∀ all, all.Perm after.reports → search.rank? all = some filed.suggestions := by
  intro after
  have numbered := Tables.Numbered.empty.writes reached
  rcases @on_fileReport σ _ behaviour settings world new with
    ⟨failure, _, refused⟩ | ⟨filing, done⟩
  · rw [refused] at answered
    injection answered
  · have tables_after : after = filing.after := by
      simp only [after, done, World.noteAll_tables]
    rw [done] at answered
    obtain ⟨report_eq, group_eq, opened_eq, suggested⟩ := filing.of_answer answered
    obtain ⟨matching, calendar, placed⟩ := Tables.match_of_place filing.place
    obtain ⟨search, search_calendar, ranked⟩ := Tables.rank_of_suggestions suggested
    rw [← report_eq] at search_calendar
    rw [← opened_eq, ← group_eq] at placed
    have sound := match_sound matching calendar
    have chosen : ∀ all, all.Perm world.tables.reports →
        (matching.best? all).map GroupMatch.group =
          if filed.opened then none else some filed.group.id :=
      fun all same => (sound.best?_candidates same).symm.trans placed
    rw [tables_after]
    refine ⟨⟨matching, calendar, chosen, ?_⟩, ?_, ?_, ?_, search, search_calendar, ?_⟩
    · rw [← sound.best?_eq_none_iff, ← Option.map_eq_none_iff, chosen _ (.refl _)]
      cases filed.opened <;> simp
    · rw [report_eq, filing.report_bikeGroup, group_eq]
    · rw [opened_eq, group_eq]
      exact filing.opened_iff numbered
    · rw [filing.after_reports, report_eq]
    · intro all same
      have sound_after : search.Sound filing.after.reports :=
        filing.sound_after (report_eq ▸ search_calendar) (search_sound search search_calendar)
      have numbered_after : filing.after.Numbered := numbered.writes (Effect.filed filing).writes
      exact (sound_after.rank?_candidates numbered_after same).symm.trans ranked

/-- Four reports are stored, one of which is far away and one invalid. A new report joins the group of the
first one, which is the nearest, although the second one is the better duplicate because it is newer. -/
theorem fileReport_without_prefilter_joins :
    let _ : Trigonometry := .series
    let day (n : Int) : Instant := .atSecond (n * 86400)
    let bike (lng : Float) (n : Int) : NewReport :=
      { location := ⟨0.0, lng, 5.0⟩, tags := ["rusty"], note := none, source := .web,
        reporter := .user 1, createdAt := day n }
    let one := ((({} : Tables).createGroup ⟨0.0, 0.0⟩ (day 20175)).2.insertReport (bike 0.0 20175) 1).2
    let two := ((one.createGroup ⟨0.0, 0.00004⟩ (day 20195)).2.insertReport (bike 0.00004 20195) 2).2
    let three := (two.insertReport (bike 0.001 20196) 2).2
    let four := (three.insertReport (bike 0.00001 20197) 2).2
    let tables := four.replaceReport
      (Tables.withStatus (three.stored (bike 0.00001 20197) 2) .invalid (day 20198))
    let new := bike 0.00001 20200
    let matching : Matching := ⟨⟨0.0, 0.00001⟩, ["rusty"], day 20200, day 20020, 10.0, 180⟩
    let search : DuplicateSearch := ⟨tables.stored new 1, day 20200, day 20170, 15.0, 30, 5⟩
    let call := ((inMemory MemoryLog.behaviour {}).fileReport new).on ⟨{}, tables⟩
    Tables.Writes {} tables ∧ matching.Sound tables.reports ∧ search.Sound tables.reports ∧
      tables.reports.map matching.score? = [some 0.9124, some 0.7957, none, none] ∧
      (tables.candidates matching.query).map Report.id = [1, 2] ∧
      ∃ filed, call.1 = .ok filed ∧ filed.report = tables.stored new 1 ∧ filed.opened = false ∧
        filed.group.id = 1 ∧ filed.suggested = [2, 1] ∧
        (∀ all, all.Perm tables.reports → (matching.best? all).map GroupMatch.group = some 1) ∧
        ∀ all, all.Perm call.2.tables.reports → search.rank? all = some filed.suggestions := by
  intro platform day bike one two three four tables new matching search call
  have reached : Tables.Writes {} tables :=
    .tail (.tail (.tail (.tail (.tail (.tail (.single (.createGroup _ _ _)) (.insertReport _ _ 1))
      (.createGroup _ _ _)) (.insertReport _ _ 2)) (.insertReport _ _ 2)) (.insertReport _ _ 2))
      (.changeStatus (show four.changeStatus 4 .invalid (day 20198) = .ok (_, tables) from rfl))
  have match_sound : matching.Sound tables.reports := by
    have inside : ∀ report ∈ tables.reports, (matching.score? report).isSome = true →
        (Bounds.around matching.point matching.radius).contains report.location.point = true := by
      decide +kernel
    have numbers : ∀ report ∈ tables.reports, ∀ score ∈ matching.score? report,
        Binary64.isNaN score = false := by decide +kernel
    exact ⟨fun report member passes => inside report member (Matching.score?_isSome_iff.mpr passes),
      fun report member score scored => numbers report member score scored⟩
  have search_sound : search.Sound tables.reports := by
    have inside : ∀ report ∈ tables.reports, (search.suggest? report).isSome = true →
        (Bounds.around search.report.location.point search.radius).contains
          report.location.point = true := by decide +kernel
    have numbers : ∀ report ∈ tables.reports, ∀ suggestion ∈ search.suggest? report,
        Binary64.isNaN suggestion.score = false := by decide +kernel
    exact ⟨fun report member passes =>
        inside report member (DuplicateSearch.suggest?_isSome_iff.mpr passes),
      fun report member suggestion suggested => numbers report member suggestion suggested⟩
  have outcome : call.1.toOption.map (fun filed =>
      (filed.report, filed.opened, filed.group.id, filed.suggested)) =
        some (tables.stored new 1, false, 1, [2, 1]) := by decide +kernel
  obtain ⟨filed, found, parts⟩ := Option.map_eq_some_iff.mp outcome
  obtain ⟨report, opened, group, suggested⟩ : filed.report = tables.stored new 1 ∧
      filed.opened = false ∧ filed.group.id = 1 ∧ filed.suggested = [2, 1] := by
    simpa only [Prod.mk.injEq] using parts
  have answered : call.1 = .ok filed := by
    cases result : call.1 with
    | error failure => simp [result, Except.toOption] at found
    | ok other => simpa [result, Except.toOption] using found
  have matching_eq :
      Settings.matching? {} new.location.point new.tags new.createdAt = some matching := rfl
  have search_eq : Settings.duplicateSearch? {} filed.report new.createdAt = some search := by
    rw [report]
    rfl
  obtain ⟨⟨matching', calendar, chosen, _⟩, _, _, _, search', search_calendar, ranked⟩ :=
    fileReport_without_prefilter MemoryLog.behaviour {} reached answered
      (fun other calendar => Option.some.inj (matching_eq.symm.trans calendar) ▸ match_sound)
      (fun other calendar => Option.some.inj (search_eq.symm.trans calendar) ▸ search_sound)
  obtain rfl := Option.some.inj (matching_eq.symm.trans calendar)
  obtain rfl := Option.some.inj (search_eq.symm.trans search_calendar)
  refine ⟨reached, match_sound, search_sound, by decide +kernel, by decide +kernel, filed, answered,
    report, opened, group, suggested, fun all same => ?_, ranked⟩
  rw [chosen all same, opened, if_neg Bool.false_ne_true, group]

end Service

end AbandonedBikes
