import AbandonedBikes.Proofs.Service.Calls
import AbandonedBikes.Proofs.Signal.Triage
import AbandonedBikes.Proofs.Store.Numbering
/-!
# Lists for operators

A list for operators has one view for each report with the status asked for whose group passes, in the
order asked for. A report whose group is missing is astray: if there is one with the status, there is no
list, even if the group of that report would not have to pass. The first one in the order of the store
is named.

A call looks up each group once and goes on with what it knows. `Service.on_views` shows that it might
as well have looked up the group of every report. The order of the list goes back to that of the store,
`Tables.pairwise_listReports`, which the sort refines.
-/

namespace AbandonedBikes

namespace SignalFilter

/-- A report has the status asked for. -/
def Selects (filter : SignalFilter) (report : Report) : Prop :=
  ∀ status, filter.status = some status → report.status = status

/-- The signal of a group meets the conditions on it. -/
structure Passes (filter : SignalFilter) (group : BikeGroup) : Prop where
  strength : ∀ strength, filter.strength = some strength → group.strength = strength
  strong : filter.strongOnly = true → group.strength = .strongDistinctReporters
  qualifying : ∀ wanted, filter.hasQualifying = some wanted →
    group.summary.hasQualifying = wanted

theorem accepts_of_iff {filter : SignalFilter} {report : Report} {group : BikeGroup} :
    filter.accepts (.of report group) = true ↔ filter.Passes group :=
  accepts_iff.trans
    ⟨fun ⟨strength, strong, qualifying⟩ => ⟨strength, strong, qualifying⟩,
      fun ⟨strength, strong, qualifying⟩ => ⟨strength, strong, qualifying⟩⟩

end SignalFilter

/-- The order in which the views of a list stand. -/
def ReportSort.Before : ReportSort → OperatorView → OperatorView → Prop
  | .newest, a, b => a.report.Newer b.report
  | .signal, a, b =>
    b.strength.priority < a.strength.priority ∨
      (b.strength.priority = a.strength.priority ∧ a.report.Newer b.report)

theorem ReportSort.before_of_refine {sort : ReportSort} {a b : OperatorView}
    (refined : sort.refine (fun a b => a.report.Newer b.report) a b) : sort.Before a b := by
  cases sort with
  | newest => exact refined
  | signal =>
    obtain stronger | ⟨equal, newer | ⟨_, newer⟩⟩ := refined
    · exact .inl stronger
    · exact .inr ⟨equal, .inl newer⟩
    · exact .inr ⟨equal, newer⟩

namespace Tables

variable {tables : Tables}

/-! ## The list of the store -/

theorem mem_listReports {filter : SignalFilter} {report : Report} :
    report ∈ tables.listReports filter.status ↔
      report ∈ tables.reports ∧ filter.Selects report := by
  simp [listReports, SignalFilter.Selects, Option.all_eq_true]

theorem nodup_listReports (numbered : tables.Numbered) (status : Option Status) :
    ((tables.listReports status).map Report.id).Nodup := by
  rw [listReports, List.map_reverse, List.nodup_reverse,
    ((Report.chronological_perm _).map Report.id).nodup_iff]
  exact numbered.reports.nodup.sublist (List.filter_sublist.map Report.id)

/-- The store lists its reports the newest first. -/
theorem pairwise_listReports (numbered : tables.Numbered) (status : Option Status) :
    (tables.listReports status).Pairwise Report.Newer := by
  have sorted : (tables.listReports status).Pairwise fun a b => b.before a = true := by
    rw [listReports, List.pairwise_reverse]
    exact Report.pairwise_chronological _
  have numbers := List.pairwise_map.mp (nodup_listReports numbered status)
  exact sorted.imp₂ (fun a b before different => Report.newer_of_before before different.symm)
    numbers

/-! ## Views of reports -/

/-- The group of a report is missing. -/
def isAstray (tables : Tables) (report : Report) : Bool :=
  (tables.group? report.bikeGroup).isNone

theorem isAstray_iff {report : Report} :
    tables.isAstray report = true ↔ tables.group? report.bikeGroup = none := by
  rw [isAstray, Option.isNone_iff_eq_none]

/-- The view of a report, if its group is there. -/
def view? (tables : Tables) (report : Report) : Option OperatorView :=
  (tables.group? report.bikeGroup).map (OperatorView.of report)

/-- The views of some reports, unless one of them is astray. -/
def viewsOf (tables : Tables) (reports : List Report) : Except Failure (List OperatorView) :=
  match reports.find? tables.isAstray with
  | some astray => .error (.missingBikeGroup astray.bikeGroup (some astray.id))
  | none => .ok (reports.filterMap tables.view?)

theorem view?_eq_some_iff {report : Report} {view : OperatorView} :
    tables.view? report = some view ↔
      ∃ group, tables.group? report.bikeGroup = some group ∧ .of report group = view := by
  rw [view?, Option.map_eq_some_iff]

/-- Views are in the order of their reports. -/
theorem pairwise_filterMap_view? (tables : Tables) {order : Report → Report → Prop}
    {reports : List Report} (ordered : reports.Pairwise order) :
    (reports.filterMap tables.view?).Pairwise fun a b => order a.report b.report := by
  refine ordered.filterMap tables.view? ?_
  intro report other related view found view' found'
  obtain ⟨_, _, rfl⟩ := view?_eq_some_iff.mp found
  obtain ⟨_, _, rfl⟩ := view?_eq_some_iff.mp found'
  exact related

theorem viewsOf_cons_found {report : Report} {group : BikeGroup}
    (found : tables.group? report.bikeGroup = some group) (rest : List Report) :
    tables.viewsOf (report :: rest) =
      (tables.viewsOf rest).map (OperatorView.of report group :: ·) := by
  have settled : ¬ tables.isAstray report = true := by simp [isAstray_iff, found]
  have view : tables.view? report = some (.of report group) := by rw [view?, found, Option.map_some]
  rw [viewsOf, viewsOf, List.find?_cons_of_neg settled, List.filterMap_cons_some view]
  cases rest.find? tables.isAstray <;> rfl

theorem viewsOf_cons_missing {report : Report}
    (missing : tables.group? report.bikeGroup = none) (rest : List Report) :
    tables.viewsOf (report :: rest) =
      .error (.missingBikeGroup report.bikeGroup (some report.id)) := by
  rw [viewsOf, List.find?_cons_of_pos (isAstray_iff.mpr missing)]

end Tables

namespace Service

variable {σ : Type} (behaviour : AuditBehaviour σ) (settings : Settings) {world : World σ}

theorem on_groupOf_found {report : Report} {group : BikeGroup}
    (found : world.tables.group? report.bikeGroup = some group) :
    ((inMemory behaviour settings).groupOf report).on world = (.ok group, world) := by
  rw [groupOf, Attempt.on_bind_ok (on_group? behaviour settings world _), found]
  rfl

theorem on_groupOf_missing {report : Report}
    (missing : world.tables.group? report.bikeGroup = none) :
    ((inMemory behaviour settings).groupOf report).on world =
      (.error (.missingBikeGroup report.bikeGroup (some report.id)), world) := by
  rw [groupOf, Attempt.on_bind_ok (on_group? behaviour settings world _), missing]
  rfl

/-- What is known of groups is what the tables hold, so it makes no difference. -/
theorem on_views {known : List (Int × BikeGroup)}
    (honest : ∀ id group, known.lookup id = some group → world.tables.group? id = some group)
    (reports : List Report) :
    ((inMemory behaviour settings).views known reports).on world =
      (world.tables.viewsOf reports, world) := by
  induction reports generalizing known with
  | nil => rfl
  | cons report rest ih =>
    rw [views]
    cases looked_up : known.lookup report.bikeGroup with
    | some group =>
      have found := honest report.bikeGroup group looked_up
      simp only
      rw [Attempt.on_bind_pure, ih honest, Tables.viewsOf_cons_found found]
    | none =>
      simp only
      cases found : world.tables.group? report.bikeGroup with
      | none =>
        rw [Attempt.on_bind_error (on_groupOf_missing behaviour settings found),
          Tables.viewsOf_cons_missing found]
      | some group =>
        -- The group is noted under its own number, which is the one that the report has for it.
        have learnt : ∀ id other, ((group.id, group) :: known).lookup id = some other →
            world.tables.group? id = some other := by
          intro id other looked_up
          rw [List.lookup_cons] at looked_up
          split at looked_up
          next same =>
            have known_id : id = report.bikeGroup :=
              (beq_iff_eq.mp same).trans (Tables.mem_of_group? found).2
            rw [known_id, found, ← looked_up]
          next => exact honest id other looked_up
        rw [Attempt.on_bind_ok (on_groupOf_found behaviour settings found),
          Attempt.on_bind_pure, ih learnt, Tables.viewsOf_cons_found found]

theorem on_operatorReports (filter : SignalFilter) :
    ((inMemory behaviour settings).operatorReports filter).on world =
      ((world.tables.viewsOf (world.tables.listReports filter.status)).map filter.apply, world) := by
  rw [operatorReports, Attempt.on_bind_ok (on_listReports behaviour settings world filter.status),
    Attempt.on_bind_pure, on_views behaviour settings (by simp)]

end Service

/-! ## What a list holds -/

namespace Tables

variable {tables : Tables} {filter : SignalFilter}

/-- Of the reports with the status asked for whose groups are missing, the first one. -/
structure FirstAstray (tables : Tables) (filter : SignalFilter) (report : Report) : Prop where
  member : report ∈ tables.reports
  selected : filter.Selects report
  missing : tables.group? report.bikeGroup = none
  first : ∀ other ∈ tables.reports, filter.Selects other →
    tables.group? other.bikeGroup = none → other ≠ report → report.Newer other

theorem firstAstray_of_find? (numbered : tables.Numbered) {report : Report}
    (found : (tables.listReports filter.status).find? tables.isAstray = some report) :
    tables.FirstAstray filter report := by
  obtain ⟨astray, earlier, later, listed, settled⟩ := List.find?_eq_some_iff_append.mp found
  obtain ⟨member, selected⟩ := mem_listReports.mp (List.mem_of_find?_eq_some found)
  refine ⟨member, selected, isAstray_iff.mp astray, ?_⟩
  intro other other_member other_selected missing different
  have listed_other := mem_listReports.mpr ⟨other_member, other_selected⟩
  have sorted := pairwise_listReports numbered filter.status
  rw [listed] at listed_other sorted
  rcases List.mem_append.mp listed_other with before | rest
  · have other_settled := settled other before
    rw [isAstray_iff.mpr missing] at other_settled
    exact absurd other_settled Bool.false_ne_true
  · have after := (List.mem_cons.mp rest).resolve_left different
    exact (List.pairwise_cons.mp (List.pairwise_append.mp sorted).2.1).1 other after

/-- The list that operators are owed, or why there is none. -/
structure Lists (tables : Tables) (filter : SignalFilter)
    (answer : Except Failure (List OperatorView)) : Prop where
  fails_iff : (∃ failure, answer = .error failure) ↔
    ∃ report ∈ tables.reports, filter.Selects report ∧ tables.group? report.bikeGroup = none
  names : ∀ failure, answer = .error failure → ∃ report, tables.FirstAstray filter report ∧
    failure = .missingBikeGroup report.bikeGroup (some report.id)
  mem_iff : ∀ views, answer = .ok views → ∀ view, view ∈ views ↔
    ∃ report ∈ tables.reports, ∃ group, filter.Selects report ∧
      tables.group? report.bikeGroup = some group ∧ filter.Passes group ∧
        view = .of report group
  once : ∀ views, answer = .ok views → (views.map fun view => view.report.id).Nodup
  ordered : ∀ views, answer = .ok views → views.Pairwise filter.sort.Before

theorem lists_error (numbered : tables.Numbered) {report : Report}
    (found : (tables.listReports filter.status).find? tables.isAstray = some report) :
    tables.Lists filter (.error (.missingBikeGroup report.bikeGroup (some report.id))) := by
  have first := firstAstray_of_find? numbered found
  refine ⟨iff_of_true ⟨_, rfl⟩ ⟨report, first.member, first.selected, first.missing⟩, ?_, nofun,
    nofun, nofun⟩
  intro failure answered
  injection answered with same
  exact ⟨report, first, same.symm⟩

theorem lists_ok (numbered : tables.Numbered)
    (settled : (tables.listReports filter.status).find? tables.isAstray = none) :
    tables.Lists filter
      (.ok (filter.apply ((tables.listReports filter.status).filterMap tables.view?))) where
  fails_iff := by
    refine iff_of_false nofun ?_
    rintro ⟨report, member, selected, missing⟩
    have listed := mem_listReports.mpr ⟨member, selected⟩
    exact absurd (isAstray_iff.mpr missing) (List.find?_eq_none.mp settled report listed)
  names := nofun
  mem_iff := by
    rintro views ⟨⟩ view
    simp only [SignalFilter.mem_apply, List.mem_filterMap, mem_listReports, view?_eq_some_iff]
    constructor
    · rintro ⟨⟨report, ⟨member, selected⟩, group, found, rfl⟩, accepted⟩
      exact ⟨report, member, group, selected, found, SignalFilter.accepts_of_iff.mp accepted, rfl⟩
    · rintro ⟨report, member, group, selected, found, passes, rfl⟩
      exact ⟨⟨report, ⟨member, selected⟩, group, found, rfl⟩,
        SignalFilter.accepts_of_iff.mpr passes⟩
  once := by
    rintro views ⟨⟩
    have numbers := List.pairwise_map.mp (nodup_listReports numbered filter.status)
    have all_once : (((tables.listReports filter.status).filterMap tables.view?).map
        fun view => view.report.id).Nodup :=
      List.pairwise_map.mpr (tables.pairwise_filterMap_view? numbers)
    rw [((filter.apply_perm _).map _).nodup_iff]
    exact all_once.sublist (List.filter_sublist.map _)
  ordered := by
    rintro views ⟨⟩
    have newest := tables.pairwise_filterMap_view? (pairwise_listReports numbered filter.status)
    exact (filter.pairwise_apply newest).imp ReportSort.before_of_refine

end Tables

/-- In tables that were reached by writing, operators get the list that they are owed. -/
theorem Service.lists_operatorReports {σ : Type} (behaviour : AuditBehaviour σ)
    (settings : Settings) {world : World σ} (reached : Tables.Writes {} world.tables)
    (filter : SignalFilter) :
    world.tables.Lists filter (((inMemory behaviour settings).operatorReports filter).on world).1 := by
  have numbered := Tables.Numbered.empty.writes reached
  rw [on_operatorReports, Tables.viewsOf]
  cases found : (world.tables.listReports filter.status).find? world.tables.isAstray with
  | some report => exact Tables.lists_error numbered found
  | none => exact Tables.lists_ok numbered found

/-- Of three reports of one instant two are astray; the last one is named. -/
theorem Service.lists_operatorReports_astray :
    let opened := (({} : Tables).createGroup default default).2
    let first := (opened.insertReport default 1).2
    let second := (first.insertReport default 5).2
    let third := (second.insertReport default 6).2
    let world : World MemoryLog := ⟨{}, third⟩
    let answer := (((inMemory MemoryLog.behaviour {}).operatorReports {}).on world).1
    Tables.Writes {} third ∧ third.Lists {} answer ∧
      answer = .error (.missingBikeGroup 6 (some 3)) := by
  intro opened first second third world answer
  have reached : Tables.Writes {} third :=
    .tail (.tail (.tail (.single (.createGroup _ default default)) (.insertReport _ default 1))
      (.insertReport _ default 5)) (.insertReport _ default 6)
  have lists := @lists_operatorReports _ MemoryLog.behaviour {} world reached {}
  have last : second.stored default 6 ∈ third.reports :=
    List.mem_append_right _ (List.mem_singleton_self _)
  obtain ⟨failure, failed⟩ := lists.fails_iff.mpr ⟨_, last, nofun, rfl⟩
  obtain ⟨report, named, rfl⟩ := lists.names failure failed
  have filed : report ∈ third.reports := named.member
  simp only [third, second, first, opened, Tables.insertReport_reports,
    Tables.createGroup_reports, List.nil_append, List.cons_append, List.mem_cons,
    List.not_mem_nil, or_false] at filed
  refine ⟨reached, lists, ?_⟩
  obtain rfl | rfl | rfl := filed
  · exact nomatch named.missing
  · obtain earlier | ⟨_, ids⟩ := named.first _ last nofun rfl nofun
    · exact absurd earlier (by decide)
    · exact absurd ids (by decide)
  · exact failed

end AbandonedBikes
