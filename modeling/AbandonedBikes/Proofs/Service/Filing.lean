import AbandonedBikes.Proofs.Service.Calls
import AbandonedBikes.Service.Filing
/-!
# Filing in memory

A filing is refused before anything is written, or it goes all the way to the recount of its group.
`Filing` holds what a filing that is not refused goes through: where the report was placed, the group
as the recount finds it, and the classification. The suggestion of duplicates comes last. It can stop
the call, but writes nothing.

The main statement is `Service.on_fileReport`, which says that there is no third case. It needs
nothing of the tables: the group of a placed report is always found, and a filed report is always part
of the history that is recounted.
-/

namespace AbandonedBikes

variable {σ : Type}

/-- The check of the cells around a report. -/
def Settings.checkCells (settings : Settings) (point : Point) : Except Failure Unit :=
  if settings.serializeByCell then
    match Cell.neighbourhood point settings.cellPrecision with
    | .ok _ => .ok ()
    | .error error => .error (.other error.message)
  else .ok ()

variable [Trigonometry]

/-- The group for a new report, whether it is opened for it, and the tables with it. -/
def Tables.place (tables : Tables) (settings : Settings) (new : NewReport) :
    Except Failure ((BikeGroup × Bool) × Tables) :=
  let point := new.location.point
  match settings.matching? point new.tags new.createdAt with
  | none => .error .outsideCalendar
  | some matching =>
    match matching.best? (tables.candidates matching.query) with
    | some best =>
      match tables.group? best.group with
      | some group => .ok ((group, false), tables)
      | none => .error (.missingBikeGroup best.group none)
    | none =>
      .ok (((tables.createGroup point new.createdAt).1, true),
        (tables.createGroup point new.createdAt).2)

/-- The suggestions for a report that has been filed. -/
def Tables.suggestions (tables : Tables) (settings : Settings) (report : Report) (now : Instant) :
    Except Failure (List Suggestion) :=
  match settings.duplicateSearch? report now with
  | none => .error .outsideCalendar
  | some search =>
    match search.rank? (tables.candidates search.query) with
    | some suggestions => .ok suggestions
    | none => .error .contradictoryScores

/-- A placed report joins the group of its best match, or opens one if there is none. -/
theorem Tables.of_place {tables placed : Tables} {settings : Settings} {new : NewReport}
    {group : BikeGroup} {opened : Bool}
    (h : tables.place settings new = .ok ((group, opened), placed)) :
    ∃ matching, settings.matching? new.location.point new.tags new.createdAt = some matching ∧
      ((∃ best, matching.best? (tables.candidates matching.query) = some best ∧
          best.group = group.id ∧
          opened = false ∧ placed = tables ∧ tables.group? group.id = some group) ∨
        (matching.best? (tables.candidates matching.query) = none ∧
          opened = true ∧ group = (tables.createGroup new.location.point new.createdAt).1 ∧
            placed = (tables.createGroup new.location.point new.createdAt).2)) := by
  unfold place at h
  simp only at h
  split at h
  next => simp at h
  next matching calendar =>
    refine ⟨matching, calendar, ?_⟩
    split at h
    next best matched =>
      split at h
      next found lookup =>
        injection h with triple
        injection triple with pair placed_eq
        injection pair with group_eq opened_eq
        subst group_eq
        have same := (mem_of_group? lookup).2
        exact .inl ⟨best, matched, same.symm, opened_eq.symm, placed_eq.symm, same ▸ lookup⟩
      next => simp at h
    next unmatched =>
      injection h with triple
      injection triple with pair placed_eq
      injection pair with group_eq opened_eq
      exact .inr ⟨unmatched, opened_eq.symm, group_eq.symm, placed_eq.symm⟩

/-- A placed report joins a group that is there or opens one. -/
theorem Tables.place_cases {tables placed : Tables} {settings : Settings} {new : NewReport}
    {group : BikeGroup} {opened : Bool}
    (h : tables.place settings new = .ok ((group, opened), placed)) :
    (opened = false ∧ placed = tables ∧ tables.group? group.id = some group) ∨
      (opened = true ∧ group = (tables.createGroup new.location.point new.createdAt).1 ∧
        placed = (tables.createGroup new.location.point new.createdAt).2) := by
  obtain ⟨_, _, ⟨best, _, _, joins⟩ | ⟨_, opens⟩⟩ := of_place h
  · exact .inl joins
  · exact .inr opens

/-- The group of a placed report is in the tables. -/
theorem Tables.exists_of_place {tables placed : Tables} {settings : Settings} {new : NewReport}
    {group : BikeGroup} {opened : Bool}
    (h : tables.place settings new = .ok ((group, opened), placed)) :
    ∃ before, placed.group? group.id = some before := by
  rcases place_cases h with ⟨_, rfl, found⟩ | ⟨_, rfl, rfl⟩
  · exact ⟨group, found⟩
  · exact exists_group? (List.mem_append_right _ (List.mem_singleton_self _))

/-- What a filing that is not refused goes through. -/
structure Filing (settings : Settings) (tables : Tables) (new : NewReport) where
  group : BikeGroup
  opened : Bool
  placed : Tables
  place : tables.place settings new = .ok ((group, opened), placed)
  /-- The group as the recount finds it. -/
  before : BikeGroup
  found : placed.group? group.id = some before
  classification : Classification
  classified : (settings.replayRules.replay
    ((placed.insertReport new group.id).2.reportsInGroup before.id)).classificationOf?
      (placed.stored new group.id).id = some classification

namespace Filing

variable {settings : Settings} {tables : Tables} {new : NewReport}
variable (filing : Filing settings tables new)

/-- The report as it is stored. -/
def report : Report := filing.placed.stored new filing.group.id

/-- The tables with the report, before the recount. -/
def inserted : Tables := (filing.placed.insertReport new filing.group.id).2

def recount : Recount :=
  filing.inserted.recountOf settings.replayRules filing.before new.createdAt

/-- The tables at the end. -/
def after : Tables := filing.inserted.recounted settings.replayRules filing.before new.createdAt

/-- What is recorded on the way. -/
def notes : List Note :=
  ⟨.created filing.report.id filing.group.id new.source, new.reporter.actor⟩ ::
    (filing.classification.notes filing.report.id filing.group.id ++
      filing.recount.notes filing.report.id)

/-- The answer, unless the suggestion of duplicates stops the call. -/
def answer : Except Failure Filed :=
  (filing.after.suggestions settings filing.report new.createdAt).map fun suggestions =>
    { report := filing.report, group := filing.recount.group, opened := filing.opened
      classification := filing.classification, previous := filing.recount.previous, suggestions }

/-- The notes in the order in which they are taken. -/
theorem noteAll_notes (behaviour : AuditBehaviour σ) (world : World σ) :
    world.noteAll behaviour filing.notes =
      ((world.note behaviour (.created filing.report.id filing.group.id new.source)
        new.reporter.actor).noteAll behaviour
          (filing.classification.notes filing.report.id filing.group.id)).noteAll behaviour
            (filing.recount.notes filing.report.id) :=
  World.noteAll_append behaviour _ _ _

theorem before_id : filing.before.id = filing.group.id := (Tables.mem_of_group? filing.found).2

@[simp] theorem report_bikeGroup : filing.report.bikeGroup = filing.group.id := rfl

theorem inserted_reports : filing.inserted.reports = filing.placed.reports ++ [filing.report] := rfl

@[simp] theorem inserted_groups : filing.inserted.groups = filing.placed.groups := rfl

/-- A placement changes nothing but the groups. -/
theorem placed_eq : ∃ groups last,
    filing.placed = { tables with groups := groups, lastGroup := last } := by
  rcases Tables.place_cases filing.place with ⟨_, same, _⟩ | ⟨_, _, same⟩
  · exact ⟨tables.groups, tables.lastGroup, same⟩
  · exact ⟨_, _, same⟩

theorem placed_reports : filing.placed.reports = tables.reports := by
  obtain ⟨groups, last, same⟩ := filing.placed_eq
  rw [same]

theorem placed_duplicateGroups : filing.placed.duplicateGroups = tables.duplicateGroups := by
  obtain ⟨groups, last, same⟩ := filing.placed_eq
  rw [same]

theorem placed_lastReport : filing.placed.lastReport = tables.lastReport := by
  obtain ⟨groups, last, same⟩ := filing.placed_eq
  rw [same]

theorem after_reports : filing.after.reports = tables.reports ++ [filing.report] := by
  change filing.placed.reports ++ [filing.report] = _
  rw [placed_reports]

/-- A placement that was made can be completed. -/
theorem exists_of_place {group : BikeGroup} {opened : Bool} {placed : Tables}
    (place : tables.place settings new = .ok ((group, opened), placed)) :
    ∃ filing : Filing settings tables new,
      filing.group = group ∧ filing.opened = opened ∧ filing.placed = placed := by
  obtain ⟨before, found⟩ := Tables.exists_of_place place
  have same : before.id = group.id := (Tables.mem_of_group? found).2
  have member : placed.stored new group.id ∈
      (placed.insertReport new group.id).2.reportsInGroup before.id := by
    simp [Tables.mem_reportsInGroup, same]
  obtain ⟨classification, classified⟩ :=
    settings.replayRules.exists_classificationOf? member
  exact ⟨⟨group, opened, placed, place, before, found, classification, classified⟩, rfl, rfl, rfl⟩

end Filing

namespace Service

variable (behaviour : AuditBehaviour σ) (settings : Settings) {world : World σ}

omit [Trigonometry] in
theorem on_checkCells (point : Point) :
    ((inMemory behaviour settings).checkCells point).on world =
      (settings.checkCells point, world) := by
  rw [checkCells, Settings.checkCells, inMemory_settings]
  cases settings.serializeByCell <;> rfl

theorem on_chooseGroup (new : NewReport) :
    ((inMemory behaviour settings).chooseGroup new).on world =
      match world.tables.place settings new with
      | .ok (chosen, placed) => (.ok chosen, { world with tables := placed })
      | .error failure => (.error failure, world) := by
  rw [chooseGroup, Tables.place]
  simp only [inMemory_settings]
  cases settings.matching? new.location.point new.tags new.createdAt with
  | none => rfl
  | some matching =>
    rw [Attempt.on_bind_ok (Attempt.on_orElse_some world _ matching),
      Attempt.on_bind_ok (on_candidates behaviour settings world matching.query)]
    simp only
    cases matching.best? (world.tables.candidates matching.query) with
    | none => rfl
    | some best =>
      simp only
      rw [Attempt.on_bind_ok (on_group? behaviour settings world best.group)]
      cases world.tables.group? best.group <;> rfl

theorem on_suggestDuplicates (report : Report) (now : Instant) :
    ((inMemory behaviour settings).suggestDuplicates report now).on world =
      (world.tables.suggestions settings report now, world) := by
  rw [suggestDuplicates, Tables.suggestions]
  simp only [inMemory_settings]
  cases settings.duplicateSearch? report now with
  | none => rfl
  | some search =>
    rw [Attempt.on_bind_ok (Attempt.on_orElse_some world _ search),
      Attempt.on_bind_ok (on_candidates behaviour settings world search.query)]
    simp only
    cases search.rank? (world.tables.candidates search.query) <;> rfl

/-- Filing is refused before anything is written, or it is completed up to its suggestions. -/
theorem on_fileReport (new : NewReport) :
    (∃ failure, (settings.checkCells new.location.point = .error failure ∨
        world.tables.place settings new = .error failure) ∧
      ((inMemory behaviour settings).fileReport new).on world = (.error failure, world)) ∨
    ∃ filing : Filing settings world.tables new,
      ((inMemory behaviour settings).fileReport new).on world =
        (filing.answer,
          ({ world with tables := filing.after } : World σ).noteAll behaviour filing.notes) := by
  rw [fileReport, Attempt.on_bind, on_checkCells]
  cases cells : settings.checkCells new.location.point with
  | error failure => exact .inl ⟨failure, .inl rfl, rfl⟩
  | ok _ =>
    simp only
    rw [Attempt.on_bind, on_chooseGroup]
    cases place : world.tables.place settings new with
    | error failure => exact .inl ⟨failure, .inr rfl, rfl⟩
    | ok result =>
      obtain ⟨⟨group, opened⟩, placed⟩ := result
      obtain ⟨filing, rfl, rfl, rfl⟩ := Filing.exists_of_place place
      refine .inr ⟨filing, ?_⟩
      simp only
      -- The report is in the history of its recount, so the classification is always found.
      rw [Attempt.on_bind_ok (on_insertReport behaviour settings _ filing.group.id new),
        Attempt.on_bind_ok (on_record behaviour settings _ _ _),
        Attempt.on_bind_ok (on_recount_found behaviour settings filing.found _ _),
        Attempt.on_bind_ok (show _ = (Except.ok filing.classification, _) from
          filing.classified ▸ Attempt.on_orElse_some _ _ _),
        Attempt.on_bind_ok (on_recordClassification behaviour settings _ _ _),
        Attempt.on_bind_ok (on_recordStrength behaviour settings _ _),
        Attempt.on_bind_pure, on_suggestDuplicates, World.noteAll_tables, World.noteAll_tables,
        filing.noteAll_notes]
      rfl

end Service

end AbandonedBikes
