import AbandonedBikes.Proofs.Results
import AbandonedBikes.Proofs.Session.Trail
/-!
# Refused requests

A request that is refused has changed nothing: neither the tables nor the log, and no number was given
out. This holds in any tables, also in those in which a report points at a group that is missing.

Filing is the request for which this is not plain. It opens a group and stores the report before it is
done, and five of its steps that come later can be refused. None of them ever is, by the main statement
on filing. What is left are failures at which the call stops without an answer, in a lookback outside
the calendar or in a contradictory order of scores. These are no refusals.
-/

namespace AbandonedBikes

/-- Whether a call answers with the failure. At the other failures it stops where it is. -/
def Failure.isAnswered : Failure → Bool
  | .outsideCalendar | .contradictoryScores => false
  | _ => true

theorem Settings.of_checkCells_error {settings : Settings} {point : Point} {failure : Failure}
    (h : settings.checkCells point = .error failure) :
    settings.serializeByCell = true ∧ ∃ error : Cell.Error,
      Cell.neighbourhood point settings.cellPrecision = .error error ∧
        failure = .other error.message := by
  unfold checkCells at h
  split at h
  next serialized =>
    split at h
    next => simp at h
    next error unnamed =>
      injection h with same
      exact ⟨serialized, error, unnamed, same.symm⟩
  next => simp at h

/-- A report cannot be placed if its time has no window or if the group it matches is missing. -/
theorem Tables.of_place_error [Trigonometry] {tables : Tables} {settings : Settings} {new : NewReport}
    {failure : Failure} (h : tables.place settings new = .error failure) :
    failure = .outsideCalendar ∨
      ∃ group, tables.group? group = none ∧ failure = .missingBikeGroup group none := by
  unfold place at h
  simp only at h
  split at h
  next =>
    injection h with same
    exact .inl same.symm
  next =>
    split at h
    next best _ =>
      split at h
      next => simp at h
      next missing =>
        injection h with same
        exact .inr ⟨best.group, missing, same.symm⟩
    next => simp at h

/-- A filing that has placed its report is not refused any more. -/
theorem Filing.stops_of_error [Trigonometry] {settings : Settings} {tables : Tables} {new : NewReport}
    (filing : Filing settings tables new) {failure : Failure} (h : filing.answer = .error failure) :
    failure.isAnswered = false := by
  unfold answer Tables.suggestions at h
  split at h
  next =>
    injection h with same
    rw [← same]
    rfl
  next =>
    split at h
    next => simp [Except.map] at h
    next =>
      injection h with same
      rw [← same]
      rfl

/-- A turn that ends in a refusal has recorded nothing and left the tables alone. -/
theorem Turn.silent_of_refused [Trigonometry] {settings : Settings} {tables after : Tables}
    {request : Request} {result : Except Failure Answer} {notes : List Note}
    (turn : Turn settings tables request result notes after) {failure : Failure}
    (refused : result = .error failure) (answered : failure.isAnswered = true) :
    notes = [] ∧ after = tables := by
  cases turn with
  | refused | detailed | listed => exact ⟨rfl, rfl⟩
  | filed filing =>
    exact absurd answered (by simp [filing.stops_of_error (of_map_error refused)])
  | statusChanged | merged | recounted => injection refused

namespace Service

variable (settings : Settings)

/-- Every refusal of a filing comes before its first write. -/
theorem refusal_of_fileReport [Trigonometry] (world : World MemoryLog) (new : NewReport)
    {failure : Failure}
    (refused : (((inMemory MemoryLog.behaviour settings).fileReport new).on world).1 =
      .error failure) (answered : failure.isAnswered = true) :
    (settings.serializeByCell = true ∧ ∃ error : Cell.Error,
        Cell.neighbourhood new.location.point settings.cellPrecision = .error error ∧
          failure = .other error.message) ∨
      ∃ group, world.tables.group? group = none ∧ failure = .missingBikeGroup group none := by
  rcases @on_fileReport _ _ MemoryLog.behaviour settings world new with
    ⟨cause, cells | place, result⟩ | ⟨filing, result⟩
  · rw [result] at refused
    injection refused with same
    exact .inl (Settings.of_checkCells_error (same ▸ cells))
  · rw [result] at refused
    injection refused with same
    rcases Tables.of_place_error (same ▸ place) with rfl | missing
    · exact absurd answered (by simp [Failure.isAnswered])
    · exact .inr missing
  · rw [result] at refused
    exact absurd answered (by simp [filing.stops_of_error refused])

/-- A refused request leaves the tables and the log exactly as they were. If it was to file a report,
then a cell around the report has no name, or the group that the report matches is missing. -/
theorem unchanged_of_refused [Trigonometry] (world : World MemoryLog) (request : Request)
    {failure : Failure}
    (refused : (((inMemory MemoryLog.behaviour settings).serve request).on world).1 =
      .error failure) (answered : failure.isAnswered = true) :
    (((inMemory MemoryLog.behaviour settings).serve request).on world).2 = world ∧
      ∀ new, request = .file new →
        (settings.serializeByCell = true ∧ ∃ error : Cell.Error,
            Cell.neighbourhood new.location.point settings.cellPrecision = .error error ∧
              failure = .other error.message) ∨
          ∃ group, world.tables.group? group = none ∧ failure = .missingBikeGroup group none := by
  obtain ⟨notes, turn, recorded⟩ := serve_turn MemoryLog.behaviour settings world request
  obtain ⟨rfl, same_tables⟩ := turn.silent_of_refused refused answered
  refine ⟨World.ext (recorded MemoryLog.onlyReads) same_tables, ?_⟩
  rintro new rfl
  rw [serve, Attempt.on_bind_pure] at refused
  exact refusal_of_fileReport settings world new (of_map_error refused) answered

/-- A report is in the tables, but not its group. Another report at its place matches it and is refused
only then, after the cells and the candidates were looked at. With cells of thirteen letters, which have
no names, it is refused before. -/
theorem unchanged_of_refused_missing_group :
    let _ : Trigonometry := .series
    let new : NewReport :=
      { location := ⟨0.0, 0.0, 5.0⟩, tags := ["rusty"], note := none, source := .web,
        reporter := .user 1, createdAt := .atSecond 0 }
    let world : World MemoryLog := ⟨{}, (({} : Tables).insertReport new 7).2⟩
    let call (letters : Nat) :=
      ((inMemory MemoryLog.behaviour { cellPrecision := letters }).serve (.file new)).on world
    let unnamed := Failure.other (Cell.Error.unencodable new.location.point).message
    (call 7).1 = .error (.missingBikeGroup 7 none) ∧ (call 7).2 = world ∧
      (call 13).1 = .error unnamed ∧ (call 13).2 = world := by
  intro platform new world call unnamed
  have refused {letters : Nat} {failure : Failure}
      (h : (match (call letters).1 with | .ok _ => none | .error failure => some failure) =
        some failure) : (call letters).1 = .error failure := by
    split at h
    next => simp at h
    next found => rw [found, Option.some.inj h]
  have missing : (call 7).1 = .error (.missingBikeGroup 7 none) := refused (by decide +kernel)
  have no_name : (call 13).1 = .error unnamed := refused (by decide +kernel)
  exact ⟨missing, (unchanged_of_refused _ world (.file new) missing rfl).1, no_name,
    (unchanged_of_refused _ world (.file new) no_name rfl).1⟩

end Service

end AbandonedBikes
