import AbandonedBikes.Proofs.Service.Filing
/-!
# Calls beside different logs

Two services in memory that only differ in their logs are compared call by call. Two calls agree if
they answer the same in the same tables and leave the same tables behind, whatever the logs are. The
store does not know of the log, and recording goes on in the same way whether the log takes the entry
or not, so every call that does not read the log agrees with its counterpart.

Agreement is kept by going on, `Attempt.Agrees.bind`; the lemma of each call follows its steps.
-/

namespace AbandonedBikes

variable {σ τ α β : Type}

namespace Attempt

/-- Two calls that cannot be told apart by what they answer and do to the tables. -/
def Agrees (call : Attempt (StateT σ (StateM Tables)) α)
    (other : Attempt (StateT τ (StateM Tables)) α) : Prop :=
  ∀ (world : World σ) (beside : World τ), world.tables = beside.tables →
    (call.on world).1 = (other.on beside).1 ∧
      (call.on world).2.tables = (other.on beside).2.tables

theorem agrees_pure (value : α) :
    Agrees (pure value : Attempt (StateT σ (StateM Tables)) α)
      (pure value : Attempt (StateT τ (StateM Tables)) α) :=
  fun _ _ same => ⟨rfl, same⟩

theorem agrees_throw (failure : Failure) :
    Agrees (throw failure : Attempt (StateT σ (StateM Tables)) α)
      (throw failure : Attempt (StateT τ (StateM Tables)) α) :=
  fun _ _ same => ⟨rfl, same⟩

theorem agrees_ofExcept (result : Except Failure α) :
    Agrees (ofExcept result : Attempt (StateT σ (StateM Tables)) α)
      (ofExcept result : Attempt (StateT τ (StateM Tables)) α) :=
  fun _ _ same => ⟨rfl, same⟩

theorem agrees_orElse (failure : Failure) (value : Option α) :
    Agrees (orElse failure value : Attempt (StateT σ (StateM Tables)) α)
      (orElse failure value : Attempt (StateT τ (StateM Tables)) α) :=
  agrees_ofExcept _

/-- A call of the store does the same beside any log. -/
theorem agrees_beside (call : Attempt (StateM Tables) α) :
    Agrees (call.beside σ) (call.beside τ) := by
  rintro ⟨log, tables⟩ ⟨other, _⟩ rfl
  exact ⟨rfl, rfl⟩

/-- Calls that agree on every answer still agree if they are made after calls that agree. -/
theorem Agrees.bind {call : Attempt (StateT σ (StateM Tables)) α}
    {other : Attempt (StateT τ (StateM Tables)) α}
    {next : α → Attempt (StateT σ (StateM Tables)) β}
    {next' : α → Attempt (StateT τ (StateM Tables)) β} (first : call.Agrees other)
    (rest : ∀ value, (next value).Agrees (next' value)) :
    (call >>= next).Agrees (other >>= next') := by
  intro world beside same
  have agree := first world beside same
  rw [on_bind, on_bind]
  generalize call.on world = done, other.on beside = done' at agree
  obtain ⟨result, after⟩ := done
  obtain ⟨result', after'⟩ := done'
  obtain ⟨same_answer, same_tables⟩ := agree
  obtain rfl : result = result' := same_answer
  cases result with
  | error failure => exact ⟨rfl, same_tables⟩
  | ok value => exact rest value after after' same_tables

end Attempt

namespace Service

open Attempt

variable (first : AuditBehaviour σ) (second : AuditBehaviour τ) (settings : Settings)

/-- The answer of the log to an entry is not looked at. -/
theorem agrees_record (fact : Fact) (actor : String) :
    ((inMemory first settings).record fact actor).Agrees
      ((inMemory second settings).record fact actor) := by
  intro world beside same
  rw [on_record, on_record]
  exact ⟨rfl, same⟩

theorem agrees_recordStrength (recount : Recount) (report : Int) :
    ((inMemory first settings).recordStrength recount report).Agrees
      ((inMemory second settings).recordStrength recount report) := by
  unfold recordStrength
  cases recount.changed with
  | true => exact agrees_record first second settings _ _
  | false => exact agrees_pure ()

theorem agrees_recordClassification (report group : Int) (classification : Classification) :
    ((inMemory first settings).recordClassification report group classification).Agrees
      ((inMemory second settings).recordClassification report group classification) := by
  cases classification with
  | initial | nonQualifying => exact agrees_pure ()
  | ignoredSameDay | countedSameReporter | countedDistinctReporter =>
    exact agrees_record first second settings _ _

theorem agrees_recordMerged (canonical group : Int) (operator : String) (reports : List Int) :
    ((inMemory first settings).recordMerged canonical group operator reports).Agrees
      ((inMemory second settings).recordMerged canonical group operator reports) := by
  induction reports with
  | nil => exact agrees_pure ()
  | cons report rest ih => exact (agrees_record first second settings _ _).bind fun _ => ih

/-! ## Recounting -/

theorem agrees_recount (group : Int) (trigger : Option Int) (now : Instant) :
    ((inMemory first settings).recount group trigger now).Agrees
      ((inMemory second settings).recount group trigger now) := by
  unfold recount
  refine .bind (agrees_beside _) fun found => .bind (agrees_orElse _ _) fun before => ?_
  refine .bind (agrees_beside _) fun history => ?_
  exact .bind (agrees_beside _) fun _ => agrees_pure _

theorem agrees_recompute (group : Int) (now : Instant) :
    ((inMemory first settings).recompute group now).Agrees
      ((inMemory second settings).recompute group now) := by
  unfold recompute
  refine .bind (agrees_recount first second settings group none now) fun recount => ?_
  cases recount.evidence.classifications.getLast? with
  | none => exact agrees_pure _
  | some last =>
    exact .bind (agrees_recordStrength first second settings recount last.1) fun _ => agrees_pure _

/-! ## Filing -/

theorem agrees_checkCells (point : Point) :
    ((inMemory first settings).checkCells point).Agrees
      ((inMemory second settings).checkCells point) := by
  intro world beside same
  rw [on_checkCells, on_checkCells]
  exact ⟨rfl, same⟩

theorem agrees_chooseGroup [Trigonometry] (new : NewReport) :
    ((inMemory first settings).chooseGroup new).Agrees
      ((inMemory second settings).chooseGroup new) := by
  unfold chooseGroup
  refine .bind (agrees_orElse _ _) fun matching => .bind (agrees_beside _) fun candidates => ?_
  cases matching.best? candidates with
  | none => exact .bind (agrees_beside _) fun _ => agrees_pure _
  | some best =>
    exact .bind (agrees_beside _) fun _ => .bind (agrees_orElse _ _) fun _ => agrees_pure _

theorem agrees_suggestDuplicates [Trigonometry] (report : Report) (now : Instant) :
    ((inMemory first settings).suggestDuplicates report now).Agrees
      ((inMemory second settings).suggestDuplicates report now) := by
  unfold suggestDuplicates
  refine .bind (agrees_orElse _ _) fun search => ?_
  exact .bind (agrees_beside _) fun candidates => agrees_orElse _ _

theorem agrees_fileReport [Trigonometry] (new : NewReport) :
    ((inMemory first settings).fileReport new).Agrees
      ((inMemory second settings).fileReport new) := by
  unfold fileReport
  refine .bind (agrees_checkCells first second settings _) fun _ => ?_
  refine .bind (agrees_chooseGroup first second settings new) fun ⟨group, opened⟩ => ?_
  refine .bind (agrees_beside _) fun report => ?_
  refine .bind (agrees_record first second settings _ _) fun _ => ?_
  refine .bind (agrees_recount first second settings _ _ _) fun recount => ?_
  refine .bind (agrees_orElse _ _) fun classification => ?_
  refine .bind (agrees_recordClassification first second settings _ _ _) fun _ => ?_
  refine .bind (agrees_recordStrength first second settings _ _) fun _ => ?_
  exact .bind (agrees_suggestDuplicates first second settings _ _) fun _ => agrees_pure _

/-! ## What operators do -/

theorem agrees_updateStatus (report : Int) (next : Status) (actor : String) (now : Instant) :
    ((inMemory first settings).updateStatus report next actor now).Agrees
      ((inMemory second settings).updateStatus report next actor now) := by
  unfold updateStatus
  refine .bind (agrees_beside _) fun change => ?_
  exact .bind (agrees_record first second settings _ _) fun _ => agrees_pure _

theorem agrees_mergeDuplicates (canonical : Int) (duplicates : IdSet) (operator : String)
    (now : Instant) :
    ((inMemory first settings).mergeDuplicates canonical duplicates operator now).Agrees
      ((inMemory second settings).mergeDuplicates canonical duplicates operator now) := by
  unfold mergeDuplicates
  split
  next => exact agrees_throw _
  next =>
    split
    next => exact agrees_throw _
    next =>
      refine .bind (agrees_beside _) fun outcome => ?_
      exact .bind (agrees_recordMerged first second settings _ _ _ _) fun _ => agrees_pure _

theorem agrees_groupOf (report : Report) :
    ((inMemory first settings).groupOf report).Agrees
      ((inMemory second settings).groupOf report) :=
  .bind (agrees_beside _) fun _ => agrees_orElse _ _

theorem agrees_views (known : List (Int × BikeGroup)) (reports : List Report) :
    ((inMemory first settings).views known reports).Agrees
      ((inMemory second settings).views known reports) := by
  induction reports generalizing known with
  | nil => exact agrees_pure _
  | cons report rest ih =>
    unfold views
    cases known.lookup report.bikeGroup with
    | some group => exact .bind (ih known) fun _ => agrees_pure _
    | none =>
      refine .bind (agrees_groupOf first second settings report) fun group => ?_
      exact .bind (ih ((group.id, group) :: known)) fun _ => agrees_pure _

theorem agrees_operatorReports (filter : SignalFilter) :
    ((inMemory first settings).operatorReports filter).Agrees
      ((inMemory second settings).operatorReports filter) := by
  unfold operatorReports
  refine .bind (agrees_beside _) fun reports => ?_
  exact .bind (agrees_views first second settings [] reports) fun _ => agrees_pure _

end Service

end AbandonedBikes
