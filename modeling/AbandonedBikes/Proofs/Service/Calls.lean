import AbandonedBikes.Proofs.Replay.Rule
import AbandonedBikes.Proofs.Service.World
import AbandonedBikes.Proofs.Store.Operations
import AbandonedBikes.Service.Operators
/-!
# What each call of the service does in memory

The tables after a call are those of one or more operations on them, and the log after it is that of
offering it some facts. Both are written down here call by call. Later proofs about runs only look at
these equations.
-/

namespace AbandonedBikes

variable {σ : Type}

/-- A fact to be recorded, and who brought it about. -/
structure Note where
  fact : Fact
  actor : String

namespace World

/-- The world after the log was offered some facts in turn. -/
def noteAll (behaviour : AuditBehaviour σ) (notes : List Note) (world : World σ) : World σ :=
  notes.foldl (fun world note => world.note behaviour note.fact note.actor) world

@[simp] theorem noteAll_nil (behaviour : AuditBehaviour σ) (world : World σ) :
    world.noteAll behaviour [] = world := rfl

@[simp] theorem noteAll_cons (behaviour : AuditBehaviour σ) (note : Note) (notes : List Note)
    (world : World σ) :
    world.noteAll behaviour (note :: notes) =
      (world.note behaviour note.fact note.actor).noteAll behaviour notes := rfl

theorem noteAll_append (behaviour : AuditBehaviour σ) (first second : List Note)
    (world : World σ) :
    world.noteAll behaviour (first ++ second) =
      (world.noteAll behaviour first).noteAll behaviour second := by
  simp [noteAll]

@[simp] theorem noteAll_tables (behaviour : AuditBehaviour σ) (notes : List Note)
    (world : World σ) : (world.noteAll behaviour notes).tables = world.tables := by
  induction notes generalizing world with
  | nil => rfl
  | cons note rest ih => rw [noteAll_cons, ih, note_tables]

end World

/-- The log after it was offered some facts in turn. -/
def AuditBehaviour.noting (behaviour : AuditBehaviour σ) (log : σ) (notes : List Note) : σ :=
  notes.foldl (fun log note => (behaviour.append log (note.fact.entryBy note.actor)).2) log

/-- Nothing changes in the log when it is read. -/
def AuditBehaviour.OnlyReads (behaviour : AuditBehaviour σ) : Prop :=
  ∀ log report, (behaviour.recordsFor log report).2 = log

theorem World.noteAll_log (behaviour : AuditBehaviour σ) (notes : List Note) (world : World σ) :
    (world.noteAll behaviour notes).log = behaviour.noting world.log notes := by
  induction notes generalizing world with
  | nil => rfl
  | cons note rest ih => exact ih (world.note behaviour note.fact note.actor)

/-- What a recount that is put down to a report has to be recorded. -/
def Recount.notes (recount : Recount) (report : Int) : List Note :=
  if recount.changed then
    [⟨.strengthChanged report recount.group.id recount.previous recount.group.strength, systemActor⟩]
  else []

theorem Recount.of_mem_notes {recount : Recount} {report : Int} {fact : Fact}
    (member : fact ∈ (recount.notes report).map Note.fact) :
    fact = .strengthChanged report recount.group.id recount.previous recount.group.strength := by
  rw [notes] at member
  split at member
  · exact List.mem_singleton.mp member
  · exact absurd member List.not_mem_nil

/-- What is recorded about how a report of a group was classified. -/
def Classification.notes (classification : Classification) (report group : Int) : List Note :=
  match classification with
  | .countedSameReporter => [⟨.reconfirmationCounted report group .sameReporter, systemActor⟩]
  | .countedDistinctReporter => [⟨.reconfirmationCounted report group .distinctReporter, systemActor⟩]
  | .ignoredSameDay => [⟨.reconfirmationIgnored report group, systemActor⟩]
  | .initial | .nonQualifying => []

/-- What is recorded about a merge. -/
def MergeOutcome.notes (outcome : MergeOutcome) (canonical : Int) (operator : String) :
    List Note :=
  outcome.newlyMerged.ids.map fun report => ⟨.merged report canonical outcome.group.id, operator⟩

theorem MergeOutcome.of_mem_notes {outcome : MergeOutcome} {canonical : Int} {operator : String}
    {fact : Fact} (member : fact ∈ (outcome.notes canonical operator).map Note.fact) :
    ∃ report, fact = .merged report canonical outcome.group.id := by
  rw [notes, List.map_map] at member
  obtain ⟨report, _, rfl⟩ := List.mem_map.mp member
  exact ⟨report, rfl⟩

/-- What a recount of a group yields. -/
def Tables.recountOf (tables : Tables) (rules : ReplayRules) (group : BikeGroup) (now : Instant) :
    Recount :=
  let evidence := rules.replay (tables.reportsInGroup group.id)
  ⟨evidence.applyTo group now, group.strength, evidence⟩

/-- The tables after a recount of a group. -/
def Tables.recounted (tables : Tables) (rules : ReplayRules) (group : BikeGroup) (now : Instant) :
    Tables :=
  tables.overwritten (tables.recountOf rules group now).group

namespace Service

variable (behaviour : AuditBehaviour σ) (settings : Settings) {world : World σ}

@[simp] theorem on_recordStrength (recount : Recount) (report : Int) :
    ((inMemory behaviour settings).recordStrength recount report).on world =
      (.ok (), world.noteAll behaviour (recount.notes report)) := by
  rw [recordStrength, Recount.notes]
  split <;> rfl

@[simp] theorem on_recordClassification (report group : Int) (classification : Classification) :
    ((inMemory behaviour settings).recordClassification report group classification).on world =
      (.ok (), world.noteAll behaviour (classification.notes report group)) := by
  cases classification <;> rfl

theorem on_recordMerged (canonical group : Int) (operator : String) (reports : List Int) :
    ((inMemory behaviour settings).recordMerged canonical group operator reports).on world =
      (.ok (), world.noteAll behaviour
        (reports.map fun report => ⟨.merged report canonical group, operator⟩)) := by
  induction reports generalizing world with
  | nil => rfl
  | cons report rest ih =>
    rw [recordMerged, Attempt.on_bind_ok (on_record behaviour settings world _ _), ih]
    rfl

/-! ## Recounting -/

theorem on_recount_found {group : Int} {before : BikeGroup}
    (found : world.tables.group? group = some before) (trigger : Option Int) (now : Instant) :
    ((inMemory behaviour settings).recount group trigger now).on world =
      (.ok (world.tables.recountOf settings.replayRules before now),
        { world with tables := world.tables.recounted settings.replayRules before now }) := by
  obtain ⟨_, rfl⟩ := Tables.mem_of_group? found
  have updated : world.tables.updateGroup
      ((settings.replayRules.replay (world.tables.reportsInGroup before.id)).applyTo before now) =
      .ok (world.tables.recounted settings.replayRules before now) :=
    Tables.updateGroup_of_found found
  rw [recount, Attempt.on_bind_ok (on_group? behaviour settings world before.id), found,
    Attempt.on_bind_ok (Attempt.on_orElse_some world _ before),
    Attempt.on_bind_ok (on_reportsInGroup behaviour settings world before.id)]
  simp only [inMemory_settings]
  rw [Attempt.on_bind, on_updateGroup, updated]
  rfl

theorem on_recount_missing {group : Int} (missing : world.tables.group? group = none)
    (trigger : Option Int) (now : Instant) :
    ((inMemory behaviour settings).recount group trigger now).on world =
      (.error (.missingBikeGroup group trigger), world) := by
  rw [recount, Attempt.on_bind_ok (on_group? behaviour settings world group), missing,
    Attempt.on_bind_error (Attempt.on_orElse_none world _)]

/-- What a recount on request has to be recorded. -/
def recomputeNotes (recount : Recount) : List Note :=
  match recount.evidence.classifications.getLast? with
  | some (report, _) => recount.notes report
  | none => []

theorem on_recompute_found {group : Int} {before : BikeGroup}
    (found : world.tables.group? group = some before) (now : Instant) :
    ((inMemory behaviour settings).recompute group now).on world =
      (.ok (world.tables.recountOf settings.replayRules before now),
        ({ world with tables := world.tables.recounted settings.replayRules before now } :
          World σ).noteAll behaviour
            (recomputeNotes (world.tables.recountOf settings.replayRules before now))) := by
  rw [recompute, recomputeNotes, Attempt.on_bind_ok (on_recount_found behaviour settings found none now)]
  cases (world.tables.recountOf settings.replayRules before now).evidence.classifications.getLast? with
  | none => rfl
  | some last =>
    simp only
    rw [Attempt.on_bind_ok (on_recordStrength behaviour settings _ last.1)]
    rfl

theorem on_recompute_missing {group : Int} (missing : world.tables.group? group = none)
    (now : Instant) :
    ((inMemory behaviour settings).recompute group now).on world =
      (.error (.missingBikeGroup group none), world) := by
  rw [recompute, Attempt.on_bind_error (on_recount_missing behaviour settings missing none now)]

/-! ## What operators do -/

theorem on_updateStatus_ok {report : Int} {next : Status} {now : Instant} {change : StatusChange}
    {after : Tables} (h : world.tables.changeStatus report next now = .ok (change, after))
    (actor : String) :
    ((inMemory behaviour settings).updateStatus report next actor now).on world =
      (.ok change.report, ({ world with tables := after } : World σ).note behaviour
        (.statusChanged report change.previous next) actor) := by
  rw [updateStatus, Attempt.on_bind, on_changeStatus, h]
  rfl

theorem on_updateStatus_error {report : Int} {next : Status} {now : Instant} {failure : Failure}
    (h : world.tables.changeStatus report next now = .error failure) (actor : String) :
    ((inMemory behaviour settings).updateStatus report next actor now).on world =
      (.error failure, world) := by
  rw [updateStatus, Attempt.on_bind, on_changeStatus, h]

/-- Merging is refused before the store is asked, or it is a merge in the tables. -/
theorem on_mergeDuplicates (canonical : Int) (duplicates : IdSet) (operator : String)
    (now : Instant) :
    ((inMemory behaviour settings).mergeDuplicates canonical duplicates operator now).on world =
      if duplicates.isEmpty then (.error Failure.nothingToMerge, world)
      else if canonical ∈ duplicates then (.error (Failure.mergedIntoItself canonical), world)
      else match world.tables.mergeReports canonical duplicates operator now with
        | .error failure => (.error failure, world)
        | .ok (outcome, after) =>
          (.ok outcome, ({ world with tables := after } : World σ).noteAll behaviour
            (outcome.notes canonical operator)) := by
  rw [mergeDuplicates]
  split
  · rfl
  · split
    · rfl
    · rw [Attempt.on_bind, on_mergeReports]
      cases world.tables.mergeReports canonical duplicates operator now with
      | error failure => rfl
      | ok merged =>
        obtain ⟨outcome, after⟩ := merged
        simp only
        rw [Attempt.on_bind_ok (on_recordMerged behaviour settings canonical _ operator _)]
        rfl

/-! ## What operators look at -/

section

variable {γ : Type} {part : World σ → γ}

theorem keeps_groupOf (report : Report) :
    ((inMemory behaviour settings).groupOf report).Keeps part :=
  .bind (fun _ => rfl) fun _ => Attempt.keeps_orElse _ _

/-- Of everything that details are made of, only the records are not read from the tables. -/
theorem keeps_details
    (reads : ∀ report, ((inMemory behaviour settings).log.recordsFor report).Keeps part)
    (report : Int) : ((inMemory behaviour settings).details report).Keeps part := by
  rw [details]
  refine .bind (fun _ => rfl) fun found => .bind (Attempt.keeps_orElse _ _) fun report => ?_
  refine .bind (keeps_groupOf behaviour settings report) fun group => ?_
  refine .bind (fun _ => rfl) fun history => .bind (reads _) fun records => ?_
  refine .bind ?_ fun duplicates => Attempt.keeps_pure _
  rw [duplicatesOf]
  cases report.duplicateGroup <;> exact fun _ => rfl

theorem keeps_views (known : List (Int × BikeGroup)) (reports : List Report) :
    ((inMemory behaviour settings).views known reports).Keeps part := by
  induction reports generalizing known with
  | nil => exact Attempt.keeps_pure _
  | cons report rest ih =>
    rw [views]
    cases known.lookup report.bikeGroup with
    | some group => exact .bind (ih known) fun _ => Attempt.keeps_pure _
    | none =>
      refine .bind (keeps_groupOf behaviour settings report) fun group => ?_
      exact .bind (ih ((group.id, group) :: known)) fun _ => Attempt.keeps_pure _

theorem keeps_operatorReports (part : World σ → γ) (filter : SignalFilter) :
    ((inMemory behaviour settings).operatorReports filter).Keeps part := by
  rw [operatorReports]
  refine .bind (fun _ => rfl) fun reports => ?_
  exact .bind (keeps_views behaviour settings [] reports) fun _ => Attempt.keeps_pure _

end

theorem keepsTables_details (report : Int) :
    ((inMemory behaviour settings).details report).KeepsTables :=
  keeps_details behaviour settings (fun _ _ => rfl) report

theorem keepsLog_details (reads : behaviour.OnlyReads) (report : Int) :
    ((inMemory behaviour settings).details report).Keeps World.log :=
  keeps_details behaviour settings (fun report world => reads world.log report) report

end Service

end AbandonedBikes
