import AbandonedBikes.Service.Basic
import AbandonedBikes.Store.Tables
/-!
# Calls in memory

A service in memory works on a world: the state of its audit log and its tables. `Attempt.on` says
what a call answers in a world and what world it leaves behind. Each way of building a call has one
equation for it, so that later proofs read a call step by step and never open the layers of effects.

The log may behave in any way. What it does is never seen by the tables.
-/

namespace AbandonedBikes

/-- What a service in memory works on. -/
@[ext]
structure World (σ : Type) where
  log : σ
  tables : Tables

/-- The service over tables in memory and a log. -/
def Service.inMemory {σ : Type} (behaviour : AuditBehaviour σ) (settings : Settings) :
    Service (StateT σ (StateM Tables)) :=
  ⟨Tables.store.beside σ, behaviour.log, settings⟩

variable {σ α β : Type}

namespace World

/-- The world after the log was offered a fact. -/
def note (behaviour : AuditBehaviour σ) (fact : Fact) (actor : String) (world : World σ) : World σ :=
  { world with log := (behaviour.append world.log (fact.entryBy actor)).2 }

@[simp] theorem note_tables (behaviour : AuditBehaviour σ) (fact : Fact) (actor : String)
    (world : World σ) : (world.note behaviour fact actor).tables = world.tables := rfl

end World

namespace Attempt

/-- What a call answers in a world, and the world after it. -/
def on (call : Attempt (StateT σ (StateM Tables)) α) (world : World σ) :
    Except Failure α × World σ :=
  let ((result, log), tables) := (call.run.run world.log).run world.tables
  (result, ⟨log, tables⟩)

variable (world : World σ)

@[simp] theorem on_pure (value : α) :
    (pure value : Attempt (StateT σ (StateM Tables)) α).on world = (.ok value, world) := rfl

@[simp] theorem on_throw (failure : Failure) :
    (throw failure : Attempt (StateT σ (StateM Tables)) α).on world = (.error failure, world) := rfl

/-- A call goes on in the world that the call before it has left, unless that one was refused. -/
theorem on_bind (call : Attempt (StateT σ (StateM Tables)) α)
    (next : α → Attempt (StateT σ (StateM Tables)) β) :
    (call >>= next).on world =
      match call.on world with
      | (.ok value, world) => (next value).on world
      | (.error failure, world) => (.error failure, world) := by
  simp only [on, bind, ExceptT.bind, ExceptT.run, ExceptT.mk, StateT.bind, StateT.run]
  rcases call world.log world.tables with ⟨⟨result, log⟩, tables⟩
  cases result <;> rfl

theorem on_bind_ok {call : Attempt (StateT σ (StateM Tables)) α} {world after : World σ} {value : α}
    (h : call.on world = (.ok value, after))
    (next : α → Attempt (StateT σ (StateM Tables)) β) :
    (call >>= next).on world = (next value).on after := by
  rw [on_bind, h]

theorem on_bind_error {call : Attempt (StateT σ (StateM Tables)) α} {world after : World σ}
    {failure : Failure} (h : call.on world = (.error failure, after))
    (next : α → Attempt (StateT σ (StateM Tables)) β) :
    (call >>= next).on world = (.error failure, after) := by
  rw [on_bind, h]

/-- A call that ends by making something of the last answer. -/
theorem on_bind_pure (call : Attempt (StateT σ (StateM Tables)) α) (make : α → β) :
    (call >>= fun value => pure (make value)).on world =
      ((call.on world).1.map make, (call.on world).2) := by
  rw [on_bind]
  rcases call.on world with ⟨failure | value, after⟩ <;> rfl

@[simp] theorem on_ofExcept (result : Except Failure α) :
    (ofExcept result : Attempt (StateT σ (StateM Tables)) α).on world = (result, world) := rfl

@[simp] theorem on_orElse_some (failure : Failure) (value : α) :
    (orElse failure (some value) : Attempt (StateT σ (StateM Tables)) α).on world =
      (.ok value, world) := rfl

@[simp] theorem on_orElse_none (failure : Failure) :
    (orElse failure (none : Option α) : Attempt (StateT σ (StateM Tables)) α).on world =
      (.error failure, world) := rfl

/-- A call that changes nothing if it is refused answers as the operation does. -/
theorem on_attempting (write : Tables → Except Failure (α × Tables)) :
    ((Tables.attempting write).beside σ).on world =
      match write world.tables with
      | .ok (value, after) => (.ok value, { world with tables := after })
      | .error failure => (.error failure, world) := by
  cases h : write world.tables with
  | error failure =>
    simp only [on, run_beside, StateT.run_bind, Tables.run_attempting_error h]
    rfl
  | ok result =>
    simp only [on, run_beside, StateT.run_bind, Tables.run_attempting_ok h]
    rfl

/-- A call that leaves a part of every world as it was. -/
def Keeps {γ : Type} (part : World σ → γ) (call : Attempt (StateT σ (StateM Tables)) α) : Prop :=
  ∀ world : World σ, part (call.on world).2 = part world

/-- A call that leaves the tables alone in every world. -/
def KeepsTables (call : Attempt (StateT σ (StateM Tables)) α) : Prop :=
  ∀ world : World σ, (call.on world).2.tables = world.tables

section

variable {γ : Type} {part : World σ → γ}

theorem Keeps.bind {call : Attempt (StateT σ (StateM Tables)) α}
    {next : α → Attempt (StateT σ (StateM Tables)) β} (h : call.Keeps part)
    (hnext : ∀ value, (next value).Keeps part) : (call >>= next).Keeps part := by
  intro world
  have first := h world
  rw [on_bind]
  rcases result : call.on world with ⟨failure | value, after⟩
  · rwa [result] at first
  · rw [result] at first
    exact (hnext value after).trans first

theorem keeps_pure (value : α) :
    (pure value : Attempt (StateT σ (StateM Tables)) α).Keeps part := fun _ => rfl

theorem keeps_orElse (failure : Failure) (value : Option α) :
    (orElse failure value : Attempt (StateT σ (StateM Tables)) α).Keeps part := fun _ => rfl

end

end Attempt

namespace Service

variable (behaviour : AuditBehaviour σ) (settings : Settings) (world : World σ)

@[simp] theorem inMemory_settings : (inMemory behaviour settings).settings = settings := rfl

/-! ## The calls of the store -/

section

variable (id : Int) (now : Instant)

@[simp] theorem on_report? : ((inMemory behaviour settings).store.report? id).on world =
    (.ok (world.tables.report? id), world) := rfl

@[simp] theorem on_candidates (query : CandidateQuery) :
    ((inMemory behaviour settings).store.candidates query).on world =
      (.ok (world.tables.candidates query), world) := rfl

@[simp] theorem on_reportsInGroup : ((inMemory behaviour settings).store.reportsInGroup id).on world =
    (.ok (world.tables.reportsInGroup id), world) := rfl

@[simp] theorem on_listReports (status : Option Status) :
    ((inMemory behaviour settings).store.listReports status).on world =
      (.ok (world.tables.listReports status), world) := rfl

@[simp] theorem on_group? : ((inMemory behaviour settings).store.group? id).on world =
    (.ok (world.tables.group? id), world) := rfl

@[simp] theorem on_duplicateGroup? :
    ((inMemory behaviour settings).store.duplicateGroup? id).on world =
      (.ok (world.tables.duplicateGroup? id), world) := rfl

@[simp] theorem on_insertReport (new : NewReport) :
    ((inMemory behaviour settings).store.insertReport new id).on world =
      (.ok (world.tables.stored new id),
        { world with tables := (world.tables.insertReport new id).2 }) := rfl

@[simp] theorem on_createGroup (anchor : Point) :
    ((inMemory behaviour settings).store.createGroup anchor now).on world =
      (.ok (world.tables.createGroup anchor now).1,
        { world with tables := (world.tables.createGroup anchor now).2 }) := rfl

theorem on_changeStatus (next : Status) :
    ((inMemory behaviour settings).store.changeStatus id next now).on world =
      match world.tables.changeStatus id next now with
      | .ok (change, after) => (.ok change, { world with tables := after })
      | .error failure => (.error failure, world) := by
  refine (Attempt.on_attempting world _).trans ?_
  rcases world.tables.changeStatus id next now with failure | ⟨change, after⟩ <;> rfl

theorem on_updateGroup (updated : BikeGroup) :
    ((inMemory behaviour settings).store.updateGroup updated).on world =
      match world.tables.updateGroup updated with
      | .ok after => (.ok (), { world with tables := after })
      | .error failure => (.error failure, world) := by
  refine (Attempt.on_attempting world _).trans ?_
  cases world.tables.updateGroup updated <;> rfl

theorem on_mergeReports (duplicates : IdSet) (createdBy : String) :
    ((inMemory behaviour settings).store.mergeReports id duplicates createdBy now).on world =
      match world.tables.mergeReports id duplicates createdBy now with
      | .ok (outcome, after) => (.ok outcome, { world with tables := after })
      | .error failure => (.error failure, world) := by
  refine (Attempt.on_attempting world _).trans ?_
  rcases world.tables.mergeReports id duplicates createdBy now with failure | ⟨outcome, after⟩ <;>
    rfl

end

/-- Recording never fails and leaves the tables alone, whatever the log does. -/
@[simp] theorem on_record (fact : Fact) (actor : String) :
    ((inMemory behaviour settings).record fact actor).on world =
      (.ok (), world.note behaviour fact actor) := rfl

end Service

end AbandonedBikes
