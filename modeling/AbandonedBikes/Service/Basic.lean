import AbandonedBikes.Audit.Log
import AbandonedBikes.Settings
import AbandonedBikes.Signal.Replay
import AbandonedBikes.Store.Interface
/-!
# The service and its audit trail

The service answers requests by calls of a store and writes what happened into an audit log. The log
is for information only: if it refuses an entry, the request goes on as if it had taken it.

The counters of a bike group are never changed by steps. A recount replays all reports of the group
and overwrites them, so running it twice does no harm.
-/

namespace AbandonedBikes

/-- What the service works with. -/
structure Service (m : Type → Type) where
  store : SignalStore m
  log : AuditLog m
  settings : Settings

/-- What a recount of a bike group yields. -/
structure Recount where
  /-- The group after the recount. -/
  group : BikeGroup
  previous : Strength
  evidence : Evidence
deriving Inhabited

/-- Whether the recount has changed the strength of the group. -/
def Recount.changed (recount : Recount) : Bool := recount.previous != recount.group.strength

namespace Service

variable {m : Type → Type} [Monad m]

/-- Records a fact, whether or not the log takes it. This does not fail. -/
def record (service : Service m) (fact : Fact) (actor : String) : Attempt m Unit :=
  ExceptT.mk do
    let _ ← (service.log.append (fact.entryBy actor)).run
    return .ok ()

/-- Records that a recount has changed the strength, as brought about by a report. -/
def recordStrength (service : Service m) (recount : Recount) (report : Int) : Attempt m Unit :=
  if recount.changed then
    service.record (.strengthChanged report recount.group.id recount.previous recount.group.strength)
      systemActor
  else pure ()

/-- Records that a report confirms its bike, or that it was ignored. -/
def recordClassification (service : Service m) (report group : Int)
    (classification : Classification) : Attempt m Unit :=
  match classification with
  | .countedSameReporter =>
    service.record (.reconfirmationCounted report group .sameReporter) systemActor
  | .countedDistinctReporter =>
    service.record (.reconfirmationCounted report group .distinctReporter) systemActor
  | .ignoredSameDay => service.record (.reconfirmationIgnored report group) systemActor
  | .initial | .nonQualifying => pure ()

/-- Replays the reports of a group and overwrites its counters. -/
def recount (service : Service m) (group : Int) (trigger : Option Int) (now : Instant) :
    Attempt m Recount := do
  let before ← Attempt.orElse (.missingBikeGroup group trigger) (← service.store.group? group)
  let history ← service.store.reportsInGroup group
  let evidence := service.settings.replayRules.replay history
  let after := evidence.applyTo before now
  service.store.updateGroup after
  return ⟨after, before.strength, evidence⟩

/-- Recounts a group on request. A change of its strength is put down to its latest report. -/
def recompute (service : Service m) (group : Int) (now : Instant) : Attempt m Recount := do
  let recount ← service.recount group none now
  match recount.evidence.classifications.getLast? with
  | some (report, _) => service.recordStrength recount report
  | none => pure ()
  return recount

end Service

end AbandonedBikes
