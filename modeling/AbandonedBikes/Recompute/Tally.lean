import AbandonedBikes.Json.Writer
import AbandonedBikes.Service.Basic
/-!
# Recomputing many bike groups

Groups whose counters went stale are healed by recounting them one after the other. A group that
fails is counted and skipped, but a group that is missing means that the stored data is corrupt, and
ends the run.
-/

namespace AbandonedBikes.Recompute

/-- What a run over some groups has done. -/
structure Tally where
  groups : Nat := 0
  changed : Nat := 0
  failed : Nat := 0
deriving DecidableEq, Repr, Inhabited

namespace Tally

/-- One more group, which was recounted. -/
def count (tally : Tally) (recount : Recount) : Tally :=
  { tally with
    groups := tally.groups + 1
    changed := if recount.changed then tally.changed + 1 else tally.changed }

/-- One more group, which failed. -/
def countFailure (tally : Tally) : Tally :=
  { tally with groups := tally.groups + 1, failed := tally.failed + 1 }

def text (tally : Tally) : String :=
  "Recomputed " ++ toString tally.groups ++ " bike groups: " ++ toString tally.changed ++
    " changed strength, " ++ toString tally.failed ++ " failed"

def toJson (tally : Tally) : Json :=
  .object [("failed", .int tally.failed), ("groups", .int tally.groups),
    ("strength_changed", .int tally.changed)]

end Tally

/-- Recounts groups in order, on top of what has been done already. -/
def recomputeAll {m : Type → Type} [Monad m] (service : Service m) (now : Instant) (done : Tally) :
    List Int → Attempt m Tally
  | [] => pure done
  | group :: rest => do
    let result : Except Failure Recount ← ExceptT.lift (service.recompute group now).run
    match result with
    | .ok recount => recomputeAll service now (done.count recount) rest
    | .error failure =>
      if failure.isCorruption then throw failure
      else recomputeAll service now done.countFailure rest

end AbandonedBikes.Recompute
