import AbandonedBikes.Report.Status
/-!
# Failures

Why a call is refused. A failure of the database may go away by itself; a report that points at a
missing bike group means that the stored data is corrupt.
-/

namespace AbandonedBikes

/-- Why a call fails. -/
inductive Failure where
  | reportNotFound (report : Int)
  | canonicalNotFound (report : Int)
  | duplicateNotFound (report : Int)
  | missingBikeGroup (group : Int) (report : Option Int)
  | invalidTransition (current next : Status)
  | invalidMerge (reason : String)
  | database (text : String)
  /-- A failure of another part of the system, of which only the message is known. -/
  | other (text : String)
  /-- The lookback reaches outside the calendar; the call stops there. -/
  | outsideCalendar
  /-- The scores of possible duplicates contradict each other; the call stops there. -/
  | contradictoryScores
deriving DecidableEq, Repr

namespace Failure

/-- How a message shows a report that may not be known. -/
def showReport : Option Int → String
  | some report => "Some(" ++ toString report ++ ")"
  | none => "None"

def message : Failure → String
  | .reportNotFound report => "Report not found: " ++ toString report
  | .canonicalNotFound report => "Canonical report not found: " ++ toString report
  | .duplicateNotFound report => "Duplicate report not found: " ++ toString report
  | .missingBikeGroup group report =>
    "Bike group " ++ toString group ++ " missing for report " ++ showReport report
  | .invalidTransition current next =>
    "Cannot transition from " ++ current.name ++ " to " ++ next.name
  | .invalidMerge reason => "Invalid merge: " ++ reason
  | .database text => "Database error: " ++ text
  | .other text => text
  | .outsideCalendar => "lookback window outside the calendar"
  | .contradictoryScores => "scores of possible duplicates contradict each other"

/-- Whether the same call may succeed later. -/
def isRetryable : Failure → Bool
  | .database _ => true
  | _ => false

/-- Whether the failure means that the stored data is corrupt. -/
def isCorruption : Failure → Bool
  | .missingBikeGroup _ _ => true
  | _ => false

/-- The refusal of a merge that names no duplicate. -/
def nothingToMerge : Failure := .invalidMerge "at least one duplicate report is required"

/-- The refusal to merge a report into itself. -/
def mergedIntoItself (report : Int) : Failure :=
  .invalidMerge ("report " ++ toString report ++ " cannot be merged into itself")

end Failure

end AbandonedBikes
