import AbandonedBikes.Report.Report
import AbandonedBikes.Group.BikeGroup
/-!
# Triage lists

Operators list reports together with the signal of their bikes, filtered and sorted.
-/

namespace AbandonedBikes

/-- A report and the signal of its bike. -/
structure OperatorView where
  report : Report
  bikeGroup : Int
  summary : SignalSummary
  strength : Strength
deriving Inhabited

/-- The view of a report of a group. -/
def OperatorView.of (report : Report) (group : BikeGroup) : OperatorView :=
  ⟨report, group.id, group.summary, group.strength⟩

/-- How a list is sorted. -/
inductive ReportSort where
  /-- As stored, the newest first. -/
  | newest
  /-- The strongest first, and the newest first among equals. -/
  | signal
deriving DecidableEq, Repr, Inhabited

namespace ReportSort

def all : List ReportSort := [.newest, .signal]

def name : ReportSort → String
  | .newest => "newest"
  | .signal => "signal"

/-- The sort with the given name. -/
def ofName? (word : String) : Option ReportSort :=
  all.find? fun sort => sort.name == word

@[simp] theorem ofName?_name (sort : ReportSort) : ofName? sort.name = some sort := by
  cases sort <;> decide

end ReportSort

/-- What operators ask for. A condition that is not given holds of every report. -/
structure SignalFilter where
  status : Option Status := none
  strength : Option Strength := none
  strongOnly : Bool := false
  hasQualifying : Option Bool := none
  sort : ReportSort := .newest
deriving DecidableEq, Repr, Inhabited

namespace SignalFilter

/-- Whether the signal of a view passes. The status is left to the store. -/
def accepts (filter : SignalFilter) (view : OperatorView) : Bool :=
  filter.strength.all (fun wanted => view.strength == wanted) &&
    (!filter.strongOnly || view.strength == .strongDistinctReporters) &&
    filter.hasQualifying.all (fun wanted => view.summary.hasQualifying == wanted)

/-- Whether a view may stand before another one in a list sorted by signal. -/
def signalOrder (a b : OperatorView) : Bool :=
  decide (b.strength.priority < a.strength.priority ∨
    (b.strength.priority = a.strength.priority ∧ b.report.createdAt ≤ a.report.createdAt))

/-- The accepted views in the order asked for. -/
def apply (filter : SignalFilter) (views : List OperatorView) : List OperatorView :=
  let kept := views.filter filter.accepts
  match filter.sort with
  | .newest => kept
  | .signal => kept.mergeSort signalOrder

end SignalFilter

end AbandonedBikes
