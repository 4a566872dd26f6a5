import AbandonedBikes.Report.Strength
/-!
# What a report adds to the evidence
-/

namespace AbandonedBikes

/-- How one report contributes to the evidence about its bike. -/
inductive Classification where
  /-- The first report about the bike. -/
  | initial
  /-- The same reporter has reported the bike on the same day already. -/
  | ignoredSameDay
  /-- Too soon after the report before it. -/
  | nonQualifying
  | countedSameReporter
  | countedDistinctReporter
deriving DecidableEq, Repr, Inhabited

namespace Classification

def all : List Classification :=
  [.initial, .ignoredSameDay, .nonQualifying, .countedSameReporter, .countedDistinctReporter]

def name : Classification → String
  | .initial => "initial"
  | .ignoredSameDay => "ignored_same_day"
  | .nonQualifying => "non_qualifying"
  | .countedSameReporter => "counted_same_reporter"
  | .countedDistinctReporter => "counted_distinct_reporter"

/-- The classification with the given name. -/
def ofName? (word : String) : Option Classification := findNamed? name all word

/-- For a confirming report, whether its reporter was known already. -/
def matchKind? : Classification → Option MatchKind
  | .countedSameReporter => some .sameReporter
  | .countedDistinctReporter => some .distinctReporter
  | _ => none

/-- Whether the report confirms an earlier one. -/
def isQualifying (classification : Classification) : Bool := classification.matchKind?.isSome

@[simp] theorem ofName?_name (classification : Classification) :
    ofName? classification.name = some classification := by
  cases classification <;> decide

end Classification

end AbandonedBikes
