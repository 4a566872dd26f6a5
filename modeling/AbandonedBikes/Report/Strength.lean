import AbandonedBikes.Report.Named
/-!
# How strong a signal is

Reports that confirm each other over time make the signal of a bike stronger. A confirmation by
another reporter counts for more than one by the same reporter.
-/

namespace AbandonedBikes

/-- The strength of the evidence about one bike. -/
inductive Strength where
  | none
  | weakSameReporter
  | strongDistinctReporters
deriving DecidableEq, Repr, Inhabited

namespace Strength

def all : List Strength := [.none, .weakSameReporter, .strongDistinctReporters]

def name : Strength → String
  | .none => "none"
  | .weakSameReporter => "weak_same_reporter"
  | .strongDistinctReporters => "strong_distinct_reporters"

/-- The place of a strength in operator lists. The higher comes first. -/
def priority : Strength → Nat
  | .none => 0
  | .weakSameReporter => 1
  | .strongDistinctReporters => 2

/-- The strength with the given name. -/
def ofName? (word : String) : Option Strength := findNamed? name all word

/-- Reads the name of a strength. -/
def read (word : String) : Except UnknownWord Strength := readWord .strength name all word

@[simp] theorem ofName?_name (strength : Strength) : ofName? strength.name = some strength := by
  cases strength <;> decide

end Strength

/-- Whether a confirming report came from a reporter already known for the bike. -/
inductive MatchKind where
  | sameReporter
  | distinctReporter
deriving DecidableEq, Repr, Inhabited

namespace MatchKind

def all : List MatchKind := [.sameReporter, .distinctReporter]

def name : MatchKind → String
  | .sameReporter => "same_reporter"
  | .distinctReporter => "distinct_reporter"

/-- The match kind with the given name. -/
def ofName? (word : String) : Option MatchKind := findNamed? name all word

@[simp] theorem ofName?_name (kind : MatchKind) : ofName? kind.name = some kind := by
  cases kind <;> decide

end MatchKind

end AbandonedBikes
