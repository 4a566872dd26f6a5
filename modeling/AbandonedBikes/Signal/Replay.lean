import AbandonedBikes.Report.Report
import AbandonedBikes.Report.Score
import AbandonedBikes.Group.BikeGroup
import AbandonedBikes.Signal.Classification
import AbandonedBikes.Settings
/-!
# Replaying the history of a bike

The evidence about a bike is a function of its reports alone. They are replayed in chronological
order. The first one opens the history; each later one is ignored if its reporter was there on the
same day, does not qualify if it follows the report before it too soon, and otherwise confirms what
was reported.
-/

namespace AbandonedBikes

/-- Everything that a replay yields. The counters are words of 32 bits, like those of a group. -/
structure Evidence where
  /-- The numbers of the reports in the order of the replay. -/
  classifications : List (Int × Classification)
  totalReports : UInt32
  uniqueReporters : UInt32
  sameReporter : UInt32
  distinctReporter : UInt32
  firstQualifyingAt : Option Instant
  lastQualifyingAt : Option Instant
  /-- Missing only for an empty history. -/
  lastReportAt : Option Instant
  strength : Strength
deriving DecidableEq, Inhabited

/-- The rules of a replay. -/
structure ReplayRules where
  gapDays : Int
  strongMinReporters : UInt32
deriving DecidableEq

def Settings.replayRules (settings : Settings) : ReplayRules :=
  ⟨settings.gapDays, settings.strongMinReporters⟩

/-- The days on which each reporter has reported. -/
abbrev SeenDays := List (Reporter × List Int)

/-- Notes that a reporter has reported on a day. -/
def SeenDays.note (reporter : Reporter) (day : Int) : SeenDays → SeenDays
  | [] => [(reporter, [day])]
  | (r, days) :: rest =>
    if r = reporter then (r, day :: days) :: rest else (r, days) :: note reporter day rest

/-- How far a replay has got. The classifications are kept from the last to the first. -/
structure ReplayState where
  reversed : List (Int × Classification) := []
  previousAt : Option Instant := none
  seen : SeenDays := []
  same : Nat := 0
  distinct : Nat := 0
  firstQualifyingAt : Option Instant := none
  lastQualifyingAt : Option Instant := none
deriving Inhabited

namespace ReplayRules

/-- Whether an instant follows another one by less than the gap. -/
def tooSoon (rules : ReplayRules) (previous current : Instant) : Bool :=
  decide (Score.ageDays previous current < Binary64.ofInt rules.gapDays)

/-- What the next report adds to the reports replayed so far. -/
def classify (rules : ReplayRules) (state : ReplayState) (report : Report) : Classification :=
  match state.previousAt with
  | none => .initial
  | some previousAt =>
    let days := state.seen.lookup report.reporter
    if days.any fun days => days.contains report.createdAt.day then .ignoredSameDay
    else if rules.tooSoon previousAt report.createdAt then .nonQualifying
    else if days.isSome then .countedSameReporter
    else .countedDistinctReporter

/-- Replays one report. -/
def step (rules : ReplayRules) (state : ReplayState) (report : Report) : ReplayState :=
  let classification := rules.classify state report
  { reversed := (report.id, classification) :: state.reversed
    previousAt := some report.createdAt
    seen := state.seen.note report.reporter report.createdAt.day
    same := if classification = .countedSameReporter then state.same + 1 else state.same
    distinct :=
      if classification = .countedDistinctReporter then state.distinct + 1 else state.distinct
    firstQualifyingAt :=
      if classification.isQualifying then state.firstQualifyingAt.or (some report.createdAt)
      else state.firstQualifyingAt
    lastQualifyingAt :=
      if classification.isQualifying then some report.createdAt else state.lastQualifyingAt }

/-- The strength of the evidence. It is strong if another reporter has confirmed the bike and there
are enough reporters, and weak if anything has qualified. -/
def strength (rules : ReplayRules) (distinct unique : UInt32) (hasQualifying : Bool) : Strength :=
  if 0 < distinct ∧ rules.strongMinReporters ≤ unique then .strongDistinctReporters
  else if hasQualifying then .weakSameReporter
  else .none

/-- What a finished replay yields. -/
def evidence (rules : ReplayRules) (state : ReplayState) : Evidence :=
  let same := UInt32.ofNat state.same
  let distinct := UInt32.ofNat state.distinct
  let unique := UInt32.ofNat state.seen.length
  { classifications := state.reversed.reverse
    totalReports := UInt32.ofNat state.reversed.length
    uniqueReporters := unique
    sameReporter := same
    distinctReporter := distinct
    firstQualifyingAt := state.firstQualifyingAt
    lastQualifyingAt := state.lastQualifyingAt
    lastReportAt := state.previousAt
    strength := rules.strength distinct unique (decide (0 < same + distinct)) }

/-- The evidence of a history, given in any order. -/
def replay (rules : ReplayRules) (history : List Report) : Evidence :=
  rules.evidence ((Report.chronological history).foldl rules.step {})

end ReplayRules

namespace Evidence

/-- The classification of a report, the first one if its number occurs more than once. -/
def classificationOf? (evidence : Evidence) (report : Int) : Option Classification :=
  evidence.classifications.lookup report

def hasQualifying (evidence : Evidence) : Bool :=
  decide (0 < evidence.sameReporter + evidence.distinctReporter)

/-- The group with its counters replaced. Its number, anchor and creation stay. -/
def applyTo (evidence : Evidence) (group : BikeGroup) (now : Instant) : BikeGroup :=
  { group with
    updatedAt := now
    lastReportAt := evidence.lastReportAt.getD group.lastReportAt
    totalReports := evidence.totalReports
    uniqueReporters := evidence.uniqueReporters
    sameReporter := evidence.sameReporter
    distinctReporter := evidence.distinctReporter
    firstQualifyingAt := evidence.firstQualifyingAt
    lastQualifyingAt := evidence.lastQualifyingAt
    strength := evidence.strength }

end Evidence

end AbandonedBikes
