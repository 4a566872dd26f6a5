import AbandonedBikes.Geo.Point
import AbandonedBikes.Report.Strength
import AbandonedBikes.Time.Instant
/-!
# Bike groups

The reports that are believed to describe one bike form a bike group. The group caches what a replay
of its reports yields; only a recount writes these counters. They are words of 32 bits.
-/

namespace AbandonedBikes

/-- The reports about one bike, summed up. -/
structure BikeGroup where
  id : Int
  createdAt : Instant
  updatedAt : Instant
  anchor : Point
  lastReportAt : Instant
  totalReports : UInt32
  uniqueReporters : UInt32
  sameReporter : UInt32
  distinctReporter : UInt32
  firstQualifyingAt : Option Instant
  lastQualifyingAt : Option Instant
  strength : Strength
deriving Inhabited

/-- The counters of a bike group as operators see them. -/
structure SignalSummary where
  totalReports : UInt32
  uniqueReporters : UInt32
  sameReporter : UInt32
  distinctReporter : UInt32
  firstQualifyingAt : Option Instant
  lastQualifyingAt : Option Instant
  lastReportAt : Instant
  hasQualifying : Bool
deriving DecidableEq, Inhabited

namespace BikeGroup

/-- A group without reports, anchored for good at the place of the report that opens it. -/
def anchoredAt (id : Int) (anchor : Point) (now : Instant) : BikeGroup where
  id := id
  createdAt := now
  updatedAt := now
  anchor := anchor
  lastReportAt := now
  totalReports := 0
  uniqueReporters := 0
  sameReporter := 0
  distinctReporter := 0
  firstQualifyingAt := none
  lastQualifyingAt := none
  strength := .none

/-- What operators see of a group. -/
def summary (group : BikeGroup) : SignalSummary where
  totalReports := group.totalReports
  uniqueReporters := group.uniqueReporters
  sameReporter := group.sameReporter
  distinctReporter := group.distinctReporter
  firstQualifyingAt := group.firstQualifyingAt
  lastQualifyingAt := group.lastQualifyingAt
  lastReportAt := group.lastReportAt
  hasQualifying := decide (0 < group.sameReporter + group.distinctReporter)

end BikeGroup

end AbandonedBikes
