import AbandonedBikes.Report.Status
import AbandonedBikes.Report.Source
import AbandonedBikes.Report.Reporter
import AbandonedBikes.Geo.Point
import AbandonedBikes.Sorting.Insertion
import AbandonedBikes.Time.Instant
/-!
# Reports

A report says that a bike stands at a place. Once it is filed, only its status, the time of its last
change and the group of duplicates that it belongs to may change.
-/

namespace AbandonedBikes

/-- A filed report. -/
structure Report where
  id : Int
  publicId : String
  createdAt : Instant
  updatedAt : Instant
  status : Status
  location : Location
  tags : List String
  note : Option String
  source : Source
  reporter : Reporter
  bikeGroup : Int
  duplicateGroup : Option Int
deriving DecidableEq, Inhabited

/-- A report that has not been filed yet. The time of its creation also counts as the present when
it is compared with earlier reports. -/
structure NewReport where
  location : Location
  tags : List String
  note : Option String
  source : Source
  reporter : Reporter
  createdAt : Instant
  /-- The random word that is drawn for its public identifier when it is filed in memory. What is sent
  to a database has a fresh one, which is not said here. -/
  draw : UInt32 := 0
deriving DecidableEq, Inhabited

namespace Report

/-- Whether a report comes before another one in the history of a bike. Reports of the same instant
are taken in the order of their numbers. -/
def before (a b : Report) : Bool :=
  decide (a.createdAt < b.createdAt ∨ (a.createdAt = b.createdAt ∧ a.id ≤ b.id))

/-- Reports in the order in which they were created. Every stable sort gives this list, for any two
reports are in this order one way or the other. -/
def chronological (reports : List Report) : List Report :=
  insertionSort (fun a b => !b.before a) reports

end Report

end AbandonedBikes
