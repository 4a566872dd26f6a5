import AbandonedBikes.Signal.Replay
/-!
# The timeline of a bike

Operators see every report of a bike in chronological order, with its reporter hidden behind a
letter. Letters are given out in the order in which reporters first appear.
-/

namespace AbandonedBikes

/-- One report as operators see it. -/
structure TimelineEntry where
  report : Int
  publicId : String
  createdAt : Instant
  label : String
  matchKind : Option MatchKind
  qualified : Bool
  ignoredSameDay : Bool
deriving DecidableEq, Inhabited

/-- The evidence about a bike as operators see it. -/
structure SignalDetails where
  group : BikeGroup
  summary : SignalSummary
  strength : Strength
  timeline : List TimelineEntry
deriving Inhabited

namespace Timeline

/-- The label of a reporter by the order of appearance: a letter, and from the second round of
letters on the number of the round. -/
def label (index : Nat) : String :=
  let letter := String.singleton (Char.ofNat ('A'.toNat + index % 26))
  "Reporter " ++ letter ++ (if index < 26 then "" else toString (index / 26 + 1))

/-- The report with a number, the last one if several reports have it. -/
def find? (history : List Report) (id : Int) : Option Report :=
  history.reverse.find? fun report => report.id == id

/-- The entry of a report, labelled by the place of its reporter among those known. -/
def entry (known : List Reporter) (report : Report) (classification : Classification) :
    TimelineEntry where
  report := report.id
  publicId := report.publicId
  createdAt := report.createdAt
  label := label (known.idxOf report.reporter)
  matchKind := classification.matchKind?
  qualified := classification.isQualifying
  ignoredSameDay := classification == .ignoredSameDay

/-- The reporters known after another one has appeared. -/
def meet (known : List Reporter) (reporter : Reporter) : List Reporter :=
  if known.contains reporter then known else known ++ [reporter]

/-- The entries for classified reports. A number that is not in the history is left out. -/
def entries (history : List Report) : List Reporter → List (Int × Classification) →
    List TimelineEntry
  | _, [] => []
  | known, (id, classification) :: rest =>
    match find? history id with
    | none => entries history known rest
    | some report =>
      let known := meet known report.reporter
      entry known report classification :: entries history known rest

/-- What operators see of a group, given its whole history. -/
def details (rules : ReplayRules) (group : BikeGroup) (history : List Report) : SignalDetails where
  group := group
  summary := group.summary
  strength := group.strength
  timeline := entries history [] (rules.replay history).classifications

end Timeline

end AbandonedBikes
