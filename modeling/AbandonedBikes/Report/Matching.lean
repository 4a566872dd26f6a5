import AbandonedBikes.Report.Candidates
import AbandonedBikes.Report.Score
import AbandonedBikes.Settings
/-!
# Matching a report to a bike group

A new report joins the bike group of the report that it resembles most. A candidate has to share a
tag, be near enough and not be too old or invalid; among those that pass, the best score of each
group counts, and of groups with equal scores the one with the lowest number wins.
-/

namespace AbandonedBikes

/-- What a new report is matched against. -/
structure Matching where
  point : Point
  tags : List String
  now : Instant
  /-- The start of the window; earlier reports do not count. -/
  since : Instant
  radius : Float
  lookbackDays : Int

/-- A bike group and its score. -/
structure GroupMatch where
  group : Int
  score : Float
deriving DecidableEq

/-- The matching of a report filed at a place and time, unless its window leaves the calendar. -/
def Settings.matching? (settings : Settings) (point : Point) (tags : List String) (now : Instant) :
    Option Matching :=
  (now.daysBefore? settings.matchLookbackDays).map fun since =>
    { point, tags, now, since
      radius := settings.matchRadius, lookbackDays := settings.matchLookbackDays }

namespace Matching

/-- Resolved reports still show where a bike stood; invalid ones do not. -/
def statuses : List Status := [.new, .triaged, .forwarded, .resolved]

/-- The query for the candidates. -/
def query [Trigonometry] (matching : Matching) : CandidateQuery where
  since := matching.since
  statuses := statuses
  bounds := some (Bounds.around matching.point matching.radius)

/-- The score of a candidate that passes the gates. -/
def score? [Trigonometry] (matching : Matching) (candidate : Report) : Option Float :=
  if candidate.status = .invalid ∨ candidate.createdAt < matching.since then none
  else if Score.shareTag matching.tags candidate.tags then
    let distance := matching.point.distance candidate.location.point
    if matching.radius < distance then none
    else some (Score.composite (Score.ofDistance distance matching.radius)
      (Score.ofTags matching.tags candidate.tags)
      (Score.ofAge candidate.createdAt matching.now matching.lookbackDays))
  else none

/-- Counts a score for a group, in a list with one entry per group in ascending order. -/
def count (group : Int) (score : Float) : List GroupMatch → List GroupMatch
  | [] => [⟨group, score⟩]
  | best :: rest =>
    if group < best.group then ⟨group, score⟩ :: best :: rest
    else if group = best.group then ⟨group, Binary64.larger best.score score⟩ :: rest
    else best :: count group score rest

/-- The best score of each group, by ascending number. -/
def bestPerGroup (score? : Report → Option Float) (candidates : List Report) : List GroupMatch :=
  candidates.foldl
    (fun best candidate =>
      match score? candidate with
      | some score => count candidate.bikeGroup score best
      | none => best)
    []

/-- Keeps the first of two matches unless the second one scores higher. -/
def prefer (winner : Option GroupMatch) (next : GroupMatch) : Option GroupMatch :=
  match winner with
  | none => some next
  | some winner => if Binary64.less winner.score next.score then some next else some winner

/-- The group of the best score, none if no candidate has one. -/
def bestBy (score? : Report → Option Float) (candidates : List Report) : Option GroupMatch :=
  (bestPerGroup score? candidates).foldl prefer none

/-- The group that the report joins, none if no candidate passes. -/
def best? [Trigonometry] (matching : Matching) (candidates : List Report) : Option GroupMatch :=
  bestBy matching.score? candidates

end Matching

end AbandonedBikes
