import AbandonedBikes.Report.Candidates
import AbandonedBikes.Report.Score
import AbandonedBikes.Settings
import AbandonedBikes.Sorting.Adaptive
/-!
# Suggesting duplicates

Open reports near a report may be duplicates of it. They are ranked by their score, the newer number
first among equals, and only the best few are suggested. Nothing is merged without an operator.

Scores that are numbers rank the candidates without doubt, whatever way they are sorted. A score that
is not a number counts as equal to every other, so that the order may contradict itself; then the
ranking is what the adaptive sort makes of it, and there may be none.
-/

namespace AbandonedBikes

/-- What duplicates are sought for. -/
structure DuplicateSearch where
  report : Report
  now : Instant
  /-- The start of the window; earlier reports do not count. -/
  since : Instant
  radius : Float
  lookbackDays : Int
  limit : Nat

/-- A suggested duplicate, with its distance in metres. -/
structure Suggestion where
  report : Int
  score : Float
  distance : Float
deriving DecidableEq

/-- The search for duplicates of a report, unless its window leaves the calendar. -/
def Settings.duplicateSearch? (settings : Settings) (report : Report) (now : Instant) :
    Option DuplicateSearch :=
  (now.daysBefore? settings.duplicateLookbackDays).map fun since =>
    { report, now, since
      radius := settings.duplicateRadius, lookbackDays := settings.duplicateLookbackDays
      limit := settings.maxDuplicates }

namespace DuplicateSearch

/-- The query for the candidates. -/
def query [Trigonometry] (search : DuplicateSearch) : CandidateQuery where
  since := search.since
  statuses := Status.openStatuses
  bounds := some (Bounds.around search.report.location.point search.radius)

/-- The suggestion for a candidate that passes the gates. A report is no duplicate of itself. -/
def suggest? [Trigonometry] (search : DuplicateSearch) (candidate : Report) : Option Suggestion :=
  if candidate.id = search.report.id ∨ candidate.status.isOpen = false ∨
      candidate.createdAt < search.since then none
  else
    let distance := search.report.location.point.distance candidate.location.point
    if search.radius < distance then none
    else some
      { report := candidate.id
        score := Score.composite (Score.ofDistance distance search.radius)
          (Score.ofTags search.report.tags candidate.tags)
          (Score.ofAge candidate.createdAt search.now search.lookbackDays)
        distance }

/-- Whether a suggestion comes before another: by the higher score, then by the higher number.
Scores that are not numbers leave it to the numbers of the reports. -/
def precedes (a b : Suggestion) : Bool :=
  if Binary64.less b.score a.score then true
  else if Binary64.less a.score b.score then false
  else decide (b.report < a.report)

/-- Suggestions in their order, best first. -/
def sort? (suggestions : List Suggestion) : Option (List Suggestion) :=
  if suggestions.any fun suggestion => Binary64.isNaN suggestion.score then
    adaptiveSort precedes suggestions
  else some (insertionSort precedes suggestions)

/-- Scores that are numbers always have an order. -/
theorem sort?_of_numbers {suggestions : List Suggestion}
    (h : ∀ suggestion ∈ suggestions, Binary64.isNaN suggestion.score = false) :
    sort? suggestions = some (insertionSort precedes suggestions) := by
  have none_nan : (suggestions.any fun suggestion => Binary64.isNaN suggestion.score) = false := by
    simpa using h
  simp [sort?, none_nan]

/-- The first suggestions for a list of candidates, best first, unless their scores contradict each
other. -/
def rankBy (suggest? : Report → Option Suggestion) (limit : Nat) (candidates : List Report) :
    Option (List Suggestion) :=
  (sort? (candidates.filterMap suggest?)).map fun sorted => sorted.take limit

/-- The suggestions that are shown for a report. -/
def rank? [Trigonometry] (search : DuplicateSearch) (candidates : List Report) :
    Option (List Suggestion) :=
  rankBy search.suggest? search.limit candidates

end DuplicateSearch

end AbandonedBikes
