import AbandonedBikes.Database.Store
import AbandonedBikes.Proofs.Audit.Payload
import AbandonedBikes.Proofs.Database.Columns
import AbandonedBikes.Proofs.Database.Course
/-!
# The condition on candidates

The store in memory asks a query whether it selects a report. The database is sent a condition with
eight places and what is bound to them. Such conditions are given a text and a meaning here, and it is
shown that the text is the one that is sent, and that the condition holds for the columns of a report on
earth if and only if the query selects it. Without a box it is bound to the whole earth, and a box that
does not cross the meridian of 180 degrees fills both ranges of longitude.
-/

namespace AbandonedBikes

/-- A column that candidates are selected by. -/
inductive CandidateColumn where
  | createdAt
  | status
  | lat
  | lng

namespace CandidateColumn

def name : CandidateColumn → String
  | .createdAt => "created_at"
  | .status => "status"
  | .lat => "lat"
  | .lng => "lng"

/-- What a row has in the column. -/
def value (row : ReportRow) : CandidateColumn → Parameter
  | .createdAt => .time row.createdAt
  | .status => .text row.status
  | .lat => .float row.lat
  | .lng => .float row.lng

end CandidateColumn

/-- A condition on a row. The numbers are those of places for parameters. -/
inductive Condition where
  | atLeast (column : CandidateColumn) (low : Nat)
  | anyOf (column : CandidateColumn) (words : Nat)
  | between (column : CandidateColumn) (low high : Nat)
  | both (first second : Condition)
  | either (first second : Condition)

namespace Condition

def place (n : Nat) : String := "$" ++ toString n

/-- The condition as it is written. Only an alternative needs parentheses. -/
def text : Condition → String
  | .atLeast column low => column.name ++ " >= " ++ place low
  | .anyOf column words => column.name ++ " = ANY(" ++ place words ++ ")"
  | .between column low high => column.name ++ " BETWEEN " ++ place low ++ " AND " ++ place high
  | .both first second => first.text ++ " AND " ++ second.text
  | .either first second => "(" ++ first.text ++ " OR " ++ second.text ++ ")"

/-- Whether a value is at most another one of its type. Floating point numbers are compared as
`LngSpan.within` compares them, so what is no number is at most nothing, and nothing is at most it.
PostgreSQL puts these values above all numbers, so that it would answer otherwise for a report or a box
with such a coordinate. -/
def atMost : Parameter → Parameter → Option Bool
  | .time a, .time b => some (decide (a ≤ b))
  | .float a, .float b => some (decide (a ≤ b))
  | _, _ => none

/-- Whether a word is one of a list. -/
def among : Parameter → Parameter → Option Bool
  | .text word, .texts words => some (words.contains word)
  | _, _ => none

/-- What the server takes the condition to mean for a row: both ends of a range belong to it, and a word
is looked for in a list. There is no answer if a place has no parameter, or one of another type than the
column. -/
def holds (parameters : List Parameter) (row : ReportRow) : Condition → Option Bool
  | .atLeast column low => do atMost (← parameters[low - 1]?) (column.value row)
  | .anyOf column words => do among (column.value row) (← parameters[words - 1]?)
  | .between column low high => do
    let above ← atMost (← parameters[low - 1]?) (column.value row)
    let below ← atMost (column.value row) (← parameters[high - 1]?)
    return above && below
  | .both first second => return (← first.holds parameters row) && (← second.holds parameters row)
  | .either first second => return (← first.holds parameters row) || (← second.holds parameters row)

/-- The condition on candidates. -/
def onCandidates : Condition :=
  .both (.both (.both (.atLeast .createdAt 1) (.anyOf .status 2)) (.between .lat 3 4))
    (.either (.between .lng 5 6) (.between .lng 7 8))

end Condition

/-- What is bound to the places of the condition on candidates. -/
def CandidateFilter.bound (filter : CandidateFilter) : List Parameter :=
  [.time filter.since, .texts (filter.statuses.map Status.name), .float filter.lat.1,
    .float filter.lat.2, .float filter.lng.1.1, .float filter.lng.1.2, .float filter.lng.2.1,
    .float filter.lng.2.2]

/-- A parameter as it is sent, with a time in the precision of the database. -/
def Parameter.sent : Parameter → Parameter
  | .time t => .time t.inMicros
  | other => other

/-- A query is one statement, with the condition of the query. -/
theorem exchanges_candidates (query : CandidateQuery) {σ : Type} (server : Server σ) (state : σ) :
    ∃ reply, ((Database.store.candidates query).run.hold server state).exchanges =
      [⟨.candidates query.filter, reply⟩] := by
  obtain ⟨reply, sent, -⟩ := Query.of_course_checked (Dialogue.course_hold server _ state)
  exact ⟨reply, sent⟩

theorem text_onCandidates : Condition.onCandidates.text =
    "created_at >= $1 AND status = ANY($2) AND lat BETWEEN $3 AND $4 AND " ++
      "(lng BETWEEN $5 AND $6 OR lng BETWEEN $7 AND $8)" := by
  decide +kernel

theorem text_candidates (filter : CandidateFilter) :
    (Statement.candidates filter).text =
      "SELECT " ++ Statement.reportColumns ++ " FROM reports WHERE " ++ Condition.onCandidates.text ++
        " ORDER BY created_at ASC, id ASC" := by
  rw [text_onCandidates]
  unfold Statement.text
  simp only [String.append_assoc]
  exact congrArg (fun rest => "SELECT " ++ (Statement.reportColumns ++ rest)) (by decide +kernel)

/-- What the condition on candidates means. -/
theorem holds_onCandidates (filter : CandidateFilter) (row : ReportRow) :
    Condition.onCandidates.holds filter.bound row =
      some (decide (filter.since ≤ row.createdAt) &&
        (filter.statuses.map Status.name).contains row.status &&
        LngSpan.within filter.lat row.lat &&
        (LngSpan.within filter.lng.1 row.lng || LngSpan.within filter.lng.2 row.lng)) := rfl

theorem contains_names (statuses : List Status) (status : Status) :
    (statuses.map Status.name).contains status.name = statuses.contains status := by
  rw [Bool.eq_iff_iff]
  simp

theorem selects_eq (query : CandidateQuery) (report : Report) :
    query.selects report =
      (decide (query.since ≤ report.createdAt) && query.statuses.contains report.status &&
        query.bounds.all fun bounds => bounds.contains report.location.point) := by
  unfold CandidateQuery.selects
  cases query.bounds <;> rfl

/-- The whole earth is bound where the query has no box. -/
theorem within_filter (query : CandidateQuery) {lat lng : Float} (lat_range : -90.0 ≤ lat ∧ lat ≤ 90.0)
    (lng_range : -180.0 ≤ lng ∧ lng ≤ 180.0) :
    (LngSpan.within query.filter.lat lat &&
        (LngSpan.within query.filter.lng.1 lng || LngSpan.within query.filter.lng.2 lng)) =
      query.bounds.all fun bounds => bounds.contains ⟨lat, lng⟩ := by
  rw [CandidateQuery.filter]
  cases query.bounds with
  | some bounds => rfl
  | none => simp [LngSpan.within, lat_range, lng_range]

theorem holds_filter (query : CandidateQuery) {report : Report}
    (lat_range : -90.0 ≤ report.location.lat ∧ report.location.lat ≤ 90.0)
    (lng_range : -180.0 ≤ report.location.lng ∧ report.location.lng ≤ 180.0) :
    Condition.onCandidates.holds query.filter.bound report.columns =
      some (query.selects report) := by
  rw [holds_onCandidates, selects_eq, Bool.and_assoc, ← contains_names]
  exact congrArg (fun place => some (_ && _ && place)) (within_filter query lat_range lng_range)

/-- A query is sent as one statement, whose text has the condition on candidates. With what is bound to
its places this condition holds for a report on earth if and only if the query selects the report. What
is sent is what is bound, but for the start of the window: it is cut to the precision of the database. -/
theorem candidates_selected (query : CandidateQuery) (report : Report)
    (lat_range : -90.0 ≤ report.location.lat ∧ report.location.lat ≤ 90.0)
    (lng_range : -180.0 ≤ report.location.lng ∧ report.location.lng ≤ 180.0) :
    (∀ {σ : Type} (server : Server σ) (state : σ), ∃ reply,
        ((Database.store.candidates query).run.hold server state).exchanges =
          [⟨.candidates query.filter, reply⟩]) ∧
      (Statement.candidates query.filter).text =
        "SELECT " ++ Statement.reportColumns ++ " FROM reports WHERE " ++ Condition.onCandidates.text ++
          " ORDER BY created_at ASC, id ASC" ∧
      (Statement.candidates query.filter).parameters = query.filter.bound.map Parameter.sent ∧
      Condition.onCandidates.holds query.filter.bound report.columns = some (query.selects report) ∧
      Condition.onCandidates.holds (Statement.candidates query.filter).parameters report.columns =
        some ({ query with since := query.since.inMicros }.selects report) := by
  refine ⟨exchanges_candidates query, text_candidates _, rfl, holds_filter query lat_range lng_range, ?_⟩
  exact holds_filter { query with since := query.since.inMicros } lat_range lng_range

/-- The box crosses the meridian of 180 degrees, and the report lies to the east of it. -/
theorem candidates_selected_across :
    let box : Bounds := ⟨-18, -16, ⟨179.5, -179.5⟩⟩
    let query : CandidateQuery := ⟨default, [.new, .triaged], some box⟩
    let report : Report := { (default : Report) with location := ⟨-17, -179.75, 5⟩ }
    Condition.onCandidates.holds query.filter.bound report.columns = some true := by
  intro box query report
  have selected := candidates_selected query report (by decide) (by decide)
  exact selected.2.2.2.1.trans (by decide +kernel)

end AbandonedBikes
