import AbandonedBikes.Number.Literal
import AbandonedBikes.Text.Blank
import AbandonedBikes.Text.Quoted
/-!
# Settings

The tunable numbers of the system have defaults, and each may be overridden by a variable of the
environment. The variables are read in the order of the fields, so the first bad one is reported.
-/

namespace AbandonedBikes

/-- The tunable numbers. -/
structure Settings where
  /-- How near, in metres, a report must be to another one to join its bike group. -/
  matchRadius : Float := 10.0
  /-- How far back reports are matched. -/
  matchLookbackDays : Int := 180
  /-- How long after the report before it a report has to come to confirm it. -/
  gapDays : Int := 28
  /-- How many reporters a strong signal needs. -/
  strongMinReporters : UInt32 := 2
  /-- How near a report must be to be suggested as a duplicate. -/
  duplicateRadius : Float := 15.0
  /-- How far back duplicates are suggested. -/
  duplicateLookbackDays : Int := 30
  /-- How many duplicates are suggested. -/
  maxDuplicates : Nat := 5
  /-- The number of letters of a cell. -/
  cellPrecision : Nat := 7
  /-- Whether reports near each other are filed one at a time. -/
  serializeByCell : Bool := true
deriving Inhabited

namespace Settings

/-- A variable whose value cannot be read. -/
structure Unreadable where
  key : String
  raw : String
  cause : Literal.Malformed
deriving DecidableEq, Repr

def Unreadable.message (unreadable : Unreadable) : String :=
  unreadable.key ++ " has an invalid value: " ++ Text.quoted unreadable.raw

/-- The variables of the environment that are set. -/
abbrev Environment := String → Option String

/-- The names of the variables in the order in which they are read. -/
def keys : List String :=
  ["BIKESIGNAL_SIGNAL_MATCH_RADIUS_M", "BIKESIGNAL_SIGNAL_LOOKBACK_DAYS",
    "BIKESIGNAL_RECONFIRMATION_GAP_DAYS", "BIKESIGNAL_STRONG_MIN_UNIQUE_REPORTERS",
    "BIKESIGNAL_DEDUPE_RADIUS_M", "BIKESIGNAL_DEDUPE_LOOKBACK_DAYS",
    "BIKESIGNAL_MAX_DEDUPE_CANDIDATES", "BIKESIGNAL_CELL_PRECISION",
    "BIKESIGNAL_SERIALIZE_BY_CELL"]

/-- The value of one variable without the blanks around it, or the default if it is not set. -/
def fieldOf {α : Type} (environment : Environment) (key : String)
    (read : String → Except Literal.Malformed α) (default : α) : Except Unreadable α :=
  match environment key with
  | none => .ok default
  | some raw =>
    match read (Text.trim raw) with
    | .ok value => .ok value
    | .error cause => .error ⟨key, raw, cause⟩

def readWord32 (text : String) : Except Literal.Malformed UInt32 :=
  (Literal.integer Literal.unsigned32 text).map fun n => UInt32.ofNat n.toNat

def readCount (text : String) : Except Literal.Malformed Nat :=
  (Literal.integer Literal.unsigned64 text).map Int.toNat

def readDays (text : String) : Except Literal.Malformed Int := Literal.integer Literal.signed64 text

/-- The settings under an environment. -/
def ofEnvironment (environment : Environment) : Except Unreadable Settings := do
  let defaults : Settings := {}
  let matchRadius ← fieldOf environment "BIKESIGNAL_SIGNAL_MATCH_RADIUS_M"
    Literal.float defaults.matchRadius
  let matchLookbackDays ← fieldOf environment "BIKESIGNAL_SIGNAL_LOOKBACK_DAYS"
    readDays defaults.matchLookbackDays
  let gapDays ← fieldOf environment "BIKESIGNAL_RECONFIRMATION_GAP_DAYS"
    readDays defaults.gapDays
  let strongMinReporters ← fieldOf environment "BIKESIGNAL_STRONG_MIN_UNIQUE_REPORTERS"
    readWord32 defaults.strongMinReporters
  let duplicateRadius ← fieldOf environment "BIKESIGNAL_DEDUPE_RADIUS_M"
    Literal.float defaults.duplicateRadius
  let duplicateLookbackDays ← fieldOf environment "BIKESIGNAL_DEDUPE_LOOKBACK_DAYS"
    readDays defaults.duplicateLookbackDays
  let maxDuplicates ← fieldOf environment "BIKESIGNAL_MAX_DEDUPE_CANDIDATES"
    readCount defaults.maxDuplicates
  let cellPrecision ← fieldOf environment "BIKESIGNAL_CELL_PRECISION"
    readCount defaults.cellPrecision
  let serializeByCell ← fieldOf environment "BIKESIGNAL_SERIALIZE_BY_CELL"
    Literal.boolean defaults.serializeByCell
  return { matchRadius, matchLookbackDays, gapDays, strongMinReporters, duplicateRadius,
           duplicateLookbackDays, maxDuplicates, cellPrecision, serializeByCell }

end Settings

end AbandonedBikes
