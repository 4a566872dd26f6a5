import AbandonedBikes.Report.Named
/-!
# The life of a report

A new report is looked at, passed on and closed. The lifecycle only moves forward: each status lists
the statuses that may follow it, and the two closed ones list none.
-/

namespace AbandonedBikes

/-- Where a report stands with the operators. -/
inductive Status where
  | new
  | triaged
  | forwarded
  | resolved
  | invalid
deriving DecidableEq, Repr, Inhabited

namespace Status

def all : List Status := [.new, .triaged, .forwarded, .resolved, .invalid]

def name : Status → String
  | .new => "new"
  | .triaged => "triaged"
  | .forwarded => "forwarded"
  | .resolved => "resolved"
  | .invalid => "invalid"

/-- The statuses of a problem that is still on the street. -/
def openStatuses : List Status := [.new, .triaged, .forwarded]

def isOpen (status : Status) : Bool := openStatuses.contains status

/-- The statuses that may follow. -/
def allowed : Status → List Status
  | .new => [.triaged, .invalid]
  | .triaged => [.forwarded, .resolved, .invalid]
  | .forwarded => [.resolved, .invalid]
  | .resolved => []
  | .invalid => []

def isTerminal (status : Status) : Bool := status.allowed.isEmpty

def canBecome (status next : Status) : Bool := status.allowed.contains next

/-- The status with the given name. -/
def ofName? (word : String) : Option Status := findNamed? name all word

/-- Reads the name of a status. -/
def read (word : String) : Except UnknownWord Status := readWord .status name all word

@[simp] theorem ofName?_name (status : Status) : ofName? status.name = some status := by
  cases status <;> decide

end Status

end AbandonedBikes
