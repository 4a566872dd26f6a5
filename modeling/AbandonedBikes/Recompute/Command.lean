import AbandonedBikes.Database.EventLog
import AbandonedBikes.Recompute.Arguments
import AbandonedBikes.Recompute.Tally
/-!
# The recompute command

The command reads its arguments and its settings before it touches the database. Then it creates
the tables that are missing, recounts every bike group or the one that was asked for, and prints a
summary. Only a run that comes to its end prints one.
-/

namespace AbandonedBikes.Recompute

/-- What the command prints, and the code that it ends with. -/
structure Ending where
  code : Nat
  /-- The lines of the standard output. -/
  output : List String := []
  /-- What goes to the standard error. -/
  complaint : Option String := none
deriving DecidableEq, Repr, Inhabited

namespace Ending

def misused (error : UsageError) : Ending := { code := 2, complaint := some error.message }

def failed (message : String) : Ending := { code := 1, complaint := some ("Error: " ++ message) }

def finished (tally : Tally) (json : Bool) : Ending :=
  { code := 0, output := [if json then tally.toJson.write else tally.text] }

end Ending

/-- The service over a database. -/
def service (settings : Settings) : Service Dialogue := ⟨Database.store, Database.log, settings⟩

/-- Prepares the database and recounts every group, or only one. -/
def run (settings : Settings) (only : Option Int) (now : Instant) : Attempt Dialogue Tally := do
  Database.migrateReports
  Database.migrateEvents
  let groups ← match only with
    | some group => pure [group]
    | none => Database.groupIds
  recomputeAll (service settings) now {} groups

/-- The name of the variable that may hold the database. -/
def databaseKey : String := "DATABASE_URL"

/-- The names of the variables that the command reads. -/
def keys : List String := databaseKey :: Settings.keys

/-- The whole command. -/
def command (environment : Settings.Environment) (arguments : List String) (now : Instant) :
    Dialogue Ending := do
  let database := environment databaseKey
  match Request.ofArguments database arguments with
  | .error error => return Ending.misused error
  | .ok .help => return { code := 0, output := helpLines database }
  | .ok (.run arguments) =>
    match Settings.ofEnvironment environment with
    | .error unreadable => return Ending.failed unreadable.message
    | .ok settings =>
      match ← (run settings arguments.group now).run with
      | .ok tally => return Ending.finished tally arguments.json
      | .error failure => return Ending.failed failure.message

end AbandonedBikes.Recompute
