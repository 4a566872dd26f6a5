import AbandonedBikes.Database.Wire
import AbandonedBikes.Json.Reader
import AbandonedBikes.Recompute.Command
import Std.Time.DateTime.Timestamp
/-!
# The recompute program

The program talks to its database through the standard streams. It writes a statement as one line of
JSON and reads the reply from one line. Where the input has ended, the database finds nothing.
-/

namespace AbandonedBikes.Recompute

/-- Sends a statement and waits for the reply. -/
def exchange (stdin stdout : IO.FS.Stream) (statement : Statement) : IO Reply := do
  stdout.putStrLn statement.toJson.write
  stdout.flush
  let line ← stdin.getLine
  return ((Json.ofText? line).bind Reply.ofJson?).getD .nothing

/-- Holds a dialogue over the standard streams. -/
def converse {α : Type} (stdin stdout : IO.FS.Stream) : Dialogue α → IO α
  | .done value => return value
  | .ask statement next => do converse stdin stdout (next (← exchange stdin stdout statement))

/-- The variables that are set. -/
def readEnvironment : IO Settings.Environment := do
  let values ← keys.mapM fun name => return (name, ← IO.getEnv name)
  return fun name => (values.lookup name).join

/-- The present. -/
def readClock : IO Instant := do
  return .ofNanos (← Std.Time.Timestamp.now).toNanosecondsSinceUnixEpoch.val

end AbandonedBikes.Recompute

open AbandonedBikes Recompute in
def main (arguments : List String) : IO UInt32 := do
  let command := command (← readEnvironment) arguments (← readClock)
  let stdout ← IO.getStdout
  let ending ← converse (← IO.getStdin) stdout command
  ending.output.forM stdout.putStrLn
  match ending.complaint with
  | some complaint => (← IO.getStderr).putStrLn complaint
  | none => pure ()
  return UInt32.ofNat ending.code
