/-!
# Locks by key

Work on the same keys is done one after the other. Each key has a lock of its own, which is made when
the key is first asked for and found in a slot of the table from then on. An attempt takes the locks of
all its keys or none, and never waits.

A lock is shared by its slot and by whoever guards it. The next attempt drops every slot whose lock is
not shared any more; if its key is asked for again, it gets a new lock.
-/

namespace AbandonedBikes

/-- A key and its lock. Locks are numbered in the order in which they are made. -/
structure LockSlot (κ : Type) where
  key : κ
  lock : Nat
deriving DecidableEq

/-- The state of the locks. Attempts are counted from zero, and each one that succeeded guards the
locks of some slots until it is released. -/
structure LockTable (κ : Type) where
  slots : List (LockSlot κ) := []
  /-- The number of locks made so far. -/
  made : Nat := 0
  attempts : List (Option (List (LockSlot κ))) := []

namespace LockTable

variable {κ : Type} [LE κ] [DecidableLE κ] [DecidableEq κ]

/-- The slots whose locks are guarded. -/
def guarded (table : LockTable κ) : List (LockSlot κ) :=
  table.attempts.flatMap fun taken => taken.getD []

/-- The keys that are held. -/
def held (table : LockTable κ) : List κ := table.guarded.map LockSlot.key

/-- The keys that have a slot. -/
def keys (table : LockTable κ) : List κ := table.slots.map LockSlot.key

/-- Leaves out every key that is followed by the same key. -/
def dropRepeats : List κ → List κ
  | key :: next :: rest =>
    if key = next then dropRepeats (next :: rest) else key :: dropRepeats (next :: rest)
  | keys => keys

/-- Keys in ascending order, each one once. -/
def normalize (keys : List κ) : List κ :=
  dropRepeats (keys.mergeSort fun a b => decide (a ≤ b))

/-- How many slots and guards share a lock. -/
def shares (table : LockTable κ) (lock : Nat) : Nat :=
  (table.slots.map LockSlot.lock).count lock + (table.guarded.map LockSlot.lock).count lock

/-- Drops the slots whose locks are not shared. -/
def prune (table : LockTable κ) : LockTable κ :=
  { table with slots := table.slots.filter fun slot => decide (1 < table.shares slot.lock) }

/-- The slot of a key, with a new lock if the key has none. -/
def track (table : LockTable κ) (key : κ) : LockSlot κ × LockTable κ :=
  match table.slots.find? fun slot => slot.key == key with
  | some slot => (slot, table)
  | none =>
    let slot : LockSlot κ := ⟨key, table.made⟩
    (slot, { table with slots := table.slots ++ [slot], made := table.made + 1 })

/-- The slots of some keys. -/
def trackAll (table : LockTable κ) : List κ → List (LockSlot κ) × LockTable κ
  | [] => ([], table)
  | key :: rest =>
    let (slot, table) := table.track key
    let (slots, table) := table.trackAll rest
    (slot :: slots, table)

/-- Whether some locks can be guarded one after another. A lock that is guarded cannot be guarded
again. -/
def canGuard (guarded : List Nat) : List Nat → Bool
  | [] => true
  | lock :: rest => decide (lock ∉ guarded) && canGuard (lock :: guarded) rest

/-- Tries to take keys, and gives them back in order if it succeeds. An attempt that fails gives up the
locks that it has guarded, but not its slots. -/
def acquire (table : LockTable κ) (keys : List κ) : Option (List κ) × LockTable κ :=
  let keys := normalize keys
  let (slots, tracked) := table.prune.trackAll keys
  if canGuard (tracked.guarded.map LockSlot.lock) (slots.map LockSlot.lock) then
    (some keys, { tracked with attempts := tracked.attempts ++ [some slots] })
  else (none, { tracked with attempts := tracked.attempts ++ [none] })

/-- Gives back the keys of an attempt, and says whether it held any. -/
def release (table : LockTable κ) (attempt : Nat) : Bool × LockTable κ :=
  match table.attempts[attempt]? with
  | some (some _) => (true, { table with attempts := table.attempts.set attempt none })
  | _ => (false, table)

/-- The number of slots. -/
def size (table : LockTable κ) : Nat := table.slots.length

def isEmpty (table : LockTable κ) : Bool := table.slots.isEmpty

end LockTable

end AbandonedBikes
