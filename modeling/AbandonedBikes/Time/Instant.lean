import AbandonedBikes.Time.Calendar
/-!
# Instants

An instant is a second of the clock and the nanoseconds since that second began. The seconds are
counted from the start of 1970 in universal time and leave leap seconds out. A leap second follows
the last second of a minute and is the second thousand million of its nanoseconds, so instants are
in order when their seconds are, and their nanoseconds within a second.

Differences count the leap second that an instant lies in and no others. Going back by a number of
days can leave the years that the calendar of the system covers, and says so.
-/

namespace AbandonedBikes

/-- A point in time. -/
structure Instant where
  /-- The second of the clock, counted from the start of 1970. -/
  second : Int
  /-- The nanoseconds since the second began. -/
  nanos : Nat
  /-- Only the last second of a minute may be longer, by a leap second. -/
  nanos_lt : nanos < if second % 60 = 59 then 2000000000 else 1000000000
deriving DecidableEq, Repr

namespace Instant

/-- The instant at which a second begins. -/
def atSecond (second : Int) : Instant := ⟨second, 0, by split <;> decide⟩

instance : Inhabited Instant := ⟨atSecond 0⟩

/-- The instant of a second and nanoseconds, if the second is that long. -/
def of? (second : Int) (nanos : Nat) : Option Instant :=
  if h : nanos < if second % 60 = 59 then 2000000000 else 1000000000 then some ⟨second, nanos, h⟩
  else none

instance : LT Instant := ⟨fun a b => a.second < b.second ∨ (a.second = b.second ∧ a.nanos < b.nanos)⟩
instance : LE Instant := ⟨fun a b => a.second < b.second ∨ (a.second = b.second ∧ a.nanos ≤ b.nanos)⟩
instance (a b : Instant) : Decidable (a < b) :=
  inferInstanceAs (Decidable (a.second < b.second ∨ (a.second = b.second ∧ a.nanos < b.nanos)))
instance (a b : Instant) : Decidable (a ≤ b) :=
  inferInstanceAs (Decidable (a.second < b.second ∨ (a.second = b.second ∧ a.nanos ≤ b.nanos)))

theorem lt_iff (a b : Instant) :
    a < b ↔ a.second < b.second ∨ (a.second = b.second ∧ a.nanos < b.nanos) := Iff.rfl

theorem le_iff (a b : Instant) :
    a ≤ b ↔ a.second < b.second ∨ (a.second = b.second ∧ a.nanos ≤ b.nanos) := Iff.rfl

/-- Nanoseconds in a second. -/
def secondNanos : Nat := 1000000000

/-- Seconds in a day. -/
def daySeconds : Int := 86400

/-- The day in universal time, counted from 1970-01-01. -/
def day (t : Instant) : Int := t.second / daySeconds

/-- The second of the day in universal time. -/
def secondOfDay (t : Instant) : Nat := (t.second % daySeconds).toNat

/-- Whether the instant lies in a leap second. -/
def inLeapSecond (t : Instant) : Bool := decide (secondNanos ≤ t.nanos)

/-- The correction of a span for a leap second at one of its ends. The leap second is over if the
time of day at the other end is later than its own, and has not begun if it is earlier. -/
def leapSeconds (a b : Instant) : Int :=
  if a.inLeapSecond ∧ a.secondOfDay < b.secondOfDay then 1
  else if b.inLeapSecond ∧ b.secondOfDay < a.secondOfDay then -1
  else 0

/-- The nanoseconds from `a` to `b`. -/
def nanosBetween (a b : Instant) : Int :=
  (b.second - a.second + leapSeconds a b) * secondNanos + ((b.nanos : Int) - a.nanos)

/-- The whole milliseconds from `a` to `b`, a fraction being dropped toward zero. -/
def millisBetween (a b : Instant) : Int := Int.tdiv (nanosBetween a b) 1000000

/-- The instant so many nanoseconds after the start of 1970, outside any leap second. -/
def ofNanos (nanos : Int) : Instant where
  second := nanos / secondNanos
  nanos := (nanos % secondNanos).toNat
  nanos_lt := by unfold secondNanos; split <;> omega

/-- The start of 2000, from which a database counts its microseconds. -/
def databaseEpoch : Instant := atSecond ((⟨2000, 1, 1⟩ : Date).toDays * daySeconds)

/-- The instant as a database column holds it, in whole microseconds from the start of 2000. The
column knows no leap seconds and has the second after one in its place. -/
def inMicros (t : Instant) : Instant :=
  let micros := Int.tdiv (nanosBetween databaseEpoch t) 1000
  ofNanos (databaseEpoch.second * secondNanos + micros * 1000)

/-- A span of so many seconds, in milliseconds, if it can be represented. -/
def spanMillis? (seconds : Int) : Option Int :=
  if seconds.natAbs ≤ 9223372036854775 then some (seconds * 1000) else none

/-- The first and the last year of the calendar. -/
def firstYear : Int := -262143
def lastYear : Int := 262142

/-- Whether a day lies in a year of the calendar. -/
def inCalendar (day : Int) : Bool :=
  decide ((⟨firstYear, 1, 1⟩ : Date).toDays ≤ day ∧ day ≤ (⟨lastYear, 12, 31⟩ : Date).toDays)

/-- The instant so many days earlier by the clock, with the same nanoseconds. -/
def backDays (t : Instant) (days : Int) : Instant where
  second := t.second - days * daySeconds
  nanos := t.nanos
  nanos_lt := by
    have h : (t.second - days * daySeconds) % 60 = t.second % 60 := by unfold daySeconds; omega
    rw [h]
    exact t.nanos_lt

/-- Without a leap second the nanoseconds fit in any second. -/
theorem nanos_sub_lt (t : Instant) (second : Int) :
    t.nanos - secondNanos < if second % 60 = 59 then 2000000000 else 1000000000 := by
  have h := t.nanos_lt
  unfold secondNanos
  split at h <;> split <;> omega

/-- The instant that a move by some days starts from. A leap second counts as the second after it on
the way back and as the second before it on the way forward. -/
def leaveLeapSecond (t : Instant) (daysBack : Int) : Instant :=
  if ¬ t.inLeapSecond ∨ daysBack = 0 then t
  else
    { second := if 0 < daysBack then t.second + 1 else t.second
      nanos := t.nanos - secondNanos
      nanos_lt := t.nanos_sub_lt _ }

/-- The instant so many days earlier, unless the span or the result cannot be represented. -/
def daysBefore? (t : Instant) (days : Int) : Option Instant :=
  match spanMillis? (days * daySeconds) with
  | none => none
  | some _ =>
    let earlier := (t.leaveLeapSecond days).backDays days
    if inCalendar earlier.day then some earlier else none

end Instant

end AbandonedBikes
