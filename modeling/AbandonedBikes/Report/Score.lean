import AbandonedBikes.Number.Binary64
import AbandonedBikes.Time.Instant
/-!
# Scores

How likely two reports are to describe the same thing is a weighted sum of three scores between 0
and 1: how near they are, how many tags they share and how recent the older one is.
-/

namespace AbandonedBikes.Score

def distanceWeight : Float := 0.60

def tagWeight : Float := 0.25

def recencyWeight : Float := 0.15

/-- Clamps a number to the unit interval. A NaN stays a NaN. -/
def clampUnit (x : Float) : Float := if x < 0.0 then 0.0 else if 1.0 < x then 1.0 else x

/-- 1 at the place itself, falling linearly to 0 at the radius. -/
def ofDistance (distance radius : Float) : Float :=
  if radius ≤ 0.0 then 0.0 else clampUnit (1.0 - distance / radius)

/-- The number of different tags that both lists have. -/
def sharedTags (a b : List String) : Nat := (a.eraseDups.filter b.contains).length

/-- The number of different tags in either list. -/
def allTags (a b : List String) : Nat := (a ++ b).eraseDups.length

/-- The part of all tags that is shared, 0 if there are none. Repetitions do not count. -/
def ofTags (a b : List String) : Float :=
  if allTags a b = 0 then 0.0 else Float.ofNat (sharedTags a b) / Float.ofNat (allTags a b)

/-- Whether some tag is in both lists. -/
def shareTag (a b : List String) : Bool := a.any b.contains

/-- The age in days, in whole milliseconds, negative for what lies ahead. -/
def ageDays (createdAt now : Instant) : Float :=
  Binary64.ofInt (Instant.millisBetween createdAt now) / 86400000.0

/-- 1 for what is new, falling linearly to 0 at the end of the lookback. -/
def ofAge (createdAt now : Instant) (lookbackDays : Int) : Float :=
  if lookbackDays ≤ 0 then 0.0
  else clampUnit (1.0 - ageDays createdAt now / Binary64.ofInt lookbackDays)

/-- Squares and multiplies, from the lowest binary digit of the exponent. -/
def powerLoop : Nat → Nat → Float → Float → Float
  | 0, _, _, result => result
  | fuel + 1, exponent, base, result =>
    let result := if exponent % 2 = 1 then result * base else result
    if exponent / 2 = 0 then result else powerLoop fuel (exponent / 2) (base * base) result

/-- A power of ten. -/
def powerOfTen (exponent : Int) : Float :=
  let power := powerLoop 64 exponent.natAbs 10.0 1.0
  if exponent < 0 then 1.0 / power else power

/-- Rounds to a number of decimal places, a half going away from zero. -/
def roundTo (x : Float) (places : Int) : Float :=
  let factor := powerOfTen places
  Binary64.round (x * factor) / factor

/-- The weighted sum of the three scores, to four places. -/
def composite (distance tags recency : Float) : Float :=
  roundTo (distance * distanceWeight + tags * tagWeight + recency * recencyWeight) 4

end AbandonedBikes.Score
