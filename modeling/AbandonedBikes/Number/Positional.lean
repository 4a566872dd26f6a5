import AbandonedBikes.Number.Binary64
/-!
# Shortest positional text of a double

A double is written with the fewest decimal digits that read back as the same double, and always
positionally: no exponent, and no point when there is no fraction. The digits are found on the
coarsest decimal grid that has a point in the interval of reals rounding to the number.
-/

namespace AbandonedBikes.Positional

open Binary64

/-- Twice the distance from a significand down to the numbers that still round to it, in quarters
of the last place. The gap below a power of two is half as wide. -/
def lowerGap (magnitude : Nat) : Nat :=
  if magnitude % Nat.pow 2 52 = 0 ∧ Nat.pow 2 52 < magnitude then 1 else 2

/-- A point `c * 10 ^ power` of the decimal grid that reads back as the given magnitude. If both
neighbours of the value do, it is the nearer one, and the larger one of two that are equally near.
Everything is scaled to integers first. -/
def gridPoint? (magnitude : Nat) (power : Int) : Option Nat :=
  let quarter := 4 * significand magnitude
  let low := quarter - lowerGap magnitude
  let high := quarter + 2
  let binary := exponent magnitude - 2
  let grid := Nat.pow 10 power.toNat * Nat.pow 2 (-binary).toNat
  let unit := Nat.pow 2 binary.toNat * Nat.pow 10 (-power).toNat
  let closed := significand magnitude % 2 = 0
  let readsBack (c : Nat) : Bool :=
    if closed then decide (low * unit ≤ c * grid ∧ c * grid ≤ high * unit)
    else decide (low * unit < c * grid ∧ c * grid < high * unit)
  let below := quarter * unit / grid
  match readsBack below, readsBack (below + 1) with
  | false, false => none
  | true, false => some below
  | false, true => some (below + 1)
  | true, true =>
    if 2 * (quarter * unit) < (2 * below + 1) * grid then some below else some (below + 1)

/-- The first grid with a hit, going from `power` to finer grids. -/
def coarsest (magnitude : Nat) : Nat → Int → Nat × Int
  | 0, power => (0, power)
  | steps + 1, power =>
    match gridPoint? magnitude power with
    | some c => (c, power)
    | none => coarsest magnitude steps (power - 1)

/-- The shortest decimal that reads back as a positive finite magnitude. The search starts above
the number, and seventeen digits always suffice, so it ends within the steps it is given. -/
def shortest (magnitude : Nat) : Nat × Int :=
  let top : Int := ((significand magnitude).log2 : Int) + exponent magnitude
  coarsest magnitude 30 (top * 30103 / 100000 + 3)

/-- The positional text of `digits * 10 ^ power`. -/
def layout (digits : Nat) (power : Int) : String :=
  let text := Nat.toDigits 10 digits
  if 0 ≤ power then String.ofList (text ++ List.replicate power.toNat '0')
  else
    let places := (-power).toNat
    let padded := List.replicate (places + 1 - text.length) '0' ++ text
    String.ofList (padded.take (padded.length - places) ++ '.' :: padded.drop (padded.length - places))

/-- The text of a number: `NaN`, `inf`, or digits, with a sign in front if the sign bit is set. -/
def text (x : Float) : String :=
  if isNaN x then "NaN"
  else
    let body :=
      if magnitude x = infinityMagnitude then "inf"
      else if magnitude x = 0 then "0"
      else
        let (digits, power) := shortest (magnitude x)
        layout digits power
    if isNegative x then "-" ++ body else body

end AbandonedBikes.Positional
