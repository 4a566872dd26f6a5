/-!
# Double precision numbers by their bit patterns

The order of two doubles, the double nearest to a quotient and the exact value of a double are
all defined here from the 64 bits of the number. They are therefore ordinary arithmetic on `Nat`
and `Int`, about which laws can be stated, and they agree with the machine's own comparison and
rounding.
-/

namespace AbandonedBikes.Binary64

/-- The bits below the sign. Ordering positive numbers is ordering their magnitudes. -/
def magnitude (x : Float) : Nat := x.toBits.toNat % Nat.pow 2 63

/-- Whether the sign bit is set, which it is also for negative zero. -/
def isNegative (x : Float) : Bool := decide (Nat.pow 2 63 ≤ x.toBits.toNat)

/-- The magnitude of infinity; every larger magnitude is a NaN. -/
def infinityMagnitude : Nat := 0x7ff0000000000000

def isNaN (x : Float) : Bool := decide (infinityMagnitude < magnitude x)

def isFinite (x : Float) : Bool := decide (magnitude x < infinityMagnitude)

/-- The place of a number that is not a NaN in the order of all doubles. Both zeros have place 0. -/
def place (x : Float) : Int :=
  if isNegative x then -(magnitude x : Int) else (magnitude x : Int)

/-- The numerical order, in which a NaN is related to nothing. -/
def less (x y : Float) : Bool :=
  !isNaN x && !isNaN y && decide (place x < place y)

/-- The larger of two numbers; a NaN gives way to the other one. -/
def larger (x y : Float) : Float :=
  if isNaN x then y else if isNaN y then x else if less x y then y else x

/-- The smaller of two numbers; a NaN gives way to the other one. -/
def smaller (x y : Float) : Float :=
  if isNaN x then y else if isNaN y then x else if less y x then y else x

/-! Between numbers the order is the order of their places. -/

section

variable {x y : Float} (hx : isNaN x = false) (hy : isNaN y = false)
include hx hy

theorem less_iff : less x y = true ↔ place x < place y := by simp [less, hx, hy]

theorem place_le_larger_left : place x ≤ place (larger x y) := by
  simp only [larger, hx, hy, Bool.false_eq_true, if_false, less_iff hx hy]
  split <;> omega

theorem place_le_larger_right : place y ≤ place (larger x y) := by
  simp only [larger, hx, hy, Bool.false_eq_true, if_false, less_iff hx hy]
  split <;> omega

end

/-- The larger of two is one of them. -/
theorem larger_eq_or (x y : Float) : larger x y = x ∨ larger x y = y := by
  unfold larger
  split
  · exact .inr rfl
  · split
    · exact .inl rfl
    · split
      · exact .inr rfl
      · exact .inl rfl

/-- The quotient rounded to the nearest integer, a half going to the even neighbour. -/
def roundQuotient (numerator denominator : Nat) : Nat :=
  let quotient := numerator / denominator
  let twice := 2 * (numerator % denominator)
  if twice < denominator then quotient
  else if denominator < twice then quotient + 1
  else quotient + quotient % 2

/-- The exponent of the highest power of two that is not above the quotient. -/
def exponentOf (numerator denominator : Nat) : Int :=
  let guess : Int := (numerator.log2 : Int) - (denominator.log2 : Int)
  if denominator * Nat.pow 2 guess.toNat ≤ numerator * Nat.pow 2 (-guess).toNat then guess else guess - 1

/-- The magnitude of the double nearest to a positive quotient. The unit of the last place is
`2 ^ unit`; a carry out of the 53 bits runs into the exponent field, which is what it should do. -/
def nearestMagnitude (numerator denominator : Nat) : Nat :=
  if numerator = 0 then 0
  else
    let unit : Int := max (exponentOf numerator denominator - 52) (-1074)
    let rounded := roundQuotient (numerator * Nat.pow 2 (-unit).toNat) (denominator * Nat.pow 2 unit.toNat)
    min ((unit + 1074).toNat * Nat.pow 2 52 + rounded) infinityMagnitude

/-- The double with the given sign and magnitude. -/
def ofMagnitude (negative : Bool) (magnitude : Nat) : Float :=
  Float.ofBits (UInt64.ofNat (if negative then magnitude + Nat.pow 2 63 else magnitude))

/-- The number of decimal digits of `n`, counting none for zero. -/
def decimalLength (n : Nat) : Nat := if n = 0 then 0 else (Nat.toDigits 10 n).length

/-- The double nearest to `digits * 10 ^ exponent`. Beyond the range of doubles the power of ten is
not computed: at or above `10 ^ 310` every number is infinite, below `10 ^ (-330)` it is zero. -/
def ofDecimal (negative : Bool) (digits : Nat) (exponent : Int) : Float :=
  let top : Int := decimalLength digits + exponent
  if digits = 0 ∨ top < -330 then ofMagnitude negative 0
  else if 310 < top then ofMagnitude negative infinityMagnitude
  else ofMagnitude negative
    (nearestMagnitude (digits * Nat.pow 10 exponent.toNat) (Nat.pow 10 (-exponent).toNat))

/-- The double nearest to an integer. -/
def ofInt (n : Int) : Float := ofMagnitude (decide (n < 0)) (nearestMagnitude n.natAbs 1)

/-- The value of a finite magnitude as `significand * 2 ^ exponent`. -/
def significand (magnitude : Nat) : Nat :=
  if magnitude < Nat.pow 2 52 then magnitude else magnitude % Nat.pow 2 52 + Nat.pow 2 52

/-- The exponent that goes with `significand`. -/
def exponent (magnitude : Nat) : Int := (max (magnitude / Nat.pow 2 52) 1 : Nat) - 1075

/-- The nearest whole number, a half going away from zero. From `2 ^ 52` on all numbers are whole. -/
def round (x : Float) : Float :=
  if 0 ≤ exponent (magnitude x) then x
  else
    let unit := Nat.pow 2 (-exponent (magnitude x)).toNat
    ofMagnitude (isNegative x)
      (nearestMagnitude ((2 * significand (magnitude x) + unit) / (2 * unit)) 1)

/-- The number divided by a power of two. -/
def halve (x : Float) (times : Nat) : Float := x / ofInt (Nat.pow 2 times : Nat)

/-- The remainder of `x` in `[0, period)`, for `x` less than one period outside that range. -/
def wrapOnce (x period : Float) : Float :=
  if x < 0 then x + period else if x ≥ period then x - period else x

end AbandonedBikes.Binary64
