/-!
# Spans of longitude

Longitudes run from -180 to 180 degrees and the two ends are the same meridian. A span that crosses
it is kept with its west end above its east end and is read as two ranges. The definitions ask only
for addition, subtraction and an order, so they can be read with exact numbers as well as with
doubles.
-/

namespace AbandonedBikes

/-- The longitudes from `west` eastward to `east`. -/
structure LngSpan (α : Type) where
  west : α
  east : α
deriving Inhabited

namespace LngSpan

variable {α : Type} [Add α] [Sub α] [Neg α] [LT α] [LE α] [DecidableLT α] [DecidableLE α]
variable [OfNat α 180] [OfNat α 360]

/-- Brings a longitude that is at most one turn off back between -180 and 180. -/
def wrap (lng : α) : α :=
  if (180 : α) < lng then lng - (360 : α)
  else if lng < -(180 : α) then lng + (360 : α)
  else lng

/-- The span of all longitudes within `halfWidth` of a centre. -/
def around (center halfWidth : α) : LngSpan α :=
  if (180 : α) ≤ halfWidth then ⟨-(180 : α), (180 : α)⟩
  else ⟨wrap (center - halfWidth), wrap (center + halfWidth)⟩

/-- Whether the span crosses the meridian of 180 degrees. -/
def wraps (span : LngSpan α) : Bool := decide (span.east < span.west)

/-- The span as two ranges with both ends included. A span that does not cross the meridian of 180
degrees is repeated. -/
def ranges (span : LngSpan α) : (α × α) × (α × α) :=
  if span.wraps then ((span.west, (180 : α)), (-(180 : α), span.east))
  else ((span.west, span.east), (span.west, span.east))

/-- Whether a number lies in a range with both ends included. -/
def within (range : α × α) (x : α) : Bool := decide (range.1 ≤ x) && decide (x ≤ range.2)

/-- Whether a longitude lies in the span. -/
def contains (span : LngSpan α) (lng : α) : Bool :=
  within span.ranges.1 lng || within span.ranges.2 lng

end LngSpan

end AbandonedBikes
