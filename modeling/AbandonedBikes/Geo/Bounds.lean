import AbandonedBikes.Geo.Distance
import AbandonedBikes.Geo.Longitude
import AbandonedBikes.Number.Binary64
/-!
# Boxes of latitude and longitude

A box selects the reports near a point before their distance is computed. It is at least as wide as
the circle around the point: degrees of longitude are shortest at the edge that is nearer to a pole,
and close to the pole the box takes in every longitude.
-/

namespace AbandonedBikes

/-- A box of latitudes and longitudes. -/
structure Bounds where
  minLat : Float
  maxLat : Float
  lng : LngSpan Float
deriving Inhabited

namespace Bounds

/-- The distance from 1 to the next double. -/
def epsilon : Float := Float.ofBits 0x3cb0000000000000

/-- The box around every point within `radius` metres of `center`. -/
def around [Trigonometry] (center : Point) (radius : Float) : Bounds :=
  let dLat := toDegrees (radius / earthRadius)
  let minLat := Binary64.larger (center.lat - dLat) (-90.0)
  let maxLat := Binary64.smaller (center.lat + dLat) 90.0
  let cosine := Trigonometry.cos (toRadians (Binary64.larger minLat.abs maxLat.abs))
  let dLng := if cosine ≤ epsilon then 180.0 else dLat / cosine
  ⟨minLat, maxLat, LngSpan.around center.lng dLng⟩

/-- Whether a point lies in the box, its edges included. -/
def contains (bounds : Bounds) (point : Point) : Bool :=
  LngSpan.within (bounds.minLat, bounds.maxLat) point.lat && bounds.lng.contains point.lng

end Bounds

end AbandonedBikes
