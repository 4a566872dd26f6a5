import AbandonedBikes.Geo.Point
import AbandonedBikes.Geo.Trigonometry
/-!
# Distances on the earth
-/

namespace AbandonedBikes

/-- The radius of the earth in metres. -/
def earthRadius : Float := 6371000.0

def radiansPerDegree : Float := 0.017453292519943295

def degreesPerRadian : Float := 57.29577951308232

def toRadians (degrees : Float) : Float := degrees * radiansPerDegree

def toDegrees (radians : Float) : Float := radians * degreesPerRadian

def square (x : Float) : Float := x * x

/-- The length in metres of the great circle between two points, by the haversine formula. -/
def Point.distance [Trigonometry] (a b : Point) : Float :=
  let dLat := toRadians (b.lat - a.lat)
  let dLng := toRadians (b.lng - a.lng)
  let latA := toRadians a.lat
  let latB := toRadians b.lat
  let h := square (Trigonometry.sin (dLat / 2.0)) +
    Trigonometry.cos latA * Trigonometry.cos latB * square (Trigonometry.sin (dLng / 2.0))
  earthRadius * (2.0 * Trigonometry.asin h.sqrt)

end AbandonedBikes
