/-!
# Places
-/

namespace AbandonedBikes

/-- A place on the earth, in degrees. -/
structure Point where
  lat : Float
  lng : Float
deriving DecidableEq, Inhabited

/-- Where a report was filed, with the accuracy in metres that the device claimed. -/
structure Location where
  lat : Float
  lng : Float
  accuracy : Float
deriving DecidableEq, Inhabited

/-- The place of a location. -/
def Location.point (location : Location) : Point := ⟨location.lat, location.lng⟩

end AbandonedBikes
