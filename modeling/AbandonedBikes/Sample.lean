import AbandonedBikes.Report.Report
/-!
# Sample reports

Places in Amsterdam, a start of time and builders of reports, for examples that are easy to read.
-/

namespace AbandonedBikes.Sample

/-- The bike racks at the central station. -/
def centraal : Point := ⟨52.3791, 4.9003⟩

/-- Dam square, about a kilometre south of the station. -/
def dam : Point := ⟨52.3731, 4.8926⟩

/-- Nine in the morning on the first of January 2024. -/
def start : Instant := .atSecond ((⟨2024, 1, 1⟩ : Date).toDays * Instant.daySeconds + 9 * 3600)

/-- A span of days in milliseconds, if it can be represented. -/
def days? (n : Int) : Option Int := Instant.spanMillis? (n * 86400)

/-- A span of hours in milliseconds, if it can be represented. -/
def hours? (n : Int) : Option Int := Instant.spanMillis? (n * 3600)

/-- The point so many metres due north. -/
def northOf (origin : Point) (meters : Float) : Point :=
  ⟨origin.lat + meters / 111195.0, origin.lng⟩

/-- An anonymous device under the secret of the samples. -/
def anonymous (deviceToken : String) : Reporter := Reporter.anonymous deviceToken "test-secret"

/-- A report from the web, without a note and accurate to five metres. -/
def newReport (point : Point) (tags : List String) (reporter : Reporter) (createdAt : Instant) :
    NewReport where
  location := ⟨point.lat, point.lng, 5.0⟩
  tags := tags
  note := none
  source := .web
  reporter := reporter
  createdAt := createdAt

end AbandonedBikes.Sample
