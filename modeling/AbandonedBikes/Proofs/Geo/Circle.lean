import Mathlib.Algebra.Order.Round
import Mathlib.Data.Rat.Floor
import Mathlib.Tactic.Linarith
import AbandonedBikes.Geo.Longitude
/-!
# Spans of longitude on the circle

Longitudes are read here as exact numbers. They stand for points of a circle of 360 degrees, so two
numbers that differ by whole turns are the same meridian. The span around a centre is kept with its
ends between -180 and 180, and if its west end comes out above its east end it is read as two ranges.
`contains_around_iff` says that this loses nothing: a span that is less than a turn wide is never taken
for the one that it leaves out.

The meridian of 180 degrees has two names, and a span that ends there contains only the one that its
centre is near. The statements leave both of them out.
-/

namespace AbandonedBikes.LngSpan

/-- The longitude is within the half width of the centre, going around the circle either way. -/
def Near (center halfWidth lng : ℚ) : Prop := ∃ turns : ℤ, |lng - center + 360 * turns| ≤ halfWidth

variable {center halfWidth lng : ℚ} {span : LngSpan ℚ}

/-! ## What a span contains -/

/-- Of a span that crosses the meridian of 180 degrees, a longitude is in one of two ranges that reach
up to it. -/
theorem contains_iff_of_wraps (crosses : span.east < span.west) : span.contains lng = true ↔
    (span.west ≤ lng ∧ lng ≤ 180) ∨ (-180 ≤ lng ∧ lng ≤ span.east) := by
  simp [contains, ranges, wraps, within, crosses]

theorem contains_iff_of_not_wraps (ordered : span.west ≤ span.east) : span.contains lng = true ↔
    span.west ≤ lng ∧ lng ≤ span.east := by
  simp [contains, ranges, wraps, within, ordered.not_gt]

/-! ## Bringing a longitude back -/

theorem wrap_of_above (above : 180 < lng) : wrap lng = lng - 360 := if_pos above

theorem wrap_of_below (below : lng < -180) : wrap lng = lng + 360 := by
  rw [wrap, if_neg (by linarith), if_pos below]

theorem wrap_of_between (least : -180 ≤ lng) (greatest : lng ≤ 180) : wrap lng = lng := by
  rw [wrap, if_neg greatest.not_gt, if_neg least.not_gt]

/-! ## Nearness -/

/-- Everything is within half a turn. -/
theorem near_of_wide (wide : 180 ≤ halfWidth) : Near center halfWidth lng := by
  have half := abs_sub_round ((lng - center) / 360)
  obtain ⟨above, below⟩ := abs_le.mp half
  refine ⟨-round ((lng - center) / 360), abs_le.mpr ?_⟩
  push_cast
  constructor <;> linarith

/-- Two longitudes between -180 and 180 are less than a turn apart, so what brings one within half a
turn of the other is at most one turn. -/
theorem near_iff (narrow : halfWidth < 180) (center_least : -180 ≤ center)
    (center_greatest : center ≤ 180) (least : -180 < lng) (greatest : lng < 180) :
    Near center halfWidth lng ↔
      |lng - center| ≤ halfWidth ∨ |lng - center + 360| ≤ halfWidth ∨
        |lng - center - 360| ≤ halfWidth := by
  constructor
  · rintro ⟨turns, near⟩
    obtain ⟨above, below⟩ := abs_le.mp near
    have more_than : (-2 : ℚ) < turns := by linarith
    have less_than : (turns : ℚ) < 2 := by linarith
    have few : -2 < turns ∧ turns < 2 := ⟨by exact_mod_cast more_than, by exact_mod_cast less_than⟩
    obtain rfl | rfl | rfl : turns = 0 ∨ turns = 1 ∨ turns = -1 := by omega
    · left; simpa using near
    · right; left; simpa using near
    · right; right; simpa [sub_eq_add_neg] using near
  · rintro (near | near | near)
    · exact ⟨0, by simpa using near⟩
    · exact ⟨1, by simpa using near⟩
    · exact ⟨-1, by simpa [sub_eq_add_neg] using near⟩

/-- The span around a centre contains exactly the longitudes that are near to it on the circle. -/
theorem contains_around_iff (center_least : -180 ≤ center) (center_greatest : center ≤ 180)
    (not_negative : 0 ≤ halfWidth) (least : -180 < lng) (greatest : lng < 180) :
    (around center halfWidth).contains lng = true ↔ Near center halfWidth lng := by
  rcases le_or_gt 180 halfWidth with wide | narrow
  · rw [around, if_pos wide, contains_iff_of_not_wraps (by norm_num)]
    exact iff_of_true ⟨least.le, greatest.le⟩ (near_of_wide wide)
  · rw [near_iff narrow center_least center_greatest least greatest, around, if_neg narrow.not_ge]
    simp only [abs_le]
    -- At most one end is brought back, since the other one is less than a turn away from it.
    rcases lt_or_ge (center - halfWidth) (-180) with west_over | west_within
    · rw [wrap_of_below west_over, wrap_of_between (by linarith) (by linarith),
        contains_iff_of_wraps (by simp; linarith)]
      grind
    · rcases lt_or_ge 180 (center + halfWidth) with east_over | east_within
      · rw [wrap_of_above east_over, wrap_of_between (by linarith) (by linarith),
          contains_iff_of_wraps (by simp; linarith)]
        grind
      · rw [wrap_of_between (by linarith) (by linarith), wrap_of_between (by linarith) (by linarith),
          contains_iff_of_not_wraps (by simp; linarith)]
        grind

/-- A span of 358 degrees around 170 leaves out only what is around -10. -/
theorem contains_around_iff_almost_all :
    (around (170 : ℚ) 179).contains (-12) = true ∧ Near 170 179 (-12) ∧
    (around (170 : ℚ) 179).contains (-10) = false ∧ ¬ Near 170 179 (-10) := by
  have inside : (around (170 : ℚ) 179).contains (-12) = true := by decide +kernel
  have outside : (around (170 : ℚ) 179).contains (-10) = false := by decide +kernel
  have agrees {lng : ℚ} (least : -180 < lng) (greatest : lng < 180) :
      (around 170 179).contains lng = true ↔ Near 170 179 lng :=
    contains_around_iff (by norm_num) (by norm_num) (by norm_num) least greatest
  refine ⟨inside, (agrees (by norm_num) (by norm_num)).mp inside, outside, fun near => ?_⟩
  rw [(agrees (by norm_num) (by norm_num)).mpr near] at outside
  cases outside

end AbandonedBikes.LngSpan
