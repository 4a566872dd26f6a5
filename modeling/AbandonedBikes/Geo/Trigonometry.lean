/-!
# Trigonometric functions

The last digits of a sine differ from one platform to the next. What is computed with sines is therefore
defined for any functions in their place, and a program takes those of the machine it runs on.
-/

namespace AbandonedBikes

/-- The trigonometric functions of a platform. -/
class Trigonometry where
  sin : Float → Float
  cos : Float → Float
  asin : Float → Float

namespace Trigonometry

/-- The functions of the machine. -/
instance machine : Trigonometry := ⟨Float.sin, Float.cos, Float.asin⟩

/-- The first terms of the series. They are exact to the last digit for angles below 1/100000. -/
@[reducible] def series : Trigonometry where
  sin x := x - x * x * x / 6.0
  cos x := 1.0 - x * x / 2.0
  asin x := x + x * x * x / 6.0

end Trigonometry

end AbandonedBikes
