/-
The `gfx` geometry both input paths read.

`gfx::PointF`, `SizeF` and `RectF` hold `float`s.  A coordinate is kept as the rational the
`float` stands for, and each `float` operation the code performs (a sum such as `right()`, a
difference, a halving, a conversion from `int`) rounds its exact result with `fl`, a parameter
that for the code is round-to-nearest into `float`.  A `SizeF` clamps a negative dimension to
zero when it is built, so a size carries that neither dimension is negative.

`gfx::Point`, `Size` and `Rect` hold `int`s.  `ToRoundedPoint` and `ToRoundedSize` round half away
from zero and saturate to the range of `int` (`toRoundedInt`); a `Size` clamps negative
dimensions to zero too, so its dimensions are natural numbers.

`ConvertRectToScreen`, the one function here from the code itself, rounds a rect's corners,
moves them to the screen and builds the rect between them.  The two `int` subtractions it ends
with may overflow, which the standard leaves undefined; it is then `none`.
-/
import Mathlib.Algebra.Order.Ring.Rat

namespace BrowserInput

/-- A `gfx::PointF`. -/
structure PointF where
  x : ℚ
  y : ℚ
  deriving DecidableEq, Repr, Inhabited

/-- A `gfx::SizeF`; neither dimension is negative. -/
structure SizeF where
  width : ℚ
  height : ℚ
  width_nonneg : 0 ≤ width
  height_nonneg : 0 ≤ height
  deriving DecidableEq

/-- `SizeF(width, height)`, which clamps each dimension at zero. -/
def SizeF.clamped (width height : ℚ) : SizeF :=
  ⟨max width 0, max height 0, le_max_right _ _, le_max_right _ _⟩

instance : Inhabited SizeF := ⟨SizeF.clamped 0 0⟩

/-- A `gfx::RectF`: an origin and a size. -/
structure RectF where
  origin : PointF
  size : SizeF
  deriving DecidableEq, Inhabited

/-- A `gfx::Point`. -/
structure Point where
  x : Int
  y : Int
  deriving DecidableEq, Repr

/-- A `gfx::Size`. -/
structure Size where
  width : Nat
  height : Nat
  deriving DecidableEq, Repr

/-- `Size(width, height)`, which clamps each dimension at zero. -/
def Size.clamped (width height : Int) : Size := ⟨width.toNat, height.toNat⟩

/-- A `gfx::Rect`: an origin and a size. -/
structure Rect where
  origin : Point
  size : Size
  deriving DecidableEq, Repr

/-- `PointF::SetToMax`: componentwise maximum. -/
def PointF.setToMax (p q : PointF) : PointF := ⟨max p.x q.x, max p.y q.y⟩

/-- `PointF::SetToMin`: componentwise minimum. -/
def PointF.setToMin (p q : PointF) : PointF := ⟨min p.x q.x, min p.y q.y⟩

/-- `SizeF::SetToMax`: componentwise maximum. -/
def SizeF.setToMax (s t : SizeF) : SizeF :=
  ⟨max s.width t.width, max s.height t.height, le_max_of_le_left s.width_nonneg,
    le_max_of_le_left s.height_nonneg⟩

section Float

-- Rounding of an exact result into `float`.
variable (fl : ℚ → ℚ)

/-- `RectF::right()`. -/
def RectF.right (r : RectF) : ℚ := fl (r.origin.x + r.size.width)

/-- `RectF::bottom()`. -/
def RectF.bottom (r : RectF) : ℚ := fl (r.origin.y + r.size.height)

/-- `RectF::bottom_right()`. -/
def RectF.bottomRight (r : RectF) : PointF := ⟨r.right fl, r.bottom fl⟩

/-- `RectF::CenterPoint()`: `x() + width() / 2` and `y() + height() / 2`. -/
def RectF.centerPoint (r : RectF) : PointF :=
  ⟨fl (r.origin.x + fl (r.size.width / 2)), fl (r.origin.y + fl (r.size.height / 2))⟩

/-- `RectF(const Rect&)`: each `int` converted to `float`. -/
def RectF.ofRect (r : Rect) : RectF :=
  ⟨⟨fl r.origin.x, fl r.origin.y⟩, SizeF.clamped (fl r.size.width) (fl r.size.height)⟩

/-- `base::saturated_cast<int>` of an integral value. -/
def saturatedCastInt (v : Int) : Int := max (-2 ^ 31) (min v (2 ^ 31 - 1))

/-- `gfx::ToRoundedInt`: `floor(value + 0.5f)` for a non-negative value and
`ceil(value - 0.5f)` otherwise, saturated to the range of `int`. -/
def toRoundedInt (value : ℚ) : Int :=
  saturatedCastInt (if 0 ≤ value then (fl (value + 1 / 2)).floor else (fl (value - 1 / 2)).ceil)

/-- `gfx::ToRoundedPoint`. -/
def toRoundedPoint (p : PointF) : Point := ⟨toRoundedInt fl p.x, toRoundedInt fl p.y⟩

/-- `gfx::ToRoundedSize`. -/
def toRoundedSize (s : SizeF) : Size :=
  Size.clamped (toRoundedInt fl s.width) (toRoundedInt fl s.height)

end Float

/-- `a - b` in `int`: `none` when the difference is no `int`, an overflow the standard leaves
undefined. -/
def intSub (a b : Int) : Option Int :=
  if -2 ^ 31 ≤ a - b ∧ a - b < 2 ^ 31 then some (a - b) else none

/-- `ConvertRectToScreen(window, rect)`: the rect's corners rounded, moved to the screen when the
window's root has a `ScreenPositionClient` (`convertPointToScreen`), and the rect between
them. -/
def convertRectToScreen (fl : ℚ → ℚ) (convertPointToScreen : Option (Point → Point))
    (rect : RectF) : Option Rect :=
  let convert := convertPointToScreen.getD id
  let origin := convert (toRoundedPoint fl rect.origin)
  let bottomRight := convert (toRoundedPoint fl (rect.bottomRight fl))
  (intSub bottomRight.x origin.x).bind fun width =>
    (intSub bottomRight.y origin.y).map fun height =>
      ⟨origin, Size.clamped width height⟩

end BrowserInput
