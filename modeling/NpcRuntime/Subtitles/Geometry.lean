import Mathlib.Data.Rat.Defs
import Mathlib.Algebra.Order.Ring.Rat
import Mathlib.Tactic.Linarith

/-!
# Desktop geometry

`subtitle-engine/src/geometry.rs`: rectangles in physical desktop pixels and the scale factor from
density-independent pixels. Pixels are exact rationals in place of `f32`, so every rectangle is
finite.

Containment here is exact (`RectPx.Inside`); the source's own `contains` allows 1/64 px for the
rounding an exact reading does not have.
-/

namespace NpcRuntime.Subtitles

structure PointPx where
  x : ℚ
  y : ℚ
deriving DecidableEq

structure SizePx where
  width : ℚ
  height : ℚ
deriving DecidableEq

structure RectPx where
  x : ℚ
  y : ℚ
  width : ℚ
  height : ℚ
deriving DecidableEq

structure InsetsPx where
  top : ℚ
  right : ℚ
  bottom : ℚ
  left : ℚ
deriving DecidableEq

def InsetsPx.uniform (value : ℚ) : InsetsPx := ⟨value, value, value, value⟩

/-- Scale factor from density-independent pixels to physical pixels, as `DpiScale::new` accepts
it. -/
structure DpiScale where
  get : ℚ
  supported : 1 / 2 ≤ get ∧ get ≤ 4
deriving DecidableEq

namespace DpiScale

variable (dpi : DpiScale)

def px (dp : ℚ) : ℚ := dp * dpi.get

def dp (px : ℚ) : ℚ := px / dpi.get

theorem get_pos : 0 < dpi.get := by linarith [dpi.supported.1]

theorem px_pos {dp : ℚ} : 0 < dpi.px dp ↔ 0 < dp := mul_pos_iff_of_pos_right dpi.get_pos

end DpiScale

namespace RectPx

def right (rect : RectPx) : ℚ := rect.x + rect.width

def bottom (rect : RectPx) : ℚ := rect.y + rect.height

def center (rect : RectPx) : PointPx := ⟨rect.x + rect.width / 2, rect.y + rect.height / 2⟩

def area (rect : RectPx) : ℚ := max rect.width 0 * max rect.height 0

def isFinitePositive (rect : RectPx) : Bool := 0 < rect.width && 0 < rect.height

def intersection (rect other : RectPx) : Option RectPx :=
  let x := max rect.x other.x
  let y := max rect.y other.y
  let right := min rect.right other.right
  let bottom := min rect.bottom other.bottom
  if x < right ∧ y < bottom then some ⟨x, y, right - x, bottom - y⟩ else none

def intersectionArea (rect other : RectPx) : ℚ :=
  match rect.intersection other with
  | some shared => shared.area
  | none => 0

def intersects (rect other : RectPx) : Bool := (rect.intersection other).isSome

def inset (rect : RectPx) (insets : InsetsPx) : RectPx where
  x := rect.x + insets.left
  y := rect.y + insets.top
  width := max (rect.width - insets.left - insets.right) 0
  height := max (rect.height - insets.top - insets.bottom) 0

def outset (rect : RectPx) (outsets : InsetsPx) : RectPx where
  x := rect.x - outsets.left
  y := rect.y - outsets.top
  width := rect.width + outsets.left + outsets.right
  height := rect.height + outsets.top + outsets.bottom

/-- Rust's `value.clamp(low, high)`, for `low ≤ high`. -/
def clamp (value low high : ℚ) : ℚ := min (max value low) high

def clampInside (rect container : RectPx) : RectPx :=
  let width := max (min rect.width container.width) 0
  let height := max (min rect.height container.height) 0
  let maxX := max (container.right - width) container.x
  let maxY := max (container.bottom - height) container.y
  ⟨clamp rect.x container.x maxX, clamp rect.y container.y maxY, width, height⟩

variable {rect : RectPx}

theorem isFinitePositive_iff : rect.isFinitePositive = true ↔ 0 < rect.width ∧ 0 < rect.height := by
  simp [isFinitePositive]

/-! ## Containment -/

/-- Every edge of the rectangle is on the inner side of the container's. -/
structure Inside (rect container : RectPx) : Prop where
  left : container.x ≤ rect.x
  top : container.y ≤ rect.y
  right : rect.right ≤ container.right
  bottom : rect.bottom ≤ container.bottom

instance (rect container : RectPx) : Decidable (rect.Inside container) :=
  decidable_of_iff (container.x ≤ rect.x ∧ container.y ≤ rect.y ∧
      rect.right ≤ container.right ∧ rect.bottom ≤ container.bottom)
    ⟨fun ⟨a, b, c, d⟩ => ⟨a, b, c, d⟩, fun ⟨a, b, c, d⟩ => ⟨a, b, c, d⟩⟩

/-- On one axis: an extent of the given size, clamped to the places where it fits, fits. -/
theorem clamp_fits (value start : ℚ) {extent size : ℚ} (h : size ≤ extent) :
    start ≤ clamp value start (max (start + extent - size) start) ∧
      clamp value start (max (start + extent - size) start) + size ≤ start + extent := by
  have hmax : max (start + extent - size) start = start + extent - size :=
    max_eq_left (by linarith)
  rw [hmax]
  refine ⟨le_min (le_max_right _ _) (by linarith), ?_⟩
  have hhigh : clamp value start (start + extent - size) ≤ start + extent - size :=
    min_le_right _ _
  linarith

@[simp]
theorem clampInside_width (rect container : RectPx) :
    (rect.clampInside container).width = max (min rect.width container.width) 0 := rfl

@[simp]
theorem clampInside_height (rect container : RectPx) :
    (rect.clampInside container).height = max (min rect.height container.height) 0 := rfl

/-- A clamped rectangle lies inside a container of non-negative size, wherever it was before. -/
theorem clampInside_inside (rect : RectPx) {container : RectPx}
    (hwidth : 0 ≤ container.width) (hheight : 0 ≤ container.height) :
    (rect.clampInside container).Inside container := by
  have hx := clamp_fits rect.x container.x
    (max_le (min_le_right rect.width container.width) hwidth)
  have hy := clamp_fits rect.y container.y
    (max_le (min_le_right rect.height container.height) hheight)
  exact ⟨hx.1, hy.1, hx.2, hy.2⟩

/-- Rectangles above one another share nothing. -/
theorem intersects_of_bottom_le {other : RectPx} (h : rect.bottom ≤ other.y) :
    rect.intersects other = false := by
  have hempty : ¬max rect.y other.y < min rect.bottom other.bottom := by
    have hlow := min_le_left rect.bottom other.bottom
    have hhigh := le_max_right rect.y other.y
    linarith
  simp only [intersects, intersection, hempty, and_false, if_false, Option.isSome_none]

/-- The outset of a rectangle inside the inset one lies inside the rectangle. -/
theorem outset_inside {container : RectPx} {insets : InsetsPx}
    (hpositive : (container.inset insets).isFinitePositive = true)
    (h : rect.Inside (container.inset insets)) : (rect.outset insets).Inside container := by
  obtain ⟨hwidth, hheight⟩ := isFinitePositive_iff.1 hpositive
  have hwidth' : (container.inset insets).width = container.width - insets.left - insets.right :=
    max_eq_left (by by_contra hneg; simp [inset, (not_le.1 hneg).le] at hwidth)
  have hheight' : (container.inset insets).height =
      container.height - insets.top - insets.bottom :=
    max_eq_left (by by_contra hneg; simp [inset, (not_le.1 hneg).le] at hheight)
  obtain ⟨hleft, htop, hright, hbottom⟩ := h
  simp only [right, bottom, hwidth', hheight'] at hleft htop hright hbottom
  simp only [inset] at hleft htop hright hbottom
  constructor <;> simp only [right, bottom, outset] <;> linarith

end RectPx

end NpcRuntime.Subtitles
