import NpcRuntime.Media.Types

/-!
# Mapping a target to the overlay

`native/media-broker/src/geometry.cpp`: the part of a target that its monitor shows, the crop of
the captured content that belongs to it, and the projection of a normalized rectangle of the
content onto the desktop. Each operation on doubles rounds its exact result.
-/

namespace NpcRuntime.Media

def intersect (a b : RectI) : RectI :=
  let result : RectI :=
    ⟨max a.left b.left, max a.top b.top, min a.right b.right, min a.bottom b.bottom⟩
  if result.valid then result else ⟨0, 0, 0, 0⟩

/-- The edges of a rectangle that are all finite. -/
def RectF.edges : RectF → Option (ℚ × ℚ × ℚ × ℚ)
  | ⟨.finite left, .finite top, .finite right, .finite bottom⟩ => some (left, top, right, bottom)
  | _ => none

/-- `normalized_rect_valid`, and the edges of the rectangle that passes. -/
def normalizedRectValid (rect : RectF) : Option (ℚ × ℚ × ℚ × ℚ) :=
  match rect.edges with
  | some (left, top, right, bottom) =>
    if 0 ≤ left && 0 ≤ top && right ≤ 1 && bottom ≤ 1 && round64 (right - left) > 0 &&
        round64 (bottom - top) > 0 then
      some (left, top, right, bottom)
    else none
  | none => none

def mapNormalizedRect (normalized : RectF) (target : RectI) : Option RectI :=
  match normalizedRectValid normalized with
  | some (left, top, right, bottom) =>
    if target.valid then
      let project (value : ℚ) (origin extent : ℤ) : ℤ :=
        toInt32 (llround (round64 (origin + round64 (value * extent))))
      let result := intersect
        ⟨project left target.left target.width, project top target.top target.height,
          project right target.left target.width, project bottom target.top target.height⟩ target
      if result.valid then some result else none
    else none
  | none => none

def calculateOverlayGeometry (target : TargetGeometry) : Option OverlayGeometry :=
  if !target.clientBoundsPx.valid || !target.capturedContentPx.valid ||
      !target.capturedDesktopBoundsPx.valid || !target.monitor.desktopBoundsPx.valid ||
      target.monitor.dpiX = 0 || target.monitor.dpiY = 0 || target.minimized then none
  else
    let clipped := intersect target.clientBoundsPx target.monitor.desktopBoundsPx
    if !clipped.valid then none
    else
      let perX := round64 (target.capturedContentPx.width / target.capturedDesktopBoundsPx.width)
      let perY := round64 (target.capturedContentPx.height / target.capturedDesktopBoundsPx.height)
      let sourceX (x : ℤ) : ℤ :=
        toInt32 (llround (round64 ((x - target.capturedDesktopBoundsPx.left : ℤ) * perX)))
      let sourceY (y : ℤ) : ℤ :=
        toInt32 (llround (round64 ((y - target.capturedDesktopBoundsPx.top : ℤ) * perY)))
      let crop := intersect
        ⟨sourceX clipped.left, sourceY clipped.top, sourceX clipped.right, sourceY clipped.bottom⟩
        ⟨0, 0, target.capturedContentPx.width, target.capturedContentPx.height⟩
      if !crop.valid then none
      else some {
        desktopBoundsPx := target.clientBoundsPx
        clippedDesktopBoundsPx := clipped
        sourceCropPx := crop
        sourceSizePx := target.capturedContentPx
        dpiScaleX := round64 (target.monitor.dpiX / 96)
        dpiScaleY := round64 (target.monitor.dpiY / 96)
        sourceColorSpace := .sdrSrgb
        outputColorSpace := target.monitor.colorSpace
        displayRotation := target.monitor.rotation
        toneMapRequired := target.monitor.colorSpace = .hdr10Pq ||
          target.monitor.colorSpace = .hdrScRgb }

/-- The epoch takes no part in the mapping. -/
theorem calculateOverlayGeometry_epoch (target : TargetGeometry) (epoch : UInt64) :
    calculateOverlayGeometry { target with geometryEpoch := epoch } =
      calculateOverlayGeometry target := by
  rfl

def mapNormalizedSourceRect (normalized : RectF) (geometry : OverlayGeometry) : Option RectI :=
  if (normalizedRectValid normalized).isNone || !geometry.sourceCropPx.valid ||
      !geometry.sourceSizePx.valid || !geometry.clippedDesktopBoundsPx.valid then none
  else
    match mapNormalizedRect normalized
        ⟨0, 0, geometry.sourceSizePx.width, geometry.sourceSizePx.height⟩ with
    | none => none
    | some rect =>
      let source := intersect rect geometry.sourceCropPx
      if !source.valid then none
      else
        let perX := round64 (geometry.clippedDesktopBoundsPx.width / geometry.sourceCropPx.width)
        let perY := round64 (geometry.clippedDesktopBoundsPx.height / geometry.sourceCropPx.height)
        let x (value : ℤ) : ℤ := toInt32 (llround (round64 (geometry.clippedDesktopBoundsPx.left +
          round64 ((value - geometry.sourceCropPx.left : ℤ) * perX))))
        let y (value : ℤ) : ℤ := toInt32 (llround (round64 (geometry.clippedDesktopBoundsPx.top +
          round64 ((value - geometry.sourceCropPx.top : ℤ) * perY))))
        let mapped : RectI := ⟨x source.left, y source.top, x source.right, y source.bottom⟩
        if mapped.valid then some mapped else none

end NpcRuntime.Media
