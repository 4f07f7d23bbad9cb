import NpcRuntime.Lib.Result
import NpcRuntime.Lib.Text
import Mathlib.Data.Rat.Defs
import Mathlib.Algebra.Order.Ring.Rat

/-!
# Subtitle styles

`subtitle-engine/src/style.rs`: a style manifest, its styles, and the checks they have to pass.
Sizes are exact rationals in place of `f32`, so every size is finite.
-/

namespace NpcRuntime.Subtitles

open Text

inductive StyleError where
  | unsupportedSchema (version : Nat)
  | noStyles
  | missingDefault (id : Text)
  | emptyId
  | invalidFontRole (id : Text)
  | invalidNumber (id : Text)
  | invalidRange (id : Text)
  | invalidColor (id : Text)
  | invalidEffects (id : Text)
deriving DecidableEq

structure TypographyStyle where
  bodyFontRole : Text
  speakerFontRole : Text
  bodySizeDp : ℚ
  speakerSizeDp : ℚ
  lineHeight : ℚ
  speakerTrackingEm : ℚ
  maxBodyLines : Nat
deriving DecidableEq

structure GeometryStyle where
  maxWidthFraction : ℚ
  minWidthDp : ℚ
  maxWidthDp : ℚ
  paddingXDp : ℚ
  paddingYDp : ℚ
  speakerGapDp : ℚ
  safeMarginDp : ℚ
  headGapDp : ℚ
  candidateGapDp : ℚ
  fallbackBottomDp : ℚ
  cornerRadiusDp : ℚ
deriving DecidableEq

structure Rgba where
  r : ℚ
  g : ℚ
  b : ℚ
  a : ℚ
deriving DecidableEq

/-- Rust's `(low..=high).contains(&value)`. -/
def within (low high value : ℚ) : Bool := low ≤ value && value ≤ high

def Rgba.isUnitFinite (color : Rgba) : Bool :=
  [color.r, color.g, color.b, color.a].all (within 0 1)

structure OutlineStyle where
  enabled : Bool
  widthDp : ℚ
  color : Rgba
deriving DecidableEq

structure ShadowStyle where
  enabled : Bool
  offsetXDp : ℚ
  offsetYDp : ℚ
  blurDp : ℚ
  color : Rgba
deriving DecidableEq

structure BackplateStyle where
  enabled : Bool
  blurBehindDp : ℚ
  borderWidthDp : ℚ
  fill : Rgba
  border : Rgba
deriving DecidableEq

structure EffectsStyle where
  outline : OutlineStyle
  shadow : ShadowStyle
  backplate : BackplateStyle
deriving DecidableEq

structure AnimationStyle where
  enabled : Bool
  enterMs : Nat
  exitMs : Nat
  initialOffsetYDp : ℚ
  initialScale : ℚ
  revealDelayMs : Nat
  revealMsPerGrapheme : Nat
deriving DecidableEq

structure BehaviorStyle where
  headConfidenceThreshold : ℚ
  maxTrackAgeMs : Nat
  collisionSearchSteps : Nat
  preferHeadAnchor : Bool
deriving DecidableEq

inductive ColorEncoding where
  | srgb
  | linearSrgb
deriving DecidableEq

inductive OutputColorSpace where
  | srgb
  | scrgb
  | rec2020Pq
deriving DecidableEq

inductive HdrSourceSurface where
  | bgra8SrgbPremultiplied
deriving DecidableEq

inductive SdrWhiteMapping where
  | windowsCompositorManaged
deriving DecidableEq

inductive ToneMapPolicy where
  | noneInRenderer
deriving DecidableEq

structure HdrSafeMetadata where
  targetSpaces : List OutputColorSpace
  sourceSurface : HdrSourceSurface
  sdrWhiteMapping : SdrWhiteMapping
  toneMap : ToneMapPolicy
  customPqOrScrgbShader : Bool
  referenceWhiteNits : Option ℚ
  maxSubtitleNits : Option ℚ
  preserveAlphaLinear : Option Bool
deriving DecidableEq

def HdrSafeMetadata.legacyMetadataValid (hdr : HdrSafeMetadata) : Bool :=
  match hdr.referenceWhiteNits, hdr.maxSubtitleNits with
  | none, none => true
  | some reference, some peak => 80 ≤ reference && reference ≤ peak && peak ≤ 500
  | _, _ => false

structure ColorStyle where
  body : Rgba
  speaker : Rgba
  encoding : ColorEncoding
  hdr : HdrSafeMetadata
deriving DecidableEq

def ColorStyle.validate (colors : ColorStyle) (styleId : Text) : Except StyleError Unit :=
  require (colors.body.isUnitFinite && colors.speaker.isUnitFinite &&
    !colors.hdr.targetSpaces.isEmpty && !colors.hdr.customPqOrScrgbShader &&
    colors.hdr.toneMap = .noneInRenderer &&
    colors.hdr.sourceSurface = .bgra8SrgbPremultiplied &&
    colors.hdr.sdrWhiteMapping = .windowsCompositorManaged &&
    colors.hdr.legacyMetadataValid) (.invalidColor styleId)

structure SubtitleStyle where
  id : Text
  typography : TypographyStyle
  geometry : GeometryStyle
  effects : EffectsStyle
  animation : AnimationStyle
  colors : ColorStyle
  behavior : BehaviorStyle
deriving DecidableEq

namespace SubtitleStyle

/-- The sizes that have to be positive. -/
def sizes (style : SubtitleStyle) : List ℚ :=
  [style.typography.bodySizeDp, style.typography.speakerSizeDp, style.typography.lineHeight,
    style.geometry.maxWidthFraction, style.geometry.minWidthDp, style.geometry.maxWidthDp,
    style.geometry.paddingXDp, style.geometry.paddingYDp, style.geometry.safeMarginDp,
    style.geometry.speakerGapDp, style.geometry.headGapDp, style.geometry.candidateGapDp,
    style.geometry.fallbackBottomDp]

def rangesValid (style : SubtitleStyle) : Bool :=
  within (1 / 10) 1 style.geometry.maxWidthFraction &&
    style.geometry.minWidthDp ≤ style.geometry.maxWidthDp &&
    within 0 1 style.behavior.headConfidenceThreshold &&
    style.typography.maxBodyLines ≠ 0 && style.behavior.collisionSearchSteps ≠ 0 &&
    within (-1 / 5) (1 / 2) style.typography.speakerTrackingEm &&
    within (1 / 2) (3 / 2) style.animation.initialScale

/-- The shadow offsets may be negative, the other effect sizes not. -/
def effectsValid (style : SubtitleStyle) : Bool :=
  style.effects.outline.color.isUnitFinite && style.effects.shadow.color.isUnitFinite &&
    style.effects.backplate.fill.isUnitFinite && style.effects.backplate.border.isUnitFinite &&
    [style.effects.outline.widthDp, style.effects.shadow.blurDp,
      style.effects.backplate.blurBehindDp, style.effects.backplate.borderWidthDp,
      style.geometry.cornerRadiusDp].all fun value => 0 ≤ value

def validate (style : SubtitleStyle) : Except StyleError Unit := do
  require (!style.id.isBlank) .emptyId
  require (!style.typography.bodyFontRole.isBlank && !style.typography.speakerFontRole.isBlank)
    (.invalidFontRole style.id)
  require (style.sizes.all fun value => 0 < value) (.invalidNumber style.id)
  require style.rangesValid (.invalidRange style.id)
  style.colors.validate style.id
  require style.effectsValid (.invalidEffects style.id)

end SubtitleStyle

structure StyleManifest where
  schemaVersion : Nat
  defaultStyleId : Text
  styles : List SubtitleStyle
deriving DecidableEq

namespace StyleManifest

def style (manifest : StyleManifest) (id : Text) : Option SubtitleStyle :=
  manifest.styles.find? fun style => style.id = id

def validate (manifest : StyleManifest) : Except StyleError Unit := do
  require (manifest.schemaVersion = 1) (.unsupportedSchema manifest.schemaVersion)
  require (!manifest.styles.isEmpty) .noStyles
  require (manifest.style manifest.defaultStyleId).isSome (.missingDefault manifest.defaultStyleId)
  manifest.styles.forM SubtitleStyle.validate

end StyleManifest

/-! ## What has passed -/

/-- What a style has passed, its sizes apart. -/
structure SubtitleStyle.Shaped (style : SubtitleStyle) : Prop where
  id : style.id.isBlank = false
  roles : style.typography.bodyFontRole.isBlank = false ∧
    style.typography.speakerFontRole.isBlank = false
  ranges : style.rangesValid = true
  colors : style.colors.validate style.id = .ok ()
  effects : style.effectsValid = true

theorem SubtitleStyle.validate_eq_ok {style : SubtitleStyle} {u : Unit} :
    style.validate = .ok u ↔ style.Shaped ∧ ∀ size ∈ style.sizes, 0 < size := by
  constructor
  · intro h
    simp only [validate, bind_eq_ok, require_eq_ok] at h
    obtain ⟨_, hid, _, hroles, _, hsizes, _, hranges, _, hcolors, heffects⟩ := h
    simp only [Bool.not_eq_true', Bool.and_eq_true] at hid hroles
    refine ⟨⟨hid, hroles, hranges, hcolors, heffects⟩, ?_⟩
    intro size hsize
    simpa using List.all_eq_true.1 hsizes size hsize
  · intro h
    obtain ⟨hshaped, hsizes⟩ := h
    have hall : (style.sizes.all fun value => decide (0 < value)) = true := by
      rw [List.all_eq_true]
      intro size hsize
      simpa using hsizes size hsize
    simp only [validate, bind_eq_ok, require_eq_ok]
    exact ⟨(), by simp [hshaped.id], (), by simp [hshaped.roles], (), hall, (), hshaped.ranges,
      (), hshaped.colors, hshaped.effects⟩

theorem StyleManifest.validate_eq_ok {manifest : StyleManifest} {u : Unit} :
    manifest.validate = .ok u ↔ manifest.schemaVersion = 1 ∧ manifest.styles ≠ [] ∧
      (manifest.style manifest.defaultStyleId).isSome ∧
      ∀ style ∈ manifest.styles, style.validate = .ok () := by
  simp only [validate, bind_eq_ok, require_eq_ok, forM_eq_ok, exists_const, decide_eq_true_eq,
    Bool.not_eq_true', List.isEmpty_eq_false_iff, ne_eq]

theorem StyleManifest.style_eq_some {manifest : StyleManifest} {id : Text} {style : SubtitleStyle}
    (h : manifest.style id = some style) : style ∈ manifest.styles ∧ style.id = id :=
  ⟨List.mem_of_find?_eq_some h, by simpa using List.find?_some h⟩

end NpcRuntime.Subtitles
