import NpcRuntime.Subtitles.Animation
import NpcRuntime.Subtitles.Resolvable
import Mathlib.Data.List.MinMax
import Mathlib.Algebra.Order.Group.Abs
import Mathlib.Tactic.Ring

/-!
# Subtitle layout

`subtitle-engine/src/layout.rs`: where a subtitle's box, its speaker line and its body go.

**The box.** The safe area is the viewport without its margin, and the box goes into what the visual
effects leave of it (`LayoutRequest.boxSafe`), next to the actor's head or at the bottom: the place
that overlaps the least wins. The box takes the size its texts ask for, cut to `boxSafe`.

**The texts** go into the box at its padding, the body under the speaker line. Nothing moves them
when the box was cut: a box without room for the padding and the speaker line has texts that reach
out of it, and a speaker line of negative width. `layout_contained_iff` says which requests leave
room.

The text measurer is a parameter, with its shaping plans and its errors.
-/

namespace NpcRuntime.Subtitles

open Text

structure SubtitleContent where
  speaker : Option Text
  body : Text
deriving DecidableEq

structure TextLayoutMetrics where
  sizeDp : SizePx
  lineCount : Nat
  baselineDp : ℚ
deriving DecidableEq

/-- `TextMeasurer::measure`: the text, its font size, line height, maximum width and maximum number
of lines, and its shaping plan. -/
abbrev TextMeasurer (Shaping ε : Type) : Type :=
  Text → ℚ → ℚ → ℚ → Nat → Shaping → Except ε TextLayoutMetrics

structure ActorHeadAnchor where
  headBoundsPx : RectPx
  confidence : ℚ
  trackAgeMs : Nat
  occluded : Bool
deriving DecidableEq

structure LayoutRequest (Shaping : Type) where
  viewportPx : RectPx
  dpiScale : DpiScale
  content : SubtitleContent
  style : SubtitleStyle
  bodyShaping : Shaping
  speakerShaping : Option Shaping
  actorHead : Option ActorHeadAnchor
  hudExclusionsPx : List RectPx
  occupiedSubtitlesPx : List RectPx

inductive AnchorKind where
  | headAbove
  | headBelow
  | headLeft
  | headRight
  | bottomCenter
deriving DecidableEq

inductive FallbackReason where
  | none
  | noActor
  | unreliableTrack
  | occludedActor
  | offscreenActor
  | headAnchoringDisabled
  | collisionAvoidance
deriving DecidableEq

structure ResolvedEffectsPx where
  outlineEnabled : Bool
  outlineWidthPx : ℚ
  outlineColor : Rgba
  shadowEnabled : Bool
  shadowOffsetPx : PointPx
  shadowBlurPx : ℚ
  shadowColor : Rgba
  backplateEnabled : Bool
  backplateBlurBehindPx : ℚ
  backplateBorderWidthPx : ℚ
  backplateFill : Rgba
  backplateBorder : Rgba
  cornerRadiusPx : ℚ
  visualOutsetsPx : InsetsPx
deriving DecidableEq

structure SubtitleLayout where
  boundsPx : RectPx
  visualBoundsPx : RectPx
  speakerBoundsPx : Option RectPx
  bodyBoundsPx : RectPx
  anchor : AnchorKind
  fallbackReason : FallbackReason
  anchorPointPx : PointPx
  wasClamped : Bool
  collides : Bool
  overlapAreaPx2 : ℚ
  bodyMetrics : TextLayoutMetrics
  speakerMetrics : Option TextLayoutMetrics
  maxTextWidthPx : ℚ
  effectsPx : ResolvedEffectsPx
deriving DecidableEq

inductive LayoutError (ε : Type) where
  | invalidViewport
  | emptyBody
  | safeAreaTooSmall
  | missingSpeakerShaping
  | invalidMeasurement
  | measurement (error : ε)
deriving DecidableEq

/-! ## Effects and areas -/

def resolveEffects (style : SubtitleStyle) (dpi : DpiScale) : ResolvedEffectsPx :=
  let outline := if style.effects.outline.enabled then dpi.px style.effects.outline.widthDp else 0
  let shadowBlur := if style.effects.shadow.enabled then dpi.px style.effects.shadow.blurDp else 0
  let shadowX := if style.effects.shadow.enabled then dpi.px style.effects.shadow.offsetXDp else 0
  let shadowY := if style.effects.shadow.enabled then dpi.px style.effects.shadow.offsetYDp else 0
  let border :=
    if style.effects.backplate.enabled then dpi.px style.effects.backplate.borderWidthDp else 0
  let base := max outline border
  { outlineEnabled := style.effects.outline.enabled
    outlineWidthPx := outline
    outlineColor := style.effects.outline.color
    shadowEnabled := style.effects.shadow.enabled
    shadowOffsetPx := ⟨shadowX, shadowY⟩
    shadowBlurPx := shadowBlur
    shadowColor := style.effects.shadow.color
    backplateEnabled := style.effects.backplate.enabled
    backplateBlurBehindPx := dpi.px style.effects.backplate.blurBehindDp
    backplateBorderWidthPx := border
    backplateFill := style.effects.backplate.fill
    backplateBorder := style.effects.backplate.border
    cornerRadiusPx := dpi.px style.geometry.cornerRadiusDp
    visualOutsetsPx :=
      { top := max base (shadowBlur + max (-shadowY) 0)
        right := max base (shadowBlur + max shadowX 0)
        bottom := max base (shadowBlur + max shadowY 0)
        left := max base (shadowBlur + max (-shadowX) 0) } }

variable {Shaping ε : Type}

namespace LayoutRequest

variable (request : LayoutRequest Shaping)

/-- A size of the style in pixels. -/
def px (dp : ℚ) : ℚ := request.dpiScale.px dp

def effectsPx : ResolvedEffectsPx := resolveEffects request.style request.dpiScale

def safe : RectPx :=
  request.viewportPx.inset (.uniform (request.px request.style.geometry.safeMarginDp))

/-- The safe area less the room the visual effects take. -/
def boxSafe : RectPx := request.safe.inset request.effectsPx.visualOutsetsPx

def paddingX : ℚ := request.px request.style.geometry.paddingXDp

def paddingY : ℚ := request.px request.style.geometry.paddingYDp

def maximumTextWidthPx : ℚ :=
  min (min (request.viewportPx.width * request.style.geometry.maxWidthFraction)
    (request.px request.style.geometry.maxWidthDp))
    (max (request.safe.width - request.paddingX * 2) 1)

/-- The speaker line that is shown, if there is one. -/
def speakerLine : Option Text := request.content.speaker.filter fun speaker => !speaker.isBlank

end LayoutRequest

/-! ## Measurement -/

def validateMetrics (metrics : TextLayoutMetrics) (maxLines : Nat) : Bool :=
  0 < metrics.sizeDp.width && 0 < metrics.sizeDp.height && 0 ≤ metrics.baselineDp &&
    metrics.baselineDp ≤ metrics.sizeDp.height && 0 < metrics.lineCount &&
    metrics.lineCount ≤ max maxLines 1

/-- A measurement and the check of its metrics. -/
def measureText (request : LayoutRequest Shaping) (measurer : TextMeasurer Shaping ε) (text : Text)
    (fontSizeDp lineHeight : ℚ) (maxLines : Nat) (shaping : Shaping) :
    Except (LayoutError ε) TextLayoutMetrics := do
  let metrics ← (measurer text fontSizeDp lineHeight
    (request.dpiScale.dp request.maximumTextWidthPx) maxLines shaping).mapError .measurement
  require (validateMetrics metrics maxLines) .invalidMeasurement
  return metrics

def measureBody (request : LayoutRequest Shaping) (measurer : TextMeasurer Shaping ε) :
    Except (LayoutError ε) TextLayoutMetrics :=
  measureText request measurer request.content.body request.style.typography.bodySizeDp
    request.style.typography.lineHeight request.style.typography.maxBodyLines request.bodyShaping

def measureSpeaker (request : LayoutRequest Shaping) (measurer : TextMeasurer Shaping ε) :
    Except (LayoutError ε) (Option TextLayoutMetrics) :=
  match request.speakerLine, request.speakerShaping with
  | some speaker, some shaping => do
    let metrics ← measureText request measurer speaker
      request.style.typography.speakerSizeDp 1 1 shaping
    return some metrics
  | some _, none => .error .missingSpeakerShaping
  | none, _ => .ok none

namespace LayoutRequest

variable (request : LayoutRequest Shaping)

/-- The width and the height of the speaker line, none where none is shown. -/
def speakerWidth (speaker : Option TextLayoutMetrics) : ℚ :=
  (speaker.map fun metrics => request.px metrics.sizeDp.width).getD 0

def speakerHeight (speaker : Option TextLayoutMetrics) : ℚ :=
  (speaker.map fun metrics => request.px metrics.sizeDp.height).getD 0

def speakerGap (speaker : Option TextLayoutMetrics) : ℚ :=
  (speaker.map fun _ => request.px request.style.geometry.speakerGapDp).getD 0

def boxSize (body : TextLayoutMetrics) (speaker : Option TextLayoutMetrics) : SizePx :=
  let contentWidth := max (request.px body.sizeDp.width) (request.speakerWidth speaker)
  let minimumWidth := min (request.px request.style.geometry.minWidthDp) request.boxSafe.width
  { width := min (max (contentWidth + request.paddingX * 2) minimumWidth) request.boxSafe.width
    height := min (request.px body.sizeDp.height + request.speakerHeight speaker +
      request.speakerGap speaker + request.paddingY * 2) request.boxSafe.height }

end LayoutRequest

/-! ## Places -/

def classifyHead (request : LayoutRequest Shaping) : FallbackReason × Option ActorHeadAnchor :=
  if !request.style.behavior.preferHeadAnchor then (.headAnchoringDisabled, none)
  else match request.actorHead with
    | none => (.noActor, none)
    | some head =>
      if head.occluded then (.occludedActor, none)
      else if head.confidence < request.style.behavior.headConfidenceThreshold ||
          request.style.behavior.maxTrackAgeMs < head.trackAgeMs then (.unreliableTrack, none)
      else if !head.headBoundsPx.isFinitePositive ||
          !head.headBoundsPx.intersects request.viewportPx then (.offscreenActor, none)
      else (.none, some head)

structure Candidate where
  anchor : AnchorKind
  anchorPointPx : PointPx
  idealBoundsPx : RectPx
  preferencePenalty : ℚ
deriving DecidableEq

def headCandidates (request : LayoutRequest Shaping) (size : SizePx) (head : RectPx) :
    List Candidate :=
  let gap := request.px request.style.geometry.headGapDp
  let center := head.center
  [⟨.headAbove, center,
      ⟨center.x - size.width / 2, head.y - gap - size.height, size.width, size.height⟩, 0⟩,
    ⟨.headBelow, center,
      ⟨center.x - size.width / 2, head.bottom + gap, size.width, size.height⟩, 1⟩,
    ⟨.headLeft, center,
      ⟨head.x - gap - size.width, center.y - size.height / 2, size.width, size.height⟩, 2⟩,
    ⟨.headRight, center,
      ⟨head.right + gap, center.y - size.height / 2, size.width, size.height⟩, 3⟩]

/-- `add_bottom_candidates`: three places in each of the rows that go up from the bottom. -/
def bottomCandidates (request : LayoutRequest Shaping) (safe : RectPx) (size : SizePx) :
    List Candidate :=
  let bottom := safe.bottom - request.px request.style.geometry.fallbackBottomDp
  let step := size.height + request.px request.style.geometry.candidateGapDp
  (List.range (max request.style.behavior.collisionSearchSteps 1)).flatMap fun index =>
    let y := bottom - size.height - step * index
    [(1 / 2, 0), (1 / 4, 1 / 4), (3 / 4, 1 / 2)].map fun (horizontal, penalty) =>
      let centerX := safe.x + safe.width * horizontal
      ⟨.bottomCenter, ⟨centerX, bottom⟩, ⟨centerX - size.width / 2, y, size.width, size.height⟩,
        10 + index + penalty⟩

structure ScoredCandidate where
  anchor : AnchorKind
  anchorPointPx : PointPx
  boundsPx : RectPx
  wasClamped : Bool
  overlapAreaPx2 : ℚ
  score : ℚ
deriving DecidableEq

def scoreCandidate (candidate : Candidate) (safe : RectPx) (visualOutsets : InsetsPx)
    (exclusions : List RectPx) : ScoredCandidate :=
  let clamped := candidate.idealBoundsPx.clampInside safe
  let displacement := |clamped.x - candidate.idealBoundsPx.x| +
    |clamped.y - candidate.idealBoundsPx.y|
  let overlapArea :=
    (exclusions.map fun exclusion => (clamped.outset visualOutsets).intersectionArea exclusion).sum
  { anchor := candidate.anchor
    anchorPointPx := candidate.anchorPointPx
    boundsPx := clamped
    wasClamped := clamped ≠ candidate.idealBoundsPx
    overlapAreaPx2 := overlapArea
    score := overlapArea * 10000 + displacement + candidate.preferencePenalty }

def candidates (request : LayoutRequest Shaping) (size : SizePx) : List Candidate :=
  (match (classifyHead request).2 with
    | some head => headCandidates request size head.headBoundsPx
    | none => []) ++ bottomCandidates request request.boxSafe size

def scoredCandidates (request : LayoutRequest Shaping) (size : SizePx) : List ScoredCandidate :=
  let exclusions := (request.hudExclusionsPx ++ request.occupiedSubtitlesPx).filter
    RectPx.isFinitePositive
  (candidates request size).map fun candidate =>
    scoreCandidate candidate request.boxSafe request.effectsPx.visualOutsetsPx exclusions

/-- The layout at the selected place. -/
def placeTexts (request : LayoutRequest Shaping) (body : TextLayoutMetrics)
    (speaker : Option TextLayoutMetrics) (selected : ScoredCandidate) : SubtitleLayout :=
  let bounds := selected.boundsPx
  let speakerHeight := request.speakerHeight speaker
  let speakerGap := request.speakerGap speaker
  { boundsPx := bounds
    visualBoundsPx := bounds.outset request.effectsPx.visualOutsetsPx
    speakerBoundsPx := speaker.map fun metrics =>
      ⟨bounds.x + request.paddingX, bounds.y + request.paddingY,
        min (request.px metrics.sizeDp.width) (bounds.width - request.paddingX * 2), speakerHeight⟩
    bodyBoundsPx :=
      ⟨bounds.x + request.paddingX, bounds.y + request.paddingY + speakerHeight + speakerGap,
        min (request.px body.sizeDp.width) (max (bounds.width - request.paddingX * 2) 0),
        min (request.px body.sizeDp.height)
          (max (bounds.height - request.paddingY * 2 - speakerHeight - speakerGap) 0)⟩
    anchor := selected.anchor
    fallbackReason :=
      if selected.anchor = .bottomCenter then
        if (classifyHead request).2.isSome then .collisionAvoidance else (classifyHead request).1
      else .none
    anchorPointPx := selected.anchorPointPx
    wasClamped := selected.wasClamped
    collides := 1 / 2 < selected.overlapAreaPx2
    overlapAreaPx2 := selected.overlapAreaPx2
    bodyMetrics := body
    speakerMetrics := speaker
    maxTextWidthPx := request.maximumTextWidthPx
    effectsPx := request.effectsPx }

def layoutSubtitle (request : LayoutRequest Shaping) (measurer : TextMeasurer Shaping ε) :
    Except (LayoutError ε) SubtitleLayout := do
  require request.viewportPx.isFinitePositive .invalidViewport
  require (!request.content.body.isBlank) .emptyBody
  require request.safe.isFinitePositive .safeAreaTooSmall
  require request.boxSafe.isFinitePositive .safeAreaTooSmall
  let body ← measureBody request measurer
  let speaker ← measureSpeaker request measurer
  -- `min_by` takes the first of several equal minima, and so does `argmin`
  let selected ← okOr ((scoredCandidates request (request.boxSize body speaker)).argmin
    ScoredCandidate.score) .safeAreaTooSmall
  return placeTexts request body speaker selected

/-! ## What a layout is made of -/

variable {request : LayoutRequest Shaping} {measurer : TextMeasurer Shaping ε}
  {layout : SubtitleLayout} {body : TextLayoutMetrics} {speaker : Option TextLayoutMetrics}

theorem layoutSubtitle_eq_ok (h : layoutSubtitle request measurer = .ok layout) :
    request.safe.isFinitePositive = true ∧ request.boxSafe.isFinitePositive = true ∧
      ∃ body speaker selected, measureBody request measurer = .ok body ∧
        measureSpeaker request measurer = .ok speaker ∧
        selected ∈ scoredCandidates request (request.boxSize body speaker) ∧
        layout = placeTexts request body speaker selected := by
  simp only [layoutSubtitle, bind_eq_ok, require_eq_ok, okOr_eq_ok, pure_eq_ok] at h
  obtain ⟨_, _, _, _, _, hsafe, _, hbox, body, hbody, speaker, hspeaker, selected, hselected,
    rfl⟩ := h
  exact ⟨hsafe, hbox, body, speaker, selected, hbody, hspeaker, List.argmin_mem hselected, rfl⟩

variable {metrics : TextLayoutMetrics}

theorem measureText_positive {text : Text} {fontSizeDp lineHeight : ℚ} {maxLines : Nat}
    {shaping : Shaping}
    (h : measureText request measurer text fontSizeDp lineHeight maxLines shaping = .ok metrics) :
    0 < request.px metrics.sizeDp.width ∧ 0 < request.px metrics.sizeDp.height := by
  simp only [measureText, bind_eq_ok, require_eq_ok, pure_eq_ok] at h
  obtain ⟨_, _, _, hvalid, rfl⟩ := h
  simp only [validateMetrics, Bool.and_eq_true, decide_eq_true_eq] at hvalid
  obtain ⟨⟨⟨⟨⟨hwidth, hheight⟩, -⟩, -⟩, -⟩, -⟩ := hvalid
  exact ⟨request.dpiScale.px_pos.2 hwidth, request.dpiScale.px_pos.2 hheight⟩

theorem measureSpeaker_positive (h : measureSpeaker request measurer = .ok speaker) :
    ∀ metrics ∈ speaker,
      0 < request.px metrics.sizeDp.width ∧ 0 < request.px metrics.sizeDp.height := by
  intro metrics hmetrics
  unfold measureSpeaker at h
  split at h
  · simp only [bind_eq_ok, pure_eq_ok] at h
    obtain ⟨_, hmeasured, rfl⟩ := h
    cases hmetrics
    exact measureText_positive hmeasured
  · cases h
  · cases h
    cases hmetrics

/-! ## The box -/

theorem candidates_size {size : SizePx} {candidate : Candidate}
    (h : candidate ∈ candidates request size) :
    candidate.idealBoundsPx.width = size.width ∧ candidate.idealBoundsPx.height = size.height := by
  rw [candidates, List.mem_append] at h
  obtain hhead | hbottom := h
  · split at hhead
    · simp only [headCandidates, List.mem_cons, List.not_mem_nil, or_false] at hhead
      obtain rfl | rfl | rfl | rfl := hhead <;> exact ⟨rfl, rfl⟩
    · cases hhead
  · simp only [bottomCandidates, List.mem_flatMap, List.mem_map] at hbottom
    obtain ⟨_, _, _, _, rfl⟩ := hbottom
    exact ⟨rfl, rfl⟩

/-- Wherever it goes, a box that fits `boxSafe` keeps its size and lies inside. -/
theorem selected_bounds {size : SizePx} {selected : ScoredCandidate}
    (hwidth : 0 ≤ size.width ∧ size.width ≤ request.boxSafe.width)
    (hheight : 0 ≤ size.height ∧ size.height ≤ request.boxSafe.height)
    (h : selected ∈ scoredCandidates request size) :
    selected.boundsPx.Inside request.boxSafe ∧ selected.boundsPx.width = size.width ∧
      selected.boundsPx.height = size.height := by
  simp only [scoredCandidates, List.mem_map] at h
  obtain ⟨candidate, hcandidate, rfl⟩ := h
  obtain ⟨hw, hh⟩ := candidates_size hcandidate
  refine ⟨RectPx.clampInside_inside _ (hwidth.1.trans hwidth.2) (hheight.1.trans hheight.2), ?_, ?_⟩
  · simp [scoreCandidate, hw, min_eq_left hwidth.2, max_eq_left hwidth.1]
  · simp [scoreCandidate, hh, min_eq_left hheight.2, max_eq_left hheight.1]

/-- The sizes of a validated style that a layout adds up are positive. -/
theorem paddings_positive (hstyle : request.style.validate = .ok ()) :
    0 < request.paddingX ∧ 0 < request.paddingY ∧
      0 < request.px request.style.geometry.speakerGapDp := by
  have hsizes := (SubtitleStyle.validate_eq_ok.1 hstyle).2
  exact ⟨request.dpiScale.px_pos.2 (hsizes _ (by simp [SubtitleStyle.sizes])),
    request.dpiScale.px_pos.2 (hsizes _ (by simp [SubtitleStyle.sizes])),
    request.dpiScale.px_pos.2 (hsizes _ (by simp [SubtitleStyle.sizes]))⟩

/-! ## Room for the texts -/

/-- On one axis: a text behind a lead and in front of a trail, cut to what they leave of the box,
stays in the box exactly when the lead does. -/
theorem cut_fits_iff {lead trail text box : ℚ} (htrail : 0 ≤ trail) (htext : 0 ≤ text) :
    lead + min text (max (box - lead - trail) 0) ≤ box ↔ lead ≤ box := by
  refine ⟨fun h => ?_, fun h => ?_⟩
  · have hcut : 0 ≤ min text (max (box - lead - trail) 0) := le_min htext (le_max_right _ _)
    linarith
  · by_cases hroom : 0 ≤ box - lead - trail
    · have hcut : min text (max (box - lead - trail) 0) ≤ box - lead - trail :=
        (min_le_right _ _).trans (max_eq_left hroom).le
      linarith
    · have hcut : min text (max (box - lead - trail) 0) ≤ 0 :=
        (min_le_right _ _).trans (max_eq_right (not_le.1 hroom).le).le
      linarith

/-- A text is not cut exactly when its paddings and itself fit. -/
theorem uncut_iff {padding text box : ℚ} (htext : 0 < text) :
    min text (max (box - padding * 2) 0) = text ↔ text + padding * 2 ≤ box := by
  rw [min_eq_left_iff, le_max_iff]
  refine ⟨fun h => ?_, fun h => .inl (by linarith)⟩
  obtain h | h := h <;> linarith

/-- What a box of the layout's width leaves: an extent that the texts and their paddings hold fits
the box exactly when it fits `boxSafe`. -/
theorem le_boxSize_width_iff {extent : ℚ} (h : extent ≤
    max (request.px body.sizeDp.width) (request.speakerWidth speaker) + request.paddingX * 2) :
    extent ≤ (request.boxSize body speaker).width ↔ extent ≤ request.boxSafe.width := by
  refine ⟨fun hle => hle.trans (min_le_right _ _), fun hle => le_min (h.trans ?_) hle⟩
  exact le_max_left _ _

theorem le_boxSize_height_iff {extent : ℚ} (h : extent ≤ request.px body.sizeDp.height +
    request.speakerHeight speaker + request.speakerGap speaker + request.paddingY * 2) :
    extent ≤ (request.boxSize body speaker).height ↔ extent ≤ request.boxSafe.height :=
  ⟨fun hle => hle.trans (min_le_right _ _), fun hle => le_min h hle⟩

def RectPx.NonNegative (rect : RectPx) : Prop := 0 ≤ rect.width ∧ 0 ≤ rect.height

/-- The measurer never returns a width above the maximum it was given. -/
def WithinMaximum (measurer : TextMeasurer Shaping ε) : Prop :=
  ∀ text fontSizeDp lineHeight maxWidthDp maxLines shaping metrics,
    measurer text fontSizeDp lineHeight maxWidthDp maxLines shaping = .ok metrics →
      metrics.sizeDp.width ≤ maxWidthDp

/-- A layout keeps everything in its container, and its body as wide as it was measured. -/
structure LayoutContained (request : LayoutRequest Shaping) (measurer : TextMeasurer Shaping ε)
    (layout : SubtitleLayout) : Prop where
  visual : layout.visualBoundsPx.Inside request.safe
  box : layout.boundsPx.Inside request.boxSafe
  bodySize : layout.bodyBoundsPx.NonNegative
  body : layout.bodyBoundsPx.Inside layout.boundsPx
  speakerSize : ∀ bounds ∈ layout.speakerBoundsPx, bounds.NonNegative
  speaker : ∀ bounds ∈ layout.speakerBoundsPx, bounds.Inside layout.boundsPx
  apart : ∀ bounds ∈ layout.speakerBoundsPx, bounds.intersects layout.bodyBoundsPx = false
  uncut : WithinMaximum measurer →
    layout.bodyBoundsPx.width = request.px layout.bodyMetrics.sizeDp.width

/-- The area for the box has room for the left padding and for everything above the body; with a
speaker line, for both side paddings; and with a measurer that keeps to its maximum, for the body
between them. -/
structure RoomFor (request : LayoutRequest Shaping) (measurer : TextMeasurer Shaping ε)
    (body : TextLayoutMetrics) (speaker : Option TextLayoutMetrics) : Prop where
  lead : request.paddingX ≤ request.boxSafe.width
  above : request.paddingY + request.speakerHeight speaker + request.speakerGap speaker ≤
    request.boxSafe.height
  speaker : speaker.isSome → request.paddingX * 2 ≤ request.boxSafe.width
  body : WithinMaximum measurer →
    request.px body.sizeDp.width + request.paddingX * 2 ≤ request.boxSafe.width

/-- The texts, as they are measured for this request, have room. -/
def LeavesRoom (request : LayoutRequest Shaping) (measurer : TextMeasurer Shaping ε) : Prop :=
  ∃ body speaker, measureBody request measurer = .ok body ∧
    measureSpeaker request measurer = .ok speaker ∧ RoomFor request measurer body speaker

/-- What holds of the texts and the selected place once a layout is made. -/
structure Placed (request : LayoutRequest Shaping) (body : TextLayoutMetrics)
    (speaker : Option TextLayoutMetrics) (selected : ScoredCandidate) : Prop where
  paddingX : 0 < request.paddingX
  paddingY : 0 < request.paddingY
  bodyWidth : 0 < request.px body.sizeDp.width
  bodyHeight : 0 < request.px body.sizeDp.height
  speakerWidth : ∀ metrics ∈ speaker, 0 < request.px metrics.sizeDp.width
  speakerHeight : 0 ≤ request.speakerHeight speaker
  speakerGap : 0 ≤ request.speakerGap speaker
  inside : selected.boundsPx.Inside request.boxSafe
  width : selected.boundsPx.width = (request.boxSize body speaker).width
  height : selected.boundsPx.height = (request.boxSize body speaker).height

theorem layout_placed (hstyle : request.style.validate = .ok ())
    (h : layoutSubtitle request measurer = .ok layout) :
    request.safe.isFinitePositive = true ∧ request.boxSafe.isFinitePositive = true ∧
      ∃ body speaker selected, measureBody request measurer = .ok body ∧
        measureSpeaker request measurer = .ok speaker ∧ Placed request body speaker selected ∧
        layout = placeTexts request body speaker selected := by
  obtain ⟨hsafe, hbox, body, speaker, selected, hbody, hspeaker, hselected, hlayout⟩ :=
    layoutSubtitle_eq_ok h
  obtain ⟨hpadX, hpadY, hgap⟩ := paddings_positive hstyle
  obtain ⟨hbodyWidth, hbodyHeight⟩ := measureText_positive hbody
  obtain ⟨hboxWidth, hboxHeight⟩ := RectPx.isFinitePositive_iff.1 hbox
  have hspeakerHeight : 0 ≤ request.speakerHeight speaker := by
    cases speaker with
    | none => exact le_rfl
    | some metrics => exact (measureSpeaker_positive hspeaker metrics rfl).2.le
  have hspeakerGap : 0 ≤ request.speakerGap speaker := by
    cases speaker with
    | none => exact le_rfl
    | some metrics => exact hgap.le
  have hcontent : request.px body.sizeDp.width ≤
      max (request.px body.sizeDp.width) (request.speakerWidth speaker) := le_max_left _ _
  have hwidth : 0 ≤ (request.boxSize body speaker).width :=
    (le_boxSize_width_iff (by linarith)).2 hboxWidth.le
  have hheight : 0 ≤ (request.boxSize body speaker).height :=
    (le_boxSize_height_iff (by linarith)).2 hboxHeight.le
  obtain ⟨hinside, hw, hh⟩ := selected_bounds ⟨hwidth, min_le_right _ _⟩
    ⟨hheight, min_le_right _ _⟩ hselected
  refine ⟨hsafe, hbox, body, speaker, selected, hbody, hspeaker, ?_, hlayout⟩
  exact { paddingX := hpadX, paddingY := hpadY, bodyWidth := hbodyWidth, bodyHeight := hbodyHeight
          speakerWidth := fun metrics hmetrics => (measureSpeaker_positive hspeaker _ hmetrics).1
          speakerHeight := hspeakerHeight, speakerGap := hspeakerGap
          inside := hinside, width := hw, height := hh }

section Placed

variable {selected : ScoredCandidate} (h : Placed request body speaker selected)
include h

theorem Placed.lead_iff :
    request.paddingX ≤ selected.boundsPx.width ↔ request.paddingX ≤ request.boxSafe.width := by
  have hcontent := le_max_left (request.px body.sizeDp.width) (request.speakerWidth speaker)
  have := h.paddingX
  have := h.bodyWidth
  rw [h.width]
  exact le_boxSize_width_iff (by linarith)

theorem Placed.paddings_iff :
    request.paddingX * 2 ≤ selected.boundsPx.width ↔
      request.paddingX * 2 ≤ request.boxSafe.width := by
  have hcontent := le_max_left (request.px body.sizeDp.width) (request.speakerWidth speaker)
  have := h.bodyWidth
  rw [h.width]
  exact le_boxSize_width_iff (by linarith)

theorem Placed.above_iff :
    request.paddingY + request.speakerHeight speaker + request.speakerGap speaker ≤
        selected.boundsPx.height ↔
      request.paddingY + request.speakerHeight speaker + request.speakerGap speaker ≤
        request.boxSafe.height := by
  have := h.paddingY
  have := h.bodyHeight
  rw [h.height]
  exact le_boxSize_height_iff (by linarith)

/-- The body stays in the box exactly when what is before it, on either axis, does. -/
theorem Placed.body_inside_iff :
    (placeTexts request body speaker selected).bodyBoundsPx.Inside selected.boundsPx ↔
      request.paddingX ≤ request.boxSafe.width ∧
        request.paddingY + request.speakerHeight speaker + request.speakerGap speaker ≤
          request.boxSafe.height := by
  have hx : request.paddingX + min (request.px body.sizeDp.width)
      (max (selected.boundsPx.width - request.paddingX - request.paddingX) 0) ≤
        selected.boundsPx.width ↔ request.paddingX ≤ selected.boundsPx.width :=
    cut_fits_iff h.paddingX.le h.bodyWidth.le
  have hy : request.paddingY + request.speakerHeight speaker + request.speakerGap speaker +
      min (request.px body.sizeDp.height) (max (selected.boundsPx.height -
        (request.paddingY + request.speakerHeight speaker + request.speakerGap speaker) -
          request.paddingY) 0) ≤ selected.boundsPx.height ↔
      request.paddingY + request.speakerHeight speaker + request.speakerGap speaker ≤
        selected.boundsPx.height :=
    cut_fits_iff h.paddingY.le h.bodyHeight.le
  rw [← h.lead_iff, ← h.above_iff, ← hx, ← hy]
  have hwidth : selected.boundsPx.width - request.paddingX * 2 =
      selected.boundsPx.width - request.paddingX - request.paddingX := by ring
  have hheight : selected.boundsPx.height - request.paddingY * 2 - request.speakerHeight speaker -
      request.speakerGap speaker = selected.boundsPx.height -
        (request.paddingY + request.speakerHeight speaker + request.speakerGap speaker) -
          request.paddingY := by ring
  have := h.paddingX
  have := h.paddingY
  have := h.speakerHeight
  have := h.speakerGap
  refine ⟨fun hin => ?_, fun hfits => ?_⟩
  · have hright := hin.right
    have hbottom := hin.bottom
    simp only [placeTexts, RectPx.right, RectPx.bottom, hwidth, hheight] at hright hbottom
    exact ⟨by linarith, by linarith⟩
  · constructor <;>
      simp only [placeTexts, RectPx.right, RectPx.bottom, hwidth, hheight] <;> linarith

theorem Placed.body_nonNegative :
    (placeTexts request body speaker selected).bodyBoundsPx.NonNegative :=
  ⟨le_min h.bodyWidth.le (le_max_right _ _), le_min h.bodyHeight.le (le_max_right _ _)⟩

theorem Placed.body_uncut_iff :
    (placeTexts request body speaker selected).bodyBoundsPx.width =
        request.px body.sizeDp.width ↔
      request.px body.sizeDp.width + request.paddingX * 2 ≤ request.boxSafe.width := by
  have hcontent := le_max_left (request.px body.sizeDp.width) (request.speakerWidth speaker)
  have hfits : request.px body.sizeDp.width + request.paddingX * 2 ≤
      (request.boxSize body speaker).width ↔
        request.px body.sizeDp.width + request.paddingX * 2 ≤ request.boxSafe.width :=
    le_boxSize_width_iff (by linarith)
  rw [← hfits, ← h.width]
  exact uncut_iff h.bodyWidth

theorem Placed.speaker_nonNegative_iff (hspeaker : metrics ∈ speaker) :
    0 ≤ min (request.px metrics.sizeDp.width)
        (selected.boundsPx.width - request.paddingX * 2) ↔
      request.paddingX * 2 ≤ request.boxSafe.width := by
  rw [← h.paddings_iff, le_min_iff, sub_nonneg]
  exact and_iff_right (h.speakerWidth metrics hspeaker).le

theorem Placed.speaker_inside (hspeaker : speaker = some metrics) (habove : request.paddingY +
      request.speakerHeight speaker + request.speakerGap speaker ≤ request.boxSafe.height) :
    ∀ bounds ∈ (placeTexts request body speaker selected).speakerBoundsPx,
      bounds.Inside selected.boundsPx := by
  have hheight := h.above_iff.2 habove
  intro bounds hbounds
  have := h.paddingX
  have := h.paddingY
  have := h.speakerGap
  subst hspeaker
  have hcut := min_le_right (request.px metrics.sizeDp.width)
    (selected.boundsPx.width - request.paddingX * 2)
  cases hbounds
  constructor <;> simp only [RectPx.right, RectPx.bottom] <;> linarith

/-- The body begins under the speaker line. -/
theorem Placed.apart :
    ∀ bounds ∈ (placeTexts request body speaker selected).speakerBoundsPx,
      bounds.intersects (placeTexts request body speaker selected).bodyBoundsPx = false := by
  intro bounds hbounds
  rw [placeTexts, Option.mem_map] at hbounds
  obtain ⟨metrics, hmetrics, rfl⟩ := hbounds
  have := h.speakerGap
  apply RectPx.intersects_of_bottom_le
  simp only [placeTexts, RectPx.bottom]
  linarith

end Placed

/-- **A layout is contained, its body uncut, exactly when its area leaves room.** -/
theorem layout_contained_iff (hstyle : request.style.validate = .ok ())
    (h : layoutSubtitle request measurer = .ok layout) :
    LayoutContained request measurer layout ↔ LeavesRoom request measurer := by
  obtain ⟨hsafe, hbox, body, speaker, selected, hbody, hspeaker, hplaced, rfl⟩ :=
    layout_placed hstyle h
  refine ⟨fun hin => ?_, fun hroom => ?_⟩
  · obtain ⟨hlead, habove⟩ := hplaced.body_inside_iff.1 hin.body
    refine ⟨body, speaker, hbody, hspeaker, hlead, habove, fun hsome => ?_, fun hmaximum => ?_⟩
    · obtain ⟨metrics, hmetrics⟩ := Option.isSome_iff_exists.1 hsome
      have hsize := hin.speakerSize _ (by rw [placeTexts, hmetrics]; rfl)
      exact (hplaced.speaker_nonNegative_iff hmetrics).1 hsize.1
    · exact hplaced.body_uncut_iff.1 (hin.uncut hmaximum)
  · obtain ⟨body', speaker', hbody', hspeaker', hroom⟩ := hroom
    obtain rfl : body = body' := Except.ok.inj (hbody.symm.trans hbody')
    obtain rfl : speaker = speaker' := Except.ok.inj (hspeaker.symm.trans hspeaker')
    exact {
      visual := RectPx.outset_inside hbox hplaced.inside
      box := hplaced.inside
      bodySize := hplaced.body_nonNegative
      body := hplaced.body_inside_iff.2 ⟨hroom.lead, hroom.above⟩
      speakerSize := by
        intro bounds hbounds
        rw [placeTexts, Option.mem_map] at hbounds
        obtain ⟨metrics, hmetrics, rfl⟩ := hbounds
        refine ⟨(hplaced.speaker_nonNegative_iff hmetrics).2 (hroom.speaker ?_),
          hplaced.speakerHeight⟩
        rw [hmetrics]
        rfl
      speaker := by
        cases hcase : speaker with
        | none =>
          intro bounds hbounds
          cases hbounds
        | some metrics =>
          rw [← hcase]
          exact hplaced.speaker_inside hcase hroom.above
      apart := hplaced.apart
      uncut := fun hmaximum => hplaced.body_uncut_iff.2 (hroom.body hmaximum) }

/-! ### A wide viewport and a narrow one -/

/-- A request without a head or exclusions, at a scale of one. -/
def plainRequest (viewport : RectPx) : LayoutRequest Unit where
  viewportPx := viewport
  dpiScale := unscaled
  content := ⟨some "Mara".toList, "The bridge is down.".toList⟩
  style := plainStyle
  bodyShaping := ()
  speakerShaping := some ()
  actorHead := none
  hudExclusionsPx := []
  occupiedSubtitlesPx := []

/-- One line of text that is as wide as it may be, up to 300. -/
def oneLine : TextMeasurer Unit Empty := fun _ fontSizeDp lineHeight maxWidthDp _ _ =>
  .ok ⟨⟨min maxWidthDp 300, fontSizeDp * lineHeight⟩, 1, fontSizeDp⟩

/-- A layout in a full-size viewport is contained. -/
theorem layout_contained_iff_fullHd : ∃ layout,
    layoutSubtitle (plainRequest ⟨0, 0, 1920, 1080⟩) oneLine = .ok layout ∧
      LayoutContained (plainRequest ⟨0, 0, 1920, 1080⟩) oneLine layout := by
  have hok : (layoutSubtitle (plainRequest ⟨0, 0, 1920, 1080⟩) oneLine).isOk = true := by
    decide +kernel
  obtain ⟨layout, hlayout⟩ := isOk_eq_true.1 hok
  have hroom : LeavesRoom (plainRequest ⟨0, 0, 1920, 1080⟩) oneLine :=
    ⟨⟨⟨300, 156 / 5⟩, 1, 26⟩, some ⟨⟨300, 17⟩, 1, 17⟩, by decide +kernel, by decide +kernel,
      by decide +kernel, by decide +kernel, fun _ => by decide +kernel, fun _ => by decide +kernel⟩
  exact ⟨layout, hlayout, (layout_contained_iff (by decide +kernel) hlayout).2 hroom⟩

/-- In a viewport 70 pixels wide, the speaker line is laid out with a negative width. -/
theorem narrow_layout_not_contained : ∃ layout,
    layoutSubtitle (plainRequest ⟨0, 0, 70, 200⟩) oneLine = .ok layout ∧
      ¬LayoutContained (plainRequest ⟨0, 0, 70, 200⟩) oneLine layout := by
  have hok : (layoutSubtitle (plainRequest ⟨0, 0, 70, 200⟩) oneLine).isOk = true := by
    decide +kernel
  obtain ⟨layout, hlayout⟩ := isOk_eq_true.1 hok
  have hnegative : ((layoutSubtitle (plainRequest ⟨0, 0, 70, 200⟩) oneLine).toOption.bind
      SubtitleLayout.speakerBoundsPx).map RectPx.width = some (-12) := by
    decide +kernel
  refine ⟨layout, hlayout, fun hin => ?_⟩
  rw [hlayout] at hnegative
  obtain ⟨bounds, hbounds, hwidth⟩ := Option.map_eq_some_iff.1 hnegative
  have hsize := (hin.speakerSize bounds hbounds).1
  rw [hwidth] at hsize
  exact absurd hsize (by decide +kernel)

end NpcRuntime.Subtitles
