import NpcRuntime.Lib.Saturating
import NpcRuntime.Subtitles.Geometry
import NpcRuntime.Subtitles.Style
import Mathlib.Algebra.Order.Field.Rat
import Mathlib.Tactic.FieldSimp
import Mathlib.Tactic.Positivity
import Mathlib.Tactic.Ring

/-!
# Subtitle animation

`subtitle-engine/src/animation.rs`: what of a cue is shown at a time. Times are the source's `u64`
milliseconds read as natural numbers, and `f32` is exact.

**The fade.** The opacity rises with `smoothstep` over the first `enterMs` of a cue, holds, and
falls with it over the `exitMs` after the cue's end.

**A cue that ends while it enters.** The entering phase is tested before the exiting one, so the
opacity of a cue shorter than its enter time still rises after the cue's end, and then jumps to the
place the exit has reached by then. `fade_shaped_iff` says which cues fade as they should.
-/

namespace NpcRuntime.Subtitles

inductive AnimationPhase where
  | hidden
  | entering
  | holding
  | exiting
deriving DecidableEq

structure AnimationSample where
  phase : AnimationPhase
  opacity : ℚ
  scale : ℚ
  translateYPx : ℚ
  revealFraction : ℚ
deriving DecidableEq

structure CueTiming where
  startMs : Nat
  endMs : Nat
  graphemeCount : Nat
deriving DecidableEq

def unitProgress (nowMs startMs durationMs : Nat) : ℚ :=
  if durationMs = 0 then 1
  else (min (nowMs - startMs) durationMs : Nat) / (durationMs : ℚ)

def smoothstep (value : ℚ) : ℚ := value * value * (3 - 2 * value)

/-- When the cue is gone. -/
def CueTiming.gone (cue : CueTiming) (style : AnimationStyle) : Nat :=
  satAdd cue.endMs style.exitMs

def motionDisabled (style : AnimationStyle) (reducedMotion : Bool) : Bool :=
  reducedMotion || !style.enabled

/-- The phase of a cue that is shown. -/
def shownPhase (nowMs : Nat) (cue : CueTiming) (style : AnimationStyle) (reducedMotion : Bool) :
    AnimationPhase :=
  if !motionDisabled style reducedMotion && 0 < style.enterMs &&
      nowMs < satAdd cue.startMs style.enterMs then
    .entering
  else if !motionDisabled style reducedMotion && 0 < style.exitMs && cue.endMs ≤ nowMs then
    .exiting
  else
    .holding

def phaseOpacity (nowMs : Nat) (cue : CueTiming) (style : AnimationStyle) : AnimationPhase → ℚ
  | .hidden => 0
  | .entering => smoothstep (unitProgress nowMs cue.startMs style.enterMs)
  | .holding => 1
  | .exiting => 1 - smoothstep (unitProgress nowMs cue.endMs style.exitMs)

def sampleAnimation (nowMs : Nat) (cue : CueTiming) (style : AnimationStyle) (dpi : DpiScale)
    (reducedMotion : Bool) : AnimationSample :=
  if nowMs < cue.startMs ∨ cue.gone style ≤ nowMs then
    { phase := .hidden, opacity := 0, scale := 1, translateYPx := 0, revealFraction := 0 }
  else
    let disabled := motionDisabled style reducedMotion
    let phase := shownPhase nowMs cue style reducedMotion
    let enterProgress :=
      if disabled then 1 else smoothstep (unitProgress nowMs cue.startMs style.enterMs)
    let revealStart := satAdd cue.startMs style.revealDelayMs
    let revealDuration := min (style.revealMsPerGrapheme * cue.graphemeCount) u64Max
    { phase
      opacity := phaseOpacity nowMs cue style phase
      scale := if disabled then 1 else style.initialScale + (1 - style.initialScale) * enterProgress
      translateYPx := if disabled then 0 else dpi.px style.initialOffsetYDp * (1 - enterProgress)
      revealFraction :=
        if disabled || revealDuration = 0 then 1
        else unitProgress nowMs revealStart revealDuration }

/-! ## Progress -/

variable {nowMs startMs durationMs : Nat}

theorem unitProgress_of_pos (h : 0 < durationMs) :
    unitProgress nowMs startMs durationMs =
      (min (nowMs - startMs) durationMs : Nat) / (durationMs : ℚ) :=
  if_neg h.ne'

theorem unitProgress_nonneg (nowMs startMs durationMs : Nat) :
    0 ≤ unitProgress nowMs startMs durationMs := by
  unfold unitProgress
  split
  · exact zero_le_one
  · positivity

theorem unitProgress_le_one (nowMs startMs durationMs : Nat) :
    unitProgress nowMs startMs durationMs ≤ 1 := by
  by_cases h : durationMs = 0
  · simp [unitProgress, h]
  · rw [unitProgress_of_pos (Nat.pos_of_ne_zero h)]
    exact div_le_one_of_le₀ (by exact_mod_cast min_le_right _ _) (Nat.cast_nonneg _)

variable {laterMs : Nat}

theorem unitProgress_mono (h : nowMs ≤ laterMs) (startMs durationMs : Nat) :
    unitProgress nowMs startMs durationMs ≤ unitProgress laterMs startMs durationMs := by
  by_cases hzero : durationMs = 0
  · simp [unitProgress, hzero]
  · rw [unitProgress_of_pos (Nat.pos_of_ne_zero hzero),
      unitProgress_of_pos (Nat.pos_of_ne_zero hzero)]
    refine div_le_div_of_nonneg_right ?_ (Nat.cast_nonneg _)
    exact_mod_cast min_le_min_right _ (Nat.sub_le_sub_right h _)

theorem smoothstep_zero : smoothstep 0 = 0 := by norm_num [smoothstep]

theorem smoothstep_one : smoothstep 1 = 1 := by norm_num [smoothstep]

/-- The step is symmetric about its middle. -/
theorem smoothstep_symm (value : ℚ) : smoothstep (1 - value) = 1 - smoothstep value := by
  simp only [smoothstep]
  ring

variable {a b : ℚ}

/-- The step is strictly increasing on the unit interval. -/
theorem smoothstep_lt (h0 : 0 ≤ a) (hab : a < b) (h1 : b ≤ 1) : smoothstep a < smoothstep b := by
  have hfactor : smoothstep b - smoothstep a =
      (b - a) * (2 * (a * (1 - a)) + 2 * (b * (1 - b)) + a * (1 - b) + b * (1 - a)) := by
    simp only [smoothstep]
    ring
  have haa : 0 ≤ a * (1 - a) := mul_nonneg h0 (by linarith)
  have hbb : 0 ≤ b * (1 - b) := mul_nonneg (by linarith) (by linarith)
  have hab' : 0 ≤ a * (1 - b) := mul_nonneg h0 (by linarith)
  have hpos : 0 < smoothstep b - smoothstep a := by
    rw [hfactor]
    exact mul_pos (by linarith) (by linarith)
  linarith

theorem smoothstep_le (h0 : 0 ≤ a) (hab : a ≤ b) (h1 : b ≤ 1) : smoothstep a ≤ smoothstep b := by
  by_cases heq : a = b
  · rw [heq]
  · exact (smoothstep_lt h0 (lt_of_le_of_ne hab heq) h1).le

theorem smoothstep_le_iff (ha : 0 ≤ a) (ha' : a ≤ 1) (hb : 0 ≤ b) (hb' : b ≤ 1) :
    smoothstep a ≤ smoothstep b ↔ a ≤ b := by
  refine ⟨fun h => ?_, fun h => smoothstep_le ha h hb'⟩
  by_contra hlt
  exact absurd (smoothstep_lt hb (not_le.1 hlt) ha') (not_lt.2 h)

/-- The fade over a duration from a start: `smoothstep` of the progress. -/
def fadeIn (nowMs startMs durationMs : Nat) : ℚ :=
  smoothstep (unitProgress nowMs startMs durationMs)

theorem fadeIn_unit (nowMs startMs durationMs : Nat) :
    0 ≤ fadeIn nowMs startMs durationMs ∧ fadeIn nowMs startMs durationMs ≤ 1 := by
  have h0 := unitProgress_nonneg nowMs startMs durationMs
  have h1 := unitProgress_le_one nowMs startMs durationMs
  refine ⟨?_, ?_⟩
  · rw [← smoothstep_zero]
    exact smoothstep_le le_rfl h0 h1
  · rw [← smoothstep_one]
    exact smoothstep_le h0 h1 le_rfl

theorem fadeIn_mono (h : nowMs ≤ laterMs) (startMs durationMs : Nat) :
    fadeIn nowMs startMs durationMs ≤ fadeIn laterMs startMs durationMs :=
  smoothstep_le (unitProgress_nonneg _ _ _) (unitProgress_mono h _ _) (unitProgress_le_one _ _ _)

/-- Before the fade is over, every millisecond adds to it. -/
theorem fadeIn_lt (hstart : startMs ≤ nowMs) (h : nowMs < laterMs)
    (hlater : laterMs ≤ startMs + durationMs) :
    fadeIn nowMs startMs durationMs < fadeIn laterMs startMs durationMs := by
  have hpos : 0 < durationMs := by omega
  refine smoothstep_lt (unitProgress_nonneg _ _ _) ?_ (unitProgress_le_one _ _ _)
  rw [unitProgress_of_pos hpos, unitProgress_of_pos hpos]
  refine div_lt_div_of_pos_right ?_ (by exact_mod_cast hpos)
  have hmin : min (nowMs - startMs) durationMs < min (laterMs - startMs) durationMs := by omega
  exact_mod_cast hmin

/-- The first millisecond of a fade. -/
theorem fadeIn_first (startMs : Nat) (h : 0 < durationMs) :
    fadeIn (startMs + 1) startMs durationMs = smoothstep (1 / durationMs) := by
  have hmin : min (startMs + 1 - startMs) durationMs = 1 := by omega
  rw [fadeIn, unitProgress_of_pos h, hmin, Nat.cast_one]

/-- The last millisecond of a fade. -/
theorem fadeIn_last (hstart : startMs ≤ nowMs) (h : startMs + durationMs = nowMs + 1) :
    fadeIn nowMs startMs durationMs = 1 - smoothstep (1 / durationMs) := by
  have hpos : 0 < durationMs := by omega
  have hmin : min (nowMs - startMs) durationMs = durationMs - 1 := by omega
  have hne : (durationMs : ℚ) ≠ 0 := by exact_mod_cast hpos.ne'
  rw [← smoothstep_symm, fadeIn, unitProgress_of_pos hpos, hmin, Nat.cast_sub hpos, Nat.cast_one,
    sub_div, div_self hne]

/-- The longer the fade, the smaller its first step. -/
theorem smoothstep_one_div_le_iff {a b : Nat} (ha : 0 < a) (hb : 0 < b) :
    smoothstep (1 / a) ≤ smoothstep (1 / b) ↔ b ≤ a := by
  have hunit : ∀ {n : Nat}, 0 < n → (0 : ℚ) ≤ 1 / n ∧ (1 : ℚ) / n ≤ 1 := by
    intro n hn
    have hone : (1 : ℚ) ≤ n := by exact_mod_cast hn
    exact ⟨by positivity, (div_le_one (by linarith)).2 hone⟩
  rw [smoothstep_le_iff (hunit ha).1 (hunit ha).2 (hunit hb).1 (hunit hb).2,
    one_div_le_one_div (by exact_mod_cast ha) (by exact_mod_cast hb)]
  exact_mod_cast Iff.rfl

theorem fadeIn_start (startMs : Nat) (h : 0 < durationMs) :
    fadeIn startMs startMs durationMs = 0 := by
  simp [fadeIn, unitProgress_of_pos h, smoothstep_zero]

/-! ## The opacity of a cue -/

section Opacity

variable {cue : CueTiming} {style : AnimationStyle} {dpi : DpiScale} {reducedMotion : Bool}

/-- When a cue has entered: at once where it does not move. -/
def CueTiming.entered (cue : CueTiming) (style : AnimationStyle) (reducedMotion : Bool) : Nat :=
  if motionDisabled style reducedMotion then cue.startMs else satAdd cue.startMs style.enterMs

theorem opacity_hidden (h : nowMs < cue.startMs ∨ cue.gone style ≤ nowMs) :
    (sampleAnimation nowMs cue style dpi reducedMotion).opacity = 0 := by
  simp [sampleAnimation, h]

theorem opacity_shown (hstart : cue.startMs ≤ nowMs) (hgone : nowMs < cue.gone style) :
    (sampleAnimation nowMs cue style dpi reducedMotion).opacity =
      phaseOpacity nowMs cue style (shownPhase nowMs cue style reducedMotion) := by
  simp [sampleAnimation, not_lt.2 hstart, not_le.2 hgone]

theorem opacity_entering (hstart : cue.startMs ≤ nowMs) (hgone : nowMs < cue.gone style)
    (h : nowMs < cue.entered style reducedMotion) :
    (sampleAnimation nowMs cue style dpi reducedMotion).opacity =
      fadeIn nowMs cue.startMs style.enterMs := by
  rw [opacity_shown hstart hgone]
  by_cases hmotion : motionDisabled style reducedMotion = true
  · simp only [CueTiming.entered, hmotion, if_true] at h
    omega
  · simp only [CueTiming.entered, if_neg hmotion] at h
    have henter : 0 < style.enterMs := by
      simp only [satAdd] at h
      omega
    simp [shownPhase, hmotion, henter, h, phaseOpacity, fadeIn]

theorem not_entering (h : cue.entered style reducedMotion ≤ nowMs) :
    (!motionDisabled style reducedMotion && decide (0 < style.enterMs) &&
      decide (nowMs < satAdd cue.startMs style.enterMs)) = false := by
  by_cases hmotion : motionDisabled style reducedMotion = true
  · simp [hmotion]
  · simp only [CueTiming.entered, if_neg hmotion] at h
    simp [not_lt.2 h]

theorem opacity_exiting (hstart : cue.startMs ≤ nowMs) (hgone : nowMs < cue.gone style)
    (h : cue.entered style reducedMotion ≤ nowMs)
    (hmotion : motionDisabled style reducedMotion = false) (hend : cue.endMs ≤ nowMs) :
    (sampleAnimation nowMs cue style dpi reducedMotion).opacity =
      1 - fadeIn nowMs cue.endMs style.exitMs := by
  have hexit : 0 < style.exitMs := by
    simp only [CueTiming.gone, satAdd] at hgone
    omega
  rw [opacity_shown hstart hgone, shownPhase, not_entering h]
  simp [hmotion, hexit, hend, phaseOpacity, fadeIn]

theorem opacity_holding (hstart : cue.startMs ≤ nowMs) (hgone : nowMs < cue.gone style)
    (h : cue.entered style reducedMotion ≤ nowMs)
    (hhold : motionDisabled style reducedMotion = true ∨ nowMs < cue.endMs) :
    (sampleAnimation nowMs cue style dpi reducedMotion).opacity = 1 := by
  have hexiting : (!motionDisabled style reducedMotion && decide (0 < style.exitMs) &&
      decide (cue.endMs ≤ nowMs)) = false := by
    obtain hmotion | hbefore := hhold
    · simp [hmotion]
    · simp [not_le.2 hbefore]
  rw [opacity_shown hstart hgone, shownPhase, not_entering h, hexiting]
  simp [phaseOpacity]

theorem gone_le (cue : CueTiming) (style : AnimationStyle) :
    cue.gone style ≤ cue.endMs + style.exitMs := min_le_left _ _

/-- The opacity is a fade in, a fade out, or one of the ends. -/
theorem opacity_unit (nowMs : Nat) :
    0 ≤ (sampleAnimation nowMs cue style dpi reducedMotion).opacity ∧
      (sampleAnimation nowMs cue style dpi reducedMotion).opacity ≤ 1 := by
  by_cases hhidden : nowMs < cue.startMs ∨ cue.gone style ≤ nowMs
  · simp [opacity_hidden hhidden]
  simp only [not_or, not_lt, not_le] at hhidden
  obtain ⟨hstart, hgone⟩ := hhidden
  by_cases hentering : nowMs < cue.entered style reducedMotion
  · rw [opacity_entering hstart hgone hentering]
    exact fadeIn_unit _ _ _
  by_cases hhold : motionDisabled style reducedMotion = true ∨ nowMs < cue.endMs
  · simp [opacity_holding hstart hgone (not_lt.1 hentering) hhold]
  simp only [not_or, not_lt, Bool.not_eq_true] at hhold
  rw [opacity_exiting hstart hgone (not_lt.1 hentering) hhold.1 hhold.2]
  have hunit := fadeIn_unit nowMs cue.endMs style.exitMs
  exact ⟨by linarith, by linarith⟩

/-- Until a cue's end, as long as it is shown, its opacity rises. -/
theorem opacity_rises (hle : nowMs ≤ laterMs) (hend : laterMs ≤ cue.endMs)
    (hgone : laterMs < cue.gone style) :
    (sampleAnimation nowMs cue style dpi reducedMotion).opacity ≤
      (sampleAnimation laterMs cue style dpi reducedMotion).opacity := by
  by_cases hstart : nowMs < cue.startMs
  · rw [opacity_hidden (.inl hstart)]
    exact (opacity_unit laterMs).1
  have hstart' : cue.startMs ≤ laterMs := by omega
  by_cases hentering : laterMs < cue.entered style reducedMotion
  · rw [opacity_entering (not_lt.1 hstart) (by omega) (by omega),
      opacity_entering hstart' hgone hentering]
    exact fadeIn_mono hle _ _
  -- from here on the cue is opaque
  have hopacity : (sampleAnimation laterMs cue style dpi reducedMotion).opacity = 1 := by
    by_cases hhold : motionDisabled style reducedMotion = true ∨ laterMs < cue.endMs
    · exact opacity_holding hstart' hgone (not_lt.1 hentering) hhold
    simp only [not_or, not_lt, Bool.not_eq_true] at hhold
    obtain rfl : laterMs = cue.endMs := by omega
    have hexit : 0 < style.exitMs := by
      have := gone_le cue style
      omega
    rw [opacity_exiting hstart' hgone (not_lt.1 hentering) hhold.1 le_rfl, fadeIn_start _ hexit,
      sub_zero]
  rw [hopacity]
  exact (opacity_unit nowMs).2

/-- Once a cue has entered and ended, its opacity falls. -/
theorem opacity_falls (hstart : cue.startMs ≤ nowMs) (hend : cue.endMs ≤ nowMs)
    (hentered : cue.entered style reducedMotion ≤ nowMs) (hle : nowMs ≤ laterMs) :
    (sampleAnimation laterMs cue style dpi reducedMotion).opacity ≤
      (sampleAnimation nowMs cue style dpi reducedMotion).opacity := by
  by_cases hgone : cue.gone style ≤ laterMs
  · rw [opacity_hidden (.inr hgone)]
    exact (opacity_unit nowMs).1
  by_cases hmotion : motionDisabled style reducedMotion = true
  · rw [opacity_holding hstart (by omega) hentered (.inl hmotion)]
    exact (opacity_unit laterMs).2
  rw [Bool.not_eq_true] at hmotion
  rw [opacity_exiting (by omega) (not_le.1 hgone) (by omega) hmotion (by omega),
    opacity_exiting hstart (by omega) hentered hmotion hend]
  have := fadeIn_mono hle cue.endMs style.exitMs
  linarith

/-! ## The shape of the fade -/

/-- How a fade should look at every time: up to the cue's end it rises, as far as the cue is still
shown there, and from the end on it falls. -/
structure FadeShaped (cue : CueTiming) (style : AnimationStyle) (dpi : DpiScale)
    (reducedMotion : Bool) : Prop where
  unit : ∀ nowMs, 0 ≤ (sampleAnimation nowMs cue style dpi reducedMotion).opacity ∧
    (sampleAnimation nowMs cue style dpi reducedMotion).opacity ≤ 1
  outside : ∀ nowMs, ¬(cue.startMs ≤ nowMs ∧ nowMs < cue.endMs + style.exitMs) →
    (sampleAnimation nowMs cue style dpi reducedMotion).opacity = 0
  rises : ∀ nowMs laterMs, nowMs ≤ laterMs → laterMs ≤ cue.endMs →
    laterMs < cue.endMs + style.exitMs →
    (sampleAnimation nowMs cue style dpi reducedMotion).opacity ≤
      (sampleAnimation laterMs cue style dpi reducedMotion).opacity
  falls : ∀ nowMs laterMs, cue.endMs ≤ nowMs → nowMs ≤ laterMs →
    (sampleAnimation laterMs cue style dpi reducedMotion).opacity ≤
      (sampleAnimation nowMs cue style dpi reducedMotion).opacity

/-- The cue is opaque from its start. -/
def OpensAtOnce (style : AnimationStyle) (reducedMotion : Bool) : Prop :=
  motionDisabled style reducedMotion = true ∨ style.enterMs = 0

/-- The cue has entered by its end, or is not shown for a second millisecond after it; where the
enter time ends one millisecond late, a faster exit still takes the opacity down. -/
def EntersInTime (cue : CueTiming) (style : AnimationStyle) (reducedMotion : Bool) : Prop :=
  OpensAtOnce style reducedMotion ∨ cue.startMs + style.enterMs ≤ cue.endMs ∨
    style.exitMs ≤ 1 ∨ u64Max ≤ cue.endMs + 1 ∨
    (cue.startMs + style.enterMs = cue.endMs + 1 ∧ style.exitMs ≤ style.enterMs)

/-- A cue with an exit is still shown at its end, or never shown before: at the last time there is,
saturation leaves the exit no time. -/
def EndsInTime (cue : CueTiming) (style : AnimationStyle) (reducedMotion : Bool) : Prop :=
  style.exitMs = 0 ∨ cue.endMs < u64Max ∨ cue.startMs = cue.endMs ∨
    (¬OpensAtOnce style reducedMotion ∧ cue.endMs ≤ cue.startMs + 1)

theorem opacity_outside (h : ¬(cue.startMs ≤ nowMs ∧ nowMs < cue.endMs + style.exitMs)) :
    (sampleAnimation nowMs cue style dpi reducedMotion).opacity = 0 := by
  have hgone := gone_le cue style
  exact opacity_hidden (by omega)

theorem entered_le_of_opensAtOnce (cue : CueTiming) (h : OpensAtOnce style reducedMotion) :
    cue.entered style reducedMotion ≤ cue.startMs := by
  obtain hmotion | henter := h
  · simp [CueTiming.entered, hmotion]
  · simp only [CueTiming.entered, satAdd, henter]
    split <;> omega

/-- A cue that moves enters over its enter time, which saturates. -/
theorem entered_of_not_opensAtOnce (cue : CueTiming)
    (h : ¬OpensAtOnce style reducedMotion) :
    0 < style.enterMs ∧ cue.entered style reducedMotion = satAdd cue.startMs style.enterMs := by
  simp only [OpensAtOnce, not_or, Bool.not_eq_true] at h
  exact ⟨Nat.pos_of_ne_zero h.2, by simp [CueTiming.entered, h.1]⟩

theorem rises_iff (hordered : cue.startMs ≤ cue.endMs) (hbound : cue.endMs ≤ u64Max) :
    (∀ nowMs laterMs, nowMs ≤ laterMs → laterMs ≤ cue.endMs →
      laterMs < cue.endMs + style.exitMs →
      (sampleAnimation nowMs cue style dpi reducedMotion).opacity ≤
        (sampleAnimation laterMs cue style dpi reducedMotion).opacity) ↔
      EndsInTime cue style reducedMotion := by
  have hgone : cue.gone style = min (cue.endMs + style.exitMs) u64Max := rfl
  refine ⟨fun h => ?_, fun h nowMs laterMs hle hend hlater => ?_⟩
  · -- a cue cut off at the last time must not have been visible before
    by_contra hcut
    simp only [EndsInTime, not_or, not_and, not_le, not_lt] at hcut
    obtain ⟨hexit, hlast, hne, hshort⟩ := hcut
    have hzero : (sampleAnimation cue.endMs cue style dpi reducedMotion).opacity = 0 :=
      opacity_hidden (.inr (by omega))
    by_cases honce : OpensAtOnce style reducedMotion
    · have hone : (sampleAnimation cue.startMs cue style dpi reducedMotion).opacity = 1 :=
        opacity_holding le_rfl (by omega) (entered_le_of_opensAtOnce cue honce) (.inr (by omega))
      have hle := h cue.startMs cue.endMs hordered le_rfl (by omega)
      rw [hzero, hone] at hle
      linarith
    · have hnext := hshort honce
      obtain ⟨henter, -⟩ := entered_of_not_opensAtOnce cue honce
      have hle := h (cue.startMs + 1) cue.endMs (by omega) le_rfl (by omega)
      rw [hzero] at hle
      by_cases hentering : cue.startMs + 1 < cue.entered style reducedMotion
      · have hpos : fadeIn cue.startMs cue.startMs style.enterMs <
            fadeIn (cue.startMs + 1) cue.startMs style.enterMs :=
          fadeIn_lt le_rfl (Nat.lt_succ_self cue.startMs) (by omega)
        rw [fadeIn_start _ henter] at hpos
        rw [opacity_entering (by omega) (by omega) hentering] at hle
        linarith
      · rw [opacity_holding (by omega) (by omega) (not_lt.1 hentering) (.inr hnext)] at hle
        linarith
  · by_cases hshown : laterMs < cue.gone style
    · exact opacity_rises hle hend hshown
    have hlaterZero : (sampleAnimation laterMs cue style dpi reducedMotion).opacity = 0 :=
      opacity_hidden (.inr (not_lt.1 hshown))
    rw [hlaterZero]
    refine le_of_eq ?_
    by_cases hnow : nowMs < cue.startMs ∨ cue.gone style ≤ nowMs
    · exact opacity_hidden hnow
    -- the cue ends at the last time, a millisecond after its start, and is entering there
    simp only [EndsInTime] at h
    have honce : ¬OpensAtOnce style reducedMotion := by
      by_contra honce
      simp only [honce, not_true, false_and, or_false] at h
      omega
    simp only [honce, not_false_eq_true, true_and] at h
    obtain ⟨henter, hentered⟩ := entered_of_not_opensAtOnce cue honce
    obtain rfl : nowMs = cue.startMs := by omega
    have hentering : cue.startMs < cue.entered style reducedMotion := by
      rw [hentered, satAdd]
      omega
    rw [opacity_entering le_rfl (by omega) hentering, fadeIn_start _ henter]

theorem falls_iff (hordered : cue.startMs ≤ cue.endMs) :
    (∀ nowMs laterMs, cue.endMs ≤ nowMs → nowMs ≤ laterMs →
      (sampleAnimation laterMs cue style dpi reducedMotion).opacity ≤
        (sampleAnimation nowMs cue style dpi reducedMotion).opacity) ↔
      EntersInTime cue style reducedMotion := by
  have hgone : cue.gone style = min (cue.endMs + style.exitMs) u64Max := rfl
  refine ⟨fun h => ?_, fun h nowMs laterMs hend hle => ?_⟩
  · -- a cue still entering a millisecond after its end has grown brighter
    by_contra hlate
    simp only [EntersInTime, not_or, not_and, not_le] at hlate
    obtain ⟨honce, henters, hexit, hlast, hfast⟩ := hlate
    obtain ⟨henter, hentered⟩ := entered_of_not_opensAtOnce cue honce
    rw [satAdd] at hentered
    have hle := h cue.endMs (cue.endMs + 1) le_rfl (by omega)
    have hatEnd : (sampleAnimation cue.endMs cue style dpi reducedMotion).opacity =
        fadeIn cue.endMs cue.startMs style.enterMs :=
      opacity_entering hordered (by omega) (by omega)
    rw [hatEnd] at hle
    by_cases hentering : cue.endMs + 1 < cue.entered style reducedMotion
    · rw [opacity_entering (by omega) (by omega) hentering] at hle
      have hlt : fadeIn cue.endMs cue.startMs style.enterMs <
          fadeIn (cue.endMs + 1) cue.startMs style.enterMs :=
        fadeIn_lt hordered (Nat.lt_succ_self cue.endMs) (by omega)
      exact absurd hlt (not_lt.2 hle)
    · have hone : cue.startMs + style.enterMs = cue.endMs + 1 := by omega
      have hmotion : motionDisabled style reducedMotion = false := by
        simp only [OpensAtOnce, not_or, Bool.not_eq_true] at honce
        exact honce.1
      rw [opacity_exiting (by omega) (by omega) (not_lt.1 hentering) hmotion (by omega),
        fadeIn_first _ (by omega), fadeIn_last hordered hone] at hle
      have hsteps := (smoothstep_one_div_le_iff henter (b := style.exitMs) (by omega)).1
        (by linarith)
      have := hfast hone
      omega
  · by_cases hgone' : cue.gone style ≤ laterMs
    · rw [opacity_hidden (.inr hgone')]
      exact (opacity_unit nowMs).1
    by_cases hentered : cue.entered style reducedMotion ≤ nowMs
    · exact opacity_falls (hordered.trans hend) hend hentered hle
    by_cases hsame : nowMs = laterMs
    · rw [hsame]
    -- the enter time ends one millisecond after the cue, and the exit is the faster one
    have honce : ¬OpensAtOnce style reducedMotion := by
      intro honce
      have := entered_le_of_opensAtOnce cue honce
      omega
    obtain ⟨henter, hsat⟩ := entered_of_not_opensAtOnce cue honce
    rw [satAdd] at hsat
    simp only [EntersInTime, honce, false_or] at h
    have hone : cue.startMs + style.enterMs = cue.endMs + 1 := by omega
    have hfast : style.exitMs ≤ style.enterMs := by omega
    obtain rfl : nowMs = cue.endMs := by omega
    have hmotion : motionDisabled style reducedMotion = false := by
      simp only [OpensAtOnce, not_or, Bool.not_eq_true] at honce
      exact honce.1
    rw [opacity_exiting (by omega) (not_le.1 hgone') (by omega) hmotion (by omega),
      opacity_entering hordered (by omega) (not_le.1 hentered), fadeIn_last hordered hone]
    have hfirst : smoothstep (1 / style.enterMs) ≤ smoothstep (1 / style.exitMs) :=
      (smoothstep_one_div_le_iff henter (by omega)).2 hfast
    have hmono := fadeIn_mono (Nat.lt_of_le_of_ne hle hsame) cue.endMs style.exitMs
    rw [fadeIn_first _ (by omega)] at hmono
    linarith

/-- **A cue fades as it should exactly when it has entered in time for its end.** -/
theorem fade_shaped_iff (hordered : cue.startMs ≤ cue.endMs) (hbound : cue.endMs ≤ u64Max) :
    FadeShaped cue style dpi reducedMotion ↔
      EntersInTime cue style reducedMotion ∧ EndsInTime cue style reducedMotion := by
  refine ⟨fun h => ?_, fun h => ?_⟩
  · exact ⟨(falls_iff hordered).1 h.falls, (rises_iff hordered hbound).1 h.rises⟩
  · obtain ⟨henters, hends⟩ := h
    exact ⟨opacity_unit, fun _ => opacity_outside, (rises_iff hordered hbound).2 hends,
      (falls_iff hordered).2 henters⟩

/-- A cue of two seconds with 160 ms of enter and 120 ms of exit. -/
def ordinaryCue : CueTiming := ⟨1000, 3000, 40⟩

def ordinaryAnimation : AnimationStyle where
  enabled := true
  enterMs := 160
  exitMs := 120
  initialOffsetYDp := 8
  initialScale := 49 / 50
  revealDelayMs := 0
  revealMsPerGrapheme := 12

def unscaled : DpiScale := ⟨1, by norm_num, by norm_num⟩

theorem ordinaryCue_fadeShaped : FadeShaped ordinaryCue ordinaryAnimation unscaled false :=
  (fade_shaped_iff (by decide) (by decide)).2
    ⟨.inr (.inl (by decide)), .inr (.inl (by decide))⟩

/-- A cue of 50 ms grows brighter after its end. -/
theorem short_cue_not_fadeShaped :
    ¬FadeShaped ⟨1000, 1050, 3⟩ ordinaryAnimation unscaled false := by
  intro h
  have hfalls := h.falls 1050 1100 (by decide) (by decide)
  have hgrows : (sampleAnimation 1050 ⟨1000, 1050, 3⟩ ordinaryAnimation unscaled false).opacity <
      (sampleAnimation 1100 ⟨1000, 1050, 3⟩ ordinaryAnimation unscaled false).opacity := by
    decide +kernel
  exact absurd hgrows (not_lt.2 hfalls)

end Opacity

end NpcRuntime.Subtitles
