import NpcRuntime.Media.Moves

/-!
# The residual on screen

A residual belongs to a cancellation generation, a graphics device and a mapping of the target, and
the broker hides it when one of the three moves on. A patch is compared with the first two before it
is presented, not with the third: `Current` says what a visible residual has to be of, and
`presentsCurrent` is the check that is missing.

How long a residual stays is looked at where a frame is composed. `residual_hold_bounded` says when
that is often enough.
-/

namespace NpcRuntime.Media

variable (policy : BrokerPolicy)

/-! ## What a move does to the residual -/

/-- The first graphics device is created. -/
def Move.createsDevice : Move → Bool
  | .createDevice none _ => true
  | _ => false

/-- A residual stays as it is, and so does its hold or it ends. -/
structure Stays (b b' : MediaBroker) : Prop where
  residual : b'.platform.residual = b.platform.residual
  held : b'.heldResidual = none ∨ b'.heldResidual = b.heldResidual

namespace MediaBroker

variable {b : MediaBroker}

theorem start_residual (audio hotkey : Option Failure) :
    Fades b (b.start audio hotkey) ∨ b.running = false ∧ Stays b (b.start audio hotkey) := by
  unfold start
  split
  · exact .inl (.refl b)
  · next hstopped =>
    refine .inr ⟨by simpa using hstopped, ?_⟩
    split
    · exact ⟨rfl, .inl rfl⟩
    · split
      · exact ⟨rfl, .inl rfl⟩
      · exact ⟨rfl, .inr rfl⟩

theorem stop_residual : b.stop.platform.residual = none ∨ Fades b b.stop := by
  unfold stop
  split
  · exact .inr (.refl b)
  · exact .inl rfl

theorem fades_submitPatch (patch : MouthPatch) : Fades b (b.submitPatch policy patch) := by
  unfold submitPatch
  split
  · exact ⟨rfl, rfl, rfl, rfl, rfl, rfl, .inl rfl, .inl rfl⟩
  · exact ⟨rfl, rfl, rfl, rfl, rfl, rfl, .inr ⟨rfl, rfl⟩, .inr rfl⟩

theorem fades_submitOcclusionEvidence (evidence : OcclusionEvidence) :
    Fades b (b.submitOcclusionEvidence evidence) := by
  unfold submitOcclusionEvidence
  split
  · exact ⟨rfl, rfl, rfl, rfl, rfl, rfl, .inl rfl, .inl rfl⟩
  · exact ⟨rfl, rfl, rfl, rfl, rfl, rfl, .inr ⟨rfl, rfl⟩, .inr rfl⟩

end MediaBroker

open MediaBroker

/-- **What a move other than a composition does to the residual**: it hides it, or leaves it with
its generations. A start may reset the generations, on a broker that does not run, and the first
device has a new one. -/
theorem apply_residual {move : Move} (h : move.composes = false) (b : MediaBroker) :
    (move.apply policy b).platform.residual = none ∨ Fades b (move.apply policy b) ∨
      (b.running = false ∨ move.createsDevice = true) ∧ Stays b (move.apply policy b) := by
  cases move with
  | start audio hotkey =>
    rcases start_residual (b := b) audio hotkey with hfades | ⟨hstopped, hstays⟩
    · exact .inr (.inl hfades)
    · exact .inr (.inr ⟨.inl hstopped, hstays⟩)
  | stop =>
    rcases stop_residual (b := b) with hnone | hfades
    · exact .inl hnone
    · exact .inr (.inl hfades)
  | refuse failure state recovery => exact .inr (.inl (fades_fail failure state recovery))
  | adoptTarget target => exact .inl rfl
  | clearTarget => exact .inl rfl
  | submitPatch patch => exact .inr (.inl (fades_submitPatch policy patch))
  | submitOcclusionEvidence evidence =>
    exact .inr (.inl (fades_submitOcclusionEvidence evidence))
  | cancelGeneration newGeneration => exact .inl rfl
  | callback report => exact .inr (.inl (report.fades policy b))
  | createDevice answer clock =>
    cases answer with
    | some failure => exact .inr (.inl (fades_handleFailure policy failure clock))
    | none => exact .inr (.inr ⟨.inr rfl, rfl, .inr rfl⟩)
  | beginCapture backend =>
    exact .inr (.inl ⟨rfl, rfl, rfl, rfl, rfl, rfl, .inr ⟨rfl, rfl⟩, .inr rfl⟩)
  | endCapture backend failure clock =>
    exact .inr (.inl (fades_endCapture policy backend failure clock))
  | recover answers =>
    rcases beginRecovery_residual policy b answers with hnone | hfades
    · exact .inl hnone
    · exact .inr (.inl hfades)
  | compose now => cases h

/-! ## The epochs of a residual -/

/-- **A visible residual belongs to the current epochs**, and to the frame it was composed on. -/
structure ShownResidual.Belongs (shown : ShownResidual) (b : MediaBroker) : Prop where
  running : b.running = true
  target : b.target.isSome
  cancellationGeneration :
    shown.patch.cancellationGeneration = b.diagnostics.cancellationGeneration
  deviceGeneration : shown.patch.sourceDeviceGeneration = b.diagnostics.deviceGeneration
  geometryEpoch : shown.patch.sourceGeometryEpoch = b.diagnostics.geometryEpoch
  frame : shown.patch.sourceFrameSequence = shown.frame.sequence

def Current (b : MediaBroker) : Prop :=
  ∀ shown, b.platform.residual = some shown → shown.Belongs b

/-- A patch that is about to be presented is of the current mapping of a selected target, and the
first device comes before any residual. -/
def presentsCurrent (b : MediaBroker) : Move → Bool
  | .compose now =>
    match b.frames, b.overlayGeometry, b.patches with
    | some frame, some overlay, some patch =>
      !b.clearMailboxes.presents policy frame overlay patch now ||
        patch.sourceGeometryEpoch = b.diagnostics.geometryEpoch && b.target.isSome
    | _, _, _ => true
  | .createDevice none _ => b.platform.residual.isNone
  | _ => true

variable {frame : FrameDescriptor} {now : MonotonicTime}

/-- What the composition has compared of a patch that it presents. -/
theorem MediaBroker.decideCompositing_patch {b : MediaBroker} {patch : MouthPatch}
    (h : b.decideCompositing policy frame (some patch) now = .patch) :
    patch.cancellationGeneration = b.diagnostics.cancellationGeneration ∧
      patch.sourceDeviceGeneration = b.diagnostics.deviceGeneration ∧
      patch.sourceFrameSequence = frame.sequence := by
  rw [decideCompositing] at h
  by_cases hstale : olderThan frame.capturedAt now
      (strictLimit policy.timing.frameStaleAfter hardFrameStaleAfter) = true
  · rw [if_pos hstale] at h
    cases h
  by_cases hoccluded : (frame.contentOccluded || frame.protectedContent) = true
  · rw [if_neg hstale, if_pos hoccluded] at h
    cases h
  rw [if_neg hstale, if_neg hoccluded] at h
  by_cases hcancellation :
      patch.cancellationGeneration ≠ b.diagnostics.cancellationGeneration
  · rw [if_pos hcancellation] at h
    cases h
  rw [if_neg hcancellation] at h
  by_cases hdevice : patch.sourceDeviceGeneration ≠ frame.deviceGeneration ∨
      patch.sourceDeviceGeneration ≠ b.diagnostics.deviceGeneration
  · rw [if_pos hdevice] at h
    cases h
  rw [if_neg hdevice] at h
  by_cases hsequence : patch.sourceFrameSequence ≠ frame.sequence
  · rw [if_pos hsequence] at h
    cases h
  rw [not_or, not_ne_iff, not_ne_iff] at hdevice
  exact ⟨not_ne_iff.1 hcancellation, hdevice.2, not_ne_iff.1 hsequence⟩

variable {policy} {b : MediaBroker}

theorem Current.of_none (h : b.platform.residual = none) : Current b := by
  intro shown hshown
  rw [h] at hshown
  cases hshown

/-- What fades stays current. -/
theorem Current.fades (h : Current b) {b' : MediaBroker} (hfades : Fades b b') : Current b' := by
  rcases hfades.residual with hnone | ⟨hsame, hepoch⟩
  · exact .of_none hnone
  · intro shown hshown
    have hcurrent := h shown (hsame.symm.trans hshown)
    exact
      { running := hfades.running.trans hcurrent.running
        target := by rw [hfades.target]; exact hcurrent.target
        cancellationGeneration :=
          hcurrent.cancellationGeneration.trans hfades.cancellationGeneration.symm
        deviceGeneration := hcurrent.deviceGeneration.trans hfades.deviceGeneration.symm
        geometryEpoch := hcurrent.geometryEpoch.trans hepoch.symm
        frame := hcurrent.frame }

/-- **A composition that presents a patch of the current mapping keeps the residual current.** -/
theorem Current.compose (h : Current b) (hrunning : b.running = true)
    (hpresents : presentsCurrent policy b (.compose now) = true) :
    Current (b.compose policy now) := by
  rcases compose_cases policy b now with ⟨frame, overlay, hframe, hoverlay, hcomposed⟩ | ⟨-, heq⟩
  · generalize b.compose policy now = after at hcomposed
    cases hcomposed with
    | kept _ =>
      intro shown hshown
      exact { h shown hshown with }
    | pristine _ => exact .of_none rfl
    | @presented latest recent hpatch hpasses _ =>
      have hchecked : latest.sourceGeometryEpoch = b.diagnostics.geometryEpoch ∧
          b.target.isSome = true := by
        simp only [presentsCurrent, hframe, hoverlay, hpatch] at hpresents
        rw [hpasses, Bool.not_true, Bool.false_or, Bool.and_eq_true, decide_eq_true_eq]
          at hpresents
        exact hpresents
      have hdecision : b.clearMailboxes.decideCompositing policy frame (some latest) now =
          .patch := by
        simp only [presents, Bool.and_eq_true, decide_eq_true_eq] at hpasses
        exact hpasses.1.1
      obtain ⟨hcancellation, hdevice, hsequence⟩ := decideCompositing_patch policy hdecision
      intro shown hshown
      obtain rfl : (⟨latest, frame, now⟩ : ShownResidual) = shown := Option.some.inj hshown
      exact ⟨hrunning, hchecked.2, hcancellation, hdevice, hchecked.1, hsequence⟩
  · rw [heq]
    intro shown hshown
    exact { h shown hshown with }

/-- **Every move that presents current patches keeps the residual current.** -/
theorem Current.apply (h : Current b) {move : Move} (hpresents : presentsCurrent policy b move)
    (hrunning : move.composes = true → b.running = true) : Current (move.apply policy b) := by
  by_cases hcomposes : move.composes = true
  · cases move with
    | compose now => exact h.compose (hrunning rfl) hpresents
    | _ => cases hcomposes
  · rcases apply_residual policy (Bool.eq_false_iff.2 hcomposes) b with
      hnone | hfades | ⟨hstopped | hcreates, hstays⟩
    · exact .of_none hnone
    · exact h.fades hfades
    · -- On a broker that does not run there is no residual to begin with.
      apply Current.of_none
      rw [hstays.residual]
      cases hresidual : b.platform.residual with
      | none => rfl
      | some shown =>
        have hruns := (h shown hresidual).running
        rw [hstopped] at hruns
        cases hruns
    · apply Current.of_none
      rw [hstays.residual]
      cases move with
      | createDevice answer clock =>
        cases answer with
        | some failure => cases hcreates
        | none => exact Option.isNone_iff_eq_none.1 hpresents
      | _ => cases hcreates

/-- **A visible residual is of the current epochs** in every state of a run whose compositions
present patches of the current mapping of a selected target, and that creates no first device while
a residual is visible. -/
theorem residual_current {operations : List Operation}
    (hpresents : Meets policy (fun b move => presentsCurrent policy b move) operations .initial)
    {pre : List Operation} (hpre : pre <+: operations) :
    Current (runFrom (Operation.perform policy) pre .initial) := by
  have hsteps := hpresents.and
    (along_of_forall (fun b operation => Operation.along_running policy operation b) _ _)
  have hmeets : Meets policy (fun b move => presentsCurrent policy b move ∧
      (move.composes = true → b.running = true)) operations .initial :=
    hsteps.mono_inv (fun _ => True) (fun _ _ _ _ => trivial) (fun _ _ _ h => h.1.and h.2) trivial
  exact hmeets.inv Current (fun _ _ h hmove => h.apply hmove.1 hmove.2) (.of_none rfl) hpre

/-! ### A patch that comes late -/

/-- A patch on screen. -/
def onePatch : List Operation := started ++ targetSelected :: patchedFrame 1 1000

theorem residual_current_onePatch :
    Meets .default (fun b move => presentsCurrent .default b move) onePatch .initial ∧
      Current (runFrom (Operation.perform .default) onePatch .initial) ∧
      (runFrom (Operation.perform .default) onePatch .initial).platform.residual.isSome := by
  have hpresents : Meets .default (fun b move => presentsCurrent .default b move) onePatch
      .initial := by
    decide +kernel
  exact ⟨hpresents, residual_current hpresents List.prefix_rfl, by decide +kernel⟩

/-- The same window on a monitor that is scaled. -/
def rescaled : TargetGeometry :=
  { fullScreen with monitor := { fullScreen.monitor with dpiX := 120, dpiY := 120 } }

/-- The monitor is scaled while a patch is made for the first frame, and the frames start over. -/
def lateOnRescaled : List Operation :=
  started ++ [targetSelected, .callback (.frame (capturedFrame 1 1000) 0),
    .callback (.targetState .selected (some rescaled) ⟨none, true⟩ 0),
    .callback (.frame (capturedFrame 1 2000) 0), .submitOcclusionEvidence (clearEvidence 1 2000),
    .submitPatch (safePatch 1 1000), .tick 3000 compliantRecovery]

/-- **A late patch is shown on the next mapping**: it was made for the first frame of the one
before, and the number of that frame is in use again. -/
theorem late_residual_shown :
    ¬Current (runFrom (Operation.perform .default) lateOnRescaled .initial) := by
  intro h
  have hshown : (runFrom (Operation.perform .default) lateOnRescaled .initial).platform.residual =
      some ⟨safePatch 1 1000, ⟨1, 1, 2000, false, false, 2, 2000⟩, 3000⟩ := by
    decide +kernel
  have hepoch : ¬(safePatch 1 1000).sourceGeometryEpoch =
      (runFrom (Operation.perform .default) lateOnRescaled .initial).diagnostics.geometryEpoch :=
    by decide +kernel
  exact hepoch (h _ hshown).geometryEpoch

/-! ## The hold of a residual -/

section Hold

variable (policy) in
def holdBound : Duration := min policy.timing.residualHoldAfterPresent (milliseconds 150)

variable (policy) in
/-- A visible residual was presented no longer than the bound ago. -/
def Fresh (now : MonotonicTime) (b : MediaBroker) : Prop :=
  ∀ shown, b.platform.residual = some shown → now - shown.presentedAt ≤ holdBound policy

variable (policy) in
/-- A tick of a running broker leaves no residual longer than the bound. -/
def TickFresh (b : MediaBroker) : Operation → Prop
  | .tick now answers => b.running = true → Fresh policy now (b.tick policy now answers)
  | _ => True

variable (policy) in
/-- Where a tick composes nothing, the residual on screen is not too old. A hold that is negative
presents nothing. -/
def expiresHold (b : MediaBroker) : Move → Bool
  | .compose now =>
    match b.frames, b.overlayGeometry with
    | some frame, some overlay =>
      0 ≤ policy.timing.residualHoldAfterPresent ||
        !b.patches.any fun patch => b.clearMailboxes.presents policy frame overlay patch now
    | _, _ => b.platform.residual.all fun shown => now - shown.presentedAt ≤ holdBound policy
  | _ => true

variable (policy) in
/-- A residual that is held is the one on screen, and there is none where no hold is allowed. -/
structure Agrees (b : MediaBroker) : Prop where
  presentedAt : ∀ held shown, b.heldResidual = some held → b.platform.residual = some shown →
    held.presentedAt = shown.presentedAt
  hidden : policy.timing.residualHoldAfterPresent < 0 → b.platform.residual = none

theorem agrees_of_none (h : b.platform.residual = none) : Agrees policy b := by
  refine ⟨?_, fun _ => h⟩
  intro held shown _ hshown
  rw [h] at hshown
  cases hshown

theorem Agrees.stays (h : Agrees policy b) {b' : MediaBroker} (hstays : Stays b b') :
    Agrees policy b' := by
  refine ⟨?_, fun hnegative => hstays.residual.trans (h.hidden hnegative)⟩
  intro held shown hheld hshown
  rcases hstays.held with hended | hsame
  · rw [hended] at hheld
    cases hheld
  · exact h.presentedAt held shown (hsame.symm.trans hheld) (hstays.residual.symm.trans hshown)

theorem Agrees.apply (h : Agrees policy b) {move : Move} (hmove : move.composes = false) :
    Agrees policy (move.apply policy b) := by
  rcases apply_residual policy hmove b with hnone | hfades | ⟨-, hstays⟩
  · exact agrees_of_none hnone
  · rcases hfades.residual with hnone | ⟨hsame, -⟩
    · exact agrees_of_none hnone
    · exact h.stays ⟨hsame, hfades.held⟩
  · exact h.stays hstays

variable {overlay : OverlayGeometry}

/-- A patch that passes every check is presented. -/
theorem MediaBroker.composeFrame_presents {patch : MouthPatch}
    (h : b.presents policy frame overlay patch now = true) :
    ∃ recent, b.composeFrame policy frame overlay (some patch) now =
      b.presented frame patch recent now := by
  simp only [presents, Bool.and_eq_true, decide_eq_true_eq] at h
  obtain ⟨⟨hdecision, hmapped⟩, hadmits⟩ := h
  have hmapped' : ¬(mapNormalizedSourceRect patch.normalizedBounds overlay).isNone = true := by
    simpa [Option.isSome_iff_ne_none] using hmapped
  simp only [composeFrame, hdecision, if_neg hmapped']
  rcases admitResidualPresentation_cases policy b now with ⟨recent, held, heq, -⟩ | heq
  · rw [heq]
    exact ⟨recent, rfl⟩
  · rw [heq] at hadmits
    cases hadmits

/-- With a hold that is allowed, what the broker holds is within the bound. -/
theorem residualFresh_le {presentedAt : MonotonicTime}
    (hhold : 0 ≤ policy.timing.residualHoldAfterPresent)
    (h : residualFresh policy presentedAt now = true) : now - presentedAt ≤ holdBound policy := by
  have hlimit : strictLimit policy.timing.residualHoldAfterPresent
      hardResidualHoldAfterPresent = holdBound policy := if_neg (not_lt.2 hhold)
  rw [residualFresh, hlimit] at h
  simp only [olderThan, Bool.not_eq_true', Bool.or_eq_false_iff, decide_eq_false_iff_not] at h
  exact not_lt.1 h.2

/-- A composition of a frame keeps the bound where a hold is allowed. -/
theorem fresh_composed (h : Agrees policy b) {patch : Option MouthPatch} {after : MediaBroker}
    (hhold : 0 ≤ policy.timing.residualHoldAfterPresent)
    (hcomposed : Composed policy b frame overlay patch now after) : Fresh policy now after := by
  intro shown hshown
  cases hcomposed with
  | presented _ _ _ =>
    obtain rfl : (⟨_, frame, now⟩ : ShownResidual) = shown := Option.some.inj hshown
    have hbound : (0 : Duration) ≤ holdBound policy := le_min hhold (by decide)
    exact (le_of_eq (sub_self now)).trans hbound
  | kept hvalid =>
    obtain ⟨held, hheld, hpasses⟩ := (Option.any_eq_true _ _).1 hvalid
    simp only [Bool.and_eq_true] at hpasses
    rw [← h.presentedAt held shown hheld hshown]
    exact residualFresh_le hhold hpasses.2
  | pristine _ => cases hshown

/-- Without a hold a composition keeps the bound where it presents nothing. -/
theorem residual_composed (h : Agrees policy b) (hhold : policy.timing.residualHoldAfterPresent < 0)
    {patch : Option MouthPatch} {after : MediaBroker}
    (hcomposed : Composed policy b frame overlay patch now after)
    (hpresents : (patch.any fun latest => b.presents policy frame overlay latest now) = false) :
    after.platform.residual = none := by
  cases hcomposed with
  | presented hpatch hpasses _ =>
    rw [hpatch, Option.any_some, hpasses] at hpresents
    cases hpresents
  | kept _ => exact h.hidden hhold
  | pristine _ => rfl

theorem expiresHold_eq (hframe : b.frames = some frame)
    (hoverlay : b.overlayGeometry = some overlay) (now : MonotonicTime) :
    expiresHold policy b (.compose now) =
      (0 ≤ policy.timing.residualHoldAfterPresent ||
        !b.patches.any fun patch => b.clearMailboxes.presents policy frame overlay patch now) := by
  simp only [expiresHold, hframe, hoverlay]

theorem expiresHold_missing (h : b.frames = none ∨ b.overlayGeometry = none)
    (now : MonotonicTime) :
    expiresHold policy b (.compose now) =
      b.platform.residual.all fun shown => now - shown.presentedAt ≤ holdBound policy := by
  rcases h with hnone | hnone
  · simp only [expiresHold, hnone]
  · cases hframe : b.frames with
    | none => simp only [expiresHold, hframe]
    | some frame => simp only [expiresHold, hframe, hnone]

/-- **A composition keeps the bound exactly if the hold expires in time.** -/
theorem fresh_compose (h : Agrees policy b) (now : MonotonicTime) :
    Fresh policy now (b.compose policy now) ↔ expiresHold policy b (.compose now) = true := by
  have hclear : Agrees policy b.clearMailboxes := ⟨h.presentedAt, h.hidden⟩
  rcases compose_cases policy b now with ⟨frame, overlay, hframe, hoverlay, hcomposed⟩ |
    ⟨hmissing, heq⟩
  · rw [expiresHold_eq hframe hoverlay, Bool.or_eq_true, decide_eq_true_eq, Bool.not_eq_true']
    by_cases hhold : 0 ≤ policy.timing.residualHoldAfterPresent
    · exact iff_of_true (fresh_composed hclear hhold hcomposed) (.inl hhold)
    · constructor
      · intro hfresh
        refine .inr ?_
        cases hpatch : b.patches with
        | none => rfl
        | some patch =>
          rw [Option.any_some]
          apply Bool.eq_false_iff.2
          intro hpasses
          -- What is presented is presented now, and that is too old for the bound.
          obtain ⟨recent, heq⟩ := composeFrame_presents hpasses
          have hcompose : b.compose policy now =
              b.clearMailboxes.presented frame patch recent now := by
            rw [compose, hframe, hoverlay, hpatch]
            exact heq
          rw [hcompose] at hfresh
          have hage : now - now ≤ holdBound policy := hfresh _ rfl
          rw [sub_self] at hage
          exact hhold (hage.trans (min_le_left _ _))
      · intro hexpires
        rcases hexpires with hallowed | hquiet
        · exact absurd hallowed hhold
        · intro shown hshown
          rw [residual_composed hclear (not_le.1 hhold) hcomposed hquiet] at hshown
          cases hshown
  · rw [expiresHold_missing hmissing, heq]
    show (∀ shown, b.platform.residual = some shown → _) ↔ _
    cases b.platform.residual with
    | none => simp
    | some shown => simp

/-- A composition in time keeps the hold on screen. -/
theorem Agrees.compose (h : Agrees policy b)
    (hexpires : expiresHold policy b (.compose now) = true) :
    Agrees policy (b.compose policy now) := by
  have hclear : Agrees policy b.clearMailboxes := ⟨h.presentedAt, h.hidden⟩
  rcases compose_cases policy b now with ⟨frame, overlay, hframe, hoverlay, hcomposed⟩ | ⟨-, heq⟩
  · have hhidden : policy.timing.residualHoldAfterPresent < 0 →
        (b.compose policy now).platform.residual = none := by
      intro hhold
      rw [expiresHold_eq hframe hoverlay, Bool.or_eq_true, decide_eq_true_eq,
        Bool.not_eq_true'] at hexpires
      rcases hexpires with hallowed | hquiet
      · exact absurd hhold (not_lt.2 hallowed)
      · exact residual_composed hclear hhold hcomposed hquiet
    refine ⟨?_, hhidden⟩
    generalize b.compose policy now = after at hcomposed
    intro held shown hheld hshown
    cases hcomposed with
    | presented _ _ _ =>
      obtain rfl := Option.some.inj hheld
      obtain rfl := Option.some.inj hshown
      rfl
    | kept _ => exact h.presentedAt held shown hheld hshown
    | pristine _ => cases hshown
  · rw [heq]
    exact ⟨h.presentedAt, h.hidden⟩

/-- The moves before a composition. -/
theorem Agrees.runFrom (h : Agrees policy b) {moves : List Move}
    (hmoves : ∀ move ∈ moves, move.composes = false) :
    Agrees policy (runFrom (Move.apply policy) moves b) := by
  induction moves generalizing b with
  | nil => exact h
  | cons move moves ih =>
    exact ih (h.apply (hmoves move List.mem_cons_self))
      fun other hother => hmoves other (List.mem_cons_of_mem _ hother)

theorem expiresHold_of_composes (b : MediaBroker) (move : Move) (h : move.composes = false) :
    expiresHold policy b move = true := by
  cases move with
  | compose now => cases h
  | _ => rfl

/-- **A tick keeps the bound exactly if its composition finds the hold in time.** -/
theorem tickFresh_iff (h : Agrees policy b) (operation : Operation) :
    TickFresh policy b operation ↔
      Along (Move.apply policy) (fun b move => expiresHold policy b move)
        (operation.moves policy b) b := by
  rcases operation.moves_composes policy b with ⟨now, answers, rfl, hrunning, hmoves⟩ | hquiet
  · have hinternal : ∀ move ∈ recoveryMoves policy b now answers, move.composes = false :=
      fun move hmove =>
        Move.composes_of_isInternal (recoveryMoves_isInternal policy b now answers move hmove)
    have htick : b.tick policy now answers =
        (runFrom (Move.apply policy) (recoveryMoves policy b now answers) b).compose policy
          now := by
      rw [tick, hrunning, ← attemptRecovery_eq]
      rfl
    have hquiet := along_of_composes policy (C := fun b move => expiresHold policy b move)
      expiresHold_of_composes hinternal b
    rw [hmoves, along_append]
    show (b.running = true → Fresh policy now (b.tick policy now answers)) ↔ _
    rw [htick, forall_prop_of_true hrunning, fresh_compose (h.runFrom hinternal)]
    exact ⟨fun hexpires => ⟨hquiet, hexpires, trivial⟩, fun hexpires => hexpires.2.1⟩
  · refine iff_of_true ?_ (along_of_composes policy expiresHold_of_composes hquiet b)
    cases operation with
    | tick now answers =>
      intro hrunning
      have hcompose := hquiet (.compose now) (by simp [Operation.moves, hrunning])
      cases hcompose
    | _ => trivial

/-- **A residual is held for a bounded time**, at every tick of a run, exactly if each tick that has
no frame or no mapping to compose finds none that was presented too long ago. -/
theorem residual_hold_bounded (operations : List Operation) :
    Along (Operation.perform policy) (TickFresh policy) operations .initial ↔
      Meets policy (fun b move => expiresHold policy b move) operations .initial := by
  refine along_congr (Agrees policy) ?_ (fun _ operation h => tickFresh_iff h operation)
    (agrees_of_none rfl)
  intro b operation h hexpires
  refine perform_inv (Agrees policy) ?_ h hexpires
  intro b move h hmove
  by_cases hcomposes : move.composes = true
  · cases move with
    | compose now => exact h.compose hmove
    | _ => cases hcomposes
  · exact h.apply (Bool.eq_false_iff.2 hcomposes)

end Hold

/-! ### A capture that goes silent -/

/-- A patch on screen, and no frame for a second. -/
def silentCapture : List Operation := onePatch ++ [.tick 1000001000 compliantRecovery]

/-- **The residual stays while no frame comes**: the tick returns before it looks at the hold. -/
theorem residual_held_without_frames :
    (silentCapture.filterMap Operation.tickTime).Pairwise (· ≤ ·) ∧
      ¬Along (Operation.perform .default) (TickFresh .default) silentCapture .initial := by
  refine ⟨by decide, ?_⟩
  intro h
  have hrunning : (runFrom (Operation.perform .default) onePatch .initial).running = true := by
    decide +kernel
  have hfresh := (along_append.1 h).2.1 hrunning
  have hshown : ((runFrom (Operation.perform .default) onePatch .initial).tick .default 1000001000
      compliantRecovery).platform.residual =
        some ⟨safePatch 1 1000, ⟨1, 1, 1000, false, false, 1, 1000⟩, 1000⟩ := by
    decide +kernel
  have hage : ¬(1000001000 - 1000 : Duration) ≤ holdBound .default := by decide
  exact hage (hfresh _ hshown)

end NpcRuntime.Media
