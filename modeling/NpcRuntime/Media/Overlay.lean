import NpcRuntime.Media.Moves

/-!
# The overlay and the capture of the desktop

A duplicated desktop holds the overlay, so the broker keeps the overlay disabled while it duplicates
the desktop. A target callback looks at the backend before it starts the overlay. The fallback does
not look at the overlay before it starts the capture, and a callback may start the overlay on a
broker that was stopped: `keepsExcluded` is what a move would have to check.
-/

namespace NpcRuntime.Media

variable (policy : BrokerPolicy)

/-- **The overlay does not capture itself**, and is shown on a selected target only. -/
structure OverlayExcluded (b : MediaBroker) : Prop where
  capture : b.diagnostics.captureBackend = .desktopDuplication → b.platform.capture.isSome →
    b.platform.overlayStarted = false
  started : b.platform.overlayStarted = true →
    b.platform.overlayConfirmed = true ∧ b.running = true ∧ b.target.isSome

/-- A target callback that leaves the overlay started. -/
def MediaBroker.startsOverlay (b : MediaBroker) (state : TargetState)
    (geometry : Option TargetGeometry) (answer : OverlayAnswer) : Bool :=
  state.failure.isNone && state != .minimized &&
    (geometry.any fun shown => (calculateOverlayGeometry shown).isSome) &&
    b.diagnostics.captureBackend != .desktopDuplication && answer.failure.isNone &&
    answer.excluded

/-- A capture of the desktop starts while the overlay is stopped, and the overlay starts for a
selected target of a running broker. -/
def keepsExcluded (b : MediaBroker) : Move → Bool
  | .endCapture _ none _ =>
    b.diagnostics.captureBackend != .desktopDuplication || !b.platform.overlayStarted
  | .callback (.targetState state geometry answer _) =>
    !b.startsOverlay state geometry answer || b.running && b.target.isSome
  | _ => true

/-! ## What a move does to the overlay -/

/-- The overlay goes on as it was, and no capture of the desktop starts. -/
structure SameOverlay (b b' : MediaBroker) : Prop where
  overlayStarted : b'.platform.overlayStarted = b.platform.overlayStarted
  overlayConfirmed : b'.platform.overlayConfirmed = b.platform.overlayConfirmed
  running : b'.running = b.running
  target : b'.target = b.target
  capture : b'.diagnostics.captureBackend = .desktopDuplication → b'.platform.capture.isSome →
    b.diagnostics.captureBackend = .desktopDuplication ∧ b.platform.capture.isSome

/-- The overlay is stopped, or goes on as it was. -/
def Subsides (b b' : MediaBroker) : Prop :=
  b'.platform.overlayStarted = false ∨ SameOverlay b b'

theorem SameOverlay.refl (b : MediaBroker) : SameOverlay b b :=
  ⟨rfl, rfl, rfl, rfl, fun hbackend hcapture => ⟨hbackend, hcapture⟩⟩

variable {b' : MediaBroker}

theorem SameOverlay.trans {b b'' : MediaBroker} (h : SameOverlay b b') (h' : SameOverlay b' b'') :
    SameOverlay b b'' where
  overlayStarted := h'.overlayStarted.trans h.overlayStarted
  overlayConfirmed := h'.overlayConfirmed.trans h.overlayConfirmed
  running := h'.running.trans h.running
  target := h'.target.trans h.target
  capture := fun hbackend hcapture =>
    h.capture (h'.capture hbackend hcapture).1 (h'.capture hbackend hcapture).2

theorem SameOverlay.subsides {b b'' : MediaBroker} (h : SameOverlay b b') (h' : Subsides b' b'') :
    Subsides b b'' := by
  rcases h' with hstopped | hsame
  · exact .inl hstopped
  · exact .inr (h.trans hsame)

/-- What follows a stopped overlay leaves it stopped. -/
theorem Subsides.stopped {b : MediaBroker} (h : Subsides b b')
    (hstopped : b.platform.overlayStarted = false) : b'.platform.overlayStarted = false := by
  rcases h with hstopped' | hsame
  · exact hstopped'
  · exact hsame.overlayStarted.trans hstopped

theorem OverlayExcluded.of_stopped {b : MediaBroker} (h : b.platform.overlayStarted = false) :
    OverlayExcluded b := by
  refine ⟨fun _ _ => h, ?_⟩
  intro hstarted
  rw [h] at hstarted
  cases hstarted

theorem OverlayExcluded.subsides {b : MediaBroker} (h : OverlayExcluded b)
    (hsubsides : Subsides b b') : OverlayExcluded b' := by
  rcases hsubsides with hstopped | hsame
  · exact .of_stopped hstopped
  · constructor
    · intro hbackend hcapture
      obtain ⟨hbackend', hcapture'⟩ := hsame.capture hbackend hcapture
      exact hsame.overlayStarted.trans (h.capture hbackend' hcapture')
    · intro hstarted
      rw [hsame.overlayConfirmed, hsame.running, hsame.target]
      exact h.started (hsame.overlayStarted.symm.trans hstarted)

namespace MediaBroker

variable {b : MediaBroker}

theorem sameOverlay_fail (failure : Failure) (state : BrokerState) (recovery : RecoveryAction) :
    SameOverlay b (b.fail failure state recovery) :=
  ⟨rfl, rfl, rfl, rfl, fun hbackend hcapture => ⟨hbackend, hcapture⟩⟩

theorem sameOverlay_setTargetState (state : TargetState) :
    SameOverlay b (b.setTargetState state) :=
  ⟨rfl, rfl, rfl, rfl, fun hbackend hcapture => ⟨hbackend, hcapture⟩⟩

theorem subsides_handleFailure (failure : Failure) (clock : MonotonicTime) :
    Subsides b (b.handleFailure policy failure clock) := by
  unfold handleFailure
  split
  · exact .inr ⟨rfl, rfl, rfl, rfl, fun hbackend hcapture => ⟨hbackend, hcapture⟩⟩
  · split
    · exact .inl rfl
    · exact .inl rfl
    · exact .inl rfl
    · exact .inl rfl
    · exact .inl rfl
    · exact .inr ⟨rfl, rfl, rfl, rfl, fun hbackend hcapture => ⟨hbackend, hcapture⟩⟩
    · exact .inr ⟨rfl, rfl, rfl, rfl, fun hbackend hcapture => ⟨hbackend, hcapture⟩⟩
    · exact .inr ⟨rfl, rfl, rfl, rfl, fun hbackend hcapture => ⟨hbackend, hcapture⟩⟩

theorem subsides_handleFrame (frame : FrameDescriptor) (clock : MonotonicTime) :
    Subsides b (b.handleFrame policy frame clock) := by
  unfold handleFrame
  split
  · exact .inr (.refl b)
  · dsimp only
    split
    · exact .inr ⟨rfl, rfl, rfl, rfl, fun hbackend hcapture => ⟨hbackend, hcapture⟩⟩
    · split
      · exact (sameOverlay_setTargetState _).subsides (subsides_handleFailure policy _ clock)
      · exact .inr ⟨rfl, rfl, rfl, rfl, fun hbackend hcapture => ⟨hbackend, hcapture⟩⟩

theorem minimize_stopped (previous : TargetState) (geometry : Option TargetGeometry) :
    (b.minimize previous geometry).platform.overlayStarted = false := by
  unfold minimize
  split
  · split
    all_goals rfl
  · rfl

theorem sameOverlay_takeGeometry (geometry : TargetGeometry) :
    SameOverlay b (b.takeGeometry geometry) := by
  have hfades := fades_takeGeometry (b := b) geometry
  obtain ⟨hbackend, hstarted, hcapture⟩ := takeGeometry_platform (b := b) geometry
  refine ⟨hstarted, ?_, hfades.running, hfades.target, ?_⟩
  · unfold takeGeometry invalidateGeometryEpoch
    split
    · split
      all_goals rfl
    · rfl
  · intro hbackend' hcapture'
    rw [hbackend] at hbackend'
    rw [hcapture] at hcapture'
    exact ⟨hbackend', hcapture'⟩

/-- A call that does not start the overlay leaves it stopped. -/
theorem startOverlay_stopped (hstopped : b.platform.overlayStarted = false)
    {answer : OverlayAnswer} (h : (answer.failure.isNone && answer.excluded) = false) :
    (b.startOverlay policy answer).platform.overlayStarted = false := by
  unfold startOverlay
  cases hfailure : answer.failure with
  | some failure =>
    dsimp only
    split
    all_goals exact hstopped
  | none =>
    have hexcluded : answer.excluded = false := by simpa [hfailure] using h
    simp only [hexcluded]
    rfl

/-- An overlay that is started is confirmed, and the desktop is not duplicated. -/
theorem startOverlay_started {answer : OverlayAnswer}
    (h : (answer.failure.isNone && answer.excluded) = true) :
    (b.startOverlay policy answer).platform.overlayConfirmed = true ∧
      (b.startOverlay policy answer).diagnostics.captureBackend = b.diagnostics.captureBackend := by
  obtain ⟨hfailure, hexcluded⟩ := Bool.and_eq_true_iff.1 h
  have hnone : answer.failure = none := Option.isNone_iff_eq_none.1 hfailure
  unfold startOverlay
  simp [hnone, hexcluded]

/-- **What a target callback does to the overlay.** -/
theorem handleTargetState_overlay (state : TargetState) (geometry : Option TargetGeometry)
    (answer : OverlayAnswer) (clock : MonotonicTime) :
    Subsides b (b.handleTargetState policy state geometry answer clock) ∨
      b.startsOverlay state geometry answer = true ∧
        (b.handleTargetState policy state geometry answer clock).platform.overlayConfirmed =
          true ∧
        (b.handleTargetState policy state geometry answer clock).diagnostics.captureBackend =
          b.diagnostics.captureBackend := by
  have hstate : SameOverlay b (b.setTargetState state) := sameOverlay_setTargetState state
  rcases handleTargetState_cases policy b state geometry answer clock with
    ⟨failure, -, heq⟩ | ⟨hfailure, ⟨-, heq⟩ | ⟨hminimized, ⟨-, heq⟩ | ⟨shown, rfl, heq⟩⟩⟩
  · rw [heq]
    exact .inl (hstate.subsides (subsides_handleFailure policy failure clock))
  · rw [heq]
    exact .inl (.inl (minimize_stopped _ _))
  · rw [heq]
    exact .inl (.inr hstate)
  · have htaken := hstate.trans (sameOverlay_takeGeometry (b := b.setTargetState state) shown)
    have hbackend : ((b.setTargetState state).takeGeometry shown).diagnostics.captureBackend =
        b.diagnostics.captureBackend :=
      (takeGeometry_platform (b := b.setTargetState state) shown).1
    have hoverlay : ((b.setTargetState state).takeGeometry shown).overlayGeometry =
        calculateOverlayGeometry shown := calculateOverlayGeometry_epoch shown _
    rw [heq]
    by_cases hmapped : (calculateOverlayGeometry shown).isNone = true
    · rw [showOverlay, hoverlay, if_pos hmapped]
      exact .inl (htaken.subsides (subsides_handleFailure policy _ clock))
    · rw [showOverlay_eq policy (by rw [hoverlay]; exact Bool.eq_false_iff.2 hmapped), hbackend]
      by_cases hduplicates : b.diagnostics.captureBackend = .desktopDuplication
      · exact .inl (.inl (by rw [if_pos hduplicates]; rfl))
      · rw [if_neg hduplicates]
        by_cases hstarts : (answer.failure.isNone && answer.excluded) = true
        · obtain ⟨hconfirmed, hbackend'⟩ := startOverlay_started policy
            (b := ((b.setTargetState state).takeGeometry shown).stopOverlay.disallowOverlay)
            hstarts
          have hsome : (calculateOverlayGeometry shown).isSome = true := by
            simpa [Option.isSome_iff_ne_none] using hmapped
          refine .inr ⟨?_, hconfirmed, hbackend'.trans hbackend⟩
          rw [startsOverlay, Bool.and_assoc, hstarts, hfailure, Option.any_some, hsome]
          simpa using ⟨hminimized, hduplicates⟩
        · exact .inl (.inl (startOverlay_stopped policy rfl (Bool.eq_false_iff.2 hstarts)))

theorem dropDevice_stopped : b.dropDevice.platform.overlayStarted = false := by
  unfold dropDevice invalidateGeometryEpoch
  dsimp only
  split
  all_goals rfl

theorem subsides_beginRecovery (answers : RecoveryAnswers) :
    Subsides b (b.beginRecovery policy answers) := by
  have hsame : ∀ {after : MediaBroker}, after.platform = b.platform → after.running = b.running →
      after.target = b.target →
        after.diagnostics.captureBackend = b.diagnostics.captureBackend → Subsides b after := by
    intro after hplatform hrunning htarget hbackend
    refine .inr ⟨by rw [hplatform], by rw [hplatform], hrunning, htarget, ?_⟩
    rw [hplatform, hbackend]
    exact fun hbackend hcapture => ⟨hbackend, hcapture⟩
  unfold beginRecovery
  dsimp only
  split
  · split
    · exact .inl ((subsides_handleFailure policy _ answers.clock).stopped dropDevice_stopped)
    · exact .inl dropDevice_stopped
  · unfold recreateAudio
    split
    all_goals exact hsame rfl rfl rfl rfl
  · split
    · exact hsame rfl rfl rfl rfl
    · split
      · exact hsame rfl rfl rfl rfl
      · split
        all_goals exact hsame rfl rfl rfl rfl
  · exact hsame rfl rfl rfl rfl

/-- A composition is no matter of the overlay's. -/
theorem sameOverlay_compose (now : MonotonicTime) : SameOverlay b (b.compose policy now) := by
  rcases compose_cases policy b now with ⟨frame, overlay, -, -, hcomposed⟩ | ⟨-, heq⟩
  · generalize b.compose policy now = after at hcomposed
    cases hcomposed with
    | presented _ _ _ => exact ⟨rfl, rfl, rfl, rfl, fun hbackend hcapture => ⟨hbackend, hcapture⟩⟩
    | kept _ => exact ⟨rfl, rfl, rfl, rfl, fun hbackend hcapture => ⟨hbackend, hcapture⟩⟩
    | pristine _ => exact ⟨rfl, rfl, rfl, rfl, fun hbackend hcapture => ⟨hbackend, hcapture⟩⟩
  · rw [heq]
    exact ⟨rfl, rfl, rfl, rfl, fun hbackend hcapture => ⟨hbackend, hcapture⟩⟩

end MediaBroker

open MediaBroker

variable {policy} {b : MediaBroker}

/-- A broker that starts has no overlay yet. -/
theorem OverlayExcluded.start (h : OverlayExcluded b) (audio hotkey : Option Failure) :
    OverlayExcluded (b.start audio hotkey) := by
  by_cases hrunning : b.running = true
  · rw [MediaBroker.start, if_pos hrunning]
    exact h
  · have hstopped : b.platform.overlayStarted = false := by
      apply Bool.eq_false_iff.2
      intro hstarted
      exact hrunning (h.started hstarted).2.1
    apply OverlayExcluded.of_stopped
    rw [MediaBroker.start, if_neg hrunning]
    split
    · exact hstopped
    · split
      all_goals exact hstopped

/-- **Every move that checks what it would have to keeps the overlay out of the capture.** -/
theorem OverlayExcluded.apply (h : OverlayExcluded b) {move : Move}
    (hkeeps : keepsExcluded b move = true) : OverlayExcluded (move.apply policy b) := by
  cases move with
  | start audio hotkey => exact h.start audio hotkey
  | stop =>
    show OverlayExcluded b.stop
    unfold MediaBroker.stop
    split
    · exact h
    · exact .of_stopped rfl
  | refuse failure state recovery => exact h.subsides (.inr (sameOverlay_fail _ _ _))
  | adoptTarget target => exact .of_stopped rfl
  | clearTarget => exact .of_stopped rfl
  | submitPatch patch =>
    show OverlayExcluded (b.submitPatch policy patch)
    unfold MediaBroker.submitPatch
    split
    all_goals exact ⟨h.capture, h.started⟩
  | submitOcclusionEvidence evidence =>
    show OverlayExcluded (b.submitOcclusionEvidence evidence)
    unfold MediaBroker.submitOcclusionEvidence
    split
    all_goals exact ⟨h.capture, h.started⟩
  | cancelGeneration newGeneration => exact ⟨h.capture, h.started⟩
  | callback report =>
    cases report with
    | frame captured clock => exact h.subsides (subsides_handleFrame policy captured clock)
    | failure failed clock => exact h.subsides (subsides_handleFailure policy failed clock)
    | targetState state geometry answer clock =>
      rcases handleTargetState_overlay policy (b := b) state geometry answer clock with
        hsubsides | ⟨hstarts, hconfirmed, hbackend⟩
      · exact h.subsides hsubsides
      · have hfades := fades_handleTargetState policy (b := b) state geometry answer clock
        have hstarts' := hstarts
        simp only [startsOverlay, Bool.and_eq_true, bne_iff_ne] at hstarts'
        constructor
        · intro hduplicates _
          exact absurd (hbackend.symm.trans hduplicates) hstarts'.1.1.2
        · intro _
          simp only [keepsExcluded, hstarts, Bool.not_true, Bool.false_or, Bool.and_eq_true]
            at hkeeps
          exact ⟨hconfirmed, hfades.running.trans hkeeps.1,
            (congrArg Option.isSome hfades.target).trans hkeeps.2⟩
  | createDevice answer clock =>
    cases answer with
    | some failure => exact h.subsides (subsides_handleFailure policy failure clock)
    | none => exact ⟨h.capture, h.started⟩
  | beginCapture backend => exact ⟨fun _ hcapture => (by cases hcapture), h.started⟩
  | endCapture backend failure clock =>
    show OverlayExcluded (b.endCapture policy backend failure clock)
    cases failure with
    | some failure =>
      unfold MediaBroker.endCapture
      dsimp only
      split
      · exact ⟨h.capture, h.started⟩
      · exact h.subsides (subsides_handleFailure policy failure clock)
    | none =>
      refine ⟨?_, h.started⟩
      intro hduplicates _
      have hduplicates' : b.diagnostics.captureBackend = .desktopDuplication := hduplicates
      have hstopped : b.platform.overlayStarted = false := by
        simpa [keepsExcluded, hduplicates'] using hkeeps
      exact hstopped
  | recover answers => exact h.subsides (subsides_beginRecovery policy answers)
  | compose now => exact h.subsides (.inr (sameOverlay_compose policy now))

/-- **The overlay does not capture itself** in any state of a run that starts a capture of the
desktop only while the overlay is stopped, and the overlay only for a selected target of a running
broker. -/
theorem overlay_excluded {operations : List Operation}
    (hkeeps : Meets policy (fun b move => keepsExcluded b move) operations .initial)
    {pre : List Operation} (hpre : pre <+: operations) :
    OverlayExcluded (runFrom (Operation.perform policy) pre .initial) :=
  hkeeps.inv OverlayExcluded (fun _ _ h hmove => h.apply hmove) (.of_stopped rfl) hpre

/-! ### A capture that keeps failing -/

/-- The capture fails, and the recovery is attempted when it is due. -/
def captureFails (clock : MonotonicTime) : List Operation :=
  [.callback (.failure ⟨.capture, .timeout, true, "Capture timed out"⟩ clock),
    .tick (clock + milliseconds 4000) compliantRecovery]

/-- The overlay is shown, and the primary capture is started once more. -/
def retriedOnce : List Operation := started ++ targetSelected :: captureFails 0

/-- The overlay is shown, and the primary capture is given up. -/
def givenUp : List Operation :=
  retriedOnce ++ captureFails (milliseconds 5000) ++ captureFails (milliseconds 10000)

theorem overlay_excluded_retriedOnce :
    Meets .default (fun b move => keepsExcluded b move) retriedOnce .initial ∧
      (runFrom (Operation.perform .default) retriedOnce .initial).platform.overlayStarted = true ∧
      OverlayExcluded (runFrom (Operation.perform .default) retriedOnce .initial) := by
  have hkeeps : Meets .default (fun b move => keepsExcluded b move) retriedOnce .initial := by
    decide +kernel
  exact ⟨hkeeps, by decide +kernel, overlay_excluded hkeeps List.prefix_rfl⟩

/-- **The fallback captures the overlay**: the third attempt duplicates the desktop, and nothing
stops the overlay that was started for the primary capture. -/
theorem overlay_captured :
    ¬OverlayExcluded (runFrom (Operation.perform .default) givenUp .initial) := by
  intro h
  have hbackend : (runFrom (Operation.perform .default) givenUp .initial).diagnostics.captureBackend
      = .desktopDuplication := by
    decide +kernel
  have hcapture : (runFrom (Operation.perform .default) givenUp .initial).platform.capture.isSome :=
    by decide +kernel
  have hstarted : (runFrom (Operation.perform .default) givenUp .initial).platform.overlayStarted =
      true := by
    decide +kernel
  rw [h.capture hbackend hcapture] at hstarted
  cases hstarted

end NpcRuntime.Media
