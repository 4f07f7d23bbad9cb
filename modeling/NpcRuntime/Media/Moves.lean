import NpcRuntime.Lib.Machine
import NpcRuntime.Media.Broker

/-!
# The moves of an operation

An operation of the broker is a sequence of moves, each of which is the code between two answers of
the platform: the callbacks that `start_capture` makes before it returns are moves of their own, and
the attempt of a recovery and the composition of a frame are two moves of a tick.

`perform_eq` unfolds an operation into its moves. A condition on moves then decides a run of
operations (`Meets`), and an invariant of the moves that meet it is an invariant of the run
(`Meets.inv`).
-/

namespace NpcRuntime.Media

inductive Move where
  | start (audio hotkey : Option Failure)
  | stop
  | refuse (failure : Failure) (state : BrokerState) (recovery : RecoveryAction)
  | adoptTarget (target : GameTarget)
  | clearTarget
  | submitPatch (patch : MouthPatch)
  | submitOcclusionEvidence (evidence : OcclusionEvidence)
  | cancelGeneration (newGeneration : UInt64)
  | callback (report : Callback)
  | createDevice (answer : Option Failure) (clock : MonotonicTime)
  | beginCapture (backend : CaptureBackend)
  | endCapture (backend : CaptureBackend) (failure : Option Failure) (clock : MonotonicTime)
  | recover (answers : RecoveryAnswers)
  | compose (now : MonotonicTime)

variable (policy : BrokerPolicy)

namespace MediaBroker

/-- The attempt of a recovery that is due, up to the activation of capture. -/
def beginRecovery (b : MediaBroker) (answers : RecoveryAnswers) : MediaBroker :=
  let action := b.diagnostics.pendingRecovery
  let b := b.takePendingRecovery
  match action with
  | .recreateGraphicsDevice =>
    match answers.graphics with
    | some failure => b.dropDevice.handleFailure policy failure answers.clock
    | none => b.dropDevice.settleGraphics
  | .recreateAudioClient => b.recreateAudio answers.audio
  | .retrySameBackend =>
    if b.sameBackendRetries < policy.timing.maxSameBackendRetries then
      { b with sameBackendRetries := b.sameBackendRetries + 1 }
    else if b.diagnostics.captureBackend = .windowsGraphicsCapture ∧
        policy.permitDesktopDuplicationFallback then { b with sameBackendRetries := 0 }
    else if policy.permitAudioOnlyFallback then
      { b with diagnostics := { b.diagnostics with
          state := .degradedAudioOnly, pendingRecovery := .degradeToAudioOnly } }
    else { b with diagnostics := { b.diagnostics with state := .failed } }
  | _ => b

/-- The backend that the attempt then activates. -/
def recoveryBackend (b : MediaBroker) (answers : RecoveryAnswers) : Option CaptureBackend :=
  match b.diagnostics.pendingRecovery with
  | .recreateGraphicsDevice =>
    if answers.graphics.isNone then some .windowsGraphicsCapture else none
  | .retrySameBackend =>
    if b.sameBackendRetries < policy.timing.maxSameBackendRetries then
      some b.diagnostics.captureBackend
    else if b.diagnostics.captureBackend = .windowsGraphicsCapture ∧
        policy.permitDesktopDuplicationFallback then some .desktopDuplication
    else none
  | .switchToDesktopDuplication => some .desktopDuplication
  | _ => none

end MediaBroker

def Move.apply (move : Move) (b : MediaBroker) : MediaBroker :=
  match move with
  | .start audio hotkey => b.start audio hotkey
  | .stop => b.stop
  | .refuse failure state recovery => b.fail failure state recovery
  | .adoptTarget target => b.adoptTarget target
  | .clearTarget => b.clearTarget
  | .submitPatch patch => b.submitPatch policy patch
  | .submitOcclusionEvidence evidence => b.submitOcclusionEvidence evidence
  | .cancelGeneration newGeneration => b.cancelGeneration newGeneration
  | .callback report => report.handle policy b
  | .createDevice answer clock => b.createDevice policy answer clock
  | .beginCapture backend => b.beginCapture backend
  | .endCapture backend failure clock => b.endCapture policy backend failure clock
  | .recover answers => b.beginRecovery policy answers
  | .compose now => b.compose policy now

/-- A call of `start_capture`: what precedes it, its callbacks, and what follows it. -/
def captureMoves (backend : CaptureBackend) (answers : ActivationAnswers) : List Move :=
  .beginCapture backend :: (answers.capture backend).callbacks.map .callback ++
    [.endCapture backend (answers.capture backend).failure answers.clock]

def activationMoves (b : MediaBroker) (backend : CaptureBackend) (answers : ActivationAnswers) :
    List Move :=
  if b.target.isNone then []
  else if b.diagnostics.deviceGeneration = 0 ∧ answers.device.isSome then
    [.createDevice answers.device answers.clock]
  else
    (if b.diagnostics.deviceGeneration = 0 then [.createDevice answers.device answers.clock]
      else []) ++ captureMoves backend answers ++
      if (answers.capture backend).failure.any (fallsBack policy backend) then
        captureMoves .desktopDuplication answers
      else []

def recoveryMoves (b : MediaBroker) (now : MonotonicTime) (answers : RecoveryAnswers) :
    List Move :=
  if b.diagnostics.pendingRecovery = .none ∨ now < b.recoveryDue then []
  else
    .recover answers ::
      match b.recoveryBackend policy answers with
      | some backend =>
        activationMoves policy (b.beginRecovery policy answers) backend answers.activation
      | none => []

def Operation.moves (b : MediaBroker) : Operation → List Move
  | .start audio hotkey => [.start audio hotkey]
  | .stop => [.stop]
  | .selectTarget target validated answers =>
    if !b.running then [.refuse MediaBroker.brokerIsNotRunning .failed .none]
    else
      match validated with
      | some failure => [.refuse failure .awaitingTarget .awaitTarget]
      | none => .adoptTarget target ::
          activationMoves policy (b.adoptTarget target) .windowsGraphicsCapture answers
  | .clearTarget => [.clearTarget]
  | .submitPatch patch => [.submitPatch patch]
  | .submitOcclusionEvidence evidence => [.submitOcclusionEvidence evidence]
  | .cancelGeneration newGeneration => [.cancelGeneration newGeneration]
  | .tick now answers =>
    if !b.running then [] else recoveryMoves policy b now answers ++ [.compose now]
  | .callback report => [.callback report]

/-! ## What a callback leaves -/

/-- **What a callback may do to the residual**: hide it, end its hold, or leave it with its
generations. It presents nothing. -/
structure Fades (b b' : MediaBroker) : Prop where
  running : b'.running = b.running
  target : b'.target = b.target
  reshows : b'.platform.reshows = b.platform.reshows
  recentResidualReshows : b'.recentResidualReshows = b.recentResidualReshows
  deviceGeneration : b'.diagnostics.deviceGeneration = b.diagnostics.deviceGeneration
  cancellationGeneration :
    b'.diagnostics.cancellationGeneration = b.diagnostics.cancellationGeneration
  residual : b'.platform.residual = none ∨ b'.platform.residual = b.platform.residual ∧
    b'.diagnostics.geometryEpoch = b.diagnostics.geometryEpoch
  held : b'.heldResidual = none ∨ b'.heldResidual = b.heldResidual

theorem Fades.refl (b : MediaBroker) : Fades b b :=
  ⟨rfl, rfl, rfl, rfl, rfl, rfl, .inr ⟨rfl, rfl⟩, .inr rfl⟩

theorem Fades.trans {b b' b'' : MediaBroker} (h : Fades b b') (h' : Fades b' b'') :
    Fades b b'' where
  running := h'.running.trans h.running
  target := h'.target.trans h.target
  reshows := h'.reshows.trans h.reshows
  recentResidualReshows := h'.recentResidualReshows.trans h.recentResidualReshows
  deviceGeneration := h'.deviceGeneration.trans h.deviceGeneration
  cancellationGeneration := h'.cancellationGeneration.trans h.cancellationGeneration
  residual := by
    rcases h'.residual with hnone | ⟨hsame, hepoch⟩
    · exact .inl hnone
    · rcases h.residual with hnone' | ⟨hsame', hepoch'⟩
      · exact .inl (hsame.trans hnone')
      · exact .inr ⟨hsame.trans hsame', hepoch.trans hepoch'⟩
  held := by
    rcases h'.held with hnone | hsame
    · exact .inl hnone
    · rcases h.held with hnone' | hsame'
      · exact .inl (hsame.trans hnone')
      · exact .inr (hsame.trans hsame')

namespace MediaBroker

variable {b : MediaBroker}

theorem fades_fail (failure : Failure) (state : BrokerState) (recovery : RecoveryAction) :
    Fades b (b.fail failure state recovery) :=
  ⟨rfl, rfl, rfl, rfl, rfl, rfl, .inr ⟨rfl, rfl⟩, .inl rfl⟩

theorem fades_suppressResidual : Fades b b.suppressResidual :=
  ⟨rfl, rfl, rfl, rfl, rfl, rfl, .inl rfl, .inl rfl⟩

theorem fades_setTargetState (state : TargetState) : Fades b (b.setTargetState state) :=
  ⟨rfl, rfl, rfl, rfl, rfl, rfl, .inr ⟨rfl, rfl⟩, .inr rfl⟩

theorem fades_handleFailure (failure : Failure) (clock : MonotonicTime) :
    Fades b (b.handleFailure policy failure clock) := by
  unfold handleFailure
  split
  · constructor <;> simp
  · split
    all_goals constructor <;> simp

theorem fades_handleFrame (frame : FrameDescriptor) (clock : MonotonicTime) :
    Fades b (b.handleFrame policy frame clock) := by
  unfold handleFrame
  split
  · exact .refl b
  · dsimp only
    split
    · exact fades_suppressResidual
    · split
      · exact (fades_setTargetState _).trans (fades_handleFailure policy _ clock)
      · exact ⟨rfl, rfl, rfl, rfl, rfl, rfl, .inr ⟨rfl, rfl⟩, .inr rfl⟩

theorem fades_takeGeometry (geometry : TargetGeometry) : Fades b (b.takeGeometry geometry) := by
  unfold takeGeometry
  split
  · split
    · exact ⟨rfl, rfl, rfl, rfl, rfl, rfl, .inr ⟨rfl, rfl⟩, .inr rfl⟩
    · exact ⟨rfl, rfl, rfl, rfl, rfl, rfl, .inl rfl, .inl rfl⟩
  · exact ⟨rfl, rfl, rfl, rfl, rfl, rfl, .inl rfl, .inl rfl⟩

/-- Taking over a geometry leaves the platform alone, the residual apart. -/
theorem takeGeometry_platform (geometry : TargetGeometry) :
    (b.takeGeometry geometry).diagnostics.captureBackend = b.diagnostics.captureBackend ∧
      (b.takeGeometry geometry).platform.overlayStarted = b.platform.overlayStarted ∧
      (b.takeGeometry geometry).platform.capture = b.platform.capture := by
  unfold takeGeometry invalidateGeometryEpoch
  split
  · split
    all_goals simp
  · simp

theorem fades_startOverlay (answer : OverlayAnswer) :
    Fades b (b.startOverlay policy answer) := by
  unfold startOverlay
  split
  · split
    · exact fades_fail _ _ _
    · exact fades_fail _ _ _
  · split
    · exact ⟨rfl, rfl, rfl, rfl, rfl, rfl, .inl rfl, .inl rfl⟩
    · exact ⟨rfl, rfl, rfl, rfl, rfl, rfl, .inr ⟨rfl, rfl⟩, .inr rfl⟩

/-- On a geometry that maps, the overlay is stopped first. -/
theorem showOverlay_eq (h : b.overlayGeometry.isNone = false) (answer : OverlayAnswer)
    (clock : MonotonicTime) :
    b.showOverlay policy answer clock =
      if b.diagnostics.captureBackend = .desktopDuplication then
        b.stopOverlay.disallowOverlay.disableOverlay
      else b.stopOverlay.disallowOverlay.startOverlay policy answer := by
  rw [showOverlay, if_neg (by rw [h]; decide)]
  rfl

theorem fades_showOverlay (answer : OverlayAnswer) (clock : MonotonicTime) :
    Fades b (b.showOverlay policy answer clock) := by
  by_cases hoverlay : b.overlayGeometry.isNone = true
  · rw [showOverlay, if_pos hoverlay]
    exact fades_handleFailure policy _ clock
  · rw [showOverlay_eq policy (Bool.eq_false_iff.2 hoverlay)]
    split
    · exact ⟨rfl, rfl, rfl, rfl, rfl, rfl, .inl rfl, .inr rfl⟩
    · have hstop : Fades b b.stopOverlay.disallowOverlay :=
        ⟨rfl, rfl, rfl, rfl, rfl, rfl, .inl rfl, .inr rfl⟩
      exact hstop.trans (fades_startOverlay policy answer)

theorem fades_minimize (previous : TargetState) (geometry : Option TargetGeometry) :
    Fades b (b.minimize previous geometry) := by
  unfold minimize
  split
  · split
    · exact ⟨rfl, rfl, rfl, rfl, rfl, rfl, .inl rfl, .inl rfl⟩
    · exact ⟨rfl, rfl, rfl, rfl, rfl, rfl, .inl rfl, .inl rfl⟩
  · exact ⟨rfl, rfl, rfl, rfl, rfl, rfl, .inl rfl, .inl rfl⟩

/-- **What a target callback does.** -/
theorem handleTargetState_cases (b : MediaBroker) (state : TargetState)
    (geometry : Option TargetGeometry) (answer : OverlayAnswer) (clock : MonotonicTime) :
    (∃ failure, state.failure = some failure ∧
      b.handleTargetState policy state geometry answer clock =
        (b.setTargetState state).handleFailure policy failure clock) ∨
    state.failure = none ∧
      ((state = .minimized ∧ b.handleTargetState policy state geometry answer clock =
          (b.setTargetState state).minimize b.diagnostics.targetState geometry) ∨
        state ≠ .minimized ∧
          ((geometry = none ∧ b.handleTargetState policy state geometry answer clock =
              b.setTargetState state) ∨
            ∃ shown, geometry = some shown ∧
              b.handleTargetState policy state geometry answer clock =
                ((b.setTargetState state).takeGeometry shown).showOverlay policy answer clock)) := by
  unfold handleTargetState
  cases hfailure : state.failure with
  | some failure => exact .inl ⟨failure, rfl, rfl⟩
  | none =>
    refine .inr ⟨rfl, ?_⟩
    by_cases hminimized : state = .minimized
    · exact .inl ⟨hminimized, by simp only [if_pos hminimized]⟩
    · refine .inr ⟨hminimized, ?_⟩
      cases geometry with
      | none => exact .inl ⟨rfl, by simp only [if_neg hminimized]⟩
      | some shown => exact .inr ⟨shown, rfl, by simp only [if_neg hminimized]⟩

theorem fades_handleTargetState (state : TargetState) (geometry : Option TargetGeometry)
    (answer : OverlayAnswer) (clock : MonotonicTime) :
    Fades b (b.handleTargetState policy state geometry answer clock) := by
  have hstate : Fades b (b.setTargetState state) := fades_setTargetState state
  rcases handleTargetState_cases policy b state geometry answer clock with
    ⟨failure, -, heq⟩ | ⟨-, ⟨-, heq⟩ | ⟨-, ⟨-, heq⟩ | ⟨shown, -, heq⟩⟩⟩
  · rw [heq]
    exact hstate.trans (fades_handleFailure policy failure clock)
  · rw [heq]
    exact hstate.trans (fades_minimize _ geometry)
  · rw [heq]
    exact hstate
  · rw [heq]
    exact (hstate.trans (fades_takeGeometry shown)).trans (fades_showOverlay policy answer clock)

end MediaBroker

open MediaBroker

theorem Callback.fades (report : Callback) (b : MediaBroker) :
    Fades b (report.handle policy b) := by
  cases report with
  | frame captured clock => exact fades_handleFrame policy captured clock
  | failure failed clock => exact fades_handleFailure policy failed clock
  | targetState state geometry answer clock =>
    exact fades_handleTargetState policy state geometry answer clock

/-- The callbacks of a call fade together. -/
theorem fades_callbacks (reports : List Callback) (b : MediaBroker) :
    Fades b (reports.foldl (Callback.handle policy) b) := by
  induction reports generalizing b with
  | nil => exact .refl b
  | cons report reports ih => exact (report.fades policy b).trans (ih _)

variable {b : MediaBroker}

theorem MediaBroker.fades_endCapture (backend : CaptureBackend) (failure : Option Failure)
    (clock : MonotonicTime) : Fades b (b.endCapture policy backend failure clock) := by
  unfold endCapture
  split
  · split
    · exact ⟨rfl, rfl, rfl, rfl, rfl, rfl, .inr ⟨rfl, rfl⟩, .inr rfl⟩
    · exact fades_handleFailure policy _ clock
  · exact ⟨rfl, rfl, rfl, rfl, rfl, rfl, .inr ⟨rfl, rfl⟩, .inr rfl⟩

/-- **What the attempt of a recovery does to the residual**: it hides it, or it fades. -/
theorem MediaBroker.beginRecovery_residual (b : MediaBroker) (answers : RecoveryAnswers) :
    (b.beginRecovery policy answers).platform.residual = none ∨
      Fades b (b.beginRecovery policy answers) := by
  have hdropped : b.takePendingRecovery.dropDevice.platform.residual = none := by
    unfold dropDevice invalidateGeometryEpoch
    dsimp only
    split
    all_goals simp
  unfold beginRecovery
  dsimp only
  split
  · split
    · rcases (fades_handleFailure policy (b := b.takePendingRecovery.dropDevice) _
        answers.clock).residual with hnone | hsame
      · exact .inl hnone
      · exact .inl (hsame.1.trans hdropped)
    · exact .inl hdropped
  · unfold recreateAudio
    split
    all_goals
      refine .inr ?_
      constructor <;> simp
  · split
    · exact .inr (by constructor <;> simp)
    · split
      · exact .inr (by constructor <;> simp)
      · split
        all_goals exact .inr (by constructor <;> simp)
  · exact .inr (by constructor <;> simp)

theorem MediaBroker.beginRecovery_running (b : MediaBroker) (answers : RecoveryAnswers) :
    (b.beginRecovery policy answers).running = b.running := by
  have hdropped : b.takePendingRecovery.dropDevice.running = b.running := by
    unfold dropDevice invalidateGeometryEpoch
    dsimp only
    split
    all_goals simp
  unfold beginRecovery
  dsimp only
  split
  · split
    · exact (fades_handleFailure policy _ answers.clock).running.trans hdropped
    · exact hdropped
  · unfold recreateAudio
    split
    all_goals rfl
  · split
    · rfl
    · split
      · rfl
      · split
        all_goals rfl
  · rfl

/-! ## What a composition does -/

/-- The reshows that still count. -/
def MediaBroker.recentReshows (b : MediaBroker) (now : MonotonicTime) : List MonotonicTime :=
  b.recentResidualReshows.filter fun reshow =>
    !(reshow > now || now - reshow ≥ residualReshowWindow)

/-- A patch replaces a residual that is held, or there is room for another reshow. -/
def MediaBroker.Admits (b : MediaBroker) (now : MonotonicTime) (recent : List MonotonicTime) :
    Prop :=
  (∃ held, b.heldResidual = some held ∧ residualFresh policy held.presentedAt now = true ∧
      recent = b.recentResidualReshows) ∨
    (b.recentReshows now).length < (reshowLimit policy).toNat ∧
      recent = b.recentReshows now ++ [now]

/-- A patch passes every check of the composition. -/
def MediaBroker.presents (b : MediaBroker) (frame : FrameDescriptor) (overlay : OverlayGeometry)
    (patch : MouthPatch) (now : MonotonicTime) : Bool :=
  b.decideCompositing policy frame (some patch) now = .patch &&
    (mapNormalizedSourceRect patch.normalizedBounds overlay).isSome &&
    (b.admitResidualPresentation policy now).1

/-- The presentation of an admitted patch. -/
def MediaBroker.presented (b : MediaBroker) (frame : FrameDescriptor) (patch : MouthPatch)
    (recent : List MonotonicTime) (now : MonotonicTime) : MediaBroker :=
  ({ b with recentResidualReshows := recent }.presentPatch frame patch now).noteResidualPresented
    patch now

/-- **What a composition does**: it presents an admitted patch, or it leaves the residual that is
held, or it hides the residual. -/
inductive Composed (b : MediaBroker) (frame : FrameDescriptor) (overlay : OverlayGeometry)
    (patch : Option MouthPatch) (now : MonotonicTime) : MediaBroker → Prop
  | presented {latest : MouthPatch} {recent : List MonotonicTime} (hpatch : patch = some latest)
      (hpresents : b.presents policy frame overlay latest now = true)
      (hadmits : b.Admits policy now recent) :
      Composed b frame overlay patch now (b.presented frame latest recent now)
  | kept (h : b.residualHoldValid policy frame now = true) : Composed b frame overlay patch now b
  | pristine {recent : List MonotonicTime}
      (hrecent : recent = b.recentResidualReshows ∨ recent = b.recentReshows now) :
      Composed b frame overlay patch now { b with recentResidualReshows := recent }.composePristine

/-- What an admission says. -/
theorem MediaBroker.admitResidualPresentation_cases (b : MediaBroker) (now : MonotonicTime) :
    (∃ recent held, b.admitResidualPresentation policy now =
        (true, { b with recentResidualReshows := recent, heldResidual := held }) ∧
      b.Admits policy now recent) ∨
    b.admitResidualPresentation policy now = (false,
      { b with recentResidualReshows := b.recentReshows now, heldResidual := none }) := by
  unfold admitResidualPresentation
  split
  · next hheld =>
    obtain ⟨held, hsome, hfresh⟩ := (Option.any_eq_true _ _).1 hheld
    exact .inl ⟨b.recentResidualReshows, b.heldResidual, rfl, .inl ⟨held, hsome, hfresh, rfl⟩⟩
  · dsimp only
    split
    · exact .inr rfl
    · next hroom => exact .inl ⟨_, none, rfl, .inr ⟨not_le.1 hroom, rfl⟩⟩

theorem MediaBroker.composeFrame_cases (b : MediaBroker) (frame : FrameDescriptor)
    (overlay : OverlayGeometry) (patch : Option MouthPatch) (now : MonotonicTime) :
    Composed policy b frame overlay patch now (b.composeFrame policy frame overlay patch now) := by
  have hpristine : Composed policy b frame overlay patch now b.composePristine :=
    .pristine (.inl rfl)
  unfold composeFrame
  split
  · next latest hdecision =>
    by_cases hmapped : (mapNormalizedSourceRect latest.normalizedBounds overlay).isNone = true
    · rw [if_pos hmapped]
      exact hpristine
    · rw [if_neg hmapped]
      rcases admitResidualPresentation_cases policy b now with
        ⟨recent, held, heq, hadmits⟩ | heq
      · have hpresents : b.presents policy frame overlay latest now = true := by
          have hsome : (mapNormalizedSourceRect latest.normalizedBounds overlay).isSome = true :=
            by simpa [Option.isSome_iff_ne_none] using hmapped
          rw [presents, hdecision, hsome, heq]
          rfl
        rw [heq]
        exact .presented rfl hpresents hadmits
      · rw [heq]
        exact .pristine (.inr rfl)
  · split
    · next hvalid => exact .kept hvalid
    · exact hpristine
  · exact hpristine

/-- A tick composes the frame that waits on the overlay that is mapped, if there are both. -/
theorem MediaBroker.compose_cases (b : MediaBroker) (now : MonotonicTime) :
    (∃ frame overlay, b.frames = some frame ∧ b.overlayGeometry = some overlay ∧
      Composed policy b.clearMailboxes frame overlay b.patches now (b.compose policy now)) ∨
    (b.frames = none ∨ b.overlayGeometry = none) ∧
      b.compose policy now = { b with frames := none } := by
  unfold compose
  split
  · next frame overlay hframe hoverlay =>
    exact .inl ⟨frame, overlay, hframe, hoverlay, composeFrame_cases policy _ frame overlay _ now⟩
  · next hnone =>
    refine .inr ⟨?_, rfl⟩
    cases hframe : b.frames with
    | none => exact .inl rfl
    | some frame =>
      cases hoverlay : b.overlayGeometry with
      | none => exact .inr rfl
      | some overlay => exact absurd hoverlay (hnone frame overlay hframe)

/-! ## An operation is its moves -/

theorem runFrom_append {moves moves' : List Move} :
    runFrom (Move.apply policy) (moves ++ moves') b =
      runFrom (Move.apply policy) moves' (runFrom (Move.apply policy) moves b) :=
  List.foldl_append

/-- A call of `start_capture` as moves. -/
theorem runFrom_captureMoves (backend : CaptureBackend) (answers : ActivationAnswers)
    (b : MediaBroker) :
    runFrom (Move.apply policy) (captureMoves backend answers) b =
      ((answers.capture backend).callbacks.foldl (Callback.handle policy)
        (b.beginCapture backend)).endCapture policy backend (answers.capture backend).failure
          answers.clock := by
  simp only [captureMoves, runFrom, List.foldl_append, List.foldl_cons, List.foldl_map,
    List.foldl_nil]
  rfl

/-- A call of `start_capture` changes neither the target nor the device. -/
theorem captureMoves_fades (backend : CaptureBackend) (answers : ActivationAnswers)
    (b : MediaBroker) :
    Fades (b.beginCapture backend)
      (runFrom (Move.apply policy) (captureMoves backend answers) b) := by
  rw [runFrom_captureMoves]
  exact (fades_callbacks policy _ _).trans (fades_endCapture policy backend _ answers.clock)

/-- Activating capture for a target on a device is a call of `start_capture`, and the fallback. -/
theorem activateCaptureOr_eq (htarget : b.target.isNone = false)
    (hdevice : b.diagnostics.deviceGeneration ≠ 0) (backend : CaptureBackend)
    (answers : ActivationAnswers) (fallback : MediaBroker → MediaBroker) :
    b.activateCaptureOr policy backend answers fallback =
      if (answers.capture backend).failure.any (fallsBack policy backend) then
        fallback (runFrom (Move.apply policy) (captureMoves backend answers) b)
      else runFrom (Move.apply policy) (captureMoves backend answers) b := by
  simp only [activateCaptureOr, htarget, hdevice, runFrom_captureMoves, Bool.false_eq_true,
    false_and, if_false]

/-- The device that is there, or created, when capture starts. -/
theorem createDevice_eq (clock : MonotonicTime) :
    (b.createDevice policy none clock).target = b.target ∧
      (b.createDevice policy none clock).diagnostics.deviceGeneration ≠ 0 := by
  refine ⟨rfl, ?_⟩
  show (1 : UInt64) ≠ 0
  decide

theorem activateCapture_eq (backend : CaptureBackend) (answers : ActivationAnswers)
    (b : MediaBroker) :
    b.activateCapture policy backend answers =
      runFrom (Move.apply policy) (activationMoves policy b backend answers) b := by
  -- With a device the call is one of `start_capture`, and its fallback finds target and device.
  have hready : ∀ b : MediaBroker, b.target.isNone = false → b.diagnostics.deviceGeneration ≠ 0 →
      b.activateCapture policy backend answers =
        runFrom (Move.apply policy) (captureMoves backend answers ++
          if (answers.capture backend).failure.any (fallsBack policy backend) then
            captureMoves .desktopDuplication answers else []) b := by
    intro b htarget hdevice
    have hfades := captureMoves_fades policy backend answers b
    rw [activateCapture, activateCaptureOr_eq policy htarget hdevice, runFrom_append]
    by_cases hfallback : (answers.capture backend).failure.any (fallsBack policy backend) = true
    · rw [if_pos hfallback, if_pos hfallback, activateCaptureOr_eq policy
        (by rw [hfades.target]; exact htarget) (by rw [hfades.deviceGeneration]; exact hdevice)]
      simp only [id_eq, ite_self]
    · rw [if_neg hfallback, if_neg hfallback]
      rfl
  unfold activationMoves
  by_cases htarget : b.target.isNone = true
  · rw [if_pos htarget, activateCapture, activateCaptureOr, if_pos htarget]
    rfl
  · rw [if_neg htarget]
    have hsome : b.target.isNone = false := Bool.eq_false_iff.2 htarget
    by_cases hdevice : b.diagnostics.deviceGeneration = 0
    · cases hanswer : answers.device with
      | some failure =>
        rw [if_pos ⟨hdevice, rfl⟩, activateCapture, activateCaptureOr, if_neg htarget,
          if_pos ⟨hdevice, by rw [hanswer]; rfl⟩, hanswer]
        rfl
      | none =>
        obtain ⟨htarget', hdevice'⟩ := createDevice_eq policy (b := b) answers.clock
        rw [if_neg (by simp), if_pos hdevice, List.append_assoc, List.singleton_append]
        show _ = runFrom (Move.apply policy) _ (b.createDevice policy none answers.clock)
        rw [← hready _ (by rw [htarget']; exact hsome) hdevice']
        simp only [activateCapture, activateCaptureOr, htarget', hdevice', hsome, hdevice,
          hanswer, Option.isSome_none, Bool.false_eq_true, and_false, if_false, if_true]
    · rw [if_neg (fun h => hdevice h.1), if_neg hdevice, List.nil_append]
      exact hready b hsome hdevice

/-- Without a target no capture is activated. -/
theorem activateCapture_none (h : b.target = none) (backend : CaptureBackend)
    (answers : ActivationAnswers) : b.activateCapture policy backend answers = b := by
  rw [activateCapture, activateCaptureOr, h]
  rfl

/-- What a due recovery does, and the capture it then activates. -/
theorem attemptRecovery_due {now : MonotonicTime}
    (h : ¬(b.diagnostics.pendingRecovery = .none ∨ now < b.recoveryDue))
    (answers : RecoveryAnswers) :
    b.attemptRecovery policy now answers =
      match b.recoveryBackend policy answers with
      | some backend =>
        (b.beginRecovery policy answers).activateCapture policy backend answers.activation
      | none => b.beginRecovery policy answers := by
  rw [attemptRecovery, if_neg h]
  dsimp only [beginRecovery, recoveryBackend]
  cases hpending : b.diagnostics.pendingRecovery with
  | none => exact absurd (.inl hpending) h
  | recreateGraphicsDevice =>
    cases hgraphics : answers.graphics with
    | some failure => rfl
    | none =>
      dsimp only [Option.isNone_none, if_true]
      split
      · rfl
      · next hnone =>
        exact (activateCapture_none policy (by simpa using hnone) _ _).symm
  | recreateAudioClient => rfl
  | retrySameBackend =>
    have hretries : b.takePendingRecovery.sameBackendRetries = b.sameBackendRetries := rfl
    have hcapture : b.takePendingRecovery.diagnostics.captureBackend =
        b.diagnostics.captureBackend := rfl
    rw [hretries, hcapture]
    by_cases hretry : b.sameBackendRetries < policy.timing.maxSameBackendRetries
    · simp only [if_pos hretry]
    · by_cases hfallback : b.diagnostics.captureBackend = .windowsGraphicsCapture ∧
          policy.permitDesktopDuplicationFallback
      · simp only [if_neg hretry, if_pos hfallback]
      · simp only [if_neg hretry, if_neg hfallback]
  | switchToDesktopDuplication => rfl
  | awaitTarget => rfl
  | degradeToAudioOnly => rfl
  | blockSession => rfl

theorem attemptRecovery_eq (now : MonotonicTime) (answers : RecoveryAnswers) (b : MediaBroker) :
    b.attemptRecovery policy now answers =
      runFrom (Move.apply policy) (recoveryMoves policy b now answers) b := by
  unfold recoveryMoves
  by_cases hdue : b.diagnostics.pendingRecovery = .none ∨ now < b.recoveryDue
  · rw [if_pos hdue, attemptRecovery, if_pos hdue]
    rfl
  · rw [if_neg hdue, attemptRecovery_due policy hdue]
    cases b.recoveryBackend policy answers with
    | none => rfl
    | some backend => exact activateCapture_eq policy backend answers.activation _

/-- **An operation is its moves.** -/
theorem perform_eq (operation : Operation) (b : MediaBroker) :
    operation.perform policy b =
      runFrom (Move.apply policy) (operation.moves policy b) b := by
  cases operation with
  | selectTarget target validated answers =>
    show b.selectTarget policy target validated answers = _
    unfold selectTarget Operation.moves
    split
    · rfl
    · cases validated with
      | some failure => rfl
      | none => exact activateCapture_eq policy .windowsGraphicsCapture answers _
  | tick now answers =>
    show b.tick policy now answers = _
    unfold tick Operation.moves
    split
    · rfl
    · rw [runFrom_append, attemptRecovery_eq]
      rfl
  | start audio hotkey => rfl
  | stop => rfl
  | clearTarget => rfl
  | submitPatch patch => rfl
  | submitOcclusionEvidence evidence => rfl
  | cancelGeneration newGeneration => rfl
  | callback report => rfl

/-! ## Composition comes last -/

def Move.composes : Move → Bool
  | .compose _ => true
  | _ => false

/-- A move of an operation that is under way: none of these starts, stops or composes. -/
def Move.isInternal : Move → Bool
  | .callback _ | .createDevice _ _ | .beginCapture _ | .endCapture _ _ _ | .recover _ => true
  | _ => false

theorem Move.composes_of_isInternal {move : Move} (h : move.isInternal = true) :
    move.composes = false := by
  cases move <;> first | rfl | cases h

theorem captureMoves_isInternal (backend : CaptureBackend) (answers : ActivationAnswers) :
    ∀ move ∈ captureMoves backend answers, move.isInternal = true := by
  intro move hmove
  simp only [captureMoves, List.mem_append, List.mem_cons, List.mem_map, List.not_mem_nil,
    or_false] at hmove
  rcases hmove with (rfl | ⟨report, -, rfl⟩) | rfl
  all_goals rfl

theorem activationMoves_isInternal (b : MediaBroker) (backend : CaptureBackend)
    (answers : ActivationAnswers) :
    ∀ move ∈ activationMoves policy b backend answers, move.isInternal = true := by
  intro move hmove
  unfold activationMoves at hmove
  split at hmove
  · cases hmove
  · split at hmove
    · obtain rfl := List.mem_singleton.1 hmove
      rfl
    · rcases List.mem_append.1 hmove with hmove | hmove
      · rcases List.mem_append.1 hmove with hmove | hmove
        · split at hmove
          · obtain rfl := List.mem_singleton.1 hmove
            rfl
          · cases hmove
        · exact captureMoves_isInternal backend answers move hmove
      · split at hmove
        · exact captureMoves_isInternal .desktopDuplication answers move hmove
        · cases hmove

theorem recoveryMoves_isInternal (b : MediaBroker) (now : MonotonicTime)
    (answers : RecoveryAnswers) :
    ∀ move ∈ recoveryMoves policy b now answers, move.isInternal = true := by
  intro move hmove
  unfold recoveryMoves at hmove
  split at hmove
  · cases hmove
  · rcases List.mem_cons.1 hmove with rfl | hmove
    · rfl
    · split at hmove
      · exact activationMoves_isInternal policy _ _ _ move hmove
      · cases hmove

/-- **A frame is composed at the end of a tick, and nowhere else.** -/
theorem Operation.moves_composes (operation : Operation) (b : MediaBroker) :
    (∃ now answers, operation = .tick now answers ∧ b.running = true ∧
      operation.moves policy b = recoveryMoves policy b now answers ++ [.compose now]) ∨
    ∀ move ∈ operation.moves policy b, move.composes = false := by
  cases operation with
  | tick now answers =>
    by_cases hrunning : b.running = true
    · refine .inl ⟨now, answers, rfl, hrunning, ?_⟩
      simp only [Operation.moves, hrunning, Bool.not_true, Bool.false_eq_true, if_false]
    · refine .inr ?_
      intro move hmove
      simp [Operation.moves, hrunning] at hmove
  | selectTarget target validated answers =>
    refine .inr ?_
    intro move hmove
    dsimp only [Operation.moves] at hmove
    split at hmove
    · obtain rfl := List.mem_singleton.1 hmove
      rfl
    · split at hmove
      · obtain rfl := List.mem_singleton.1 hmove
        rfl
      · rcases List.mem_cons.1 hmove with rfl | hmove
        · rfl
        · exact Move.composes_of_isInternal (activationMoves_isInternal policy _ _ _ move hmove)
  | start audio hotkey => exact .inr (by simp [Operation.moves, Move.composes])
  | stop => exact .inr (by simp [Operation.moves, Move.composes])
  | clearTarget => exact .inr (by simp [Operation.moves, Move.composes])
  | submitPatch patch => exact .inr (by simp [Operation.moves, Move.composes])
  | submitOcclusionEvidence evidence => exact .inr (by simp [Operation.moves, Move.composes])
  | cancelGeneration newGeneration => exact .inr (by simp [Operation.moves, Move.composes])
  | callback report => exact .inr (by simp [Operation.moves, Move.composes])

/-- An operation under way leaves the broker running. -/
theorem apply_running {move : Move} (h : move.isInternal = true) (b : MediaBroker) :
    (move.apply policy b).running = b.running := by
  cases move with
  | callback report => exact (report.fades policy b).running
  | createDevice answer clock =>
    cases answer with
    | some failure => exact (fades_handleFailure policy failure clock).running
    | none => rfl
  | beginCapture backend => rfl
  | endCapture backend failure clock => exact (fades_endCapture policy backend failure clock).running
  | recover answers => exact beginRecovery_running policy b answers
  | _ => cases h

theorem runFrom_running {moves : List Move} (h : ∀ move ∈ moves, move.isInternal = true)
    (b : MediaBroker) : (runFrom (Move.apply policy) moves b).running = b.running := by
  induction moves generalizing b with
  | nil => rfl
  | cons move moves ih =>
    have hrest := ih (fun other hother => h other (List.mem_cons_of_mem _ hother))
      (move.apply policy b)
    exact hrest.trans (apply_running policy (h move List.mem_cons_self) b)

variable {C : MediaBroker → Move → Prop}

/-- A condition on compositions says nothing about other moves. -/
theorem along_of_composes (hC : ∀ b move, move.composes = false → C b move) {moves : List Move}
    (h : ∀ move ∈ moves, move.composes = false) (b : MediaBroker) :
    Along (Move.apply policy) C moves b := by
  induction moves generalizing b with
  | nil => trivial
  | cons move moves ih =>
    exact ⟨hC b move (h move List.mem_cons_self),
      ih (fun other hother => h other (List.mem_cons_of_mem _ hother)) _⟩

/-- **A frame is composed on a running broker.** -/
theorem Operation.along_running (operation : Operation) (b : MediaBroker) :
    Along (Move.apply policy) (fun b move => move.composes = true → b.running = true)
      (operation.moves policy b) b := by
  have hvacuous : ∀ (b : MediaBroker) (move : Move), move.composes = false →
      move.composes = true → b.running = true := by
    intro b move hquiet hcomposes
    rw [hquiet] at hcomposes
    cases hcomposes
  rcases operation.moves_composes policy b with ⟨now, answers, -, hrunning, hmoves⟩ | hmoves
  · have hinternal := recoveryMoves_isInternal policy b now answers
    rw [hmoves]
    refine along_append.2 ⟨?_, ?_, trivial⟩
    · apply along_of_composes policy hvacuous
      intro move hmove
      exact Move.composes_of_isInternal (hinternal move hmove)
    · intro _
      exact (runFrom_running policy hinternal b).trans hrunning
  · exact along_of_composes policy hvacuous hmoves b

/-! ## Conditions on the moves of a run -/

/-- Every move of every operation of the run meets a condition in the state it meets. -/
def Meets (C : MediaBroker → Move → Prop) (operations : List Operation) (b : MediaBroker) : Prop :=
  Along (Operation.perform policy)
    (fun b operation => Along (Move.apply policy) C (operation.moves policy b) b) operations b

instance Meets.decidable (C : MediaBroker → Move → Prop) [∀ b move, Decidable (C b move)]
    (operations : List Operation) (b : MediaBroker) : Decidable (Meets policy C operations b) :=
  inferInstanceAs (Decidable (Along _ _ _ _))

variable {policy}

/-- What the moves of an operation keep, the operation keeps. -/
theorem perform_inv (Inv : MediaBroker → Prop)
    (hmove : ∀ b move, Inv b → C b move → Inv (move.apply policy b)) (hb : Inv b)
    {operation : Operation} (h : Along (Move.apply policy) C (operation.moves policy b) b) :
    Inv (operation.perform policy b) := by
  rw [perform_eq]
  exact h.inv Inv hmove hb

/-- **Invariants of the moves are invariants of the run.** -/
theorem Meets.inv (Inv : MediaBroker → Prop)
    (hmove : ∀ b move, Inv b → C b move → Inv (move.apply policy b)) (hb : Inv b)
    {operations : List Operation} (h : Meets policy C operations b) {pre : List Operation}
    (hpre : pre <+: operations) : Inv (runFrom (Operation.perform policy) pre b) :=
  (Along.initial h hpre).inv Inv (fun _ _ hb hmoves => perform_inv Inv hmove hb hmoves) hb

/-- When a tick is made. -/
def Operation.tickTime : Operation → Option MonotonicTime
  | .tick now _ => some now
  | _ => none

/-! ### A session on a compliant platform -/

def screenRect : RectI := ⟨0, 0, 1920, 1080⟩

/-- A window that covers its monitor. -/
def fullScreen : TargetGeometry where
  windowBoundsPx := screenRect
  clientBoundsPx := screenRect
  capturedDesktopBoundsPx := screenRect
  capturedContentPx := ⟨1920, 1080⟩
  monitor := ⟨"monitor".toList, screenRect, screenRect, 96, 96, .sdrSrgb, .identity⟩
  minimized := false
  geometryEpoch := 0

/-- A platform that does what it is asked to, and calls back for nothing. -/
def compliant : ActivationAnswers := ⟨none, fun _ => ⟨[], none⟩, 0⟩

def compliantRecovery : RecoveryAnswers := ⟨none, none, 0, compliant⟩

def gameTarget : GameTarget := ⟨1, 2, "game.exe".toList⟩

def targetSelected : Operation :=
  .callback (.targetState .selected (some fullScreen) ⟨none, true⟩ 0)

/-- A frame of the first device, captured at a time. -/
def capturedFrame (sequence : UInt64) (time : MonotonicTime) : FrameDescriptor :=
  ⟨sequence, 1, time, false, false, 0, 0⟩

def clearEvidence (sequence : UInt64) (time : MonotonicTime) : OcclusionEvidence :=
  ⟨.finite 1, .finite 1, .finite 1, false, time, sequence, 1, 7, 1⟩

/-- A safe patch for a frame of the first device and the first geometry. -/
def safePatch (sequence : UInt64) (time : MonotonicTime) : MouthPatch where
  sourceFrameSequence := sequence
  cancellationGeneration := 1
  normalizedBounds := ⟨.finite (1 / 4), .finite (1 / 2), .finite (1 / 2), .finite (3 / 4)⟩
  confidence := .finite 1
  producedAt := time
  nativeTexture := 5
  sourceDeviceGeneration := 1
  sourceFrameCapturedAt := time
  sourceGeometryEpoch := 1
  selectedTrackId := 7
  trackEpoch := 1

/-- A frame with its evidence and its patch, composed at once. -/
def patchedFrame (sequence : UInt64) (time : MonotonicTime) : List Operation :=
  [.callback (.frame (capturedFrame sequence time) 0),
    .submitOcclusionEvidence (clearEvidence sequence time),
    .submitPatch (safePatch sequence time), .tick time compliantRecovery]

def started : List Operation := [.start none none, .selectTarget gameTarget none compliant]

end NpcRuntime.Media
