import NpcRuntime.Media.Geometry

/-!
# The media broker

`native/media-broker/src/broker.cpp`: `MediaBroker`, which turns platform callbacks, patches of an
inference worker and control operations into calls of the media platform. The calls are serialized,
so an operation is a function on the broker's state.

What the platform does is part of the state as the calls leave it (`Platform`): the capture that
runs, whether the overlay is started, the residual on screen, and when a hidden residual was made
visible. What the platform answers is an argument of the operation, and so is each reading of the
steady clock. `start_capture` may call back before it returns; a `poll` delivers its callbacks
before the rest of a tick, so they are callbacks of their own. The event sink and the audio rings
are left out.
-/

namespace NpcRuntime.Media

/-! ## The platform -/

/-- A residual on screen: the patch, the frame it was composed on, and when that was. -/
structure ShownResidual where
  patch : MouthPatch
  frame : FrameDescriptor
  presentedAt : MonotonicTime
deriving DecidableEq

/-- What the calls leave the platform doing. -/
structure Platform where
  /-- The backend of the capture that runs. -/
  capture : Option CaptureBackend
  overlayStarted : Bool
  /-- `overlay_capture_excluded` was true of the overlay since it was started. -/
  overlayConfirmed : Bool
  residual : Option ShownResidual
  /-- When a hidden residual became visible, the latest first. -/
  reshows : List MonotonicTime
deriving DecidableEq

def Failure.isAudio (failure : Failure) : Bool :=
  failure.domain = .audioCapture || failure.domain = .audioRender

/-- A removed or reset graphics device. -/
def Failure.losesDevice (failure : Failure) : Bool :=
  !failure.isAudio && (failure.code = .deviceRemoved || failure.code = .deviceReset)

/-- Recoveries that a reported failure asks for and that have not come about. -/
structure OwedRecovery where
  /-- A removed or reset device was reported, and `recreate_graphics_device` has not succeeded. -/
  graphics : Bool
  /-- An audio failure was reported, and `recreate_audio_clients` has not been attempted. What the
  attempt itself returns is not owed again. -/
  audio : Bool
deriving DecidableEq

/-- A failure is reported, that is recorded as the last one. -/
def OwedRecovery.report (owed : OwedRecovery) (failure : Failure) : OwedRecovery where
  graphics := owed.graphics || failure.losesDevice
  audio := owed.audio || failure.isAudio

structure HeldResidual where
  cancellationGeneration : UInt64
  deviceGeneration : UInt64
  geometryEpoch : UInt64
  presentedAt : MonotonicTime
deriving DecidableEq

structure MediaBroker where
  diagnostics : Diagnostics
  target : Option GameTarget
  targetGeometry : Option TargetGeometry
  overlayGeometry : Option OverlayGeometry
  occlusionEvidence : Option OcclusionEvidence
  /-- The mailbox of the latest frame. -/
  frames : Option FrameDescriptor
  /-- The mailbox of the latest patch. -/
  patches : Option MouthPatch
  heldResidual : Option HeldResidual
  recentResidualReshows : List MonotonicTime
  recoveryDue : MonotonicTime
  sameBackendRetries : UInt32
  running : Bool
  platform : Platform
  /-- A record of what was reported. The broker does not read it. -/
  owed : OwedRecovery
deriving DecidableEq

/-- A broker as constructed. -/
def MediaBroker.initial : MediaBroker where
  diagnostics := .initial
  target := none
  targetGeometry := none
  overlayGeometry := none
  occlusionEvidence := none
  frames := none
  patches := none
  heldResidual := none
  recentResidualReshows := []
  recoveryDue := 0
  sameBackendRetries := 0
  running := false
  platform := ⟨none, false, false, none, []⟩
  owed := ⟨false, false⟩

/-! ## Limits -/

def hardFrameStaleAfter : Duration := milliseconds 100
def hardPatchStaleAfter : Duration := milliseconds 80
def hardEvidenceStaleAfter : Duration := milliseconds 120
def hardSourceToPatchLatency : Duration := milliseconds 80
def hardSourceTimestampTolerance : Duration := milliseconds 2
def hardResidualHoldAfterPresent : Duration := milliseconds 150
def hardMaxResidualReshowsPerSecond : UInt32 := 3
def residualReshowWindow : Duration := milliseconds 1000
def hardMaximumResidualWidth : ℚ := round64 (45 / 100)
def hardMaximumResidualHeight : ℚ := round64 (35 / 100)
def hardMaximumResidualArea : ℚ := round64 (12 / 100)

def olderThan (value now : MonotonicTime) (limit : Duration) : Bool :=
  value > now || now - value > limit

def recoveryBackoff (policy : TimingPolicy) (failureCount : UInt32) : Duration :=
  let shift := min (if failureCount > 0 then failureCount - 1 else 0) 10
  min (policy.recoveryInitialBackoff * 2 ^ shift.toNat) policy.recoveryMaxBackoff

/-- `unit_confidence`, and the value that passes. -/
def unitConfidence : F64 → Option ℚ
  | .finite q => if 0 ≤ q && q ≤ 1 then some q else none
  | .notFinite => none

def meetsConfidence (value configuredMinimum : F64) (hardMinimum : ℚ) : Bool :=
  match unitConfidence value, unitConfidence configuredMinimum with
  | some value, some minimum => value ≥ max minimum hardMinimum
  | _, _ => false

def strictLimit (configured hardLimit : Duration) : Duration :=
  if configured < 0 then 0 else min configured hardLimit

/-- The positive maxima of a bounds policy, each within its hard limit. -/
def ResidualBoundsPolicy.maxima (policy : ResidualBoundsPolicy) : Option (ℚ × ℚ × ℚ) :=
  match policy.maximumWidth, policy.maximumHeight, policy.maximumArea with
  | .finite width, .finite height, .finite area =>
    if width ≤ 0 || height ≤ 0 || area ≤ 0 then none
    else some (min width hardMaximumResidualWidth, min height hardMaximumResidualHeight,
      min area hardMaximumResidualArea)
  | _, _, _ => none

def residualBoundsSafe (bounds : RectF) (policy : ResidualBoundsPolicy) : Bool :=
  match policy.maxima, normalizedRectValid bounds with
  | some (maximumWidth, maximumHeight, maximumArea), some (left, top, right, bottom) =>
    let width := round64 (right - left)
    let height := round64 (bottom - top)
    width ≤ maximumWidth && height ≤ maximumHeight && round64 (width * height) ≤ maximumArea
  | _, _ => false

def sameMaterialGeometry (left right : TargetGeometry) : Bool :=
  left.windowBoundsPx = right.windowBoundsPx && left.clientBoundsPx = right.clientBoundsPx &&
    left.capturedDesktopBoundsPx = right.capturedDesktopBoundsPx &&
    left.capturedContentPx = right.capturedContentPx &&
    left.monitor.stableId = right.monitor.stableId &&
    left.monitor.desktopBoundsPx = right.monitor.desktopBoundsPx &&
    left.monitor.workAreaPx = right.monitor.workAreaPx &&
    left.monitor.dpiX = right.monitor.dpiX && left.monitor.dpiY = right.monitor.dpiY &&
    left.monitor.colorSpace = right.monitor.colorSpace &&
    left.monitor.rotation = right.monitor.rotation && left.minimized = right.minimized

/-! ## Calls of the platform, and failures -/

namespace MediaBroker

@[simp] def stopOverlay (b : MediaBroker) : MediaBroker :=
  { b with platform := { b.platform with
      overlayStarted := false, overlayConfirmed := false, residual := none } }

@[simp] def stopCapture (b : MediaBroker) : MediaBroker :=
  { b with platform := { b.platform with capture := none } }

/-- Hides any residual and ends its hold. -/
@[simp] def suppressResidual (b : MediaBroker) : MediaBroker :=
  { b with platform := { b.platform with residual := none }, heldResidual := none }

@[simp] def presentPristine (b : MediaBroker) : MediaBroker :=
  { b with platform := { b.platform with residual := none } }

def presentPatch (b : MediaBroker) (frame : FrameDescriptor) (patch : MouthPatch)
    (now : MonotonicTime) : MediaBroker :=
  { b with platform := { b.platform with
      residual := some ⟨patch, frame, now⟩
      reshows := if b.platform.residual.isNone then now :: b.platform.reshows
        else b.platform.reshows } }

@[simp] def clearMailboxes (b : MediaBroker) : MediaBroker :=
  { b with frames := none, patches := none }

@[simp] def fail (b : MediaBroker) (failure : Failure) (state : BrokerState)
    (recovery : RecoveryAction) : MediaBroker :=
  { b with
    heldResidual := none
    diagnostics := { b.diagnostics with
      lastFailure := some failure
      consecutiveFailures := b.diagnostics.consecutiveFailures + 1
      state
      pendingRecovery := recovery }
    owed := b.owed.report failure }

end MediaBroker

/-- The failure that a target state stands for. -/
def TargetState.failure : TargetState → Option Failure
  | .protectedContent =>
    some ⟨.target, .protectedContent, false, "Target exposes protected content"⟩
  | .closed | .unavailable => some ⟨.target, .targetLost, true, "Target window is unavailable"⟩
  | .exclusiveFullscreen => some ⟨.capture, .exclusiveFullscreen, false,
      "Target is in an exclusive-fullscreen path that cannot be safely captured"⟩
  | .unsupported =>
    some ⟨.capture, .unsupportedPath, false, "Target capture path is unsupported"⟩
  | .none | .selected | .minimized | .occluded => Option.none

section Handlers

variable (policy : BrokerPolicy)

namespace MediaBroker

@[simp] def setTargetState (b : MediaBroker) (state : TargetState) : MediaBroker :=
  { b with diagnostics := { b.diagnostics with targetState := state } }

/-- The overlay is no longer known to be excluded from capture. -/
@[simp] def disallowOverlay (b : MediaBroker) : MediaBroker :=
  { b with diagnostics := { b.diagnostics with
      overlayCaptureExcluded := false, overlayVisualsAllowed := false } }

/-- The recovery becomes due after the backoff. -/
@[simp] def dueAfterBackoff (b : MediaBroker) (clock : MonotonicTime) : MediaBroker :=
  { b with
    recoveryDue := clock + recoveryBackoff policy.timing b.diagnostics.consecutiveFailures }

/-- Overlay and capture stop, and nothing of them stays. -/
@[simp] def dropCapture (b : MediaBroker) : MediaBroker :=
  let b := b.stopOverlay.stopCapture.clearMailboxes
  { b with diagnostics := { b.diagnostics with overlayBackend := .none, captureBackend := .none } }

def handleFailure (b : MediaBroker) (failure : Failure) (clock : MonotonicTime) : MediaBroker :=
  if failure.domain = .audioCapture ∨ failure.domain = .audioRender then
    let b := { b with diagnostics := { b.diagnostics with
      captureAudio := .recovering, renderAudio := .recovering } }
    (b.fail failure .recoveringDevice .recreateAudioClient).dueAfterBackoff policy clock
  else
    match failure.code with
    | .targetLost | .targetMinimized => b.dropCapture.fail failure .awaitingTarget .awaitTarget
    | .protectedContent => b.dropCapture.fail failure .degradedAudioOnly .degradeToAudioOnly
    | .exclusiveFullscreen =>
      (b.setTargetState .exclusiveFullscreen).dropCapture.disallowOverlay.fail failure
        .degradedAudioOnly .degradeToAudioOnly
    | .unsupportedPath =>
      (b.setTargetState .unsupported).dropCapture.disallowOverlay.fail failure
        .degradedAudioOnly .degradeToAudioOnly
    | .deviceRemoved | .deviceReset =>
      (b.fail failure .recoveringDevice .recreateGraphicsDevice).dueAfterBackoff policy clock
    | _ => (b.fail failure .recoveringDevice .retrySameBackend).dueAfterBackoff policy clock

/-! ## Callbacks -/

/-- The frame with the values that the broker supplies. -/
def stamped (b : MediaBroker) (frame : FrameDescriptor) : FrameDescriptor :=
  let frame := if frame.geometryEpoch = 0 then
    { frame with geometryEpoch := b.diagnostics.geometryEpoch } else frame
  if frame.capturedQpc = 0 then
    { frame with
      capturedQpc := max (UInt64.ofInt frame.capturedAt) (b.diagnostics.latestFrameQpc + 1) }
  else frame

def handleFrame (b : MediaBroker) (frame : FrameDescriptor) (clock : MonotonicTime) :
    MediaBroker :=
  if !b.running || frame.deviceGeneration != b.diagnostics.deviceGeneration ||
      b.targetGeometry.isNone then b
  else
    let frame := b.stamped frame
    if frame.geometryEpoch != b.diagnostics.geometryEpoch || frame.sequence == 0 ||
        frame.sequence ≤ b.diagnostics.latestFrameSequence ||
        frame.capturedQpc ≤ b.diagnostics.latestFrameQpc then b.suppressResidual
    else if frame.protectedContent then
      (b.setTargetState .protectedContent).handleFailure policy
        ⟨.capture, .protectedContent, false, "Capture backend reported protected content"⟩ clock
    else
      { b with
        sameBackendRetries := 0
        diagnostics := { b.diagnostics with
          consecutiveFailures := 0
          latestFrameSequence := frame.sequence
          latestFrameQpc := frame.capturedQpc }
        frames := some frame }

@[simp] def resetFrameEvidence (b : MediaBroker) : MediaBroker :=
  { b with
    heldResidual := none
    diagnostics := { b.diagnostics with latestFrameSequence := 0, latestFrameQpc := 0 } }

/-- The epoch that a geometry starts: the one it brings, if that is ahead, or the next one. -/
def nextGeometryEpoch (b : MediaBroker) (supplied : UInt64) : UInt64 :=
  if supplied > b.diagnostics.geometryEpoch then supplied else b.diagnostics.geometryEpoch + 1

/-- `invalidate_geometry_epoch`; the geometry gets the epoch that the broker then has. -/
def invalidateGeometryEpoch (b : MediaBroker) (supplied : UInt64) : MediaBroker :=
  let b := { b with
    diagnostics := { b.diagnostics with geometryEpoch := b.nextGeometryEpoch supplied } }
  let b := { b.clearMailboxes with occlusionEvidence := none }
  b.suppressResidual.resetFrameEvidence

end MediaBroker

/-- What the platform answers when the overlay is started. -/
structure OverlayAnswer where
  failure : Option Failure
  excluded : Bool
deriving DecidableEq

namespace MediaBroker

/-- The geometry is taken over, as a new one if the mapping changed. -/
def takeGeometry (b : MediaBroker) (geometry : TargetGeometry) : MediaBroker :=
  let b := match b.targetGeometry with
    | some known => if sameMaterialGeometry known geometry then b
      else b.invalidateGeometryEpoch geometry.geometryEpoch
    | none => b.invalidateGeometryEpoch geometry.geometryEpoch
  let geometry := { geometry with geometryEpoch := b.diagnostics.geometryEpoch }
  { b with
    targetGeometry := some geometry, overlayGeometry := calculateOverlayGeometry geometry }

/-- The overlay is started on the target's geometry. -/
def startOverlay (b : MediaBroker) (answer : OverlayAnswer) : MediaBroker :=
  match answer.failure with
  | some failure =>
    if policy.permitAudioOnlyFallback then
      b.fail failure .degradedAudioOnly .degradeToAudioOnly
    else b.fail failure .failed .none
  | none =>
    if !answer.excluded then
      let b := { b.stopOverlay with
        diagnostics := { b.diagnostics with overlayBackend := .none } }
      b.fail ⟨.overlay, .unsupportedPath, false, "Overlay could not be excluded from capture"⟩
        .degradedAudioOnly .degradeToAudioOnly
    else
      { b with
        platform := { b.platform with overlayStarted := true, overlayConfirmed := true }
        diagnostics := { b.diagnostics with
          overlayBackend := .d3d11DirectComposition
          overlayCaptureExcluded := true
          overlayVisualsAllowed := true
          state := if b.diagnostics.captureBackend = .windowsGraphicsCapture then
            .capturingPrimary else .capturingFallback } }

@[simp] def disableOverlay (b : MediaBroker) : MediaBroker :=
  { b with
    overlayGeometry := none
    diagnostics := { b.diagnostics with overlayBackend := .none, state := .capturingFallback } }

/-- `handle_target_state`, once the geometry of a visible target is taken over. -/
def showOverlay (b : MediaBroker) (answer : OverlayAnswer) (clock : MonotonicTime) :
    MediaBroker :=
  if b.overlayGeometry.isNone then
    b.handleFailure policy ⟨.overlay, .invalidGeometry, true, "Target geometry cannot be mapped"⟩
      clock
  else
    let b := b.stopOverlay.disallowOverlay
    -- A top-level residual window is part of the duplicated desktop.
    if b.diagnostics.captureBackend = .desktopDuplication then b.disableOverlay
    else b.startOverlay policy answer

/-- The minimized branch of `handle_target_state`. -/
def minimize (b : MediaBroker) (previous : TargetState) (geometry : Option TargetGeometry) :
    MediaBroker :=
  let b := match geometry with
    | some geometry =>
      if previous = TargetState.minimized then b
      else
        let b := b.invalidateGeometryEpoch geometry.geometryEpoch
        let geometry := { geometry with geometryEpoch := b.diagnostics.geometryEpoch }
        { b with targetGeometry := some geometry }
    | none => b
  let b := b.stopOverlay.suppressResidual.clearMailboxes.disallowOverlay
  { b with
    occlusionEvidence := none
    diagnostics := { b.diagnostics with overlayBackend := .none, state := .awaitingTarget } }

def handleTargetState (b : MediaBroker) (state : TargetState) (geometry : Option TargetGeometry)
    (answer : OverlayAnswer) (clock : MonotonicTime) : MediaBroker :=
  let previous := b.diagnostics.targetState
  let b := b.setTargetState state
  match state.failure with
  | some failure => b.handleFailure policy failure clock
  | none =>
    if state = .minimized then b.minimize previous geometry
    else
      match geometry with
      | none => b
      | some geometry => (b.takeGeometry geometry).showOverlay policy answer clock

end MediaBroker

/-- A callback of the platform, with what the platform then answers and the clock shows. -/
inductive Callback where
  | frame (frame : FrameDescriptor) (clock : MonotonicTime)
  | failure (failure : Failure) (clock : MonotonicTime)
  | targetState (state : TargetState) (geometry : Option TargetGeometry) (answer : OverlayAnswer)
      (clock : MonotonicTime)
deriving DecidableEq

def Callback.handle (b : MediaBroker) : Callback → MediaBroker
  | .frame captured clock => b.handleFrame policy captured clock
  | .failure report clock => b.handleFailure policy report clock
  | .targetState state geometry answer clock =>
    b.handleTargetState policy state geometry answer clock

/-! ## Capture and recovery -/

/-- A call of `start_capture`: the callbacks it makes, and the failure it ends with. -/
structure CaptureAnswer where
  callbacks : List Callback
  failure : Option Failure
deriving DecidableEq

/-- What the platform answers while capture is activated. -/
structure ActivationAnswers where
  /-- `recreate_graphics_device` of the first device. -/
  device : Option Failure
  capture : CaptureBackend → CaptureAnswer
  clock : MonotonicTime

/-- What the platform answers while a recovery is attempted. -/
structure RecoveryAnswers where
  /-- `recreate_graphics_device` of the next device. -/
  graphics : Option Failure
  /-- `recreate_audio_clients`. -/
  audio : Option Failure
  clock : MonotonicTime
  activation : ActivationAnswers

/-- A primary capture that is not available gives way to Desktop Duplication. -/
def fallsBack (backend : CaptureBackend) (failure : Failure) : Bool :=
  backend = .windowsGraphicsCapture && policy.permitDesktopDuplicationFallback &&
    (failure.code = .backendUnavailable || failure.code = .accessDenied ||
      failure.code = .unsupportedPath)

namespace MediaBroker

/-- `recreate_graphics_device` has succeeded. -/
@[simp] def settleGraphics (b : MediaBroker) : MediaBroker :=
  { b with owed := { b.owed with graphics := false } }

/-- The first graphics device, or the failure to create it. -/
def createDevice (b : MediaBroker) (answer : Option Failure) (clock : MonotonicTime) :
    MediaBroker :=
  match answer with
  | some failure => b.handleFailure policy failure clock
  | none =>
    { b.settleGraphics with diagnostics := { b.diagnostics with deviceGeneration := 1 } }

@[simp] def beginCapture (b : MediaBroker) (backend : CaptureBackend) : MediaBroker :=
  { b.stopCapture with diagnostics := { b.diagnostics with captureBackend := backend } }

/-- What follows the return of `start_capture`, the fallback apart. -/
def endCapture (b : MediaBroker) (backend : CaptureBackend) (failure : Option Failure)
    (clock : MonotonicTime) : MediaBroker :=
  match failure with
  | some failure =>
    if fallsBack policy backend failure then
      { b with
        diagnostics := { b.diagnostics with lastFailure := some failure }
        owed := b.owed.report failure }
    else b.handleFailure policy failure clock
  | none =>
    { b with
      platform := { b.platform with capture := some backend }
      diagnostics := { b.diagnostics with
        state := if backend = .windowsGraphicsCapture then .capturingPrimary
          else .capturingFallback
        pendingRecovery := .none
        lastFailure := none } }

/-- `activate_capture`, with what is done when the backend gives way. -/
def activateCaptureOr (b : MediaBroker) (backend : CaptureBackend) (answers : ActivationAnswers)
    (fallback : MediaBroker → MediaBroker) : MediaBroker :=
  if b.target.isNone then b
  else if b.diagnostics.deviceGeneration = 0 ∧ answers.device.isSome then
    b.createDevice policy answers.device answers.clock
  else
    let b := if b.diagnostics.deviceGeneration = 0 then
      b.createDevice policy answers.device answers.clock else b
    let b := b.beginCapture backend
    let b := (answers.capture backend).callbacks.foldl (Callback.handle policy) b
    let failure := (answers.capture backend).failure
    let b := b.endCapture policy backend failure answers.clock
    if failure.any (fallsBack policy backend) then fallback b else b

/-- `activate_capture`. Only the primary backend gives way, so the recursion is one call deep. -/
def activateCapture (b : MediaBroker) (backend : CaptureBackend) (answers : ActivationAnswers) :
    MediaBroker :=
  b.activateCaptureOr policy backend answers fun b =>
    b.activateCaptureOr policy .desktopDuplication answers id

/-- The state of a broker whose audio has come back. -/
def stateAfterAudio (b : MediaBroker) : BrokerState :=
  match b.diagnostics.captureBackend with
  | .windowsGraphicsCapture => .capturingPrimary
  | .desktopDuplication => .capturingFallback
  | .none => if b.target.isSome then .degradedAudioOnly else .awaitingTarget

/-- The first part of recreating the graphics device: everything of the old one goes. -/
def dropDevice (b : MediaBroker) : MediaBroker :=
  let b := b.stopOverlay.stopCapture.clearMailboxes
  let b := { b with diagnostics := { b.diagnostics with
    deviceGeneration := b.diagnostics.deviceGeneration + 1 } }
  match b.targetGeometry with
  | some geometry =>
    let b := b.invalidateGeometryEpoch 0
    let geometry := { geometry with geometryEpoch := b.diagnostics.geometryEpoch }
    { b with targetGeometry := some geometry }
  | none => b

/-- `recreate_audio_clients` has been attempted. -/
@[simp] def settleAudio (b : MediaBroker) : MediaBroker :=
  { b with owed := { b.owed with audio := false } }

def recreateAudio (b : MediaBroker) (answer : Option Failure) : MediaBroker :=
  let b := { b with diagnostics := { b.diagnostics with
    captureAudio := .recovering, renderAudio := .recovering } }
  match answer with
  | some failure => (b.fail failure .degradedAudioOnly .none).settleAudio
  | none => { b.settleAudio with diagnostics := { b.diagnostics with
      captureAudio := .ready
      renderAudio := .ready
      audioDeviceGeneration := b.diagnostics.audioDeviceGeneration + 1
      state := b.stateAfterAudio } }

@[simp] def takePendingRecovery (b : MediaBroker) : MediaBroker :=
  { b with diagnostics := { b.diagnostics with pendingRecovery := .none } }

def attemptRecovery (b : MediaBroker) (now : MonotonicTime) (answers : RecoveryAnswers) :
    MediaBroker :=
  if b.diagnostics.pendingRecovery = .none ∨ now < b.recoveryDue then b
  else
    let action := b.diagnostics.pendingRecovery
    let b := b.takePendingRecovery
    match action with
    | .recreateGraphicsDevice =>
      let b := b.dropDevice
      match answers.graphics with
      | some failure => b.handleFailure policy failure answers.clock
      | none =>
        let b := b.settleGraphics
        if b.target.isSome then
          b.activateCapture policy .windowsGraphicsCapture answers.activation
        else b
    | .recreateAudioClient => b.recreateAudio answers.audio
    | .retrySameBackend =>
      if b.sameBackendRetries < policy.timing.maxSameBackendRetries then
        { b with sameBackendRetries := b.sameBackendRetries + 1 }.activateCapture policy
          b.diagnostics.captureBackend answers.activation
      else if b.diagnostics.captureBackend = .windowsGraphicsCapture ∧
          policy.permitDesktopDuplicationFallback then
        { b with sameBackendRetries := 0 }.activateCapture policy .desktopDuplication
          answers.activation
      else if policy.permitAudioOnlyFallback then
        { b with diagnostics := { b.diagnostics with
            state := .degradedAudioOnly, pendingRecovery := .degradeToAudioOnly } }
      else { b with diagnostics := { b.diagnostics with state := .failed } }
    | .switchToDesktopDuplication =>
      b.activateCapture policy .desktopDuplication answers.activation
    | .awaitTarget | .degradeToAudioOnly | .blockSession | .none => b

end MediaBroker

/-! ## Compositing -/

inductive CompositingDecision where
  | pristineNoPatch | pristineStaleFrame | pristineStalePatch | pristineStaleEvidence
  | pristineLowConfidence | pristineOccluded | pristineWrongGeneration | pristineWrongEpoch
  | pristineWrongFrame | pristineWrongSourceTime | pristineWrongTrack | pristineUnsafeBounds
  | pristineMissingTexture | patch
deriving DecidableEq

/-- A patch comes too long after its frame was captured, or before it. -/
def sourceTimingInvalid (patch : MouthPatch) : Bool :=
  patch.producedAt < patch.sourceFrameCapturedAt ||
    patch.producedAt - patch.sourceFrameCapturedAt >
      strictLimit policy.timing.maximumSourceToPatchLatency hardSourceToPatchLatency

/-- A presented residual is recent enough to be held, or replaced. -/
def residualFresh (presentedAt now : MonotonicTime) : Bool :=
  !olderThan presentedAt now
    (strictLimit policy.timing.residualHoldAfterPresent hardResidualHoldAfterPresent)

/-- At most so many hidden residuals become visible in a window. -/
def reshowLimit : UInt32 :=
  min policy.timing.maxResidualReshowsPerSecond hardMaxResidualReshowsPerSecond

namespace MediaBroker

def decideCompositing (b : MediaBroker) (frame : FrameDescriptor) (patch : Option MouthPatch)
    (now : MonotonicTime) : CompositingDecision :=
  if olderThan frame.capturedAt now
      (strictLimit policy.timing.frameStaleAfter hardFrameStaleAfter) then .pristineStaleFrame
  else if frame.contentOccluded || frame.protectedContent then .pristineOccluded
  else
    match patch with
    | none => .pristineNoPatch
    | some patch =>
      if patch.cancellationGeneration ≠ b.diagnostics.cancellationGeneration then
        .pristineWrongGeneration
      else if patch.sourceDeviceGeneration ≠ frame.deviceGeneration ∨
          patch.sourceDeviceGeneration ≠ b.diagnostics.deviceGeneration then .pristineWrongEpoch
      else if patch.sourceFrameSequence ≠ frame.sequence then .pristineWrongFrame
      else if |patch.sourceFrameCapturedAt - frame.capturedAt| >
            strictLimit policy.timing.sourceTimestampTolerance hardSourceTimestampTolerance ∨
          sourceTimingInvalid policy patch then .pristineWrongSourceTime
      else if olderThan patch.producedAt now
          (strictLimit policy.timing.patchStaleAfter hardPatchStaleAfter) then .pristineStalePatch
      else
        match b.occlusionEvidence with
        | none => .pristineStaleEvidence
        | some evidence =>
          if olderThan evidence.measuredAt now
              (strictLimit policy.timing.evidenceStaleAfter hardEvidenceStaleAfter) then
            .pristineStaleEvidence
          else if evidence.mouthRegionOccluded then .pristineOccluded
          else if evidence.sourceDeviceGeneration ≠ frame.deviceGeneration ∨
              evidence.sourceFrameSequence ≠ frame.sequence then .pristineWrongFrame
          else if patch.selectedTrackId ≠ evidence.selectedTrackId ∨
              patch.trackEpoch ≠ evidence.trackEpoch then .pristineWrongTrack
          else if
              !meetsConfidence patch.confidence policy.occlusion.minimumPatchConfidence
                (round64 (82 / 100)) ||
              !meetsConfidence evidence.faceConfidence policy.occlusion.minimumFaceConfidence
                (round64 (78 / 100)) ||
              !meetsConfidence evidence.landmarkConfidence
                policy.occlusion.minimumLandmarkConfidence (round64 (82 / 100)) ||
              !meetsConfidence evidence.visibilityRatio policy.occlusion.minimumVisibilityRatio
                (round64 (72 / 100)) then .pristineLowConfidence
          else if !residualBoundsSafe patch.normalizedBounds policy.residualBounds then
            .pristineUnsafeBounds
          else if patch.nativeTexture = 0 then .pristineMissingTexture
          else .patch

/-- `admit_residual_presentation`: replacing a visible residual is always admitted, making a hidden
one visible is rate limited. -/
def admitResidualPresentation (b : MediaBroker) (now : MonotonicTime) : Bool × MediaBroker :=
  if b.heldResidual.any fun held => residualFresh policy held.presentedAt now then (true, b)
  else
    let recent := b.recentResidualReshows.filter fun reshow =>
      !(reshow > now || now - reshow ≥ residualReshowWindow)
    let b := { b with heldResidual := none, recentResidualReshows := recent }
    if recent.length ≥ (reshowLimit policy).toNat then (false, b)
    else (true, { b with recentResidualReshows := recent ++ [now] })

@[simp] def noteResidualPresented (b : MediaBroker) (patch : MouthPatch) (now : MonotonicTime) :
    MediaBroker :=
  { b with heldResidual := some ⟨patch.cancellationGeneration, patch.sourceDeviceGeneration,
      patch.sourceGeometryEpoch, now⟩ }

def residualHoldValid (b : MediaBroker) (frame : FrameDescriptor) (now : MonotonicTime) : Bool :=
  b.heldResidual.any fun held =>
    held.cancellationGeneration = b.diagnostics.cancellationGeneration &&
      held.deviceGeneration = b.diagnostics.deviceGeneration &&
      held.deviceGeneration = frame.deviceGeneration &&
      held.geometryEpoch = frame.geometryEpoch && residualFresh policy held.presentedAt now

/-- The game as it is, and no residual. -/
@[simp] def composePristine (b : MediaBroker) : MediaBroker :=
  { b.presentPristine with heldResidual := none }

/-- The latest frame is composed with the latest patch, with the residual that is held, or with
nothing. -/
def composeFrame (b : MediaBroker) (frame : FrameDescriptor) (overlay : OverlayGeometry)
    (patch : Option MouthPatch) (now : MonotonicTime) : MediaBroker :=
  match b.decideCompositing policy frame patch now, patch with
  | .patch, some patch =>
    if (mapNormalizedSourceRect patch.normalizedBounds overlay).isNone then b.composePristine
    else
      match b.admitResidualPresentation policy now with
      | (true, b) => (b.presentPatch frame patch now).noteResidualPresented patch now
      | (false, b) => b.composePristine
  | .pristineNoPatch, _ =>
    -- The overlay shows the residual that is held; nothing is presented.
    if b.residualHoldValid policy frame now then b else b.composePristine
  | _, _ => b.composePristine

/-- A tick, once recovery was attempted. -/
def compose (b : MediaBroker) (now : MonotonicTime) : MediaBroker :=
  match b.frames, b.overlayGeometry with
  | some frame, some overlay =>
    b.clearMailboxes.composeFrame policy frame overlay b.patches now
  | _, _ => { b with frames := none }

/-! ## Operations -/

def start (b : MediaBroker) (audio hotkey : Option Failure) : MediaBroker :=
  if b.running then b
  else
    let b := { b with
      diagnostics := { Diagnostics.initial with
        state := .starting, captureAudio := .initializing, renderAudio := .initializing }
      owed := ⟨false, false⟩ }
    match audio with
    | some failure => b.fail failure .failed .recreateAudioClient
    | none =>
      match hotkey with
      | some failure =>
        let b := { b with diagnostics := { b.diagnostics with
          captureAudio := .stopped, renderAudio := .stopped } }
        b.fail failure .failed .none
      | none =>
        { b with
          running := true
          diagnostics := { b.diagnostics with
            captureAudio := .ready, renderAudio := .ready, state := .awaitingTarget } }

def stop (b : MediaBroker) : MediaBroker :=
  if !b.running && b.diagnostics.state = .stopped then b
  else
    let b := b.stopOverlay.stopCapture.clearMailboxes
    { b with
      target := none
      targetGeometry := none
      overlayGeometry := none
      occlusionEvidence := none
      running := false
      diagnostics := { b.diagnostics with
        cancellationGeneration := b.diagnostics.cancellationGeneration + 1
        state := .stopped
        captureBackend := .none
        overlayBackend := .none
        captureAudio := .stopped
        renderAudio := .stopped
        targetState := .none
        pendingRecovery := .none
        overlayCaptureExcluded := false
        overlayVisualsAllowed := false } }

/-- The part of `select_target` before capture is activated. -/
def adoptTarget (b : MediaBroker) (target : GameTarget) : MediaBroker :=
  let b := b.stopOverlay.stopCapture.clearMailboxes
  let b := { b with
    occlusionEvidence := none
    targetGeometry := none
    overlayGeometry := none
    target := some target
    diagnostics := { b.diagnostics with
      cancellationGeneration := b.diagnostics.cancellationGeneration + 1
      geometryEpoch := 0 } }
  let b := b.resetFrameEvidence
  { b with
    sameBackendRetries := 0
    diagnostics := { b.diagnostics with
      targetState := .selected
      lastFailure := none
      pendingRecovery := .none
      consecutiveFailures := 0 } }

def brokerIsNotRunning : Failure :=
  ⟨.target, .internalError, false, "Broker is not running"⟩

/-- `select_target`, for the platform's answer to `validate_target`. -/
def selectTarget (b : MediaBroker) (target : GameTarget) (validated : Option Failure)
    (answers : ActivationAnswers) : MediaBroker :=
  if !b.running then b.fail brokerIsNotRunning .failed .none
  else
    match validated with
    | some failure => b.fail failure .awaitingTarget .awaitTarget
    | none => (b.adoptTarget target).activateCapture policy .windowsGraphicsCapture answers

def clearTarget (b : MediaBroker) : MediaBroker :=
  let b := b.stopOverlay.stopCapture.clearMailboxes
  let b := { b with
    target := none
    targetGeometry := none
    overlayGeometry := none
    occlusionEvidence := none
    diagnostics := { b.diagnostics with
      cancellationGeneration := b.diagnostics.cancellationGeneration + 1
      targetState := .none
      captureBackend := .none
      overlayBackend := .none
      pendingRecovery := .none
      overlayCaptureExcluded := false
      overlayVisualsAllowed := false } }
  let b := b.resetFrameEvidence
  { b with diagnostics := { b.diagnostics with
      state := if b.running then .awaitingTarget else .stopped } }

/-- An unsafe patch hides the residual at once. It waits for the next frame all the same. -/
def submitPatch (b : MediaBroker) (patch : MouthPatch) : MediaBroker :=
  let b :=
    if patch.cancellationGeneration ≠ b.diagnostics.cancellationGeneration ∨
        patch.sourceDeviceGeneration ≠ b.diagnostics.deviceGeneration ∨
        sourceTimingInvalid policy patch ∨ patch.nativeTexture = 0 ∨
        (unitConfidence patch.confidence).isNone ∨
        !residualBoundsSafe patch.normalizedBounds policy.residualBounds then
      b.suppressResidual
    else b
  { b with patches := some patch }

def submitOcclusionEvidence (b : MediaBroker) (evidence : OcclusionEvidence) : MediaBroker :=
  let b :=
    if (unitConfidence evidence.faceConfidence).isNone ∨
        (unitConfidence evidence.landmarkConfidence).isNone ∨
        (unitConfidence evidence.visibilityRatio).isNone ∨
        evidence.sourceDeviceGeneration ≠ b.diagnostics.deviceGeneration then b.suppressResidual
    else b
  { b with occlusionEvidence := some evidence }

def cancelGeneration (b : MediaBroker) (newGeneration : UInt64) : MediaBroker :=
  let b := { b with
    patches := none
    diagnostics := { b.diagnostics with
      cancellationGeneration := max (b.diagnostics.cancellationGeneration + 1) newGeneration } }
  b.suppressResidual

def tick (b : MediaBroker) (now : MonotonicTime) (answers : RecoveryAnswers) : MediaBroker :=
  if !b.running then b else (b.attemptRecovery policy now answers).compose policy now

end MediaBroker

/-- An operation on the broker, or a callback, with what the platform answers to it. -/
inductive Operation where
  | start (audio hotkey : Option Failure)
  | stop
  | selectTarget (target : GameTarget) (validated : Option Failure) (answers : ActivationAnswers)
  | clearTarget
  | submitPatch (patch : MouthPatch)
  | submitOcclusionEvidence (evidence : OcclusionEvidence)
  | cancelGeneration (newGeneration : UInt64)
  | tick (now : MonotonicTime) (answers : RecoveryAnswers)
  | callback (callback : Callback)

def Operation.perform (operation : Operation) (b : MediaBroker) : MediaBroker :=
  match operation with
  | .start audio hotkey => b.start audio hotkey
  | .stop => b.stop
  | .selectTarget target validated answers => b.selectTarget policy target validated answers
  | .clearTarget => b.clearTarget
  | .submitPatch patch => b.submitPatch policy patch
  | .submitOcclusionEvidence evidence => b.submitOcclusionEvidence evidence
  | .cancelGeneration newGeneration => b.cancelGeneration newGeneration
  | .tick now answers => b.tick policy now answers
  | .callback report => report.handle policy b

end Handlers

end NpcRuntime.Media
