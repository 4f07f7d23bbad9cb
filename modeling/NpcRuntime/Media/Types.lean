import NpcRuntime.Lib.Double
import NpcRuntime.Lib.Text

/-!
# The data of the media broker

`native/media-broker/include/npc/media_broker/types.hpp`: targets and their geometry, frames, mouth
patches and the evidence for them, failures and recovery actions, the policy, and the diagnostics
that hold the broker's epochs.

Times and durations are whole nanoseconds. Epochs and sequence numbers are 64-bit words and wrap.
Pixel coordinates are integers. A `double` of the policy or of a message is its exact value, where
it is finite. Counters that only diagnostics show are left out, and so are the fields of messages
that the broker hands to the platform unread.
-/

namespace NpcRuntime.Media

/-- `std::chrono::steady_clock::time_point`, in nanoseconds. -/
abbrev MonotonicTime := ℤ

/-- A duration in nanoseconds. -/
abbrev Duration := ℤ

def milliseconds (n : ℤ) : Duration := n * 1000000

inductive BrokerState where
  | stopped | starting | awaitingTarget | capturingPrimary | capturingFallback | recoveringDevice
  | blockedByPolicy | degradedAudioOnly | stopping | failed
deriving DecidableEq

inductive CaptureBackend where
  | none | windowsGraphicsCapture | desktopDuplication
deriving DecidableEq

inductive OverlayBackend where
  | none | d3d11DirectComposition
deriving DecidableEq

inductive AudioState where
  | stopped | initializing | ready | capturing | playing | recovering | failed
deriving DecidableEq

inductive TargetState where
  | none | selected | unavailable | minimized | occluded | protectedContent | closed
  | exclusiveFullscreen | unsupported
deriving DecidableEq

inductive ColorSpace where
  | sdrSrgb | sdrScRgb | hdr10Pq | hdrScRgb | unknown
deriving DecidableEq

inductive DisplayRotation where
  | identity | rotate90 | rotate180 | rotate270
deriving DecidableEq

inductive FailureDomain where
  | target | capture | overlay | audioCapture | audioRender | hotkey | device | policy
deriving DecidableEq

inductive FailureCode where
  | none | targetLost | targetMinimized | accessDenied | protectedContent | backendUnavailable
  | deviceRemoved | deviceReset | timeout | invalidGeometry | hotkeyConflict | antiCheatDetected
  | onlineModeDetected | internalError | exclusiveFullscreen | unsupportedPath
  | presentationRateLimited
deriving DecidableEq

inductive RecoveryAction where
  | none | retrySameBackend | switchToDesktopDuplication | recreateGraphicsDevice
  | recreateAudioClient | awaitTarget | degradeToAudioOnly | blockSession
deriving DecidableEq

/-! ## Geometry -/

structure SizeI where
  width : ℤ
  height : ℤ
deriving DecidableEq

def SizeI.valid (size : SizeI) : Bool := size.width > 0 && size.height > 0

structure RectI where
  left : ℤ
  top : ℤ
  right : ℤ
  bottom : ℤ
deriving DecidableEq

namespace RectI

def width (rect : RectI) : ℤ := rect.right - rect.left
def height (rect : RectI) : ℤ := rect.bottom - rect.top
def valid (rect : RectI) : Bool := rect.width > 0 && rect.height > 0

end RectI

structure RectF where
  left : F64
  top : F64
  right : F64
  bottom : F64
deriving DecidableEq

structure GameTarget where
  nativeWindow : UInt64
  processId : UInt32
  executableName : Text
deriving DecidableEq

structure MonitorInfo where
  stableId : Text
  desktopBoundsPx : RectI
  workAreaPx : RectI
  dpiX : Nat
  dpiY : Nat
  colorSpace : ColorSpace
  rotation : DisplayRotation
deriving DecidableEq

structure TargetGeometry where
  windowBoundsPx : RectI
  clientBoundsPx : RectI
  /-- The extent of the desktop that `capturedContentPx` shows. -/
  capturedDesktopBoundsPx : RectI
  capturedContentPx : SizeI
  monitor : MonitorInfo
  minimized : Bool
  /-- Advances whenever the mapping from the capture to the desktop changes. -/
  geometryEpoch : UInt64
deriving DecidableEq

structure OverlayGeometry where
  desktopBoundsPx : RectI
  clippedDesktopBoundsPx : RectI
  sourceCropPx : RectI
  sourceSizePx : SizeI
  dpiScaleX : ℚ
  dpiScaleY : ℚ
  sourceColorSpace : ColorSpace
  outputColorSpace : ColorSpace
  displayRotation : DisplayRotation
  toneMapRequired : Bool
deriving DecidableEq

/-! ## Frames, evidence and patches -/

structure FrameDescriptor where
  sequence : UInt64
  deviceGeneration : UInt64
  capturedAt : MonotonicTime
  contentOccluded : Bool
  protectedContent : Bool
  geometryEpoch : UInt64
  capturedQpc : UInt64
deriving DecidableEq

structure OcclusionEvidence where
  faceConfidence : F64
  landmarkConfidence : F64
  visibilityRatio : F64
  mouthRegionOccluded : Bool
  measuredAt : MonotonicTime
  sourceFrameSequence : UInt64
  sourceDeviceGeneration : UInt64
  selectedTrackId : UInt64
  trackEpoch : UInt64
deriving DecidableEq

structure MouthPatch where
  sourceFrameSequence : UInt64
  cancellationGeneration : UInt64
  normalizedBounds : RectF
  confidence : F64
  producedAt : MonotonicTime
  nativeTexture : UInt64
  /-- Sequence values can restart. The epochs and the capture time keep stale output from matching
  by accident. -/
  sourceDeviceGeneration : UInt64
  sourceFrameCapturedAt : MonotonicTime
  sourceGeometryEpoch : UInt64
  selectedTrackId : UInt64
  trackEpoch : UInt64
deriving DecidableEq

/-! ## Failures, the policy and the diagnostics -/

structure Failure where
  domain : FailureDomain
  code : FailureCode
  retryable : Bool
  message : String
deriving DecidableEq

structure TimingPolicy where
  frameStaleAfter : Duration
  patchStaleAfter : Duration
  evidenceStaleAfter : Duration
  maximumSourceToPatchLatency : Duration
  sourceTimestampTolerance : Duration
  residualHoldAfterPresent : Duration
  maxResidualReshowsPerSecond : UInt32
  recoveryInitialBackoff : Duration
  recoveryMaxBackoff : Duration
  maxSameBackendRetries : UInt32
deriving DecidableEq

structure OcclusionPolicy where
  minimumFaceConfidence : F64
  minimumLandmarkConfidence : F64
  minimumVisibilityRatio : F64
  minimumPatchConfidence : F64
deriving DecidableEq

structure ResidualBoundsPolicy where
  maximumWidth : F64
  maximumHeight : F64
  maximumArea : F64
deriving DecidableEq

structure BrokerPolicy where
  timing : TimingPolicy
  occlusion : OcclusionPolicy
  residualBounds : ResidualBoundsPolicy
  permitDesktopDuplicationFallback : Bool
  permitAudioOnlyFallback : Bool
deriving DecidableEq

/-- The values that a default-constructed policy has. -/
def BrokerPolicy.default : BrokerPolicy where
  timing := {
    frameStaleAfter := milliseconds 100
    patchStaleAfter := milliseconds 80
    evidenceStaleAfter := milliseconds 120
    maximumSourceToPatchLatency := milliseconds 80
    sourceTimestampTolerance := milliseconds 2
    residualHoldAfterPresent := milliseconds 120
    maxResidualReshowsPerSecond := 3
    recoveryInitialBackoff := milliseconds 50
    recoveryMaxBackoff := milliseconds 2000
    maxSameBackendRetries := 2 }
  occlusion := {
    minimumFaceConfidence := .finite (round64 (78 / 100))
    minimumLandmarkConfidence := .finite (round64 (82 / 100))
    minimumVisibilityRatio := .finite (round64 (72 / 100))
    minimumPatchConfidence := .finite (round64 (82 / 100)) }
  residualBounds := {
    maximumWidth := .finite (round64 (45 / 100))
    maximumHeight := .finite (round64 (35 / 100))
    maximumArea := .finite (round64 (12 / 100)) }
  permitDesktopDuplicationFallback := true
  permitAudioOnlyFallback := true

structure Diagnostics where
  state : BrokerState
  captureBackend : CaptureBackend
  overlayBackend : OverlayBackend
  captureAudio : AudioState
  renderAudio : AudioState
  targetState : TargetState
  pendingRecovery : RecoveryAction
  deviceGeneration : UInt64
  audioDeviceGeneration : UInt64
  cancellationGeneration : UInt64
  consecutiveFailures : UInt32
  lastFailure : Option Failure
  geometryEpoch : UInt64
  latestFrameSequence : UInt64
  latestFrameQpc : UInt64
  overlayCaptureExcluded : Bool
  overlayVisualsAllowed : Bool
deriving DecidableEq

/-- A value-initialized `Diagnostics`. -/
def Diagnostics.initial : Diagnostics where
  state := .stopped
  captureBackend := .none
  overlayBackend := .none
  captureAudio := .stopped
  renderAudio := .stopped
  targetState := .none
  pendingRecovery := .none
  deviceGeneration := 0
  audioDeviceGeneration := 0
  cancellationGeneration := 0
  consecutiveFailures := 0
  lastFailure := .none
  geometryEpoch := 0
  latestFrameSequence := 0
  latestFrameQpc := 0
  overlayCaptureExcluded := false
  overlayVisualsAllowed := false

end NpcRuntime.Media
