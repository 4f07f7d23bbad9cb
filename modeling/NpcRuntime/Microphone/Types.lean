import NpcRuntime.Playback.Types

/-!
# The microphone transport

What an input stream of the media broker (`native/media-broker/src/input_transport.cpp`) and the
source of the runtime host (`apps/runtime-host/src/audio_input/broker.rs`) say to each other: a
hello for the lease, chunks that are acknowledged one by one, and a receipt.
-/

namespace NpcRuntime.Microphone

open Playback (AudioOutputSelectionMode AuthenticationToken noNul maximumEndpointIdBytes
  minimumSampleRate maximumSampleRate maximumChannels)

def schemaVersion : UInt32 := 2
def minimumRehearsalDurationMs : UInt32 := 250
def maximumRehearsalDurationMs : UInt32 := 10000
def maximumChunkBytes : UInt32 := 65536
def maximumIdentifierBytes : Nat := 128

inductive ActivationSource where
  | explicitRehearsal | pushToTalk
deriving DecidableEq

/-- What started the recording. -/
structure Activation where
  activationSource : ActivationSource
  pttVirtualKey : UInt32
  pttPressTransitionSequence : UInt64
  pttPressedQpc : UInt64
deriving DecidableEq

/-- A lease. The two sides keep the same fields. -/
structure RehearsalLease extends Activation where
  schemaVersion : UInt32
  streamId : Bytes
  producerEndpoint : Bytes
  oneTimeToken : AuthenticationToken
  sessionId : Bytes
  turnId : Bytes
  generation : UInt64
  durationMs : UInt32
  sampleRate : UInt32
  channels : UInt16
  maxFrames : UInt64
  maxChunkBytes : UInt32
  expiresQpc : UInt64
  qpcFrequency : UInt64
  inputSelectionMode : AudioOutputSelectionMode
  inputEndpointId : Bytes
  inputEndpointGeneration : UInt64
deriving DecidableEq

structure StreamHello extends Activation where
  schemaVersion : UInt32
  streamId : Bytes
  sessionId : Bytes
  turnId : Bytes
  generation : UInt64
  sampleRate : UInt32
  channels : UInt16
  maxFrames : UInt64
  maxChunkBytes : UInt32
  qpcFrequency : UInt64
deriving DecidableEq

structure PcmChunk where
  schemaVersion : UInt32
  sequence : UInt64
  firstFrameQpc : UInt64
  firstFrameIndex : UInt64
  frameCount : UInt32
  pcm : Bytes
deriving DecidableEq

inductive AckAction where
  | continueStream | stop | cancel
deriving DecidableEq

structure ConsumerAck where
  schemaVersion : UInt32
  sequence : UInt64
  action : AckAction
deriving DecidableEq

/-- Whose receipt it is, and of which endpoint. -/
structure ReceiptIdentity where
  schemaVersion : UInt32
  receiptId : Bytes
  streamId : Bytes
  sessionId : Bytes
  turnId : Bytes
  generation : UInt64
  inputSelectionMode : AudioOutputSelectionMode
  inputEndpointId : Bytes
  inputEndpointGeneration : UInt64
deriving DecidableEq

structure ReceiptMetrics where
  sampleRate : UInt32
  channels : UInt16
  capturedFrames : UInt64
  capturedDurationMicros : UInt64
  peakMilliDbfs : Int32
  rmsMilliDbfs : Int32
  clippedSamples : UInt64
  silentFrames : UInt64
deriving DecidableEq

structure ReceiptOutcome where
  sourceCaptureComplete : Bool
  silenceDetected : Bool
  clippingDetected : Bool
  cancelled : Bool
  deviceLost : Bool
deriving DecidableEq

structure RehearsalReceipt extends ReceiptIdentity, ReceiptMetrics, ReceiptOutcome, Activation where
  pttReleaseTransitionSequence : UInt64
  pttReleasedQpc : UInt64
deriving DecidableEq

/-! ## What the broker takes for valid -/

def Activation.valid (activation : Activation) : Bool :=
  match activation.activationSource with
  | .explicitRehearsal =>
    activation.pttVirtualKey == 0 && activation.pttPressTransitionSequence == 0 &&
      activation.pttPressedQpc == 0
  | .pushToTalk =>
    activation.pttVirtualKey > 0 && activation.pttVirtualKey ≤ 0xFF &&
      activation.pttPressTransitionSequence > 0 && activation.pttPressedQpc > 0

/-- A string that is not empty and not too long. -/
def sized (value : Bytes) (maximum : Nat) : Bool := !value.isEmpty && value.length ≤ maximum

def validLease (lease : RehearsalLease) : Bool :=
  lease.schemaVersion == schemaVersion && sized lease.streamId maximumIdentifierBytes &&
    sized lease.producerEndpoint 256 && sized lease.sessionId maximumIdentifierBytes &&
    sized lease.turnId maximumIdentifierBytes && lease.generation > 0 &&
    lease.durationMs ≥ minimumRehearsalDurationMs &&
    lease.durationMs ≤ maximumRehearsalDurationMs && lease.sampleRate ≥ minimumSampleRate &&
    lease.sampleRate ≤ maximumSampleRate && lease.channels > 0 &&
    lease.channels ≤ maximumChannels && lease.maxFrames > 0 &&
    lease.maxFrames ≤ lease.sampleRate.toUInt64 * maximumRehearsalDurationMs.toUInt64 / 1000 &&
    lease.maxChunkBytes == maximumChunkBytes && lease.expiresQpc > 0 && lease.qpcFrequency > 0 &&
    sized lease.inputEndpointId maximumEndpointIdBytes && noNul lease.inputEndpointId &&
    lease.inputEndpointGeneration > 0 && lease.toActivation.valid

def ReceiptMetrics.valid (metrics : ReceiptMetrics) : Bool :=
  metrics.sampleRate ≥ minimumSampleRate && metrics.sampleRate ≤ maximumSampleRate &&
    metrics.channels > 0 && metrics.channels ≤ 32 && metrics.peakMilliDbfs ≥ -120000 &&
    metrics.peakMilliDbfs ≤ 0 && metrics.rmsMilliDbfs ≥ -120000 && metrics.rmsMilliDbfs ≤ 0 &&
    metrics.capturedFrames ≤
      maximumSampleRate.toUInt64 * maximumRehearsalDurationMs.toUInt64 / 1000 &&
    metrics.silentFrames ≤ metrics.capturedFrames &&
    metrics.clippedSamples ≤ metrics.capturedFrames * metrics.channels.toUInt64

/-- The key was pressed as the activation says, and released after that or not at all. -/
def RehearsalReceipt.activationValid (receipt : RehearsalReceipt) : Bool :=
  let released := receipt.pttReleaseTransitionSequence > receipt.pttPressTransitionSequence
  let unreleased := receipt.pttReleaseTransitionSequence == 0 && receipt.pttReleasedQpc == 0
  receipt.toActivation.valid &&
    (match receipt.activationSource with
      | .explicitRehearsal => unreleased
      | .pushToTalk => unreleased || (released && receipt.pttReleasedQpc ≥ receipt.pttPressedQpc)) &&
    (!receipt.sourceCaptureComplete || receipt.activationSource == .explicitRehearsal || released)

def validReceipt (receipt : RehearsalReceipt) : Bool :=
  receipt.schemaVersion == schemaVersion && sized receipt.receiptId maximumIdentifierBytes &&
    sized receipt.streamId maximumIdentifierBytes &&
    sized receipt.sessionId maximumIdentifierBytes &&
    sized receipt.turnId maximumIdentifierBytes && receipt.generation > 0 &&
    sized receipt.inputEndpointId maximumEndpointIdBytes && receipt.inputEndpointGeneration > 0 &&
    receipt.toReceiptMetrics.valid && receipt.activationValid &&
    !(receipt.sourceCaptureComplete && (receipt.cancelled || receipt.deviceLost))

/-! ## Numbers on the wire -/

def ActivationSource.toWire : ActivationSource → UInt8
  | .explicitRehearsal => 1
  | .pushToTalk => 2

def ActivationSource.ofWire (raw : UInt8) : Option ActivationSource :=
  [ActivationSource.explicitRehearsal, .pushToTalk].find? fun source => source.toWire == raw

def AckAction.toWire : AckAction → UInt8
  | .continueStream => 0
  | .stop => 1
  | .cancel => 2

def AckAction.ofWire (raw : UInt8) : Option AckAction :=
  [AckAction.continueStream, .stop, .cancel].find? fun action => action.toWire == raw

theorem ActivationSource.ofWire_eq_some {raw : UInt8} {source : ActivationSource} :
    ActivationSource.ofWire raw = some source ↔ raw = source.toWire :=
  find?_code fun source => by cases source <;> rfl

theorem AckAction.ofWire_eq_some {raw : UInt8} {action : AckAction} :
    AckAction.ofWire raw = some action ↔ raw = action.toWire :=
  find?_code fun action => by cases action <;> rfl

end NpcRuntime.Microphone
