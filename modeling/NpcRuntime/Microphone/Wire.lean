import NpcRuntime.Microphone.Types
import NpcRuntime.Playback.Codec

/-!
# The microphone wire format

The two codecs: `Native` is `native/media-broker/src/input_transport.cpp`, `Host` is
`apps/runtime-host/src/audio_input/broker.rs`. A decoder fails in one way, so its fields are read
and checked in turn, whichever of them the source looks at first. The host compares the numbers of
the endpoint's mode and of the activation with the ones it expects; here they are read as what they
stand for, and another number fails as it does there.
-/

namespace NpcRuntime.Microphone

open Reader
open Playback (AudioOutputSelectionMode noNul maximumEndpointIdBytes maximumChannels)

def receiptMagic : Bytes := [78, 80, 73, 82]
def helloMagic : Bytes := [78, 80, 73, 72]
def chunkMagic : Bytes := [78, 80, 73, 67]
def ackMagic : Bytes := [78, 80, 73, 65]

/-! ## Groups of numbers, which both sides read in one order -/

def readActivation : Reader Activation := do
  let sourceRaw ← u8
  let source ← ofOption (ActivationSource.ofWire sourceRaw)
  let virtualKey ← u32
  let pressSequence ← u64
  let pressedQpc ← u64
  pure ⟨source, virtualKey, pressSequence, pressedQpc⟩

def readMetrics : Reader ReceiptMetrics := do
  let sampleRate ← u32
  let channels ← u16
  let frames ← u64
  let duration ← u64
  let peak ← u32
  let rms ← u32
  let clipped ← u64
  let silent ← u64
  pure ⟨sampleRate, channels, frames, duration, peak.toInt32, rms.toInt32, clipped, silent⟩

def readOutcome : Reader ReceiptOutcome := do
  let sourceComplete ← flag
  let silenceDetected ← flag
  let clippingDetected ← flag
  let cancelled ← flag
  let deviceLost ← flag
  pure ⟨sourceComplete, silenceDetected, clippingDetected, cancelled, deviceLost⟩

def Activation.body (activation : Activation) : Bytes :=
  u8le activation.activationSource.toWire ++ u32le activation.pttVirtualKey ++
    u64le activation.pttPressTransitionSequence ++ u64le activation.pttPressedQpc

def ReceiptMetrics.body (metrics : ReceiptMetrics) : Bytes :=
  u32le metrics.sampleRate ++ u16le metrics.channels ++ u64le metrics.capturedFrames ++
    u64le metrics.capturedDurationMicros ++ u32le metrics.peakMilliDbfs.toUInt32 ++
    u32le metrics.rmsMilliDbfs.toUInt32 ++ u64le metrics.clippedSamples ++
    u64le metrics.silentFrames

def ReceiptOutcome.body (outcome : ReceiptOutcome) : Bytes :=
  u8le (flagByte outcome.sourceCaptureComplete) ++ u8le (flagByte outcome.silenceDetected) ++
    u8le (flagByte outcome.clippingDetected) ++ u8le (flagByte outcome.cancelled) ++
    u8le (flagByte outcome.deviceLost)

namespace Native

/-! ## The broker's codec -/

/-- `append_string`, the same as the playback codec's. -/
def appendString (value : Bytes) (maximum : Nat) : Option Bytes :=
  Playback.Native.appendBoundedString value maximum

def readString (maximum : Nat) : Reader Bytes := string maximum noNul

def encodeReceipt (receipt : RehearsalReceipt) : Option Bytes :=
  if validReceipt receipt then do
    let receiptId ← appendString receipt.receiptId maximumIdentifierBytes
    let streamId ← appendString receipt.streamId maximumIdentifierBytes
    let sessionId ← appendString receipt.sessionId maximumIdentifierBytes
    let turnId ← appendString receipt.turnId maximumIdentifierBytes
    let endpointId ← appendString receipt.inputEndpointId maximumEndpointIdBytes
    some (receiptMagic ++ u32le receipt.schemaVersion ++ receiptId ++ streamId ++ sessionId ++
      turnId ++ u64le receipt.generation ++ u8le receipt.inputSelectionMode.toWire ++ endpointId ++
      u64le receipt.inputEndpointGeneration ++ receipt.toReceiptMetrics.body ++
      receipt.toReceiptOutcome.body ++ receipt.toActivation.body ++
      u64le receipt.pttReleaseTransitionSequence ++ u64le receipt.pttReleasedQpc)
  else none

def readReceiptIdentity : Reader ReceiptIdentity := do
  let version ← u32
  let receiptId ← readString maximumIdentifierBytes
  let streamId ← readString maximumIdentifierBytes
  let sessionId ← readString maximumIdentifierBytes
  let turnId ← readString maximumIdentifierBytes
  let generation ← u64
  let modeRaw ← u8
  let mode ← ofOption (AudioOutputSelectionMode.ofWire modeRaw)
  let endpointId ← readString maximumEndpointIdBytes
  let endpointGeneration ← u64
  pure ⟨version, receiptId, streamId, sessionId, turnId, generation, mode, endpointId,
    endpointGeneration⟩

def readReceiptFields : Reader RehearsalReceipt := do
  exact receiptMagic
  let identity ← readReceiptIdentity
  let metrics ← readMetrics
  let outcome ← readOutcome
  let activation ← readActivation
  let releaseSequence ← u64
  let releasedQpc ← u64
  done
  pure ⟨identity, metrics, outcome, activation, releaseSequence, releasedQpc⟩

def readReceipt : Reader RehearsalReceipt := do
  let receipt ← readReceiptFields
  check (validReceipt receipt)
  pure receipt

def decodeReceipt (body : Bytes) : Option RehearsalReceipt :=
  if body.length < 64 ∨ body.length > 4096 then none else decode readReceipt body

/-- A lease of the shape of the hello. It has a schema of its own. -/
def StreamHello.shape (hello : StreamHello) : RehearsalLease where
  schemaVersion := schemaVersion
  streamId := hello.streamId
  producerEndpoint := [112, 105, 112, 101]
  oneTimeToken := ⟨List.replicate 32 0, rfl⟩
  sessionId := hello.sessionId
  turnId := hello.turnId
  generation := hello.generation
  durationMs := minimumRehearsalDurationMs
  sampleRate := hello.sampleRate
  channels := hello.channels
  maxFrames := hello.maxFrames
  maxChunkBytes := hello.maxChunkBytes
  expiresQpc := 1
  qpcFrequency := hello.qpcFrequency
  inputSelectionMode := .systemDefault
  inputEndpointId := [101, 110, 100, 112, 111, 105, 110, 116]
  inputEndpointGeneration := 1
  toActivation := hello.toActivation

def encodeHello (hello : StreamHello) : Option Bytes :=
  if validLease (StreamHello.shape hello) then do
    let streamId ← appendString hello.streamId maximumIdentifierBytes
    let sessionId ← appendString hello.sessionId maximumIdentifierBytes
    let turnId ← appendString hello.turnId maximumIdentifierBytes
    some (helloMagic ++ u32le hello.schemaVersion ++ streamId ++ sessionId ++ turnId ++
      u64le hello.generation ++ u32le hello.sampleRate ++ u16le hello.channels ++
      u64le hello.maxFrames ++ u32le hello.maxChunkBytes ++ u64le hello.qpcFrequency ++
      hello.toActivation.body)
  else none

def readHelloFields : Reader StreamHello := do
  exact helloMagic
  let version ← u32
  let streamId ← readString maximumIdentifierBytes
  let sessionId ← readString maximumIdentifierBytes
  let turnId ← readString maximumIdentifierBytes
  let generation ← u64
  let sampleRate ← u32
  let channels ← u16
  let frames ← u64
  let chunk ← u32
  let frequency ← u64
  let activation ← readActivation
  done
  pure ⟨activation, version, streamId, sessionId, turnId, generation, sampleRate, channels, frames,
    chunk, frequency⟩

def readHello : Reader StreamHello := do
  let hello ← readHelloFields
  check (hello.schemaVersion == schemaVersion && (encodeHello hello).isSome)
  pure hello

def decodeHello (body : Bytes) : Option StreamHello :=
  if body.length < 48 ∨ body.length > 1024 then none else decode readHello body

def encodeChunk (chunk : PcmChunk) (channels : UInt16) : Option Bytes :=
  let bytesPerFrame := channels.toNat * 2
  if chunk.schemaVersion ≠ schemaVersion ∨ chunk.sequence = 0 ∨ chunk.firstFrameQpc = 0 ∨
      chunk.frameCount = 0 ∨ channels = 0 ∨ channels > maximumChannels ∨ chunk.pcm.isEmpty ∨
      chunk.pcm.length > maximumChunkBytes.toNat ∨
      chunk.pcm.length ≠ chunk.frameCount.toNat * bytesPerFrame then none
  else some (chunkMagic ++ u32le chunk.schemaVersion ++ u64le chunk.sequence ++
    u64le chunk.firstFrameQpc ++ u64le chunk.firstFrameIndex ++ u32le chunk.frameCount ++
    u32le (UInt32.ofNat chunk.pcm.length) ++ chunk.pcm)

def readChunkFields : Reader PcmChunk := do
  exact chunkMagic
  let version ← u32
  let sequence ← u64
  let qpc ← u64
  let index ← u64
  let frames ← u32
  let size ← u32
  let pcm ← remaining
  check (pcm.length == size.toNat)
  pure ⟨version, sequence, qpc, index, frames, pcm⟩

def readChunk (channels : UInt16) : Reader PcmChunk := do
  let chunk ← readChunkFields
  check (encodeChunk chunk channels).isSome
  pure chunk

def decodeChunk (body : Bytes) (channels : UInt16) : Option PcmChunk :=
  if body.length < 40 ∨ body.length > maximumChunkBytes.toNat + 40 then none
  else decode (readChunk channels) body

def encodeAck (ack : ConsumerAck) : Option Bytes :=
  if ack.schemaVersion ≠ schemaVersion ∨ ack.sequence = 0 then none
  else some (ackMagic ++ u32le ack.schemaVersion ++ u64le ack.sequence ++ u8le ack.action.toWire)

def readAck : Reader ConsumerAck := do
  exact ackMagic
  let version ← u32
  let sequence ← u64
  let actionRaw ← u8
  check (version == schemaVersion && sequence != 0)
  let action ← ofOption (AckAction.ofWire actionRaw)
  pure ⟨version, sequence, action⟩

def decodeAck (body : Bytes) : Option ConsumerAck :=
  if body.length ≠ 17 then none else decode readAck body

end Native

namespace Host

/-! ## The host's codec -/

structure NativePcmIdentity where
  sessionId : Bytes
  turnId : Bytes
  generation : UInt64
  inputEndpointId : Bytes
  inputEndpointGeneration : UInt64
deriving DecidableEq

structure NativePcmActivation where
  pttVirtualKey : UInt32
  pttPressTransitionSequence : UInt64
  pttPressedQpc : UInt64
deriving DecidableEq

structure NativePcmChunk where
  identity : NativePcmIdentity
  sequence : UInt64
  firstFrameQpc : UInt64
  firstFrameIndex : UInt64
  frameCount : UInt32
  pcm : Bytes
deriving DecidableEq

structure NativePcmReceipt where
  identity : NativePcmIdentity
  activation : NativePcmActivation
  capturedFrames : UInt64
  sourceCaptureComplete : Bool
  cancelled : Bool
  deviceLost : Bool
  pttReleaseTransitionSequence : UInt64
  pttReleasedQpc : UInt64
deriving DecidableEq

structure BrokerPcmInputSource where
  identity : NativePcmIdentity
  activation : NativePcmActivation
  streamId : Bytes
  sampleRate : UInt32
  channels : UInt16
  maxFrames : UInt64
  maxChunkBytes : UInt32
  inputSelectionMode : AudioOutputSelectionMode
  nextSequence : UInt64
  lastSequence : Option UInt64
  capturedFrames : UInt64
  receipt : Option NativePcmReceipt
deriving DecidableEq

/-- `\\.\pipe\npc-media-input-`. -/
def endpointPrefix : Bytes :=
  [92, 92, 46, 92, 112, 105, 112, 101, 92, 110, 112, 99, 45, 109, 101, 100, 105, 97, 45, 105, 110,
    112, 117, 116, 45]

/-- `char::is_control` of a character of the string: below the space, `DEL`, or of two bytes, the
first 0xC2, that stand for 0x80 to 0x9F. -/
def hasControl : Bytes → Bool
  | [] => false
  | b :: rest =>
    b < 0x20 || b == 0x7F ||
      (b == 0xC2 && rest.head?.any fun c => 0x80 ≤ c && c ≤ 0x9F) || hasControl rest

def bounded (value : Bytes) (maximum : Nat) : Bool :=
  !value.isEmpty && value.length ≤ maximum && noNul value && !hasControl value

/-- `BrokerAudioInputLease::validate`. -/
def validate (lease : RehearsalLease) : Bool :=
  lease.schemaVersion == schemaVersion && bounded lease.streamId 128 &&
    endpointPrefix.isPrefixOf lease.producerEndpoint && lease.producerEndpoint.length ≤ 256 &&
    noNul lease.producerEndpoint && bounded lease.sessionId 128 && bounded lease.turnId 128 &&
    lease.generation != 0 && 250 ≤ lease.durationMs && lease.durationMs ≤ 10000 &&
    lease.sampleRate == 16000 && lease.channels == 1 && lease.maxFrames != 0 &&
    lease.maxFrames ≤ lease.sampleRate.toUInt64 * lease.durationMs.toUInt64 / 1000 &&
    lease.maxChunkBytes == maximumChunkBytes && lease.expiresQpc != 0 &&
    lease.qpcFrequency != 0 && bounded lease.inputEndpointId 1024 &&
    lease.inputEndpointGeneration != 0 && lease.activationSource == .pushToTalk &&
    lease.pttVirtualKey != 0 && lease.pttVirtualKey ≤ 0xFF &&
    lease.pttPressTransitionSequence != 0 && lease.pttPressedQpc != 0

def identity (lease : RehearsalLease) : NativePcmIdentity :=
  ⟨lease.sessionId, lease.turnId, lease.generation, lease.inputEndpointId,
    lease.inputEndpointGeneration⟩

def activation (lease : RehearsalLease) : NativePcmActivation :=
  ⟨lease.pttVirtualKey, lease.pttPressTransitionSequence, lease.pttPressedQpc⟩

/-- The source that was connected for the lease. -/
def connected (lease : RehearsalLease) : BrokerPcmInputSource where
  identity := identity lease
  activation := activation lease
  streamId := lease.streamId
  sampleRate := lease.sampleRate
  channels := lease.channels
  maxFrames := lease.maxFrames
  maxChunkBytes := lease.maxChunkBytes
  inputSelectionMode := lease.inputSelectionMode
  nextSequence := 1
  lastSequence := none
  capturedFrames := 0
  receipt := none

def readString (maximum : Nat) : Reader Bytes :=
  string maximum fun value => utf8 value && noNul value

def readHello (lease : RehearsalLease) : Reader Unit := do
  exact helloMagic
  let version ← u32
  let streamId ← readString 128
  let sessionId ← readString 128
  let turnId ← readString 128
  let generation ← u64
  let sampleRate ← u32
  let channels ← u16
  let maxFrames ← u64
  let maxChunkBytes ← u32
  let qpcFrequency ← u64
  let activation ← readActivation
  done
  check (version == schemaVersion && streamId == lease.streamId &&
    sessionId == lease.sessionId && turnId == lease.turnId && generation == lease.generation &&
    sampleRate == lease.sampleRate && channels == lease.channels &&
    maxFrames == lease.maxFrames && maxChunkBytes == lease.maxChunkBytes &&
    qpcFrequency == lease.qpcFrequency && activation.activationSource == .pushToTalk &&
    activation.pttVirtualKey == lease.pttVirtualKey &&
    activation.pttPressTransitionSequence == lease.pttPressTransitionSequence &&
    activation.pttPressedQpc == lease.pttPressedQpc)

def decodeHello (body : Bytes) (lease : RehearsalLease) : Option Unit :=
  decode (readHello lease) body

/-- `u64::saturating_add` and `u64::saturating_mul`. -/
def saturate (n : Nat) : Nat := min n (2 ^ 64 - 1)

def readChunk (source : BrokerPcmInputSource) : Reader NativePcmChunk := do
  exact chunkMagic
  let version ← u32
  let sequence ← u64
  let firstFrameQpc ← u64
  let firstFrameIndex ← u64
  let frameCount ← u32
  let pcmBytes ← u32
  let pcm ← remaining
  check (version == schemaVersion && sequence == source.nextSequence && firstFrameQpc != 0 &&
    firstFrameIndex == source.capturedFrames && frameCount != 0 && pcm.length == pcmBytes.toNat &&
    pcmBytes ≤ source.maxChunkBytes &&
    pcmBytes.toNat == frameCount.toNat * source.channels.toNat * 2 &&
    saturate (source.capturedFrames.toNat + frameCount.toNat) ≤ source.maxFrames.toNat)
  pure ⟨source.identity, sequence, firstFrameQpc, firstFrameIndex, frameCount, pcm⟩

def decodeChunk (body : Bytes) (source : BrokerPcmInputSource) : Option NativePcmChunk :=
  decode (readChunk source) body

def readReceiptIdentity : Reader ReceiptIdentity := do
  let version ← u32
  let receiptId ← readString 128
  let streamId ← readString 128
  let sessionId ← readString 128
  let turnId ← readString 128
  let generation ← u64
  let modeRaw ← u8
  let mode ← ofOption (AudioOutputSelectionMode.ofWire modeRaw)
  let endpointId ← readString 1024
  let endpointGeneration ← u64
  pure ⟨version, receiptId, streamId, sessionId, turnId, generation, mode, endpointId,
    endpointGeneration⟩

def readReceipt (source : BrokerPcmInputSource) : Reader NativePcmReceipt := do
  exact receiptMagic
  let identity ← readReceiptIdentity
  let metrics ← readMetrics
  let outcome ← readOutcome
  let activation ← readActivation
  let releaseSequence ← u64
  let releasedQpc ← u64
  done
  check (identity.schemaVersion == schemaVersion && identity.streamId == source.streamId &&
    identity.sessionId == source.identity.sessionId &&
    identity.turnId == source.identity.turnId &&
    identity.generation == source.identity.generation &&
    identity.inputSelectionMode == source.inputSelectionMode &&
    identity.inputEndpointId == source.identity.inputEndpointId &&
    identity.inputEndpointGeneration == source.identity.inputEndpointGeneration)
  check (metrics.sampleRate == source.sampleRate && metrics.channels == source.channels &&
    metrics.capturedFrames == source.capturedFrames &&
    metrics.capturedFrames ≤ source.maxFrames && -120000 ≤ metrics.peakMilliDbfs &&
    metrics.peakMilliDbfs ≤ 0 && -120000 ≤ metrics.rmsMilliDbfs && metrics.rmsMilliDbfs ≤ 0 &&
    metrics.clippedSamples.toNat ≤
      saturate (metrics.capturedFrames.toNat * metrics.channels.toNat) &&
    metrics.silentFrames ≤ metrics.capturedFrames)
  check (activation.activationSource == .pushToTalk &&
    activation.pttVirtualKey == source.activation.pttVirtualKey &&
    activation.pttPressTransitionSequence == source.activation.pttPressTransitionSequence &&
    activation.pttPressedQpc == source.activation.pttPressedQpc &&
    (releaseSequence == 0) == (releasedQpc == 0) &&
    !(releaseSequence != 0 && (releaseSequence ≤ activation.pttPressTransitionSequence ||
      releasedQpc < activation.pttPressedQpc)) &&
    !(outcome.sourceCaptureComplete && releaseSequence == 0))
  check (!(outcome.sourceCaptureComplete && (outcome.cancelled || outcome.deviceLost)))
  pure ⟨source.identity, source.activation, metrics.capturedFrames, outcome.sourceCaptureComplete,
    outcome.cancelled, outcome.deviceLost, releaseSequence, releasedQpc⟩

def decodeReceipt (body : Bytes) (source : BrokerPcmInputSource) : Option NativePcmReceipt :=
  decode (readReceipt source) body

end Host

end NpcRuntime.Microphone
