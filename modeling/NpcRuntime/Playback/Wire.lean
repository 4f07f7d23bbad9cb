import NpcRuntime.Playback.Types

/-!
# The playback wire format

The two codecs: `Native` is `native/media-broker/src/playback_transport.cpp`, `Host` is
`apps/runtime-host/src/audio_output/broker.rs`. A frame is a body behind its length. A decoder fails
in one way, so its fields are read and checked in turn, whichever of them the source looks at first.
-/

namespace NpcRuntime.Playback

open Reader

def envelopeMagic : Bytes := [78, 80, 67, 80]
def responseMagic : Bytes := [78, 80, 67, 82]

/-- A body behind its length. -/
def framed (body : Bytes) : Bytes := u32le (UInt32.ofNat body.length) ++ body

/-! ## Visual speech cues -/

def VisualSpeechCue.payload (cue : VisualSpeechCue) : Bytes :=
  u32le visualSpeechCueSchemaVersion ++ u64le cue.startSample ++ u64le cue.durationSamples ++
    u8le cue.canonicalViseme ++ u8le 0 ++ u16le cue.strengthQ15

def validVisualSpeechCue (cue : VisualSpeechCue) (maximumFrames : Nat) : Bool :=
  cue.durationSamples != 0 && cue.canonicalViseme ≤ 10 && cue.strengthQ15 ≤ 32767 &&
    cue.startSample.toNat ≤ maximumFrames &&
    cue.durationSamples.toNat ≤ maximumFrames - cue.startSample.toNat

def readVisualSpeechCue (maximumFrames : Nat) : Reader VisualSpeechCue := do
  let version ← u32
  check (version == visualSpeechCueSchemaVersion)
  let startSample ← u64
  let durationSamples ← u64
  let canonicalViseme ← u8
  let reserved ← u8
  let strengthQ15 ← u16
  check (reserved == 0)
  done
  let cue : VisualSpeechCue := ⟨startSample, durationSamples, canonicalViseme, strengthQ15⟩
  check (validVisualSpeechCue cue maximumFrames)
  pure cue

def decodeVisualSpeechCuePayload (payload : Bytes) (maximumFrames : Nat) :
    Option VisualSpeechCue :=
  if payload.length ≠ visualSpeechCuePayloadBytes then none
  else decode (readVisualSpeechCue maximumFrames) payload

namespace Native

/-! ## The session's codec -/

def readString : Reader Bytes := string maximumIdentifierBytes noNul

def readToken : Reader AuthenticationToken := do
  let bytes ← take 32
  ofOption (if h : bytes.length = 32 then some ⟨bytes, h⟩ else none)

/-- The payload that a command may carry. -/
def payloadValid (command : ProducerCommand) (payload : Bytes) : Bool :=
  match command with
  | .chunk => true
  | .visualCue => (decodeVisualSpeechCuePayload payload maximumSourceFrames).isSome
  | .begin | .finish | .cancel => payload.isEmpty

def readEnvelope : Reader ProducerEnvelope := do
  exact envelopeMagic
  let version ← u32
  let commandRaw ← u16
  let reserved ← u16
  let sequence ← u64
  let deadline ← u64
  let generation ← u64
  let stream ← readString
  let session ← readString
  let turn ← readString
  check (version == schemaVersion && reserved == 0 && sequence != 0 && deadline != 0 &&
    generation != 0)
  let command ← ofOption (ProducerCommand.ofWire commandRaw)
  let token ← readToken
  let payloadSize ← u32
  let payload ← remaining
  check (payloadSize.toNat ≤ maximumChunkBytes && payload.length == payloadSize.toNat &&
    payloadValid command payload)
  pure ⟨version, command, sequence, deadline, generation, stream, session, turn, token, payload⟩

def decodeEnvelope (body : Bytes) : Option ProducerEnvelope :=
  if body.length < 4 ∨ body.length > maximumWireFrameBytes then none
  else decode readEnvelope body

/-- `append_bounded_string`: the string, or nothing where it is not fit. -/
def appendBoundedString (value : Bytes) (maximum : Nat) : Option Bytes :=
  if value.isEmpty || value.length > maximum || !noNul value || value.length > 65535 then none
  else some (stringBytes value)

/-- A string whose failure to be appended is not looked at. -/
def appendString (value : Bytes) : Bytes :=
  (appendBoundedString value maximumIdentifierBytes).getD []

def appendReceipt (receipt : PlaybackReceipt) : Bytes :=
  u32le receipt.schemaVersion ++ appendString receipt.receiptId ++
    appendString receipt.streamId ++ appendString receipt.sessionId ++
    appendString receipt.turnId ++ u64le receipt.generation ++ u64le receipt.sourceFrames ++
    u64le receipt.deviceFrames ++ u64le receipt.sourceDurationMicros ++
    u8le (flagByte receipt.sourceSubmissionComplete) ++
    u8le (flagByte receipt.endpointDrainComplete) ++ u8le (flagByte receipt.cancelled) ++
    u8le receipt.outputSelectionMode.toWire ++
    (appendBoundedString receipt.outputEndpointId maximumEndpointIdBytes).getD [] ++
    u64le receipt.outputEndpointGeneration

def encodeResponse (response : ProducerResponse) : Option Bytes :=
  if response.schemaVersion ≠ schemaVersion ∨ response.responseToSequence = 0 then none
  else if response.receipt.any fun receipt =>
      receipt.outputEndpointId.isEmpty ||
        receipt.outputEndpointId.length > maximumEndpointIdBytes ||
        !noNul receipt.outputEndpointId || receipt.outputEndpointGeneration == 0 then none
  else
    let body := responseMagic ++ u32le response.schemaVersion ++ u16le response.status.toWire ++
      u16le (if response.receipt.isSome then 1 else 0) ++ u64le response.responseToSequence ++
      u64le response.acceptedSourceFrames ++
      (match response.receipt with
        | some receipt => appendReceipt receipt
        | none => [])
    if body.length > maximumWireFrameBytes then none else some (framed body)

def readReceipt : Reader PlaybackReceipt := do
  let version ← u32
  let receiptId ← readString
  let streamId ← readString
  let sessionId ← readString
  let turnId ← readString
  let generation ← u64
  let sourceFrames ← u64
  let deviceFrames ← u64
  let duration ← u64
  check (version == schemaVersion)
  let sourceComplete ← flag
  let drainComplete ← flag
  let cancelled ← flag
  let modeRaw ← u8
  let mode ← ofOption (AudioOutputSelectionMode.ofWire modeRaw)
  let endpointId ← string maximumEndpointIdBytes noNul
  let endpointGeneration ← u64
  check (endpointGeneration != 0)
  pure ⟨⟨receiptId, streamId, sessionId, turnId, generation, sourceFrames, deviceFrames, duration,
    sourceComplete, drainComplete, cancelled, mode, endpointId, endpointGeneration⟩, version⟩

def readResponse : Reader ProducerResponse := do
  exact responseMagic
  let version ← u32
  let statusRaw ← u16
  let hasReceipt ← u16
  let sequence ← u64
  let accepted ← u64
  check (version == schemaVersion && hasReceipt ≤ 1 && sequence != 0)
  let status ← ofOption (ProducerStatus.ofWire statusRaw)
  let receipt ← optional (hasReceipt != 0) readReceipt
  done
  pure ⟨version, sequence, status, accepted, receipt⟩

def decodeResponse (body : Bytes) : Option ProducerResponse :=
  if body.length < 28 ∨ body.length > maximumWireFrameBytes then none
  else decode readResponse body

/-- `decode_frame_size`, of the four bytes before a body. -/
def decodeFrameSize (size : UInt32) : Option UInt32 :=
  if size = 0 ∨ size.toNat > maximumWireFrameBytes then none else some size

/-- A frame as the endpoint reads it from the pipe: a length that is allowed, and the body. -/
def readFrame : Reader Bytes := do
  let size ← u32
  let size ← ofOption (decodeFrameSize size)
  take size.toNat

end Native

namespace Host

/-! ## The producer's codec -/

def pushString (value : Bytes) : Option Bytes :=
  if validIdentifier value then some (stringBytes value) else none

/-- The payload that a command may not carry. -/
def payloadRefused (command : ProducerCommand) (payload : Bytes) : Bool :=
  match command with
  | .chunk => false
  | .visualCue => payload.length != visualSpeechCuePayloadBytes
  | .begin | .finish | .cancel => !payload.isEmpty

def encodeRequest (lease : PlaybackLease) (command : ProducerCommand) (sequence deadline : UInt64)
    (payload : Bytes) : Option Bytes :=
  if sequence = 0 ∨ deadline = 0 ∨ payload.length > maximumChunkBytes ∨
      payloadRefused command payload then none
  else do
    let stream ← pushString lease.streamId
    let session ← pushString lease.sessionId
    let turn ← pushString lease.turnId
    let body := envelopeMagic ++ u32le schemaVersion ++ u16le command.toWire ++ u16le 0 ++
      u64le sequence ++ u64le deadline ++ u64le lease.generation ++ stream ++ session ++ turn ++
      lease.oneTimeToken.bytes ++ u32le (UInt32.ofNat payload.length) ++ payload
    if body.length > maximumWireFrameBytes then none else some (framed body)

def readString : Reader Bytes :=
  string maximumIdentifierBytes fun value => utf8 value && validIdentifier value

def readBoundedUtf8 (maximum : Nat) : Reader Bytes :=
  string maximum fun value => utf8 value && noNul value

def readReceipt : Reader WireReceipt := do
  let version ← u32
  check (version == schemaVersion)
  let receiptId ← readString
  let streamId ← readString
  let sessionId ← readString
  let turnId ← readString
  let generation ← u64
  let sourceFrames ← u64
  let deviceFrames ← u64
  let duration ← u64
  let sourceComplete ← flag
  let drainComplete ← flag
  let cancelled ← flag
  let modeRaw ← u8
  let mode ← ofOption (AudioOutputSelectionMode.ofWire modeRaw)
  let endpointId ← readBoundedUtf8 maximumEndpointIdBytes
  let endpointGeneration ← u64
  check (endpointGeneration != 0)
  pure ⟨receiptId, streamId, sessionId, turnId, generation, sourceFrames, deviceFrames, duration,
    sourceComplete, drainComplete, cancelled, mode, endpointId, endpointGeneration⟩

def readResponse : Reader WireResponse := do
  exact responseMagic
  let version ← u32
  check (version == schemaVersion)
  let statusRaw ← u16
  let status ← ofOption (ProducerStatus.ofWire statusRaw)
  let hasReceipt ← u16
  check (hasReceipt ≤ 1)
  let responseToSequence ← u64
  let accepted ← u64
  let receipt ← optional (hasReceipt == 1) readReceipt
  done
  check (responseToSequence != 0)
  pure ⟨status, responseToSequence, accepted, receipt⟩

/-- The body of a frame that has the length it says. -/
def readBody : Reader Bytes := do
  let size ← u32
  let body ← remaining
  check (size != 0 && size.toNat ≤ maximumWireFrameBytes && body.length == size.toNat)
  pure body

def decodeResponse (frame : Bytes) : Option WireResponse := do
  let body ← decode readBody frame
  if body.length < 28 then none else decode readResponse body

end Host

end NpcRuntime.Playback
