import NpcRuntime.Lib.Double
import NpcRuntime.Lib.Machine
import NpcRuntime.Lib.Ring
import NpcRuntime.Playback.Wire

/-!
# Playback sessions

`PlaybackSession` of `native/media-broker/src/playback_transport.cpp`: it checks the commands of a
producer, keeps the source's frames in a ring until the device reads them, and writes the receipt.
The device's thread is there as `deviceRead`. `long double` is `double`, as the broker's compiler
has it.
-/

namespace NpcRuntime.Playback

structure ValidationPolicy where
  qpcFrequency : UInt64
  maximumFutureDeadlineTicks : UInt64
deriving DecidableEq

inductive SessionState where
  | allocated | streaming | sourceFinished | drained | cancelled | failed
deriving DecidableEq

/-- A frame: a sample of every channel. -/
abbrev Frame := Bytes

structure PlaybackSession where
  lease : PlaybackLease
  expectedProducerProcessId : UInt32
  policy : ValidationPolicy
  ring : Ring Frame
  state : SessionState
  lastSequence : UInt64
  sourceFrames : UInt64
  deviceFrames : UInt64
  visualSpeechCues : List VisualSpeechCue
  tokenConsumed : Bool
  sourceSubmissionComplete : Bool
  endpointDrainComplete : Bool
  streamDeadlineQpc : UInt64

/-! ## Arithmetic -/

def maxU64 : UInt64 := 0xFFFFFFFFFFFFFFFF

/-- A number as a `double`. -/
def toDouble (n : UInt64) : ℚ := round64 n.toNat

/-- The conversion of a `double` to `std::uint64_t`, which is defined where it fits. -/
def truncate (q : ℚ) : UInt64 := UInt64.ofNat ⌊q⌋.toNat

/-- The bytes of a frame. -/
def PlaybackLease.blockAlign (lease : PlaybackLease) : UInt16 := lease.channels * 2

/-- The frames of a payload. -/
def pcmFrames (blockAlign : Nat) (payload : Bytes) : List Frame :=
  (List.range (payload.length / blockAlign)).map fun i =>
    (payload.drop (i * blockAlign)).take blockAlign

@[simp] theorem length_pcmFrames (blockAlign : Nat) (payload : Bytes) :
    (pcmFrames blockAlign payload).length = payload.length / blockAlign := by
  rw [pcmFrames, List.length_map, List.length_range]

namespace PlaybackSession

/-- The constructor: a ring needs a valid format and at least one frame. -/
def create (lease : PlaybackLease) (expectedProducerProcessId : UInt32)
    (ringCapacityFrames : UInt32) (policy : ValidationPolicy) : Option PlaybackSession :=
  if hcapacity : 0 < ringCapacityFrames.toNat then
    if lease.sampleRate = 0 ∨ lease.channels = 0 ∨ lease.blockAlign = 0 then none
    else some
      { lease, expectedProducerProcessId, policy
        ring := Ring.empty (List.replicate ringCapacityFrames.toNat
          (List.replicate lease.blockAlign.toNat 0))
          (by rw [List.length_replicate]; exact hcapacity)
        state := .allocated
        lastSequence := 0
        sourceFrames := 0
        deviceFrames := 0
        visualSpeechCues := []
        tokenConsumed := false
        sourceSubmissionComplete := false
        endpointDrainComplete := false
        streamDeadlineQpc := 0 }
  else none

/-! ## Receipts and answers -/

/-- `receipt-`. -/
def receiptName : Bytes := [114, 101, 99, 101, 105, 112, 116, 45]

def duration (session : PlaybackSession) : UInt64 :=
  if session.lease.sampleRate = 0 then 0
  else truncate (round64 (round64 (toDouble session.sourceFrames * 1000000) /
    session.lease.sampleRate.toNat))

def receipt (session : PlaybackSession) : PlaybackReceipt where
  schemaVersion := schemaVersion
  receiptId := receiptName ++ session.lease.streamId
  streamId := session.lease.streamId
  sessionId := session.lease.sessionId
  turnId := session.lease.turnId
  generation := session.lease.generation
  sourceFrames := session.sourceFrames
  deviceFrames := session.deviceFrames
  sourceDurationMicros := session.duration
  sourceSubmissionComplete := session.sourceSubmissionComplete
  endpointDrainComplete := session.endpointDrainComplete
  cancelled := session.state == .cancelled || session.state == .failed
  outputSelectionMode := session.lease.outputSelectionMode
  outputEndpointId := session.lease.outputEndpointId
  outputEndpointGeneration := session.lease.outputEndpointGeneration

def terminal (session : PlaybackSession) : Bool :=
  session.state == .drained || session.state == .cancelled || session.state == .failed

def respond (session : PlaybackSession) (sequence : UInt64) (status : ProducerStatus)
    (accepted : UInt64) : ProducerResponse :=
  ⟨schemaVersion, sequence, status, accepted,
    if session.terminal then some session.receipt else none⟩

/-- The answer that leaves the session as it is. -/
def answer (session : PlaybackSession) (sequence : UInt64) (status : ProducerStatus) :
    ProducerResponse × PlaybackSession :=
  (session.respond sequence status 0, session)

/-! ## Operations -/

def authenticate (session : PlaybackSession) (envelope : ProducerEnvelope)
    (actualProducerProcessId : UInt32) (nowQpc : UInt64) : ProducerStatus :=
  if envelope.schemaVersion ≠ schemaVersion then .invalidFrame
  else if actualProducerProcessId = 0 ∨
      actualProducerProcessId ≠ session.expectedProducerProcessId then .producerMismatch
  else if envelope.token ≠ session.lease.oneTimeToken then .authenticationFailed
  else if envelope.streamId ≠ session.lease.streamId ∨
      envelope.sessionId ≠ session.lease.sessionId ∨ envelope.turnId ≠ session.lease.turnId ∨
      envelope.generation ≠ session.lease.generation then .identityMismatch
  else if envelope.sequence ≤ session.lastSequence then .sequenceReplayed
  else if nowQpc > envelope.deadlineQpc ∨
      (session.state = .allocated ∧ nowQpc > session.lease.expiresQpc) ∨
      (session.state ≠ .allocated ∧ session.streamDeadlineQpc ≠ 0 ∧
        nowQpc > session.streamDeadlineQpc) then .deadlineExpired
  else if session.policy.maximumFutureDeadlineTicks = 0 ∨
      envelope.deadlineQpc - nowQpc > session.policy.maximumFutureDeadlineTicks then
    .deadlineTooFar
  else .ok

/-- When a stream that begins now must have ended. -/
def streamDeadline (session : PlaybackSession) (nowQpc : UInt64) : UInt64 :=
  let frequency := session.policy.qpcFrequency
  let sourceTicks := truncate (round64 (round64 (toDouble session.lease.maxFrames *
    toDouble frequency) / session.lease.sampleRate.toNat))
  let budget := if sourceTicks > (maxU64 - frequency * 15) / 2 then maxU64
    else sourceTicks * 2 + frequency * 15
  if nowQpc > maxU64 - budget then maxU64 else nowQpc + budget

def cancel (session : PlaybackSession) : PlaybackSession :=
  { session with
    ring := session.ring.clear
    visualSpeechCues := []
    endpointDrainComplete := false
    state := .cancelled }

def markDeviceLost (session : PlaybackSession) : PlaybackSession :=
  { session with
    ring := session.ring.clear
    visualSpeechCues := []
    endpointDrainComplete := false
    state := .failed }

def markDeviceDrained (session : PlaybackSession) : PlaybackSession :=
  if session.state = .sourceFinished ∧ session.ring.available = 0 then
    { session with endpointDrainComplete := true, state := .drained }
  else session

def recordDeviceFrames (session : PlaybackSession) (frames : UInt64) : PlaybackSession :=
  if session.state ≠ .allocated ∧ session.state ≠ .drained then
    { session with deviceFrames := min session.sourceFrames (session.deviceFrames + frames) }
  else session

/-- The stream of the producer is open. -/
def streams (session : PlaybackSession) : Bool :=
  session.state == .streaming && session.tokenConsumed

def processBegin (session : PlaybackSession) (sequence nowQpc : UInt64) :
    ProducerResponse × PlaybackSession :=
  if session.state ≠ .allocated ∨ session.tokenConsumed then session.answer sequence .invalidState
  else
    let session := { session with
      tokenConsumed := true
      streamDeadlineQpc := session.streamDeadline nowQpc
      state := .streaming }
    session.answer sequence .ok

/-- The frames of the payload go to the ring. -/
def written (session : PlaybackSession) (payload : Bytes) : PlaybackSession :=
  { session with
    ring := (session.ring.write (pcmFrames session.lease.blockAlign.toNat payload)).2 }

def processChunk (session : PlaybackSession) (sequence : UInt64) (payload : Bytes) :
    ProducerResponse × PlaybackSession :=
  let blockAlign := session.lease.blockAlign.toNat
  if session.streams = false then session.answer sequence .invalidState
  else if payload.isEmpty ∨ payload.length > session.lease.maxChunkBytes.toNat ∨
      payload.length % blockAlign ≠ 0 then session.answer sequence .chunkTooLarge
  else
    let count := payload.length / blockAlign
    if count > (session.lease.maxFrames - session.sourceFrames).toNat then
      session.answer sequence .frameBudgetExceeded
    else if count > session.ring.capacity - session.ring.available then
      session.answer sequence .backpressure
    else
      let transfer := (session.ring.write (pcmFrames blockAlign payload)).1
      if transfer.transferred ≠ count ∨ transfer.overflowed then
        (session.written payload).answer sequence .backpressure
      else
        let session := { session.written payload with
          sourceFrames := session.sourceFrames + UInt64.ofNat count }
        (session.respond sequence .ok (UInt64.ofNat count), session)

/-- A cue that starts before the last one ends. -/
def overlaps (session : PlaybackSession) (cue : VisualSpeechCue) : Bool :=
  session.visualSpeechCues.getLast?.any fun previous =>
    cue.startSample < previous.startSample + previous.durationSamples

def processVisualCue (session : PlaybackSession) (sequence : UInt64) (payload : Bytes) :
    ProducerResponse × PlaybackSession :=
  if session.streams = false then session.answer sequence .invalidState
  else match decodeVisualSpeechCuePayload payload session.lease.maxFrames.toNat with
    | none => session.answer sequence .invalidFrame
    | some cue =>
      if session.visualSpeechCues.length ≥ maximumVisualSpeechCues ∨ session.overlaps cue then
        session.answer sequence .invalidFrame
      else
        { session with visualSpeechCues := session.visualSpeechCues ++ [cue] }.answer sequence .ok

def processFinish (session : PlaybackSession) (sequence : UInt64) :
    ProducerResponse × PlaybackSession :=
  if session.streams = false then session.answer sequence .invalidState
  else
    { session with sourceSubmissionComplete := true, state := .sourceFinished }.answer sequence .ok

def processCancel (session : PlaybackSession) (sequence : UInt64) :
    ProducerResponse × PlaybackSession :=
  if session.state = .drained ∨ session.state = .failed then session.answer sequence .invalidState
  else session.cancel.answer sequence .cancelled

/-- What an authenticated command does. -/
def dispatch (session : PlaybackSession) (envelope : ProducerEnvelope) (nowQpc : UInt64) :
    ProducerResponse × PlaybackSession :=
  match envelope.command with
  | .begin => session.processBegin envelope.sequence nowQpc
  | .chunk => session.processChunk envelope.sequence envelope.payload
  | .visualCue => session.processVisualCue envelope.sequence envelope.payload
  | .finish => session.processFinish envelope.sequence
  | .cancel => session.processCancel envelope.sequence

def process (session : PlaybackSession) (envelope : ProducerEnvelope)
    (actualProducerProcessId : UInt32) (nowQpc : UInt64) : ProducerResponse × PlaybackSession :=
  let status := session.authenticate envelope actualProducerProcessId nowQpc
  if status ≠ .ok then session.answer envelope.sequence status
  else { session with lastSequence := envelope.sequence }.dispatch envelope nowQpc

/-- The device takes frames out of the ring. -/
def deviceRead (session : PlaybackSession) (count : Nat) : List Frame × PlaybackSession :=
  ((session.ring.read count).1.2, { session with ring := (session.ring.read count).2 })

end PlaybackSession

/-! ## Runs -/

/-- A call of a session, or a read of the device. -/
inductive SessionOperation where
  | process (envelope : ProducerEnvelope) (actualProducerProcessId : UInt32) (nowQpc : UInt64)
  | recordDeviceFrames (frames : UInt64)
  | markDeviceDrained
  | cancel
  | markDeviceLost
  | deviceRead (count : Nat)

namespace SessionOperation

def step (operation : SessionOperation) (session : PlaybackSession) : PlaybackSession :=
  match operation with
  | .process envelope actualProducerProcessId nowQpc =>
    (session.process envelope actualProducerProcessId nowQpc).2
  | .recordDeviceFrames frames => session.recordDeviceFrames frames
  | .markDeviceDrained => session.markDeviceDrained
  | .cancel => session.cancel
  | .markDeviceLost => session.markDeviceLost
  | .deviceRead count => (session.deviceRead count).2

end SessionOperation

end NpcRuntime.Playback
