import NpcRuntime.Lib.Bytes

/-!
# The playback transport

What a speech producer of the runtime host (`apps/runtime-host/src/audio_output/broker.rs`) and a
playback session of the media broker (`native/media-broker/src/playback_transport.cpp`) say to each
other. Both sides declare these types. Strings are their bytes: a `std::string` may hold any, a
Rust `String` holds UTF-8.
-/

namespace NpcRuntime.Playback

def schemaVersion : UInt32 := 2
def maximumChunkBytes : Nat := 64 * 1024
def maximumWireFrameBytes : Nat := maximumChunkBytes + 4096
def maximumIdentifierBytes : Nat := 128
def maximumEndpointIdBytes : Nat := 1024
def maximumSourceFrames : Nat := 192000 * 60 * 10
def minimumSampleRate : UInt32 := 8000
def maximumSampleRate : UInt32 := 192000
def maximumChannels : UInt16 := 2
def visualSpeechCueSchemaVersion : UInt32 := 1
def visualSpeechCuePayloadBytes : Nat := 24
def maximumVisualSpeechCues : Nat := 128

theorem maximumChunkBytes_eq : maximumChunkBytes = 65536 := rfl
theorem maximumWireFrameBytes_eq : maximumWireFrameBytes = 69632 := rfl

/-! ## Identifiers -/

/-- ASCII letters and digits, and `-`, `_`, `.` and `:`. -/
def identifierByte (b : UInt8) : Bool :=
  (48 ≤ b && b ≤ 57) || (65 ≤ b && b ≤ 90) || (97 ≤ b && b ≤ 122) || b == 45 || b == 95 ||
    b == 46 || b == 58

/-- Two dots in a row. -/
def hasTwoDots : Bytes → Bool
  | a :: b :: rest => (a == 46 && b == 46) || hasTwoDots (b :: rest)
  | _ => false

/-- `valid_identifier`, the same on both sides. -/
def validIdentifier (value : Bytes) : Bool :=
  !value.isEmpty && value.length ≤ maximumIdentifierBytes && value.all identifierByte &&
    !hasTwoDots value

/-- No byte is zero. -/
def noNul (value : Bytes) : Bool := !value.contains 0

theorem identifierByte_ascii {b : UInt8} (h : identifierByte b = true) : b < 0x80 ∧ b ≠ 0 := by
  simp only [identifierByte, Bool.or_eq_true, Bool.and_eq_true, decide_eq_true_eq, beq_iff_eq,
    UInt8.le_iff_toNat_le, ← UInt8.toNat_inj] at h
  rw [UInt8.lt_iff_toNat_lt, ne_eq, ← UInt8.toNat_inj]
  simp only [UInt8.reduceToNat] at h ⊢
  omega

/-- An identifier is a string that every reader takes. -/
theorem validIdentifier_fits {value : Bytes} (h : validIdentifier value = true) :
    Reader.Fits maximumIdentifierBytes value ∧ noNul value = true ∧ utf8 value = true := by
  simp only [validIdentifier, Bool.and_eq_true, Bool.not_eq_true', List.all_eq_true,
    decide_eq_true_eq] at h
  obtain ⟨⟨⟨hempty, hle⟩, hall⟩, -⟩ := h
  refine ⟨⟨?_, hle⟩, ?_, ?_⟩
  · exact List.length_pos_iff.2 (by simpa using hempty)
  · rw [noNul, Bool.not_eq_true', ← Bool.not_eq_true, List.contains_iff_mem]
    intro hmem
    exact (identifierByte_ascii (hall 0 hmem)).2 rfl
  · apply utf8_of_ascii
    intro b hmem
    exact (identifierByte_ascii (hall b hmem)).1

/-! ## Leases -/

/-- The 32 bytes of a one-time token. -/
structure AuthenticationToken where
  bytes : Bytes
  length_eq : bytes.length = 32
deriving DecidableEq

inductive AudioOutputSelectionMode where
  | systemDefault | endpointId
deriving DecidableEq

structure PlaybackLease where
  streamId : Bytes
  oneTimeToken : AuthenticationToken
  sessionId : Bytes
  turnId : Bytes
  generation : UInt64
  sampleRate : UInt32
  channels : UInt16
  maxFrames : UInt64
  maxChunkBytes : UInt32
  expiresQpc : UInt64
  outputSelectionMode : AudioOutputSelectionMode
  outputEndpointId : Bytes
  outputEndpointGeneration : UInt64
deriving DecidableEq

/-! ## Commands, answers and receipts -/

inductive ProducerCommand where
  | begin | chunk | finish | cancel | visualCue
deriving DecidableEq

inductive ProducerStatus where
  | ok | invalidFrame | authenticationFailed | producerMismatch | identityMismatch
  | sequenceReplayed | deadlineExpired | deadlineTooFar | invalidState | chunkTooLarge
  | frameBudgetExceeded | backpressure | deviceUnavailable | cancelled | drainTimeout
deriving DecidableEq

structure ProducerEnvelope where
  schemaVersion : UInt32
  command : ProducerCommand
  sequence : UInt64
  deadlineQpc : UInt64
  generation : UInt64
  streamId : Bytes
  sessionId : Bytes
  turnId : Bytes
  token : AuthenticationToken
  payload : Bytes
deriving DecidableEq

structure VisualSpeechCue where
  startSample : UInt64
  durationSamples : UInt64
  canonicalViseme : UInt8
  strengthQ15 : UInt16
deriving DecidableEq

/-- A receipt as the host keeps it. -/
structure WireReceipt where
  receiptId : Bytes
  streamId : Bytes
  sessionId : Bytes
  turnId : Bytes
  generation : UInt64
  sourceFrames : UInt64
  deviceFrames : UInt64
  sourceDurationMicros : UInt64
  sourceSubmissionComplete : Bool
  endpointDrainComplete : Bool
  cancelled : Bool
  outputSelectionMode : AudioOutputSelectionMode
  outputEndpointId : Bytes
  outputEndpointGeneration : UInt64
deriving DecidableEq

/-- A receipt as the session makes it. -/
structure PlaybackReceipt extends WireReceipt where
  schemaVersion : UInt32
deriving DecidableEq

structure ProducerResponse where
  schemaVersion : UInt32
  responseToSequence : UInt64
  status : ProducerStatus
  acceptedSourceFrames : UInt64
  receipt : Option PlaybackReceipt
deriving DecidableEq

/-- A response as the host keeps it. -/
structure WireResponse where
  status : ProducerStatus
  responseToSequence : UInt64
  acceptedSourceFrames : UInt64
  receipt : Option WireReceipt
deriving DecidableEq

def ProducerResponse.wire (response : ProducerResponse) : WireResponse where
  status := response.status
  responseToSequence := response.responseToSequence
  acceptedSourceFrames := response.acceptedSourceFrames
  receipt := response.receipt.map PlaybackReceipt.toWireReceipt

/-! ## Numbers on the wire -/

def ProducerCommand.toWire : ProducerCommand → UInt16
  | .begin => 1
  | .chunk => 2
  | .finish => 3
  | .cancel => 4
  | .visualCue => 5

def ProducerCommand.ofWire (raw : UInt16) : Option ProducerCommand :=
  [ProducerCommand.begin, .chunk, .finish, .cancel, .visualCue].find? fun command =>
    command.toWire == raw

def ProducerStatus.toWire : ProducerStatus → UInt16
  | .ok => 0
  | .invalidFrame => 1
  | .authenticationFailed => 2
  | .producerMismatch => 3
  | .identityMismatch => 4
  | .sequenceReplayed => 5
  | .deadlineExpired => 6
  | .deadlineTooFar => 7
  | .invalidState => 8
  | .chunkTooLarge => 9
  | .frameBudgetExceeded => 10
  | .backpressure => 11
  | .deviceUnavailable => 12
  | .cancelled => 13
  | .drainTimeout => 14

/-- `ProducerStatus::parse`; the session checks the number against the last status. -/
def ProducerStatus.ofWire (raw : UInt16) : Option ProducerStatus :=
  [ProducerStatus.ok, .invalidFrame, .authenticationFailed, .producerMismatch, .identityMismatch,
    .sequenceReplayed, .deadlineExpired, .deadlineTooFar, .invalidState, .chunkTooLarge,
    .frameBudgetExceeded, .backpressure, .deviceUnavailable, .cancelled, .drainTimeout].find?
      fun status => status.toWire == raw

def AudioOutputSelectionMode.toWire : AudioOutputSelectionMode → UInt8
  | .systemDefault => 1
  | .endpointId => 2

def AudioOutputSelectionMode.ofWire (raw : UInt8) : Option AudioOutputSelectionMode :=
  [AudioOutputSelectionMode.systemDefault, .endpointId].find? fun mode => mode.toWire == raw

theorem ProducerCommand.ofWire_eq_some {raw : UInt16} {command : ProducerCommand} :
    ProducerCommand.ofWire raw = some command ↔ raw = command.toWire :=
  find?_code fun command => by cases command <;> rfl

theorem ProducerStatus.ofWire_eq_some {raw : UInt16} {status : ProducerStatus} :
    ProducerStatus.ofWire raw = some status ↔ raw = status.toWire :=
  find?_code fun status => by cases status <;> rfl

theorem AudioOutputSelectionMode.ofWire_eq_some {raw : UInt8} {mode : AudioOutputSelectionMode} :
    AudioOutputSelectionMode.ofWire raw = some mode ↔ raw = mode.toWire :=
  find?_code fun mode => by cases mode <;> rfl

end NpcRuntime.Playback
