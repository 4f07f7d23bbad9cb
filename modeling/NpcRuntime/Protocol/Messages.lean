import NpcRuntime.Lib.Json
import NpcRuntime.Lib.Result

/-!
# Protocol messages and their checks

The messages that an IPC envelope carries, from `protocol/src/ids.rs`, `version.rs`, `error.rs` and
`events.rs`, with the `validate` of each. Enumerations arrive as numbers; a number that names no
variant, or the variant zero, is refused.
-/

namespace NpcRuntime.Protocol

open Text Json

def defaultMaxFrameBytes : Nat := 8388608
def defaultMaxBodyBytes : Nat := 4194304
def maxAudioChunkBytes : Nat := 1048576
def maxTextBytes : Nat := 262144

/-! ## Identifiers -/

/-- The type that `define_id!` gives to every identifier. -/
structure OpaqueId where
  value : List UInt8
deriving DecidableEq

abbrev LaunchNonce := OpaqueId
abbrev SessionId := OpaqueId
abbrev TurnId := OpaqueId
abbrev RequestId := OpaqueId
abbrev ActorId := OpaqueId
abbrev TraceId := OpaqueId

inductive IdError where
  | invalidLength (length : Nat)
  | nil
deriving DecidableEq

def OpaqueId.validate (id : OpaqueId) : Except IdError Unit := do
  require (id.value.length == 16) (.invalidLength id.value.length)
  require (!id.value.all (· == 0)) .nil

/-! ## Versions -/

structure ProtocolVersion where
  major : Nat
  minor : Nat
  patch : Nat
deriving DecidableEq

namespace ProtocolVersion

def v100 : ProtocolVersion := ⟨1, 0, 0⟩

/-- The derived order: by major, then minor, then patch. -/
def le (a b : ProtocolVersion) : Bool :=
  decide (a.major < b.major) || a.major == b.major &&
    (decide (a.minor < b.minor) || a.minor == b.minor && decide (a.patch ≤ b.patch))

end ProtocolVersion

structure VersionRange where
  minimum : ProtocolVersion
  maximum : ProtocolVersion
deriving DecidableEq

inductive NegotiationError where
  | unstableVersion
  | invertedRange
  | crossMajorRange
  | missingRange
  | noOverlap
deriving DecidableEq

namespace VersionRange

def v1 : VersionRange := ⟨.v100, .v100⟩

def validate (range : VersionRange) : Except NegotiationError Unit := do
  require (!(range.minimum.major == 0 || range.maximum.major == 0)) .unstableVersion
  require (range.minimum.le range.maximum) .invertedRange
  require (range.minimum.major == range.maximum.major) .crossMajorRange

def contains (range : VersionRange) (version : ProtocolVersion) : Bool :=
  version.major == range.minimum.major && range.minimum.le version && version.le range.maximum

end VersionRange

structure NegotiationHelloV1 where
  minimum : Option ProtocolVersion
  maximum : Option ProtocolVersion
  optionalFeatures : List Text
  peerName : Text
  peerBuild : Text
deriving DecidableEq

def NegotiationHelloV1.range (hello : NegotiationHelloV1) :
    Except NegotiationError VersionRange := do
  let minimum ← okOr hello.minimum .missingRange
  let maximum ← okOr hello.maximum .missingRange
  VersionRange.validate ⟨minimum, maximum⟩
  return ⟨minimum, maximum⟩

structure NegotiationAcceptedV1 where
  selected : Option ProtocolVersion
  enabledFeatures : List Text
deriving DecidableEq

/-- The newest version that both ranges hold. -/
def negotiate (here there : VersionRange) : Except NegotiationError ProtocolVersion := do
  here.validate
  there.validate
  require (here.minimum.major == there.minimum.major) .noOverlap
  let minimum := if here.minimum.le there.minimum then there.minimum else here.minimum
  let maximum := if here.maximum.le there.maximum then here.maximum else there.maximum
  require (minimum.le maximum) .noOverlap
  return maximum

/-! ## Errors -/

inductive ErrorCode where
  | unspecified | invalidArgument | unsupportedVersion | unauthorizedPeer | staleLaunch
  | wrongSession | outOfOrder | sequenceGap | deadlineExceeded | cancelled | payloadTooLarge
  | malformedPayload | providerUnavailable | providerRateLimited | modelUnavailable
  | deviceUnavailable | workerQuarantined | policyBlocked | internal
deriving DecidableEq

/-- `try_from` of an enumeration whose variants are numbered from zero. -/
def variantOf {α : Type} (variants : List α) (code : Int) : Option α :=
  if 0 ≤ code then variants[code.toNat]? else none

def ErrorCode.tryFrom : Int → Option ErrorCode :=
  variantOf [.unspecified, .invalidArgument, .unsupportedVersion, .unauthorizedPeer, .staleLaunch,
    .wrongSession, .outOfOrder, .sequenceGap, .deadlineExceeded, .cancelled, .payloadTooLarge,
    .malformedPayload, .providerUnavailable, .providerRateLimited, .modelUnavailable,
    .deviceUnavailable, .workerQuarantined, .policyBlocked, .internal]

structure IpcErrorV1 where
  code : Int
  message : Text
  retryable : Bool
  retryAfterMs : Option Nat
  stage : Text
  details : List (Text × Text)
deriving DecidableEq

inductive IpcErrorValidationError where
  | unknownCode
  | invalidMessage
  | invalidDetails
  | contradictoryRetry
  | invalidRetryDelay
deriving DecidableEq

namespace IpcErrorV1

def errorCode (error : IpcErrorV1) : ErrorCode :=
  (ErrorCode.tryFrom error.code).getD .unspecified

def validate (error : IpcErrorV1) : Except IpcErrorValidationError Unit := do
  require (error.errorCode != .unspecified) .unknownCode
  require (!isBlank error.message && decide (utf8Len error.message ≤ 16384)) .invalidMessage
  require (decide (utf8Len error.stage ≤ 128) && decide (error.details.length ≤ 64) &&
    !error.details.any fun (key, value) =>
      key.isEmpty || decide (128 < utf8Len key) || decide (4096 < utf8Len value)) .invalidDetails
  require (error.retryable || error.retryAfterMs.isNone) .contradictoryRetry
  require (!error.retryAfterMs.any fun delay => delay == 0 || decide (86400000 < delay))
    .invalidRetryDelay

end IpcErrorV1

/-! ## Checks that the events share -/

inductive EventValidationError where
  | missingKind
  | missingMetadata
  | invalidRequestId
  | zeroSequence
  | emptyText
  | textTooLarge (bytes : Nat)
  | metadataTooLarge
  | unknownEnum (name : String)
  | nonFiniteOrOutOfRange (name : String)
  | invalidTimeRange
  | invalidTextRange
  | invalidAudioFormat (reason : String)
  | missingAudioFormat
  | audioChunkSize (bytes : Nat)
  | malformedError
  | malformedCancellation
deriving DecidableEq

abbrev EventCheck := Except EventValidationError Unit

structure ProviderEventMetadataV1 where
  providerId : Text
  modelId : Text
  requestId : Option RequestId
  providerSequence : Nat
  providerElapsedMs : Nat
deriving DecidableEq

structure CancelledV1 where
  reason : Text
  observedGeneration : Nat
deriving DecidableEq

def validateMetadata (metadata : Option ProviderEventMetadataV1) : EventCheck := do
  let metadata ← okOr metadata .missingMetadata
  require (!metadata.providerId.isEmpty && decide (utf8Len metadata.providerId ≤ 128) &&
    decide (utf8Len metadata.modelId ≤ 512)) .metadataTooLarge
  let requestId ← okOr metadata.requestId .invalidRequestId
  requestId.validate.mapError fun _ => .invalidRequestId
  require (metadata.providerSequence != 0) .zeroSequence

def F32.isUnit : F32 → Bool
  | .finite q => decide (0 ≤ q) && decide (q ≤ 1)
  | .notFinite => false

def validateUnitInterval (value : Option F32) (name : String) : EventCheck :=
  require (value.all F32.isUnit) (.nonFiniteOrOutOfRange name)

def validateText (text : Text) (allowEmpty : Bool) : EventCheck := do
  require (allowEmpty || !isBlank text) .emptyText
  require (decide (utf8Len text ≤ maxTextBytes)) (.textTooLarge (utf8Len text))

def validateError (error : IpcErrorV1) : EventCheck :=
  error.validate.mapError fun _ => .malformedError

def validateCancelled (cancelled : CancelledV1) : EventCheck :=
  require (decide (utf8Len cancelled.reason ≤ 1024)) .malformedCancellation

/-- An enumeration field: unknown numbers and the variant zero are refused. -/
def validateVariant {α : Type} [DecidableEq α] (variants : List α) (unspecified : α) (code : Int)
    (name : String) : Except EventValidationError α := do
  let variant ← okOr (variantOf variants code) (.unknownEnum name)
  require (variant != unspecified) (.unknownEnum name)
  return variant

/-! ## Speech recognition -/

inductive AudioEncoding where
  | unspecified | pcmS16Le | pcmF32Le | opus | mp3 | wav
deriving DecidableEq

structure AudioFormatV1 where
  encoding : Int
  sampleRateHz : Nat
  channels : Nat
  bitsPerSample : Nat
deriving DecidableEq

def AudioFormatV1.validate (format : AudioFormatV1) : EventCheck := do
  let encoding ← validateVariant [AudioEncoding.unspecified, .pcmS16Le, .pcmF32Le, .opus, .mp3,
    .wav] .unspecified format.encoding "audio encoding"
  require (decide (8000 ≤ format.sampleRateHz) && decide (format.sampleRateHz ≤ 192000))
    (.invalidAudioFormat "sample rate must be between 8 kHz and 192 kHz")
  require (decide (1 ≤ format.channels) && decide (format.channels ≤ 8))
    (.invalidAudioFormat "channel count must be between 1 and 8")
  match encoding with
  | .pcmS16Le =>
    require (format.bitsPerSample == 16) (.invalidAudioFormat "PCM S16 must use 16 bits")
  | .pcmF32Le =>
    require (format.bitsPerSample == 32) (.invalidAudioFormat "PCM F32 must use 32 bits")
  | _ =>
    require (format.bitsPerSample == 0)
      (.invalidAudioFormat "compressed/container formats must report zero bits per sample")

inductive EndpointReason where
  | unspecified | pushToTalkReleased | voiceActivitySilence | providerEndpoint | maximumDuration
  | manualStop
deriving DecidableEq

structure TranscriptSegmentV1 where
  text : Text
  language : Text
  confidence : Option F32
  stability : Option F32
  startMs : Nat
  endMs : Nat
  providerSegmentId : Text
deriving DecidableEq

def TranscriptSegmentV1.validate (segment : TranscriptSegmentV1) (allowEmpty : Bool) :
    EventCheck := do
  validateText segment.text allowEmpty
  validateUnitInterval segment.confidence "confidence"
  validateUnitInterval segment.stability "stability"
  require (decide (segment.startMs ≤ segment.endMs)) .invalidTimeRange
  require (decide (utf8Len segment.language ≤ 64) &&
    decide (utf8Len segment.providerSegmentId ≤ 256)) .metadataTooLarge

structure SpeechActivityV1 where
  active : Bool
  probability : F32
  rmsDbfs : F32
deriving DecidableEq

structure EndpointDetectedV1 where
  reason : Int
  capturedAudioMs : Nat
deriving DecidableEq

inductive SttKind where
  | started (format : AudioFormatV1)
  | partialSegment (segment : TranscriptSegmentV1)
  | final (segment : TranscriptSegmentV1)
  | speechActivity (activity : SpeechActivityV1)
  | endpoint (endpoint : EndpointDetectedV1)
  | failed (error : IpcErrorV1)
  | cancelled (cancelled : CancelledV1)
deriving DecidableEq

structure SttEventV1 where
  metadata : Option ProviderEventMetadataV1
  kind : Option SttKind
deriving DecidableEq

/-- `rms_dbfs` is finite and at most full scale. -/
def F32.isAttenuation : F32 → Bool
  | .finite q => decide (q ≤ 0)
  | .notFinite => false

def SttEventV1.validate (event : SttEventV1) : EventCheck := do
  validateMetadata event.metadata
  match ← okOr event.kind .missingKind with
  | .started format => format.validate
  | .partialSegment segment => segment.validate true
  | .final segment => segment.validate false
  | .speechActivity activity =>
    validateUnitInterval (some activity.probability) "speech probability"
    require (F32.isAttenuation activity.rmsDbfs) (.nonFiniteOrOutOfRange "rms_dbfs")
  | .endpoint endpoint =>
    let _ ← validateVariant [EndpointReason.unspecified, .pushToTalkReleased,
      .voiceActivitySilence, .providerEndpoint, .maximumDuration, .manualStop] .unspecified
      endpoint.reason "endpoint reason"
  | .failed error => validateError error
  | .cancelled cancelled => validateCancelled cancelled

/-! ## The language model -/

inductive LlmFinishReason where
  | unspecified | stop | length | contentFilter | toolBoundary | provider
deriving DecidableEq

structure TextDeltaV1 where
  text : Text
  textOffsetBytes : Nat
deriving DecidableEq

structure SentenceReadyV1 where
  sentenceId : Text
  text : Text
  textStartBytes : Nat
  textEndBytes : Nat
deriving DecidableEq

structure TokenUsageV1 where
  inputTokens : Nat
  outputTokens : Nat
  cachedInputTokens : Nat
deriving DecidableEq

structure LlmCompletedV1 where
  finishReason : Int
  usage : Option TokenUsageV1
  providerFinishReason : Text
deriving DecidableEq

inductive LlmKind where
  | started
  | textDelta (delta : TextDeltaV1)
  | sentenceReady (sentence : SentenceReadyV1)
  | completed (completed : LlmCompletedV1)
  | failed (error : IpcErrorV1)
  | cancelled (cancelled : CancelledV1)
deriving DecidableEq

structure LlmEventV1 where
  metadata : Option ProviderEventMetadataV1
  kind : Option LlmKind
deriving DecidableEq

def LlmEventV1.validate (event : LlmEventV1) : EventCheck := do
  validateMetadata event.metadata
  match ← okOr event.kind .missingKind with
  | .started => return
  | .textDelta delta => validateText delta.text false
  | .sentenceReady sentence =>
    validateText sentence.text false
    require (!sentence.sentenceId.isEmpty && decide (utf8Len sentence.sentenceId ≤ 256))
      .metadataTooLarge
    require (decide (sentence.textStartBytes < sentence.textEndBytes) &&
      sentence.textEndBytes - sentence.textStartBytes == utf8Len sentence.text) .invalidTextRange
  | .completed completed =>
    let _ ← validateVariant [LlmFinishReason.unspecified, .stop, .length, .contentFilter,
      .toolBoundary, .provider] .unspecified completed.finishReason "LLM finish reason"
    require (decide (utf8Len completed.providerFinishReason ≤ 256)) .metadataTooLarge
  | .failed error => validateError error
  | .cancelled cancelled => validateCancelled cancelled

/-! ## Speech synthesis -/

structure AudioChunkV1 where
  chunkSequence : Nat
  startSample : Nat
  format : Option AudioFormatV1
  data : List UInt8
  endOfSentence : Bool
deriving DecidableEq

structure VisemeV1 where
  id : Text
  startMs : Nat
  durationMs : Nat
  weight : F32
deriving DecidableEq

structure WordAlignmentV1 where
  text : Text
  startMs : Nat
  durationMs : Nat
  textStartBytes : Nat
  textEndBytes : Nat
deriving DecidableEq

structure AlignmentBatchV1 where
  words : List WordAlignmentV1
  visemes : List VisemeV1
deriving DecidableEq

structure TtsCompletedV1 where
  totalSamples : Nat
  totalDurationMs : Nat
deriving DecidableEq

inductive TtsKind where
  | started (format : AudioFormatV1)
  | audio (chunk : AudioChunkV1)
  | alignment (batch : AlignmentBatchV1)
  | completed (completed : TtsCompletedV1)
  | failed (error : IpcErrorV1)
  | cancelled (cancelled : CancelledV1)
deriving DecidableEq

structure TtsEventV1 where
  metadata : Option ProviderEventMetadataV1
  sentenceId : Text
  kind : Option TtsKind
deriving DecidableEq

def validateWord (word : WordAlignmentV1) : EventCheck := do
  validateText word.text false
  require (decide (word.textStartBytes < word.textEndBytes)) .invalidTextRange

def validateViseme (viseme : VisemeV1) : EventCheck := do
  require (!viseme.id.isEmpty && decide (utf8Len viseme.id ≤ 64)) .metadataTooLarge
  validateUnitInterval (some viseme.weight) "viseme weight"

def TtsEventV1.validate (event : TtsEventV1) : EventCheck := do
  validateMetadata event.metadata
  require (!event.sentenceId.isEmpty && decide (utf8Len event.sentenceId ≤ 256)) .metadataTooLarge
  match ← okOr event.kind .missingKind with
  | .started format => format.validate
  | .audio chunk =>
    require (chunk.chunkSequence != 0) .zeroSequence
    let format ← okOr chunk.format .missingAudioFormat
    format.validate
    require (!chunk.data.isEmpty && decide (chunk.data.length ≤ maxAudioChunkBytes))
      (.audioChunkSize chunk.data.length)
  | .alignment batch =>
    require (decide (batch.words.length ≤ 2048) && decide (batch.visemes.length ≤ 8192))
      .metadataTooLarge
    batch.words.forM validateWord
    batch.visemes.forM validateViseme
  | .completed _ => return
  | .failed error => validateError error
  | .cancelled cancelled => validateCancelled cancelled

end NpcRuntime.Protocol
