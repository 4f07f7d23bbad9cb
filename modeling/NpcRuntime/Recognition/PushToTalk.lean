import NpcRuntime.Lib.Result
import NpcRuntime.Lib.Saturating
import NpcRuntime.Lib.Text
import NpcRuntime.Recognition.Session

/-!
# Push to talk

`transcribe_push_to_talk` of `runtime-host/src/stt_bridge.rs`: the chunks of a native source go to a
session of AssemblyAI, which is flushed when the key is released; only then are its events read.

What happens outside is in an `Utterance`: what the source gives and when the token is cancelled, how
each send ends, and what arrives from the provider before and after the flush.
-/

namespace NpcRuntime.Recognition

open Text HostedSession

/-! ## Contract -/

inductive SelectedSttError where
  | unsupportedRoute
  | credentialReferenceMismatch
  | credentialUnavailable
  | invalidNativeInput
  | nativeInputUnavailable
  | manualRetryNotAuthorized
  | invalidRequest
  | providerUnavailable
  | providerProtocol
  | cancelled
deriving DecidableEq

inductive AudioEncoding where
  | pcmS16Le
  | g711Ulaw
  | g711Alaw
deriving DecidableEq

structure AudioFormat where
  encoding : AudioEncoding
  sampleRateHz : Nat
  channels : Nat
deriving DecidableEq

def AudioFormat.pcm16KhzMono : AudioFormat := ⟨.pcmS16Le, 16000, 1⟩

structure NativePcmIdentity where
  sessionId : Text
  turnId : Text
  generation : Nat
  inputEndpointId : Text
  inputEndpointGeneration : Nat
deriving DecidableEq

structure NativePcmChunk where
  identity : NativePcmIdentity
  sequence : Nat
  firstFrameQpc : Nat
  frameCount : Nat
  pcmS16le : List UInt8
deriving DecidableEq

structure NativePcmActivation where
  pttVirtualKey : Nat
  pttPressTransitionSequence : Nat
  pttPressedQpc : Nat
deriving DecidableEq

structure NativePcmReceipt where
  identity : NativePcmIdentity
  activation : NativePcmActivation
  capturedFrames : Nat
  sourceCaptureComplete : Bool
  cancelled : Bool
  deviceLost : Bool
  pttReleaseTransitionSequence : Nat
  pttReleasedQpc : Nat
deriving DecidableEq

inductive SttAttemptAuthority where
  | initial
  | manualRetry (priorGeneration : Nat) (userAuthorized : Bool)
deriving DecidableEq

structure SelectedSttTurnRequest where
  identity : NativePcmIdentity
  attempt : SttAttemptAuthority
  contextHint : Option Text
deriving DecidableEq

/-- What the result says of the selected route. -/
structure SelectedProviderRoute where
  providerId : Text
  modelId : Text
deriving DecidableEq

def credentialTarget : Text := "providers/assemblyai".toList

def requiredEgress : Text := "microphone_audio_and_optional_non_secret_context".toList

def maxPcmChunkBytes : Nat := 64 * 1024

def maxTranscriptBytes : Nat := 64 * 1024

structure SelectedSttRouteReceipt where
  providerId : Text
  modelId : Text
  credentialReference : Text
  egress : Text
  generation : Nat
  inputEndpointId : Text
  inputEndpointGeneration : Nat
  manualRetry : Bool
  automaticFallback : Bool
  capturedFrames : Nat
  pttVirtualKey : Nat
  pttPressTransitionSequence : Nat
  pttPressedQpc : Nat
  pttReleaseTransitionSequence : Nat
  pttReleasedQpc : Nat
deriving DecidableEq

structure SelectedSttResult where
  transcript : Text
  route : SelectedSttRouteReceipt
  chunksSent : Nat
  pcmBytesSent : Nat
  partialEvents : Nat
deriving DecidableEq

/-! ## What happens outside -/

inductive InputMoment where
  /-- The token is cancelled before the next chunk. -/
  | cancelled
  | failed
  /-- A chunk, whether the token is cancelled by then, how the send ends and whether the source takes
  the acknowledgement. -/
  | chunk (chunk : NativePcmChunk) (cancelled : Bool) (send : SendOutcome) (acknowledged : Bool)

structure Utterance where
  identity : NativePcmIdentity
  activation : NativePcmActivation
  format : AudioFormat
  cancelledBefore : Bool
  /-- Whether the vault has the credential, in UTF-8. -/
  credential : Bool
  /-- What `start_session` comes to, and the frames that it has sent. -/
  started : Except SttError (List ClientFrame)
  /-- What the source gives until it has no more. -/
  input : List InputMoment
  receipt : Option NativePcmReceipt
  cancelledAtFlush : Bool
  flush : SendOutcome
  /-- The frames that arrive before the flush is sent. -/
  early : List ServerFrame
  late : List Arrival
  /-- For every call of `next_event`, whether the token is cancelled by then. -/
  readings : List Bool
  close : SendOutcome
  closes : Bool

def Utterance.arrivals (utterance : Utterance) : List Arrival :=
  utterance.early.map .frame ++ utterance.late

/-! ## Checks -/

def NativePcmIdentity.isValid (identity : NativePcmIdentity) : Bool :=
  !(identity.sessionId.isEmpty || 128 < utf8Len identity.sessionId || identity.turnId.isEmpty ||
    128 < utf8Len identity.turnId || identity.generation == 0 || identity.inputEndpointId.isEmpty ||
    1024 < utf8Len identity.inputEndpointId || identity.inputEndpointGeneration == 0 ||
    identity.sessionId.any isControl || identity.turnId.any isControl ||
    identity.inputEndpointId.any isControl)

def NativePcmActivation.isValid (activation : NativePcmActivation) : Bool :=
  !(activation.pttVirtualKey == 0 || 0xff < activation.pttVirtualKey ||
    activation.pttPressTransitionSequence == 0 || activation.pttPressedQpc == 0)

def SttAttemptAuthority.isAuthorized (generation : Nat) : SttAttemptAuthority → Bool
  | .initial => true
  | .manualRetry priorGeneration userAuthorized =>
    userAuthorized && priorGeneration != 0 && priorGeneration < generation

def validateTurnRequest (request : SelectedSttTurnRequest) (utterance : Utterance) :
    Except SelectedSttError Unit := do
  require request.identity.isValid .invalidNativeInput
  require utterance.activation.isValid .invalidNativeInput
  require (utterance.identity = request.identity && utterance.format = .pcm16KhzMono)
    .invalidNativeInput
  require (request.contextHint.all fun value => utf8Len value ≤ 4096 && !value.contains (.ofNat 0))
    .invalidRequest
  require (request.attempt.isAuthorized request.identity.generation) .manualRetryNotAuthorized

def chunkIsValid (chunk : NativePcmChunk) (identity : NativePcmIdentity) (sequence : Nat) : Bool :=
  chunk.identity = identity && chunk.sequence == sequence && chunk.firstFrameQpc != 0 &&
    !chunk.pcmS16le.isEmpty && chunk.pcmS16le.length ≤ maxPcmChunkBytes &&
    chunk.pcmS16le.length % 2 == 0 && chunk.frameCount * 2 == chunk.pcmS16le.length

def receiptIsValid (receipt : NativePcmReceipt) (request : SelectedSttTurnRequest)
    (activation : NativePcmActivation) : Bool :=
  receipt.identity = request.identity && receipt.activation = activation && !receipt.cancelled &&
    !receipt.deviceLost && receipt.sourceCaptureComplete && receipt.capturedFrames != 0 &&
    receipt.activation.pttPressTransitionSequence < receipt.pttReleaseTransitionSequence &&
    receipt.activation.pttPressedQpc ≤ receipt.pttReleasedQpc

def mapSttError (error : SttError) : SelectedSttError :=
  match error.kind with
  | .cancelled => .cancelled
  | .authentication => .credentialUnavailable
  | .invalidRequest | .privacyPolicy => .invalidRequest
  | .protocol => .providerProtocol
  | .timeout | .rateLimited | .quotaExceeded | .unavailable => .providerUnavailable

/-! ## The call -/

/-- A call that has not returned a result. -/
inductive Halt where
  | failed (error : SelectedSttError)
  | waiting
deriving DecidableEq

structure Transcription where
  session : HostedSession
  /-- The sequences that were acknowledged, each with the number of frames that the session had
  handed over by then. -/
  acknowledged : List (Nat × Nat)
  inputCancelled : Bool

abbrev TranscribeCall (α : Type) := ExceptT Halt (StateM Transcription) α

def onSession {α : Type} (call : SessionCall α) : TranscribeCall α := do
  let state ← get
  let (result, session) := call state.session
  set { state with session }
  liftExcept (result.mapError fun error => Halt.failed (mapSttError error))

def cancelToken (cancelled : Bool) : TranscribeCall Unit :=
  modify fun state =>
    { state with session.cancellation := state.session.cancellation || cancelled }

def cancelInput : TranscribeCall Unit := modify fun state => { state with inputCancelled := true }

def cancelSession : TranscribeCall Unit :=
  modify fun state => { state with session := state.session.cancel }

/-- The acknowledgement of a chunk; the source may fail to take it. -/
def acknowledge (sequence : Nat) (acknowledged : Bool) : TranscribeCall Unit := do
  modify fun state => { state with
    acknowledged := state.acknowledged ++ [(sequence, state.session.transport.length)] }
  liftExcept (require acknowledged (Halt.failed .nativeInputUnavailable))

/-- The counters of the loop over the chunks. -/
structure Sent where
  expectedSequence : Nat
  chunksSent : Nat
  pcmBytesSent : Nat

/-- The loop over the chunks. -/
def sendChunks (base64 : List UInt8 → Text) (identity : NativePcmIdentity) :
    List InputMoment → Sent → TranscribeCall Sent
  | [], sent => return sent
  | .cancelled :: _, _ => do
    cancelToken true
    cancelInput
    cancelSession
    throw (.failed .cancelled)
  | .failed :: _, _ => throw (.failed .nativeInputUnavailable)
  | .chunk chunk cancelled send acknowledged :: input, sent => do
    liftExcept (require (chunkIsValid chunk identity sent.expectedSequence)
      (Halt.failed .invalidNativeInput))
    cancelToken cancelled
    onSession (sendAudio base64 chunk.pcmS16le send)
    acknowledge chunk.sequence acknowledged
    sendChunks base64 identity input {
      expectedSequence := satAdd sent.expectedSequence 1
      chunksSent := satAdd sent.chunksSent 1
      pcmBytesSent := satAdd sent.pcmBytesSent chunk.pcmS16le.length }

/-- What the loop over the events has found. -/
structure Heard where
  transcript : Text
  partialEvents : Nat
deriving DecidableEq

inductive Verdict where
  | goOn (heard : Heard)
  | stop
  | cancelled
  | failed (error : SelectedSttError)
deriving DecidableEq

/-- What the loop does with an event. -/
def hear (event : RecognitionEvent) (heard : Heard) : Verdict :=
  match event with
  | .transcript value =>
    match value.status with
    | .final =>
      if value.text.isEmpty || maxTranscriptBytes < utf8Len value.text then
        .failed .providerProtocol
      else .goOn { heard with transcript := value.text }
    | .partialText | .eagerFinal =>
      .goOn { heard with partialEvents := satAdd heard.partialEvents 1 }
  | .turnEnded .. => if heard.transcript.isEmpty then .goOn heard else .stop
  | .cancelled => .cancelled
  | .sessionStarted _ | .turnStarted _ | .turnResumed .. | .warning .. => .goOn heard

/-- The loop over the events. -/
def readEvents : List Bool → List Arrival → Heard → TranscribeCall Heard
  | [], _, _ => throw .waiting
  | cancelled :: readings, arrivals, heard => do
    cancelToken cancelled
    let (next, arrivals) ← onSession (nextEvent arrivals)
    match next with
    | .waiting => throw .waiting
    | .returned none => return heard
    | .returned (some event) =>
      match hear event heard with
      | .goOn heard => readEvents readings arrivals heard
      | .stop => return heard
      | .cancelled => do
        cancelInput
        throw (.failed .cancelled)
      | .failed error => throw (.failed error)

/-- `finish` and what is checked of its receipt. -/
def finishInput (request : SelectedSttTurnRequest) (utterance : Utterance) :
    TranscribeCall NativePcmReceipt :=
  match utterance.receipt with
  | none => throw (.failed .nativeInputUnavailable)
  | some receipt =>
    if receiptIsValid receipt request utterance.activation then return receipt
    else do
      cancelSession
      throw (.failed .invalidNativeInput)

def sendInput (base64 : List UInt8 → Text) (request : SelectedSttTurnRequest)
    (utterance : Utterance) : TranscribeCall Sent := do
  let sent ← sendChunks base64 request.identity utterance.input ⟨1, 0, 0⟩
  if sent.chunksSent = 0 then
    cancelInput
    cancelSession
    throw (.failed .invalidNativeInput)
  else return sent

def routeReceipt (route : SelectedProviderRoute) (request : SelectedSttTurnRequest)
    (receipt : NativePcmReceipt) : SelectedSttRouteReceipt where
  providerId := route.providerId
  modelId := route.modelId
  credentialReference := credentialTarget
  egress := requiredEgress
  generation := request.identity.generation
  inputEndpointId := request.identity.inputEndpointId
  inputEndpointGeneration := request.identity.inputEndpointGeneration
  manualRetry := match request.attempt with
    | .manualRetry .. => true
    | .initial => false
  automaticFallback := false
  capturedFrames := receipt.capturedFrames
  pttVirtualKey := receipt.activation.pttVirtualKey
  pttPressTransitionSequence := receipt.activation.pttPressTransitionSequence
  pttPressedQpc := receipt.activation.pttPressedQpc
  pttReleaseTransitionSequence := receipt.pttReleaseTransitionSequence
  pttReleasedQpc := receipt.pttReleasedQpc

/-- The call from the start of the session on. -/
def converse (base64 : List UInt8 → Text) (route : SelectedProviderRoute)
    (request : SelectedSttTurnRequest) (utterance : Utterance) :
    TranscribeCall SelectedSttResult := do
  let sent ← sendInput base64 request utterance
  let receipt ← finishInput request utterance
  cancelToken utterance.cancelledAtFlush
  onSession (HostedSession.flush .pushToTalkReleased utterance.flush)
  let heard ← readEvents utterance.readings utterance.arrivals ⟨[], 0⟩
  onSession (HostedSession.close utterance.close utterance.closes)
  liftExcept (require (!heard.transcript.isEmpty) (Halt.failed .providerProtocol))
  return {
    transcript := heard.transcript
    route := routeReceipt route request receipt
    chunksSent := sent.chunksSent
    pcmBytesSent := sent.pcmBytesSent
    partialEvents := heard.partialEvents }

/-- The session is started with the interim results. -/
def prepare (request : SelectedSttTurnRequest) (utterance : Utterance) :
    Except Halt Transcription := do
  (validateTurnRequest request utterance).mapError .failed
  require (!utterance.cancelledBefore) (.failed .cancelled)
  require utterance.credential (.failed .credentialUnavailable)
  let transport ← utterance.started.mapError fun error => .failed (mapSttError error)
  return ⟨.new (.assemblyAi true) transport false, [], false⟩

/-- The result, and the state that the call leaves once the session has been started. -/
def transcribePushToTalk (base64 : List UInt8 → Text) (route : SelectedProviderRoute)
    (request : SelectedSttTurnRequest) (utterance : Utterance) :
    Except Halt (SelectedSttResult × Transcription) := do
  let state ← prepare request utterance
  let (result, state) := converse base64 route request utterance state
  return (← result, state)

end NpcRuntime.Recognition
