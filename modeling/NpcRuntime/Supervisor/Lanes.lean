import NpcRuntime.Policy
import NpcRuntime.Response.Streaming

/-!
# Supervisor: the lanes of a turn

`run_turn_inner` of `runtime-core/src/supervisor.rs`, from where it starts its lanes. The language
model lane (`run_llm_lane`) turns provider deltas into sentences and sends them over a bounded
channel to the speech lane (`run_speech_lane`); the turn waits for both and for the effects lane,
and puts the outcome together.

Each lane is in a phase, and an action lets one of them run to its next await or to its next look
at the cancellation of the turn, so that a list of actions is an interleaving. What providers,
circuit breakers, the audio sink, the memory and the effects lane answer is part of the actions.
Of an event only the look at the cancellation is left: `emit` ends a lane whose turn is cancelled.
`history` records which providers are tried, which deltas are accepted and which sentences are sent.
-/

namespace NpcRuntime.Lanes

open Text Sentence Response

/-! ## Errors and results -/

/-- A provider's error, with the parts its text is made of. -/
structure ProviderError where
  providerId : String
  message : String
deriving DecidableEq

/-- `Display`. -/
def ProviderError.display (error : ProviderError) : String :=
  error.providerId ++ ": " ++ error.message

inductive RuntimeDependencyError where
  | cancelled
  | unavailable (message : String)
  | invalid (message : String)
  | internal (message : String)
deriving DecidableEq

inductive SupervisorError where
  | cancelled
  | noAuthorizedProvider (modality : ProviderModality)
  | providersExhausted (modality : ProviderModality) (lastError : String)
  | streamFailed (error : ProviderError)
  | invalidProviderResponse (error : StreamingResponseError)
  | dependency (error : RuntimeDependencyError)
deriving DecidableEq

inductive Degradation where
  | identityToExplicitSelection
  | memoryWithoutVectorRetrieval
  | neutralEffects
  | visualsDisabled
  | audioToSubtitles
  | memoryCommitDeferred
  | providerFallback (source target : String)
deriving DecidableEq

/-- The degradation of a turn that another provider than the primary one has served. -/
def providerFallback (primary provider : ProviderDescriptor) : List Degradation :=
  if provider.id ≠ primary.id then [.providerFallback primary.id provider.id] else []

structure LlmDelta where
  text : Text
  sequence : Nat
deriving DecidableEq

structure LlmLaneResult where
  fullText : Text
  structuredResponse : Option NpcResponseEnvelopeV1
  providerId : String
  degradations : List Degradation
  terminalError : Option SupervisorError
deriving DecidableEq

structure PlaybackReceipt where
  audibleFrames : Nat
  duration : Nat
  completed : Bool
deriving DecidableEq

inductive DeliveryMode where
  | audio
  | subtitle
deriving DecidableEq

structure DeliveredSentence where
  sentenceId : Nat
  textStartBytes : Nat
  textEndBytes : Nat
  text : Text
  delivery : DeliveryMode
  audibleFrames : Nat
  duration : Nat
deriving DecidableEq

structure SpeechLaneResult where
  delivered : List DeliveredSentence
  providers : List String
  degradations : List Degradation
deriving DecidableEq

inductive TurnLifecycle where
  | accepted
  | listening
  | transcribing
  | identifying
  | remembering
  | responding
  | voicing
  | animating
  | committing
  | completed
  | cancelled
  | failed
deriving DecidableEq

/-- The outcome without the turn's identity and its effects, which the lanes only pass through. -/
structure TurnOutcome where
  lifecycle : TurnLifecycle := .accepted
  fullResponse : Text := []
  structuredResponse : Option NpcResponseEnvelopeV1 := none
  delivered : List DeliveredSentence := []
  degradations : List Degradation := []
  selectedLlmProvider : Option String := none
  selectedTtsProviders : List String := []
  error : Option SupervisorError := none
deriving DecidableEq

/-! ## Phases -/

/-- What `run_llm_lane` fixes before its loop. -/
structure LlmRoute where
  format : StreamingResponseFormatV1
  primary : ProviderDescriptor

/-- The locals of one pass of the loop, once the stream is open. -/
structure Attempt where
  provider : ProviderDescriptor
  adapter : StreamingResponseAdapterV1
  providerOutput : Text := []
  firstDelta : Bool := true

/-- The operations of the language model lane that other parties see. -/
inductive LaneOp where
  | emit
  | send (provider : ProviderDescriptor) (sentence : SentenceSpan)
  /-- `drop(sentence_tx)`. -/
  | drop

/-- Where the language model lane stands. -/
inductive LlmPhase where
  /-- At the head of the loop over the candidates. -/
  | choosing (route : LlmRoute) (rest : List ProviderDescriptor) (lastError : String)
  /-- `stream_response` is under way. -/
  | opening (route : LlmRoute) (provider : ProviderDescriptor) (rest : List ProviderDescriptor)
  /-- Waiting for the stream or for cancellation. -/
  | streaming (route : LlmRoute) (attempt : Attempt) (rest : List ProviderDescriptor)
  /-- Before `push_delta`. -/
  | pushing (route : LlmRoute) (attempt : Attempt) (rest : List ProviderDescriptor)
      (delta : LlmDelta)
  /-- Before an operation, behind which the lane goes on. -/
  | doing (op : LaneOp) (next : LlmPhase)
  | finished (result : Except SupervisorError LlmLaneResult)
  | panicked

/-- The locals of `run_speech_lane`. -/
structure SpeechLane where
  sessions : List String := []
  delivered : List DeliveredSentence := []
  providers : List String := []
  degradations : List Degradation := []
  announcedVoicing : Bool := false

/-- Where the speech lane stands. -/
inductive SpeechPhase where
  /-- Waiting for a sentence or for cancellation. -/
  | receiving (lane : SpeechLane)
  /-- At the head of the loop over the candidates. -/
  | trying (lane : SpeechLane) (sentence : SentenceSpan) (rest : List ProviderDescriptor)
  /-- `start_session` is under way. -/
  | starting (lane : SpeechLane) (sentence : SentenceSpan) (provider : ProviderDescriptor)
      (rest : List ProviderDescriptor)
  /-- `synthesize` is under way. -/
  | synthesizing (lane : SpeechLane) (sentence : SentenceSpan) (provider : ProviderDescriptor)
      (rest : List ProviderDescriptor)
  /-- `play` is under way. -/
  | playing (lane : SpeechLane) (sentence : SentenceSpan) (provider : ProviderDescriptor)
  | emitting (next : SpeechPhase)
  | finished (result : Except SupervisorError SpeechLaneResult)
  | panicked (message : String)

/-- The lane has returned, and its receiver is gone. -/
def SpeechPhase.hasEnded : SpeechPhase → Bool
  | .finished _ | .panicked _ => true
  | _ => false

/-- Where `run_turn_inner` stands behind its lanes. -/
inductive JoinPhase where
  | awaiting
  /-- Before the results of the two lanes are put into the outcome. -/
  | settling (llm : Except SupervisorError LlmLaneResult)
      (speech : Except SupervisorError SpeechLaneResult)
  /-- `commit_delivered` is under way. -/
  | committing (terminalError : Option SupervisorError)
  | deferring (terminalError : Option SupervisorError)
  | closing (terminalError : Option SupervisorError)
  | completing
  | emitting (next : JoinPhase)
  | ended

/-- What the language model lane does, for the record. -/
inductive LaneEvent where
  | tried (provider : ProviderDescriptor)
  | accepted (provider : ProviderDescriptor) (text : Text)
  | sent (provider : ProviderDescriptor) (sentence : SentenceSpan)
deriving DecidableEq

structure State where
  cancelled : Bool := false
  llm : LlmPhase
  /-- The sender of the channel is dropped. -/
  closed : Bool := false
  channel : List SentenceSpan := []
  speech : SpeechPhase := .receiving {}
  /-- How the task of the effects lane has ended: with a panic, or with the lane's result. -/
  effects : Option (Except String (Except SupervisorError (List Degradation))) := none
  join : JoinPhase := .awaiting
  outcome : TurnOutcome := {}
  history : List LaneEvent := []

/-- What a turn runs with. `routeFormat` is the request's value of `npc_response_format`. -/
structure Setup where
  serde : SerdeJson
  routeFormat : Option String
  routing : RoutingPlan
  languageModels : List ProviderDescriptor
  speech : List ProviderDescriptor
  sentenceConfig : SentenceSegmenterConfig
  sentenceChannelCapacity : Nat
  generation : Nat

/-- The providers that the privacy policy allows, as in `allowed_llm_candidates`. -/
def allowedCandidates (routing : RoutingPlan) (providers : List ProviderDescriptor) :
    List ProviderDescriptor :=
  providers.filter fun provider => routing.privacy.evaluate provider == .allowed

/-! ## The language model lane -/

inductive LlmAnswer where
  | go
  /-- The wait ends with the cancellation. -/
  | cancelled
  | circuit (permit : Except String Unit)
  | opened (result : Except ProviderError Unit)
  | next (item : Option (Except ProviderError LlmDelta))

def safePartialResponse (format : StreamingResponseFormatV1) (providerOutput : Text)
    (adapter : StreamingResponseAdapterV1) : Text :=
  match format with
  | .legacyPlainText => providerOutput
  | .structuredSpeechFirstV1 => adapter.releasedSpokenText.getD []
  | .structuredV1 => []

/-- The result of a lane whose provider fails behind its first output. -/
def partialResult (route : LlmRoute) (attempt : Attempt) (adapter : StreamingResponseAdapterV1)
    (error : SupervisorError) : LlmLaneResult where
  fullText := safePartialResponse route.format attempt.providerOutput adapter
  structuredResponse := none
  providerId := attempt.provider.id
  degradations := []
  terminalError := some error

def completeResult (route : LlmRoute) (provider : ProviderDescriptor)
    (finalized : FinalizedStreamingResponseV1) : LlmLaneResult where
  fullText := finalized.response.spokenResponse.text
  structuredResponse :=
    if route.format = .structuredV1 ∨ route.format = .structuredSpeechFirstV1 then
      some finalized.response
    else none
  providerId := provider.id
  degradations := providerFallback route.primary provider
  terminalError := none

/-- The operations, and then the phase. -/
def LlmPhase.after (ops : List LaneOp) (next : LlmPhase) : LlmPhase := ops.foldr .doing next

/-- `SentenceReady` is emitted before each sentence is sent. -/
def sendAll (provider : ProviderDescriptor) (sentences : List SentenceSpan) : List LaneOp :=
  sentences.flatMap fun sentence => [.emit, .send provider sentence]

/-- `run_llm_lane` up to its loop. -/
def startLlm (setup : Setup) : LlmPhase :=
  match StreamingResponseFormatV1.fromRouteMetadata setup.routeFormat with
  | .error error => .finished (.error (.invalidProviderResponse error))
  | .ok format =>
    match allowedCandidates setup.routing setup.languageModels with
    | [] => .finished (.error (.noAuthorizedProvider .languageModel))
    | primary :: rest =>
      .choosing ⟨format.getD .legacyPlainText, primary⟩ (primary :: rest) "no provider attempted"

namespace State

/-- The lane returns and drops its sender. -/
def finishLlm (s : State) (result : Except SupervisorError LlmLaneResult) : State :=
  { s with llm := .finished result, closed := true }

def panicLlm (s : State) : State := { s with llm := .panicked, closed := true }

/-- One operation; a `send` waits while the channel is full, and fails once the receiver is gone. -/
def runOp (setup : Setup) (op : LaneOp) (next : LlmPhase) (s : State) : State :=
  match op with
  | .emit => if s.cancelled then s.finishLlm (.error .cancelled) else { s with llm := next }
  | .send provider sentence =>
    if s.speech.hasEnded then s.finishLlm (.error .cancelled)
    else if s.channel.length < setup.sentenceChannelCapacity then
      { s with
        llm := next
        channel := s.channel ++ [sentence]
        history := s.history ++ [.sent provider sentence] }
    else s
  | .drop => { s with llm := next, closed := true }

/-- The next candidate is asked for a permit of its circuit breaker. -/
def tryCandidate (setup : Setup) (route : LlmRoute) (provider : ProviderDescriptor)
    (rest : List ProviderDescriptor) (lastError : String) (permit : Except String Unit)
    (s : State) : State :=
  if !setup.routing.fallback.allowsTransition route.primary provider then
    { s with llm := .choosing route rest lastError }
  else if s.cancelled then s.finishLlm (.error .cancelled)
  else
    match permit with
    | .error error => { s with llm := .choosing route rest error }
    | .ok () =>
      { s with
        llm := .opening route provider rest
        history := s.history ++ [.tried provider] }

def openStream (setup : Setup) (route : LlmRoute) (provider : ProviderDescriptor)
    (rest : List ProviderDescriptor) (result : Except ProviderError Unit) (s : State) : State :=
  match result with
  | .error error => { s with llm := .doing .emit (.choosing route rest error.display) }
  | .ok () =>
    match StreamingResponseAdapterV1.new route.format {} setup.sentenceConfig setup.generation with
    | .error _ => s.panicLlm
    | .ok adapter => { s with llm := .streaming route { provider, adapter } rest }

/-- A delta has come, and the time to the first one is reported. -/
def receiveDelta (route : LlmRoute) (attempt : Attempt) (rest : List ProviderDescriptor)
    (delta : LlmDelta) (s : State) : State :=
  if delta.text = [] then s
  else
    let next : LlmPhase := .pushing route { attempt with firstDelta := false } rest delta
    { s with llm := if attempt.firstDelta then .doing .emit next else next }

def pushDelta (setup : Setup) (route : LlmRoute) (attempt : Attempt)
    (rest : List ProviderDescriptor) (delta : LlmDelta) (s : State) : State :=
  match attempt.adapter.pushDelta setup.serde setup.generation delta.sequence delta.text with
  | .error _ => s.panicLlm
  | .ok (.error error, adapter) =>
    s.finishLlm (.ok (partialResult route attempt adapter (.invalidProviderResponse error)))
  | .ok (.ok ready, adapter) =>
    let textDelta : List LaneOp := if route.format = .legacyPlainText then [.emit] else []
    { s with
      llm := .after (textDelta ++ sendAll attempt.provider ready)
        (.streaming route { attempt with
          adapter, providerOutput := attempt.providerOutput ++ delta.text } rest)
      history := s.history ++ [.accepted attempt.provider delta.text] }

def failStream (route : LlmRoute) (attempt : Attempt) (rest : List ProviderDescriptor)
    (error : ProviderError) (s : State) : State :=
  if attempt.providerOutput = [] then { s with llm := .choosing route rest error.display }
  else s.finishLlm (.ok (partialResult route attempt attempt.adapter (.streamFailed error)))

def endStream (setup : Setup) (route : LlmRoute) (attempt : Attempt)
    (rest : List ProviderDescriptor) (s : State) : State :=
  if attempt.firstDelta then
    { s with llm := .doing .emit (.choosing route rest "empty model response") }
  else
    match attempt.adapter.finish setup.serde setup.generation with
    | .error _ => s.panicLlm
    | .ok (.error error, adapter) =>
      s.finishLlm (.ok (partialResult route attempt adapter (.invalidProviderResponse error)))
    | .ok (.ok finalized, _) =>
      let degraded := (providerFallback route.primary attempt.provider).map fun _ => LaneOp.emit
      { s with
        llm := .after (sendAll attempt.provider finalized.readySentences ++ [.drop] ++ degraded)
          (.finished (.ok (completeResult route attempt.provider finalized))) }

def stepLlm (setup : Setup) (answer : LlmAnswer) (s : State) : State :=
  match s.llm, answer with
  | .choosing _ [] lastError, .go =>
    s.finishLlm (.error (.providersExhausted .languageModel lastError))
  | .choosing route (provider :: rest) lastError, .circuit permit =>
    s.tryCandidate setup route provider rest lastError permit
  | .opening route provider rest, .opened result => s.openStream setup route provider rest result
  | .streaming _ _ _, .cancelled => if s.cancelled then s.finishLlm (.error .cancelled) else s
  | .streaming route attempt rest, .next (some (.ok delta)) =>
    s.receiveDelta route attempt rest delta
  | .streaming route attempt rest, .next (some (.error error)) =>
    s.failStream route attempt rest error
  | .streaming route attempt rest, .next none => s.endStream setup route attempt rest
  | .pushing route attempt rest delta, .go => s.pushDelta setup route attempt rest delta
  | .doing op next, .go => s.runOp setup op next
  | _, _ => s

end State

/-! ## The speech lane -/

inductive SpeechAnswer where
  | go
  /-- The wait ends with the cancellation. -/
  | cancelled
  | receive
  | circuit (permit : Bool)
  | started (ok : Bool)
  | synthesized (ok : Bool)
  /-- The receipt of a playback, or none if it has failed. -/
  | played (receipt : Option PlaybackReceipt)
  | panic (message : String)

def deliverSentence (sentence : SentenceSpan) (receipt : Option PlaybackReceipt) :
    DeliveredSentence where
  sentenceId := sentence.sentenceId
  textStartBytes := sentence.textStartBytes
  textEndBytes := sentence.textEndBytes
  text := sentence.text
  delivery := if receipt.isSome then .audio else .subtitle
  audibleFrames := (receipt.map (·.audibleFrames)).getD 0
  duration := (receipt.map (·.duration)).getD 0

namespace SpeechLane

/-- The sentence counts as delivered once that has been announced. -/
def deliver (lane : SpeechLane) (sentence : SentenceSpan) (receipt : Option PlaybackReceipt) :
    SpeechPhase :=
  .emitting (.receiving { lane with
    delivered := lane.delivered ++ [deliverSentence sentence receipt] })

/-- No voice: the sentence goes to the subtitles, which is reported once. -/
def subtitle (lane : SpeechLane) (sentence : SentenceSpan) : SpeechPhase :=
  if Degradation.audioToSubtitles ∈ lane.degradations then lane.deliver sentence none
  else
    .emitting (deliver { lane with
      degradations := lane.degradations ++ [.audioToSubtitles] } sentence none)

/-- The sentence has been played to its end. -/
def voiced (lane : SpeechLane) (primary : Option ProviderDescriptor) (sentence : SentenceSpan)
    (provider : ProviderDescriptor) (receipt : PlaybackReceipt) : SpeechPhase :=
  let providers :=
    if provider.id ∈ lane.providers then lane.providers else lane.providers ++ [provider.id]
  match primary.map (providerFallback · provider) with
  | none | some [] => deliver { lane with providers } sentence (some receipt)
  | some degradations =>
    .emitting (deliver { lane with
      providers, degradations := lane.degradations ++ degradations } sentence (some receipt))

/-- The next candidate is asked for a permit of its circuit breaker. -/
def tryCandidate (setup : Setup) (lane : SpeechLane) (sentence : SentenceSpan)
    (provider : ProviderDescriptor) (rest : List ProviderDescriptor) (permit : Bool) :
    SpeechPhase :=
  match (allowedCandidates setup.routing setup.speech).head? with
  | none => lane.subtitle sentence
  | some primary =>
    if !setup.routing.fallback.allowsTransition primary provider then .trying lane sentence rest
    else if !permit then .trying lane sentence rest
    else if provider.id ∈ lane.sessions then .synthesizing lane sentence provider rest
    else .starting lane sentence provider rest

end SpeechLane

namespace State

/-- The lane takes a sentence out of the channel, or sees that there will be no more. -/
def receiveSentence (setup : Setup) (lane : SpeechLane) (s : State) : State :=
  match s.channel with
  | sentence :: channel =>
    let next : SpeechPhase := .trying { lane with announcedVoicing := true } sentence
      (allowedCandidates setup.routing setup.speech)
    { s with channel, speech := if lane.announcedVoicing then next else .emitting next }
  | [] =>
    if s.closed then
      { s with speech := .finished (.ok ⟨lane.delivered, lane.providers, lane.degradations⟩) }
    else s

/-- The end of a playback. One that was broken off ends the lane. -/
def endPlayback (setup : Setup) (lane : SpeechLane) (sentence : SentenceSpan)
    (provider : ProviderDescriptor) (receipt : Option PlaybackReceipt) : SpeechPhase :=
  match receipt with
  | some receipt =>
    if receipt.completed then
      lane.voiced (allowedCandidates setup.routing setup.speech).head? sentence provider receipt
    else .finished (.error .cancelled)
  | none => lane.subtitle sentence

def stepSpeech (setup : Setup) (answer : SpeechAnswer) (s : State) : State :=
  match s.speech, answer with
  | .receiving _, .cancelled =>
    if s.cancelled then { s with speech := .finished (.error .cancelled) } else s
  | .receiving lane, .receive => s.receiveSentence setup lane
  | .trying lane sentence [], .go => { s with speech := lane.subtitle sentence }
  | .trying lane sentence (provider :: rest), .circuit permit =>
    { s with speech := lane.tryCandidate setup sentence provider rest permit }
  | .starting lane sentence provider rest, .started ok =>
    { s with
      speech := if ok then
          .synthesizing { lane with sessions := lane.sessions ++ [provider.id] } sentence provider
            rest
        else .trying lane sentence rest }
  | .synthesizing lane sentence provider rest, .synthesized ok =>
    { s with
      speech := if ok then .emitting (.emitting (.playing lane sentence provider))
        else .trying lane sentence rest }
  | .playing lane sentence provider, .played receipt =>
    { s with speech := endPlayback setup lane sentence provider receipt }
  | .emitting next, .go =>
    { s with speech := if s.cancelled then .finished (.error .cancelled) else next }
  | phase, .panic message =>
    if phase.hasEnded then s else { s with speech := .panicked message }
  | _, _ => s

end State

/-! ## The turn -/

inductive JoinAnswer where
  | go
  | committed (result : Except RuntimeDependencyError Unit)

namespace State

/-- `run_turn` behind `run_turn_inner`. -/
def endTurn (s : State) (result : Except SupervisorError Unit) : State :=
  { s with
    join := .ended
    outcome := { s.outcome with
      lifecycle := match result with
        | .ok () => if s.cancelled then .cancelled else .completed
        | .error .cancelled => .cancelled
        | .error _ => .failed
      error := match result with
        | .ok () => if s.cancelled then some .cancelled else none
        | .error error => some error } }

def degrade (s : State) (degradations : List Degradation) : State :=
  { s with outcome := { s.outcome with degradations := s.outcome.degradations ++ degradations } }

/-- The lanes have ended: the effects come first. -/
def joinLanes (s : State) : State :=
  match s.llm, s.speech, s.effects with
  | .finished _, .panicked message, _ => s.endTurn (.error (.dependency (.internal message)))
  | .finished _, .finished _, some (.error message) =>
    s.endTurn (.error (.dependency (.internal message)))
  | .finished llm, .finished speech, some (.ok (.ok degradations)) =>
    { s.degrade degradations with join := .emitting (.settling llm speech) }
  | .finished _, .finished _, some (.ok (.error .cancelled)) => s.endTurn (.error .cancelled)
  | .finished llm, .finished speech, some (.ok (.error _)) =>
    { s.degrade [.neutralEffects] with join := .emitting (.emitting (.settling llm speech)) }
  | _, _, _ => s

/-- What was delivered, and then what the language model has said. -/
def settle (llm : Except SupervisorError LlmLaneResult)
    (speech : Except SupervisorError SpeechLaneResult) (s : State) : State :=
  match speech with
  | .error error => s.endTurn (.error error)
  | .ok speech =>
    let s := { s.degrade speech.degradations with
      outcome := { (s.degrade speech.degradations).outcome with
        delivered := speech.delivered
        selectedTtsProviders := speech.providers } }
    match llm with
    | .error error => s.endTurn (.error error)
    | .ok llm =>
      { s.degrade llm.degradations with
        outcome := { (s.degrade llm.degradations).outcome with
          fullResponse := llm.fullText
          structuredResponse := llm.structuredResponse
          selectedLlmProvider := some llm.providerId }
        join := .emitting (.emitting (.committing llm.terminalError)) }

def stepJoin (answer : JoinAnswer) (s : State) : State :=
  match s.join, answer with
  | .awaiting, .go => s.joinLanes
  | .settling llm speech, .go => s.settle llm speech
  | .committing terminalError, .committed (.ok ()) =>
    { s with join := .emitting (.closing terminalError) }
  | .committing _, .committed (.error .cancelled) => s.endTurn (.error .cancelled)
  | .committing terminalError, .committed (.error _) =>
    { s with join := .emitting (.deferring terminalError) }
  | .deferring terminalError, .go =>
    { s.degrade [.memoryCommitDeferred] with join := .emitting (.closing terminalError) }
  | .closing (some error), .go => s.endTurn (.error error)
  | .closing none, .go => { s with join := .emitting .completing }
  | .completing, .go => s.endTurn (.ok ())
  | .emitting next, .go =>
    if s.cancelled then s.endTurn (.error .cancelled) else { s with join := next }
  | _, _ => s

/-- The outcome that the turn reports when it has ended. -/
def turnOutcome (s : State) : Option TurnOutcome :=
  match s.join with
  | .ended => some s.outcome
  | _ => none

end State

inductive Action where
  | cancel
  | llm (answer : LlmAnswer)
  | speech (answer : SpeechAnswer)
  | effects (result : Except String (Except SupervisorError (List Degradation)))
  | join (answer : JoinAnswer)

/-- One action; an answer that no lane waits for changes nothing. -/
def step (setup : Setup) (action : Action) (s : State) : State :=
  match action with
  | .cancel => { s with cancelled := true }
  | .llm answer => s.stepLlm setup answer
  | .speech answer => s.stepSpeech setup answer
  | .effects result => { s with effects := s.effects.or (some result) }
  | .join answer => s.stepJoin answer

/-- The lanes have been started. -/
def start (setup : Setup) : State where
  llm := startLlm setup
  closed := match startLlm setup with
    | .finished _ => true
    | _ => false

end NpcRuntime.Lanes
