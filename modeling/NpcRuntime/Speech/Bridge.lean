import NpcRuntime.Lib.Bytes
import NpcRuntime.Lib.Saturating

/-!
# The speech bridge

`validated_stream` of `apps/runtime-host/src/tts_bridge.rs` reads the events of a speech provider
and yields the items of the runtime. One frame of every chunk is held back, since the last one has
to carry the mark of the end, and timing that arrives before any audio waits for it. The stream here
is neither cancelled nor late: `None` is the end of the provider's events. 64-bit counters are
natural numbers that saturate.
-/

namespace NpcRuntime.Speech

inductive PcmEncoding where
  | pcmS16Le
  | muLaw
  | aLaw
deriving DecidableEq

structure AudioFormat where
  encoding : PcmEncoding
  sampleRateHz : Nat
  channels : Nat
deriving DecidableEq

structure PcmChunk where
  sequence : Nat
  format : AudioFormat
  data : List UInt8
deriving DecidableEq

structure WordAlignment where
  word : String
  startMs : Nat
  endMs : Nat
  sourceTextStart : Option Nat
  sourceTextLength : Option Nat
deriving DecidableEq

inductive TimingSymbolKind where
  | providerViseme
  | phoneme
deriving DecidableEq

structure VisemeEvent where
  symbolKind : TimingSymbolKind
  symbol : String
  startMs : Nat
  durationMs : Nat
deriving DecidableEq

inductive TtsEvent where
  | audio (chunk : PcmChunk)
  | alignment (words : List WordAlignment)
  | viseme (visemes : List VisemeEvent)
  | usage
  | interrupted
  | completed
deriving DecidableEq

inductive TtsErrorKind where
  | cancelled
  | invalidState
  | invalidRequest
  | authentication
  | quotaExceeded
  | rateLimited
  | timeout
  | unavailable
  | protocol
  | transport
deriving DecidableEq

/-- `Duration`, in nanoseconds. -/
structure Duration where
  nanos : Nat
deriving DecidableEq

def Duration.fromMillis (millis : Nat) : Duration := ⟨millis * 1000000⟩

structure TtsError where
  kind : TtsErrorKind
  code : String
  retryable : Bool
  retryAfter : Option Duration
deriving DecidableEq

inductive ProviderErrorKind where
  | cancelled
  | timeout
  | rateLimited
  | authentication
  | invalidRequest
  | unavailable
  | protocol
  | internal
deriving DecidableEq

structure ProviderError where
  providerId : String
  kind : ProviderErrorKind
  message : String
  retryable : Bool
  retryAfter : Option Duration
deriving DecidableEq

structure AudioChunk where
  sequence : Nat
  sampleRateHz : Nat
  channels : Nat
  pcmS16le : List UInt8
  endOfStream : Bool
deriving DecidableEq

structure AlignmentEvent where
  textOffset : Nat
  textLength : Nat
  audioOffset : Duration
  audioDuration : Option Duration
  viseme : Option String
  symbolKind : Option TimingSymbolKind
  symbolProviderId : Option String
  symbolModelId : Option String
deriving DecidableEq

inductive SpeechStreamItem where
  | audio (chunk : AudioChunk)
  | alignment (event : AlignmentEvent)
deriving DecidableEq

def maxPendingTimingEvents : Nat := 32768

def bridgeError (providerId : String) (kind : ProviderErrorKind) (code : String)
    (retryable : Bool) : ProviderError :=
  ⟨providerId, kind, code, retryable, none⟩

def ProviderError.cancelled (providerId : String) : ProviderError :=
  ⟨providerId, .cancelled, "request cancelled", true, none⟩

def mapUpstreamError (trustedProviderId : String) (error : TtsError) : ProviderError :=
  let kind := match error.kind with
    | .cancelled => ProviderErrorKind.cancelled
    | .invalidState | .invalidRequest => .invalidRequest
    | .authentication => .authentication
    | .quotaExceeded | .rateLimited => .rateLimited
    | .timeout => .timeout
    | .unavailable | .transport => .unavailable
    | .protocol => .protocol
  ⟨trustedProviderId, kind, error.code, error.retryable, error.retryAfter⟩

def validatePcmChunk (providerId : String) (chunk : PcmChunk) (expectedSequence : Nat)
    (expectedOutput : AudioFormat) : Except ProviderError Unit :=
  if chunk.sequence ≠ expectedSequence then
    .error (bridgeError providerId .protocol "audio_sequence_discontinuity" false)
  else if chunk.format ≠ expectedOutput then
    .error (bridgeError providerId .protocol "unexpected_audio_format" false)
  else if chunk.data = [] ∨ ¬ 2 ∣ chunk.data.length then
    .error (bridgeError providerId .protocol "invalid_pcm_payload" false)
  else .ok ()

def coreAudio (chunk : PcmChunk) (sequence : Nat) (endOfStream : Bool) : AudioChunk :=
  ⟨sequence, chunk.format.sampleRateHz, chunk.format.channels, chunk.data, endOfStream⟩

/-- Whether any whole sample is not zero. -/
def hasNonSilent : List UInt8 → Bool
  | low :: high :: rest => ofLittleEndian [low, high] != 0 || hasNonSilent rest
  | _ => false

/-- What the stream is made for. -/
structure StreamConfig where
  providerId : String
  configModelId : String
  expectedOutput : AudioFormat
deriving DecidableEq

structure StreamState where
  expectedSequence : Nat
  pendingAudio : Option PcmChunk
  pendingMetadata : List SpeechStreamItem
  nextCoreSequence : Nat
  audioStarted : Bool
  hasNonSilentSample : Bool
deriving DecidableEq

def StreamState.initial : StreamState := ⟨0, none, [], 1, false, false⟩

/-- What the provider hands over next. -/
abbrev Upstream := Except TtsError TtsEvent

/-- What the stream yields. -/
abbrev Yielded := Except ProviderError SpeechStreamItem

def wordItem (word : WordAlignment) : SpeechStreamItem :=
  .alignment ⟨word.sourceTextStart.getD 0, word.sourceTextLength.getD word.word.utf8ByteSize,
    .fromMillis word.startMs, none, none, none, none, none⟩

def visemeItem (config : StreamConfig) (viseme : VisemeEvent) : SpeechStreamItem :=
  .alignment ⟨0, 0, .fromMillis viseme.startMs, some (.fromMillis viseme.durationMs),
    some viseme.symbol, some viseme.symbolKind, some config.providerId, some config.configModelId⟩

namespace StreamState

/-- Audio goes out. The timing that waits goes before the first one. -/
def emitAudio (chunk : PcmChunk) (state : StreamState) : List SpeechStreamItem × StreamState :=
  let metadata := if state.audioStarted then [] else state.pendingMetadata
  (metadata ++ [.audio (coreAudio chunk state.nextCoreSequence false)],
    { state with
      pendingMetadata := if state.audioStarted then state.pendingMetadata else []
      nextCoreSequence := satAdd state.nextCoreSequence 1
      audioStarted := true })

/-- The first part of an `Audio` event: what was held back is followed by more. -/
def releasePrevious (state : StreamState) : List SpeechStreamItem × StreamState :=
  match state.pendingAudio with
  | none => ([], state)
  | some previous => { state with pendingAudio := none }.emitAudio previous

/-- The second part: the last frame of the chunk is held back. -/
def holdTail (chunk : PcmChunk) (state : StreamState) : List SpeechStreamItem × StreamState :=
  let frameBytes := chunk.format.channels * 2
  if chunk.data.length > frameBytes then
    let head := { chunk with data := chunk.data.take (chunk.data.length - frameBytes) }
    let tail := { chunk with data := chunk.data.drop (chunk.data.length - frameBytes) }
    { state with pendingAudio := some tail }.emitAudio head
  else ([], { state with pendingAudio := some chunk })

/-- The last part: the timing that waits. -/
def releaseMetadata (state : StreamState) : List SpeechStreamItem × StreamState :=
  if state.audioStarted then (state.pendingMetadata, { state with pendingMetadata := [] })
  else ([], state)

/-- An accepted `Audio` event. -/
def onAudio (chunk : PcmChunk) (state : StreamState) : List SpeechStreamItem × StreamState :=
  let accepted := { state with
    expectedSequence := satAdd state.expectedSequence 1
    hasNonSilentSample := state.hasNonSilentSample || hasNonSilent chunk.data }
  let previous := accepted.releasePrevious
  let held := previous.2.holdTail chunk
  let last := held.2.releaseMetadata
  (previous.1 ++ held.1 ++ last.1, last.2)

/-- Timing, of words or of visemes. -/
def onTiming (config : StreamConfig) (items : List SpeechStreamItem) (state : StreamState) :
    List Yielded × Option StreamState :=
  if state.audioStarted then (items.map .ok, some state)
  else if state.pendingMetadata.length + items.length > maxPendingTimingEvents then
    ([.error (bridgeError config.providerId .protocol "pending_timing_events_exceeded" false)],
      none)
  else ([], some { state with pendingMetadata := state.pendingMetadata ++ items })

def onCompleted (config : StreamConfig) (state : StreamState) :
    List Yielded × Option StreamState :=
  match state.pendingAudio with
  | none =>
    ([.error (bridgeError config.providerId .protocol "empty_audio_stream" false)], none)
  | some last =>
    if state.hasNonSilentSample = false then
      ([.error (bridgeError config.providerId .protocol "silent_audio_stream" false)], none)
    else
      ((state.pendingMetadata ++
        [SpeechStreamItem.audio (coreAudio last state.nextCoreSequence true)]).map .ok,
        none)

/-- One round of the loop. There is no state after the last one. -/
def onEvent (config : StreamConfig) (event : Upstream) (state : StreamState) :
    List Yielded × Option StreamState :=
  match event with
  | .error error => ([.error (mapUpstreamError config.providerId error)], none)
  | .ok (.audio chunk) =>
    match validatePcmChunk config.providerId chunk state.expectedSequence
        config.expectedOutput with
    | .error error => ([.error error], none)
    | .ok () => ((state.onAudio chunk).1.map .ok, some (state.onAudio chunk).2)
  | .ok (.alignment words) => state.onTiming config (words.map wordItem)
  | .ok (.viseme visemes) => state.onTiming config (visemes.map (visemeItem config))
  | .ok .usage => ([], some state)
  | .ok .interrupted => ([.error (.cancelled config.providerId)], none)
  | .ok .completed => state.onCompleted config

/-- The loop, from a state. -/
def streamFrom (config : StreamConfig) : List Upstream → StreamState → List Yielded
  | [], _ => [.error (bridgeError config.providerId .protocol "missing_completed_event" false)]
  | event :: events, state =>
    match state.onEvent config event with
    | (items, some next) => items ++ streamFrom config events next
    | (items, none) => items

end StreamState

/-- `validated_stream`: what is yielded for these events, after which there are none. -/
def validatedStream (config : StreamConfig) (events : List Upstream) : List Yielded :=
  StreamState.streamFrom config events .initial

end NpcRuntime.Speech
