import Mathlib.Data.List.Infix
import NpcRuntime.Lib.Table
import NpcRuntime.Recognition.Types

/-!
# The protocols of the recognition providers

What the sessions of `providers/openai.rs`, `deepgram.rs` and `assemblyai.rs` send, and what they
read off the frames of the provider. `base64` is the standard encoder of another crate.
-/

namespace NpcRuntime.Recognition

open Json

/-- The session of a provider, with the state that its parser keeps. -/
inductive ProviderSession where
  | openAi (accumulated : Table Text Text) (interimResults : Bool)
  | deepgram (interimResults : Bool)
  | assemblyAi (interimResults : Bool)

/-! ## Values -/

def jsonObject (members : List (String × Value)) : Value :=
  .object (members.map fun member => (member.1.toList, member.2))

/-- `value.get(key).and_then(Value::as_str)`. -/
def stringAt (value : Value) (key : String) : Option Text := (value.get key).bind Value.asStr

/-- `Value::as_f64`. -/
def asF64 : Value → Option ℚ
  | .number (.posInt n) => some (round64 n)
  | .number (.negInt n) => some (round64 (-n))
  | .number (.float q) => some q
  | _ => none

/-- `as f32` of the number at a key. -/
def confidenceAt (value : Value) (key : String) : Option F32 :=
  ((value.get key).bind asF64).map F32.ofRat

def secondsToMs (value : Option ℚ) : Option Nat :=
  (value.filter (0 ≤ ·)).map fun value => min (llround (round64 (value * 1000))).toNat (2 ^ 64 - 1)

def jsonFrame (providerId : String) : ServerFrame → Except SttError Value
  | .text (some value) => .ok value
  | .text none => .error (.protocol providerId "invalid_json")
  | _ => .error (.protocol providerId "unexpected_binary")

def safeWarning (code : Text) (message : String) : WireEvent :=
  .warning (sanitizeCode code) message.toList

/-- The turn at an index, `turn-{index}`. -/
def turnOfIndex (index : Nat) : Text := "turn-".toList ++ Nat.toDigits 10 index

/-- The words of a provider's code decide what kind of error it is. -/
def errorOfCode (providerId : String) (code : Text) :
    List (List String × SttErrorKind × String × Bool) → SttError
  | [] => .new providerId .unavailable "provider recognition service failed" true (some code)
  | (words, kind, message, retryable) :: rules =>
    if words.any fun word => word.toList <:+: code.map Char.toLower then
      .new providerId kind message retryable (some code)
    else errorOfCode providerId code rules

/-! ## OpenAI -/

def openAiId : String := "openai-realtime-transcription"

def itemId (value : Value) : Except SttError Text :=
  match stringAt value "item_id" with
  | some turnId => .ok turnId
  | none => .error (.protocol openAiId "missing_item_id")

def openAiError (value : Value) : SttError :=
  let error := (value.get "error").getD value
  let code := (((error.get "code").or (error.get "type")).bind Value.asStr).getD "error".toList
  errorOfCode openAiId code [
    (["auth", "api_key"], .authentication, "provider authentication failed", false),
    (["rate"], .rateLimited, "provider rate limit was reached", true),
    (["quota"], .quotaExceeded, "provider quota was exhausted", false),
    (["invalid"], .invalidRequest, "provider rejected the recognition request", false)]

def openAiDelta (accumulated : Table Text Text) (interimResults : Bool) (value : Value) :
    Except SttError (List WireEvent × Table Text Text) := do
  let turnId ← itemId value
  let delta := (stringAt value "delta").getD []
  let complete := (accumulated.lookup turnId).getD [] ++ delta
  let accumulated := accumulated.insert turnId complete
  if !interimResults || delta.isEmpty then return ([], accumulated)
  else return ([.transcript { turnId, text := complete, status := .partialText }], accumulated)

def openAiCompleted (accumulated : Table Text Text) (value : Value) :
    Except SttError (List WireEvent × Table Text Text) := do
  let turnId ← itemId value
  let text := ((stringAt value "transcript").or (accumulated.lookup turnId)).getD []
  let final : WireTranscript := {
    turnId, text
    status := .final
    language := stringAt value "language" }
  return ([.transcript final, .turnEnded turnId .providerEndpoint], accumulated.erase turnId)

def openAiParse (accumulated : Table Text Text) (interimResults : Bool) (frame : ServerFrame) :
    Except SttError (List WireEvent × Table Text Text) := do
  let value ← jsonFrame openAiId frame
  let eventType := (stringAt value "type").getD []
  let isOneOf (types : List String) : Bool := types.any fun type => type.toList = eventType
  if isOneOf ["transcription_session.created", "session.created"] then
    return ([.sessionStarted ((value.get "session").bind fun session => stringAt session "id")],
      accumulated)
  else if isOneOf ["transcription_session.updated", "session.updated"] then
    return ([], accumulated)
  else if isOneOf ["input_audio_buffer.speech_started"] then do
    let turnId ← itemId value
    return ([.turnStarted turnId], accumulated)
  else if isOneOf ["input_audio_buffer.speech_stopped", "input_audio_buffer.committed",
      "input_audio_buffer.cleared"] then
    return ([], accumulated)
  else if isOneOf ["conversation.item.input_audio_transcription.delta"] then
    openAiDelta accumulated interimResults value
  else if isOneOf ["conversation.item.input_audio_transcription.completed"] then
    openAiCompleted accumulated value
  else if isOneOf ["conversation.item.input_audio_transcription.failed"] then
    .error (.new openAiId .unavailable "provider transcription failed" true
      ((value.get "error").bind fun error => stringAt error "code"))
  else if isOneOf ["error"] then .error (openAiError value)
  else if isOneOf ["warning"] then
    return ([safeWarning ((stringAt value "code").getD "warning".toList)
      "OpenAI reported a non-fatal recognition warning"], accumulated)
  else .error (.protocol openAiId "unknown_event")

/-! ## Deepgram -/

def deepgramId : String := "deepgram-flux"

def deepgramError (value : Value) : SttError :=
  errorOfCode deepgramId ((stringAt value "code").getD "error".toList) [
    (["auth"], .authentication, "provider authentication failed", false),
    (["rate"], .rateLimited, "provider rate limit was reached", true),
    (["invalid", "bad_request"], .invalidRequest, "provider rejected the recognition request",
      false)]

def deepgramTranscript (value : Value) (turnId transcript : Text) (status : TranscriptStatus) :
    WireTranscript where
  turnId := turnId
  text := transcript
  status := status
  language := (((value.get "languages").bind Value.asArray).bind List.head?).bind Value.asStr
  confidence := confidenceAt value "end_of_turn_confidence"
  audioStartMs := secondsToMs ((value.get "audio_window_start").bind asF64)
  audioEndMs := secondsToMs ((value.get "audio_window_end").bind asF64)

def deepgramTurn (interimResults : Bool) (value : Value) : Except SttError (List WireEvent) :=
  match (value.get "turn_index").bind Value.asU64 with
  | none => .error (.protocol deepgramId "missing_turn")
  | some index =>
    let event := (stringAt value "event").getD []
    let turnId := turnOfIndex index
    let transcript := (stringAt value "transcript").getD []
    if event = "StartOfTurn".toList then .ok [.turnStarted turnId]
    else if event = "TurnResumed".toList then .ok [.turnResumed turnId]
    else if event = "Update".toList then
      if !interimResults || transcript.isEmpty then .ok []
      else .ok [.transcript (deepgramTranscript value turnId transcript .partialText)]
    else if event = "EagerEndOfTurn".toList then
      .ok [.transcript (deepgramTranscript value turnId transcript .eagerFinal)]
    else if event = "EndOfTurn".toList then
      .ok [.transcript (deepgramTranscript value turnId transcript .final),
        .turnEnded turnId .providerEndpoint]
    else .error (.protocol deepgramId "unknown_turn_event")

def deepgramParse (interimResults : Bool) (frame : ServerFrame) :
    Except SttError (List WireEvent) := do
  let value ← jsonFrame deepgramId frame
  let eventType := (stringAt value "type").getD []
  if eventType = "Connected".toList then
    return [.sessionStarted (stringAt value "request_id")]
  else if eventType = "TurnInfo".toList then deepgramTurn interimResults value
  else if eventType = "ConfigureSuccess".toList then return []
  else if eventType = "ConfigureFailure".toList then
    .error (.new deepgramId .invalidRequest
      "provider rejected dynamic recognition configuration" false
      (some "configure_failure".toList))
  else if eventType = "Error".toList then .error (deepgramError value)
  else if eventType = "Warning".toList then
    return [safeWarning ((stringAt value "code").getD "warning".toList)
      "Deepgram reported a non-fatal recognition warning"]
  else .error (.protocol deepgramId "unknown_event")

/-! ## AssemblyAI -/

def assemblyAiId : String := "assemblyai"

def assemblyError (value : Value) : SttError :=
  let code := (((value.get "code").or (value.get "error")).bind Value.asStr).getD "error".toList
  errorOfCode assemblyAiId code [
    (["auth"], .authentication, "provider authentication failed", false),
    (["rate"], .rateLimited, "provider rate limit was reached", true),
    (["quota"], .quotaExceeded, "provider quota was exhausted", false)]

def assemblyTranscript (value : Value) (turnId transcript : Text) (status : TranscriptStatus) :
    WireTranscript where
  turnId := turnId
  text := transcript
  status := status
  language := stringAt value "language_code"
  confidence := confidenceAt value "end_of_turn_confidence"

def assemblyTurn (interimResults : Bool) (value : Value) : Except SttError (List WireEvent) :=
  match (value.get "turn_order").bind Value.asU64 with
  | none => .error (.protocol assemblyAiId "missing_turn")
  | some order =>
    let turnId := turnOfIndex order
    let transcript := (stringAt value "transcript").getD []
    if transcript.isEmpty then .ok []
    else
      let endOfTurn := ((value.get "end_of_turn").bind Value.asBool).getD false
      let eager := !endOfTurn && (stringAt value "utterance").any fun utterance => !utterance.isEmpty
      if !interimResults && !endOfTurn && !eager then .ok []
      else if endOfTurn then
        .ok [.transcript (assemblyTranscript value turnId transcript .final),
          .turnEnded turnId .providerEndpoint]
      else
        .ok [.transcript (assemblyTranscript value turnId transcript
          (if eager then .eagerFinal else .partialText))]

def assemblyParse (interimResults : Bool) (frame : ServerFrame) :
    Except SttError (List WireEvent) := do
  let value ← jsonFrame assemblyAiId frame
  let eventType := (stringAt value "type").getD []
  if eventType = "Begin".toList then return [.sessionStarted (stringAt value "id")]
  else if eventType = "SpeechStarted".toList then return []
  else if eventType = "Turn".toList then assemblyTurn interimResults value
  else if eventType = "Termination".toList then return []
  else if eventType = "Warning".toList then
    return [safeWarning ((stringAt value "code").getD "warning".toList)
      "AssemblyAI reported a non-fatal recognition warning"]
  else if eventType = "Error".toList then .error (assemblyError value)
  else .error (.protocol assemblyAiId "unknown_event")

/-! ## Any provider -/

namespace ProviderSession

def providerId : ProviderSession → String
  | .openAi .. => openAiId
  | .deepgram _ => deepgramId
  | .assemblyAi _ => assemblyAiId

def audioFrame (base64 : List UInt8 → Text) (audio : List UInt8) : ProviderSession → ClientFrame
  | .openAi .. => .text (jsonObject [("type", .string "input_audio_buffer.append".toList),
      ("audio", .string (base64 audio))])
  | .deepgram _ | .assemblyAi _ => .binary audio

/-- No provider is told the reason. -/
def flushFrame (_reason : FlushReason) : ProviderSession → ClientFrame
  | .openAi .. => .text (jsonObject [("type", .string "input_audio_buffer.commit".toList)])
  | .deepgram _ => .text (jsonObject [("type", .string "CloseStream".toList)])
  | .assemblyAi _ => .text (jsonObject [("type", .string "ForceEndpoint".toList)])

def cancelFrame : ProviderSession → ClientFrame
  | .openAi .. => .text (jsonObject [("type", .string "input_audio_buffer.clear".toList)])
  | .deepgram _ => .close
  | .assemblyAi _ => .text (jsonObject [("type", .string "Terminate".toList)])

def closeFrame : ProviderSession → ClientFrame
  | .openAi .. => .close
  | .deepgram _ => .text (jsonObject [("type", .string "CloseStream".toList)])
  | .assemblyAi _ => .text (jsonObject [("type", .string "Terminate".toList)])

/-- The events of a frame, and the session after it. -/
def parseFrame (frame : ServerFrame) :
    ProviderSession → Except SttError (List WireEvent × ProviderSession)
  | .openAi accumulated interimResults =>
    (openAiParse accumulated interimResults frame).map fun parsed =>
      (parsed.1, .openAi parsed.2 interimResults)
  | .deepgram interimResults =>
    (deepgramParse interimResults frame).map fun events => (events, .deepgram interimResults)
  | .assemblyAi interimResults =>
    (assemblyParse interimResults frame).map fun events => (events, .assemblyAi interimResults)

end ProviderSession

end NpcRuntime.Recognition
