import NpcRuntime.Protocol.Messages

/-!
# The IPC envelope

`EnvelopeV1` of `protocol/src/envelope.rs` and its `validate`: version, launch, session, turn and
trace, the clock and the deadline, the sizes, and then the body by its own rules. The sizes are
those of the protobuf encoder, which is a parameter (`Prost`).
-/

namespace NpcRuntime.Protocol

open Text Json

inductive OrderingPolicy where
  | strictContiguous
  | monotonic
deriving DecidableEq

structure HeartbeatV1 where
  uptimeMs : Nat
  component : Text
  state : Text
deriving DecidableEq

structure AckV1 where
  acknowledgedSequence : Nat
  observedCancellationGeneration : Nat
deriving DecidableEq

structure CancelRequestV1 where
  newGeneration : Nat
  reason : Text
deriving DecidableEq

structure ActorSelectedV1 where
  actorId : Option ActorId
  displayName : Text
  explicitUserSelection : Bool
  identityConfidence : Option F32
deriving DecidableEq

inductive ControlOperationV1 where
  | unspecified | ping | doctor | validateProfiles | simulateTurn | cancel | shutdown
  | discoverTtsVoices | transcribeSelectedStt
deriving DecidableEq

/-- The accessor of an enumeration field: a number that names no variant reads as zero. -/
def ControlOperationV1.ofCode (code : Int) : ControlOperationV1 :=
  (variantOf [.unspecified, .ping, .doctor, .validateProfiles, .simulateTurn, .cancel, .shutdown,
    .discoverTtsVoices, .transcribeSelectedStt] code).getD .unspecified

def ControlOperationV1.isTurnBound : ControlOperationV1 → Bool
  | .simulateTurn | .transcribeSelectedStt => true
  | _ => false

structure ControlRequestV1 where
  requestId : Option RequestId
  operation : Int
  payloadJson : List UInt8
deriving DecidableEq

inductive ControlResponseBody where
  | successJson (json : List UInt8)
  | error (error : IpcErrorV1)
deriving DecidableEq

structure ControlResponseV1 where
  requestId : Option RequestId
  requestSequence : Nat
  operation : Int
  body : Option ControlResponseBody
deriving DecidableEq

/-- The effects of a turn are checked elsewhere; here they are the bytes they are encoded to. -/
inductive Body where
  | negotiationHello (hello : NegotiationHelloV1)
  | negotiationAccepted (accepted : NegotiationAcceptedV1)
  | heartbeat (heartbeat : HeartbeatV1)
  | ack (ack : AckV1)
  | cancel (cancel : CancelRequestV1)
  | stt (event : SttEventV1)
  | llm (event : LlmEventV1)
  | tts (event : TtsEventV1)
  | effects (encoded : List UInt8)
  | error (error : IpcErrorV1)
  | actorSelected (selection : ActorSelectedV1)
  | controlRequest (request : ControlRequestV1)
  | controlResponse (response : ControlResponseV1)
deriving DecidableEq

structure EnvelopeV1 where
  protocolVersion : Option ProtocolVersion
  launchNonce : Option LaunchNonce
  sessionId : Option SessionId
  turnId : Option TurnId
  traceId : Option TraceId
  sequence : Nat
  qpcTimestampTicks : Nat
  qpcFrequencyHz : Nat
  deadlineQpcTicks : Nat
  cancellationGeneration : Nat
  declaredBodyBytes : Nat
  body : Option Body
deriving DecidableEq

/-- What the protobuf encoder says about sizes: `encoded_len` of a body and of an envelope. -/
structure Prost where
  bodyLen : Body → Nat
  envelopeLen : EnvelopeV1 → Nat

structure EnvelopeValidationContext where
  acceptedVersions : VersionRange
  expectedLaunchNonce : Option LaunchNonce
  expectedSessionId : Option SessionId
  nowQpcTicks : Nat
  maxBodyBytes : Nat
  maxFrameBytes : Nat
deriving DecidableEq

def EnvelopeValidationContext.permissiveForTime (nowQpcTicks : Nat) : EnvelopeValidationContext :=
  { acceptedVersions := .v1
    expectedLaunchNonce := none
    expectedSessionId := none
    nowQpcTicks
    maxBodyBytes := defaultMaxBodyBytes
    maxFrameBytes := defaultMaxFrameBytes }

inductive EnvelopeValidationError where
  | missingVersion
  | unsupportedVersion (version : ProtocolVersion)
  | missingLaunchNonce
  | invalidLaunchNonce
  | staleLaunch
  | missingSession
  | invalidSession
  | wrongSession
  | missingTurn
  | invalidTurn
  | missingTrace
  | invalidTrace
  | zeroSequence
  | zeroQpcFrequency
  | invalidDeadline
  | deadlineExceeded
  | missingBody
  | malformedBody
  | declaredSizeMismatch (declared actual : Nat)
  | bodyTooLarge (bytes : Nat)
  | frameTooLarge (bytes : Nat)
  | replayOrReorder (last received : Nat)
  | sequenceGap (expected received : Nat)
  | staleCancellationGeneration (highest received : Nat)
deriving DecidableEq

abbrev EnvelopeCheck := Except EnvelopeValidationError Unit

/-- `map_err(|_| MalformedBody)`. -/
def orMalformed {ε α : Type} (result : Except ε α) : EnvelopeCheck :=
  match result with
  | .ok _ => .ok ()
  | .error _ => .error .malformedBody

def ControlRequestV1.validate (request : ControlRequestV1) : EnvelopeCheck := do
  let requestId ← okOr request.requestId .malformedBody
  orMalformed requestId.validate
  require (ControlOperationV1.ofCode request.operation != .unspecified &&
    decide (request.payloadJson.length ≤ defaultMaxBodyBytes / 2)) .malformedBody

def ControlResponseV1.validate (response : ControlResponseV1) : EnvelopeCheck := do
  let requestId ← okOr response.requestId .malformedBody
  orMalformed requestId.validate
  require (response.requestSequence != 0 &&
    ControlOperationV1.ofCode response.operation != .unspecified) .malformedBody
  match ← okOr response.body .malformedBody with
  | .successJson json => require (decide (json.length ≤ defaultMaxBodyBytes / 2)) .malformedBody
  | .error error => orMalformed error.validate

def ActorSelectedV1.validate (selection : ActorSelectedV1) : EnvelopeCheck := do
  let actorId ← okOr selection.actorId .malformedBody
  orMalformed actorId.validate
  require (!isBlank selection.displayName && decide (utf8Len selection.displayName ≤ 256) &&
    selection.identityConfidence.all F32.isUnit) .malformedBody

namespace EnvelopeV1

def bodyPayloadLen (prost : Prost) (envelope : EnvelopeV1) : Except EnvelopeValidationError Nat :=
  (okOr envelope.body .missingBody).map prost.bodyLen

def requiresTurn (envelope : EnvelopeV1) : Bool :=
  match envelope.body with
  | some (.stt _) | some (.llm _) | some (.tts _) | some (.effects _) => true
  | some (.controlRequest request) => (ControlOperationV1.ofCode request.operation).isTurnBound
  | some (.controlResponse response) => (ControlOperationV1.ofCode response.operation).isTurnBound
  | _ => false

def validateBody (envelope : EnvelopeV1) : EnvelopeCheck := do
  match ← okOr envelope.body .missingBody with
  | .negotiationHello hello =>
    match hello.range with
    | .ok remote => orMalformed (negotiate .v1 remote)
    | .error _ => .error .malformedBody
  | .negotiationAccepted accepted => require accepted.selected.isSome .malformedBody
  | .heartbeat heartbeat =>
    require (!heartbeat.component.isEmpty && decide (utf8Len heartbeat.component ≤ 128) &&
      decide (utf8Len heartbeat.state ≤ 128)) .malformedBody
  | .ack ack => require (ack.acknowledgedSequence != 0) .malformedBody
  | .cancel cancel =>
    require (decide (envelope.cancellationGeneration < cancel.newGeneration) &&
      decide (utf8Len cancel.reason ≤ 1024)) .malformedBody
  | .stt event => orMalformed event.validate
  | .llm event => orMalformed event.validate
  | .tts event => orMalformed event.validate
  | .effects _ => return
  | .error error => orMalformed error.validate
  | .actorSelected selection => selection.validate
  | .controlRequest request => request.validate
  | .controlResponse response => response.validate

/-- The launch, session, turn and trace that the envelope names. -/
def validateIdentity (envelope : EnvelopeV1) (context : EnvelopeValidationContext) :
    EnvelopeCheck := do
  let launchNonce ← okOr envelope.launchNonce .missingLaunchNonce
  launchNonce.validate.mapError fun _ => .invalidLaunchNonce
  require (context.expectedLaunchNonce.all (launchNonce == ·)) .staleLaunch
  let sessionId ← okOr envelope.sessionId .missingSession
  sessionId.validate.mapError fun _ => .invalidSession
  require (context.expectedSessionId.all (sessionId == ·)) .wrongSession
  match envelope.turnId with
  | some turnId => turnId.validate.mapError fun _ => .invalidTurn
  | none => require (!envelope.requiresTurn) .missingTurn
  let traceId ← okOr envelope.traceId .missingTrace
  traceId.validate.mapError fun _ => .invalidTrace

def validate (prost : Prost) (envelope : EnvelopeV1) (context : EnvelopeValidationContext) :
    EnvelopeCheck := do
  let version ← okOr envelope.protocolVersion .missingVersion
  require (context.acceptedVersions.contains version) (.unsupportedVersion version)
  envelope.validateIdentity context
  require (envelope.sequence != 0) .zeroSequence
  require (envelope.qpcFrequencyHz != 0) .zeroQpcFrequency
  require (decide (envelope.qpcTimestampTicks < envelope.deadlineQpcTicks)) .invalidDeadline
  require (decide (context.nowQpcTicks ≤ envelope.deadlineQpcTicks)) .deadlineExceeded
  let actual ← envelope.bodyPayloadLen prost
  require (decide (actual ≤ context.maxBodyBytes)) (.bodyTooLarge actual)
  require (envelope.declaredBodyBytes == actual)
    (.declaredSizeMismatch envelope.declaredBodyBytes actual)
  let frameBytes := prost.envelopeLen envelope + 4
  require (decide (frameBytes ≤ context.maxFrameBytes)) (.frameTooLarge frameBytes)
  envelope.validateBody

end EnvelopeV1

end NpcRuntime.Protocol
