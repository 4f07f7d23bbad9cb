import NpcRuntime.Lib.Double

/-!
# The contract of the recognizers

The events and errors of `providers-stt/src/contract.rs` and `error.rs`, and the frames of a
provider's socket. The text of a frame is the JSON document in it.
-/

namespace NpcRuntime.Recognition

open Json

inductive TranscriptStatus where
  | partialText
  | eagerFinal
  | final
deriving DecidableEq

inductive TurnEndReason where
  | providerEndpoint
  | manualFlush
deriving DecidableEq

inductive FlushReason where
  | pushToTalkReleased
  | manualStop
  | maximumDuration
deriving DecidableEq

structure TranscriptEvent where
  turnId : Text
  revision : UInt64
  text : Text
  status : TranscriptStatus
  language : Option Text
  confidence : Option F32
  audioStartMs : Option Nat
  audioEndMs : Option Nat
deriving DecidableEq

inductive RecognitionEvent where
  | sessionStarted (providerSessionId : Option Text)
  | turnStarted (turnId : Text)
  | transcript (event : TranscriptEvent)
  | turnResumed (turnId : Text) (revision : UInt64)
  | turnEnded (turnId : Text) (revision : UInt64) (reason : TurnEndReason)
  | warning (code message : Text)
  | cancelled
deriving DecidableEq

/-! ## Errors -/

inductive SttErrorKind where
  | cancelled
  | timeout
  | authentication
  | rateLimited
  | quotaExceeded
  | invalidRequest
  | privacyPolicy
  | unavailable
  | protocol
deriving DecidableEq

structure SttError where
  providerId : String
  kind : SttErrorKind
  message : String
  retryable : Bool
  providerCode : Option Text
deriving DecidableEq

def codeChar (c : Char) : Bool := c.isAlphanum || c = '_' || c = '-'

def sanitizeCode (value : Text) : Text := (value.filter codeChar).take 64

namespace SttError

def new (providerId : String) (kind : SttErrorKind) (message : String) (retryable : Bool)
    (providerCode : Option Text) : SttError :=
  ⟨providerId, kind, message, retryable, providerCode.map sanitizeCode⟩

def invalidRequest (message : String) : SttError := new "stt" .invalidRequest message false none

def cancelled (providerId : String) : SttError :=
  new providerId .cancelled "recognition session was cancelled" false none

def timeout (providerId phase : String) : SttError := new providerId .timeout phase true none

def protocol (providerId : String) (code : String) : SttError :=
  new providerId .protocol "provider returned an invalid protocol message" false
    (some code.toList)

def transport (providerId : String) : SttError :=
  new providerId .unavailable "streaming transport is unavailable" true none

end SttError

/-! ## Frames -/

inductive ClientFrame where
  | text (json : Value)
  | binary (bytes : List UInt8)
  | close
deriving DecidableEq

inductive ServerFrame where
  /-- A text, unless it is no JSON. -/
  | text (json : Option Value)
  | binary (bytes : List UInt8)
  | closed
deriving DecidableEq

structure WireTranscript where
  turnId : Text
  text : Text
  status : TranscriptStatus
  language : Option Text := none
  confidence : Option F32 := none
  audioStartMs : Option Nat := none
  audioEndMs : Option Nat := none
deriving DecidableEq

/-- What a provider's frame says. -/
inductive WireEvent where
  | sessionStarted (providerSessionId : Option Text)
  | turnStarted (turnId : Text)
  | transcript (transcript : WireTranscript)
  | turnResumed (turnId : Text)
  | turnEnded (turnId : Text) (reason : TurnEndReason)
  | warning (code message : Text)
deriving DecidableEq

end NpcRuntime.Recognition
