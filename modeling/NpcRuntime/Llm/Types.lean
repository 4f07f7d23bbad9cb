import NpcRuntime.Lib.Json
import NpcRuntime.Lib.Saturating

/-!
# Events of a language model

`LlmEvent` and what it carries (`providers-llm/src/types.rs`, `error.rs`), and the frames of
`sse.rs` that the events are read from.
-/

namespace NpcRuntime.Llm

open Json

inductive ProviderProtocol where
  | openAiResponses | anthropicMessages | geminiGenerateContent | openAiChatCompletions
  | cohereChat | nvidiaNimChat
deriving DecidableEq

inductive ErrorKind where
  | cancelled | timeout | authentication | rateLimited | invalidRequest | unavailable | protocol
  | secretUnavailable | pollingRequired | internal
deriving DecidableEq

structure ProviderError where
  providerId : Text
  kind : ErrorKind
  message : String
  retryable : Bool
  /-- In nanoseconds. -/
  retryAfter : Option Nat
  httpStatus : Option Nat
  requestId : Option Text
deriving DecidableEq

namespace ProviderError

def new (providerId : Text) (kind : ErrorKind) (message : String) : ProviderError where
  providerId := providerId
  kind := kind
  message := message
  retryable := kind = .cancelled || kind = .timeout || kind = .rateLimited || kind = .unavailable
  retryAfter := none
  httpStatus := none
  requestId := none

def cancelled (providerId : Text) : ProviderError := new providerId .cancelled "request cancelled"

def protocol (providerId : Text) (message : String) : ProviderError :=
  new providerId .protocol message

end ProviderError

structure TokenUsage where
  inputTokens : Nat
  outputTokens : Nat
  cachedInputTokens : Nat
  totalTokens : Nat
deriving DecidableEq

inductive FinishReason where
  | endTurn | maximumTokens | toolUse | stopSequence | safety | cancelled
  | other (reason : Text)
deriving DecidableEq

inductive LlmEvent where
  | started (requestId : Option Text)
  | textDelta (text : Text) (contentIndex : Nat)
  | toolCallStarted (index : Nat) (id name : Text)
  | toolCallDelta (index : Nat) (argumentsFragment : Text)
  | toolCallCompleted (index : Nat) (id name : Text) (arguments : Value)
  | usage (usage : TokenUsage)
  | finished (reason : FinishReason) (providerReason : Text)
  | error (error : ProviderError)
deriving DecidableEq

def LlmEvent.terminal : LlmEvent → Bool
  | .finished _ _ | .error _ => true
  | _ => false

structure SseFrame where
  event : Option Text
  data : Text
deriving DecidableEq

end NpcRuntime.Llm
