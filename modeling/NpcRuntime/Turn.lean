import NpcRuntime.Lib.Text
import NpcRuntime.Provider

/-!
# Turns

The identity of a turn and the request that starts it, from `runtime-core/src/types.rs`. A request's
character hint and metadata reach the providers and decide nothing here.
-/

namespace NpcRuntime

structure TurnIdentity where
  sessionId : String
  turnId : String
  cancellationGeneration : Nat
deriving DecidableEq

/-- `Display`. -/
def TurnIdentity.display (identity : TurnIdentity) : String :=
  identity.sessionId ++ "/" ++ identity.turnId ++ "@" ++ toString identity.cancellationGeneration

structure TurnRequest where
  sessionId : String
  turnId : String
  transcript : String
  gameId : String
  locale : String
  executionMode : ExecutionMode
  networkPolicy : NetworkPolicy
  authorizedCloudProviders : List String := []
  allowProviderFallback : Bool
  allowLocalToCloudFallback : Bool
  allowRetainingProviders : Bool
deriving DecidableEq

inductive ValidationError where
  | missing (field : String)
deriving DecidableEq

/-- A required field: `value.trim().is_empty()` is refused. -/
def requireField (value field : String) : Except ValidationError Unit :=
  if Text.isBlank value.toList then .error (.missing field) else .ok ()

def TurnRequest.validate (request : TurnRequest) : Except ValidationError Unit := do
  requireField request.sessionId "session_id"
  requireField request.turnId "turn_id"
  requireField request.transcript "transcript"
  requireField request.gameId "game_id"
  requireField request.locale "locale"

end NpcRuntime
