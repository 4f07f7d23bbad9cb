import Mathlib.Init

/-!
# Providers

The provider vocabulary of `runtime-core/src/types.rs`: where a provider runs, what it is for and
whether it may keep what it is sent. Its display name, its list of transmitted data classes and
its capability table are presentation data that no decision reads.
-/

namespace NpcRuntime

inductive ExecutionMode where
  | cloud
  | hybrid
  | fullyLocal
deriving DecidableEq

inductive NetworkPolicy where
  | online
  | offline
deriving DecidableEq

inductive ProviderModality where
  | recognition
  | languageModel
  | effects
  | speech
deriving DecidableEq

inductive ProviderLocation where
  | local
  | cloud (service : String)
  | externalLocalServer
deriving DecidableEq

def ProviderLocation.isNetworked : ProviderLocation → Bool
  | .cloud _ => true
  | _ => false

def ProviderLocation.isLocal (l : ProviderLocation) : Bool := !l.isNetworked

/-- The part of `ProviderDescriptor` that admission reads. -/
structure ProviderDescriptor where
  id : String
  modality : ProviderModality
  location : ProviderLocation
  mayRetainData : Bool
deriving DecidableEq

end NpcRuntime
