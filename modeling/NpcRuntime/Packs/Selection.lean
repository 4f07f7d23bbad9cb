import NpcRuntime.Packs.Manifest

/-!
# Selection of a pack

The authorization of `model-manager/src/selection.rs`: a pack is installed only on a selection made
for its very manifest, and activated only when the selection says so.
-/

namespace NpcRuntime.Packs

def apiFirstSelectionPolicyV1 : Text := "npc.model-selection/api-first-v1".toList
def measuredLocalSelectionPolicyV1 : Text := "npc.model-selection/measured-local-v1".toList

structure PackSelectionAuthorizationV1 where
  policy : Text
  identity : PackRevision
  manifestSha256 : Sha256Digest
  kind : ModelPackKindV1
  scope : ModelPackScopeV1
  selectionId : Text
  selectedUnixSeconds : Nat
  activationAllowed : Bool
  fitEvidenceSha256 : Option Sha256Digest
deriving DecidableEq

inductive PackSelectionError where
  | manifest (error : ManifestError)
  | localInferenceKindBlocked (kind : ModelPackKindV1)
  | genericLipSyncRequired
  | genericPackRequired
  | incompleteLoadoutFitEvidence
  | invalidSelectionId
  | authorizationMismatch
  | authorizationOutsideApiFirstPolicy
  | activationNotAuthorized
deriving DecidableEq

def validatePolicyScopeAndKind (policy : Text) (kind : ModelPackKindV1)
    (scope : ModelPackScopeV1) : Except PackSelectionError Unit :=
  if policy = apiFirstSelectionPolicyV1 then do
    require (scope == .generic) .genericLipSyncRequired
    require (kind == .lipSync) .authorizationOutsideApiFirstPolicy
  else if policy = measuredLocalSelectionPolicyV1 then do
    require (scope == .generic) .genericPackRequired
    require (kind == .languageModel || kind == .speechRecognition || kind == .speechSynthesis ||
      kind == .embedding || kind == .vision || kind == .lipSync) (.localInferenceKindBlocked kind)
  else .error .authorizationMismatch

def validateSelectionId (value : Text) : Except PackSelectionError Unit :=
  require (isToken value 8 128) .invalidSelectionId

namespace PackSelectionAuthorizationV1

def validateForManifest (codec : Codec) (selection : PackSelectionAuthorizationV1)
    (manifest : ModelPackManifestV1) : Except PackSelectionError Unit := do
  require (selection.identity == manifest.identity) .authorizationMismatch
  let digest ← (manifest.digest codec).mapError .manifest
  require (selection.manifestSha256 == digest && selection.kind == manifest.capability.kind &&
    selection.scope == manifest.capability.scope) .authorizationMismatch
  validatePolicyScopeAndKind selection.policy selection.kind selection.scope
  validateSelectionId selection.selectionId
  require (!(selection.policy == measuredLocalSelectionPolicyV1 && selection.activationAllowed &&
    selection.fitEvidenceSha256.isNone)) .incompleteLoadoutFitEvidence

end PackSelectionAuthorizationV1

end NpcRuntime.Packs
