import NpcRuntime.Packs.Manifest

/-!
# Self-test attestations

`model-manager/src/attestation.rs`: the challenge a staged pack is tested under, and the signed
answer of the runner.
-/

namespace NpcRuntime.Packs

open Text

def selfTestAttestationSchemaV1 : Text := "npc.self-test-attestation/v1".toList
def selfTestChallengeSchemaV1 : Text := "npc.self-test-challenge/v1".toList
def maxSelfTestAttestationLifetimeSeconds : Nat := 15 * 60

inductive CatalogTrustDomainV1 where
  | releaseThreshold
  | localReviewDevOnly
deriving DecidableEq

structure CatalogInstallBindingV1 where
  catalogPayloadSha256 : Sha256Digest
  catalogVersion : Nat
  trustDomain : CatalogTrustDomainV1
deriving DecidableEq

structure StagedContentBindingV1 where
  identity : PackRevision
  transactionId : Text
  manifestSha256 : Sha256Digest
  contentTreeSha256 : Sha256Digest
  fileCount : Nat
  totalFileBytes : Nat
deriving DecidableEq

structure SelfTestChallengeV1 where
  schema : Text
  identity : PackRevision
  manifestSha256 : Sha256Digest
  catalog : CatalogInstallBindingV1
  staged : StagedContentBindingV1
  runtimeAbi : Text
  runtimeBackend : Text
  testSuiteId : Text
  testSuiteRevision : Text
  nonce : Text
  issuedUnixSeconds : Nat
  expiresUnixSeconds : Nat
deriving DecidableEq

structure AttestedSelfTestOutcomeV1 where
  passed : Bool
  durationMillis : Nat
  outputSha256 : Option Sha256Digest
  diagnosticCode : Option Text
deriving DecidableEq

structure SelfTestAttestationPayloadV1 where
  schema : Text
  challenge : SelfTestChallengeV1
  runnerId : Text
  outcome : AttestedSelfTestOutcomeV1
deriving DecidableEq

structure AttestationProofV1 where
  algorithm : Text
  value : Text
deriving DecidableEq

structure SelfTestAttestationV1 where
  signed : SelfTestAttestationPayloadV1
  proof : AttestationProofV1
deriving DecidableEq

structure VerifiedRunnerIdentity where
  runnerId : Text
  trustRevision : Text
deriving DecidableEq

inductive AttestationVerificationError where
  | unknownRunner
  | invalidProof
  | unsupportedAlgorithm
  | verifierFailure (message : Text)
deriving DecidableEq

/-- `SelfTestAttestationVerifier::verify`. -/
abbrev SelfTestAttestationVerifier :=
  Text → AttestationProofV1 → Bytes → Except AttestationVerificationError VerifiedRunnerIdentity

inductive AttestationError where
  | unsupportedChallengeSchema (schema : Text)
  | invalidNonce
  | invalidLifetime
  | invalidToken (label : String)
  | random (message : Text)
deriving DecidableEq

/-- A token of this file: colons are allowed too. -/
def validateAttestationToken (label : String) (value : Text) (maximum : Nat) :
    Except AttestationError Unit :=
  require (value != [] && decide (utf8Len value ≤ maximum) &&
      value.all fun c => c.isAlphanum || c == '.' || c == '-' || c == '_' || c == ':')
    (.invalidToken label)

def validateChallenge (challenge : SelfTestChallengeV1) : Except AttestationError Unit := do
  require (challenge.schema == selfTestChallengeSchemaV1)
    (.unsupportedChallengeSchema challenge.schema)
  require (utf8Len challenge.nonce == 64 &&
      challenge.nonce.all fun c => c.isDigit || (decide ('a' ≤ c) && decide (c ≤ 'f')))
    .invalidNonce
  require (decide (challenge.issuedUnixSeconds < challenge.expiresUnixSeconds) &&
      decide (challenge.expiresUnixSeconds - challenge.issuedUnixSeconds ≤
        maxSelfTestAttestationLifetimeSeconds)) .invalidLifetime
  validateAttestationToken "runtime backend" challenge.runtimeBackend 128
  validateAttestationToken "test suite id" challenge.testSuiteId 128
  validateAttestationToken "test suite revision" challenge.testSuiteRevision 128

end NpcRuntime.Packs
