import NpcRuntime.Packs.Attestation
import NpcRuntime.Packs.Download
import NpcRuntime.Packs.Selection

/-!
# The pack manager

`ModelPackManager` of `model-manager/src/lifecycle.rs` over any storage. A storage call takes the
state of the storage and returns the next one, also when it fails and also when it only reads, so
that a storage may fail or change at any call. A call of the manager likewise returns the next
manager with its result.

The random nonce of a challenge is an argument.
-/

namespace NpcRuntime.Packs

open Text

inductive InstallPhase where
  | download
  | verification
  | extraction
  | selfTest
  | activation
  | repair
  | removal
  | rollback
deriving DecidableEq

inductive InstallState where
  | downloading
  | verifying
  | staging
  | awaitingSelfTest
  | activating
  | active
  | repairing
  | removing
  | rolledBack
  | quarantined (phase : InstallPhase) (reason : Text) (retryable : Bool)
deriving DecidableEq

structure SelfTestAuthorizationReceiptV1 where
  attestationSha256 : Sha256Digest
  runnerId : Text
  runnerTrustRevision : Text
  nonce : Text
  replayKey : Sha256Digest
  staged : StagedContentBindingV1
  verifiedUnixSeconds : Nat
deriving DecidableEq

structure PackRecord where
  manifest : ModelPackManifestV1
  manifestSha256 : Sha256Digest
  state : InstallState
  downloads : Table Text DownloadJournal
  evidence : Table Text ArtifactEvidence := ∅
  catalog : CatalogInstallBindingV1
  selection : PackSelectionAuthorizationV1
  selfTestAuthorization : Option SelfTestAuthorizationReceiptV1 := none

structure StorageInspection where
  present : Bool
  contentHealthy : Bool
  manifestSha256 : Option Sha256Digest
  contentTreeSha256 : Option Sha256Digest
  artifactEvidence : Table Text ArtifactEvidence

structure StagedPack where
  identity : PackRevision
  transactionId : Text
deriving DecidableEq

structure ActivationAuthorization where
  staged : StagedContentBindingV1
  attestationSha256 : Sha256Digest
  replayKey : Sha256Digest
deriving DecidableEq

structure StorageError where
  message : Text
deriving DecidableEq

/-- A call of a storage with state `σ`. -/
abbrev StorageCall (σ α : Type) := σ → Except StorageError α × σ

structure PackStorage (σ : Type) where
  stage : ModelPackManifestV1 → List ArtifactEvidence → StorageCall σ StagedPack
  stagedContentBinding : StagedPack → StorageCall σ StagedContentBindingV1
  commitInactive : StagedPack → StorageCall σ Unit
  consumeAttestationReplayKey : Sha256Digest → StorageCall σ Bool
  activate : StagedPack → ActivationAuthorization → StorageCall σ Unit
  activateExisting : PackRevision → StorageCall σ Unit
  inspect : PackRevision → StorageCall σ StorageInspection
  removeRevision : PackRevision → StorageCall σ Unit
  addReference : PackId → Text → StorageCall σ Unit
  removeReference : PackId → Text → StorageCall σ Bool
  referenceCount : PackId → StorageCall σ Nat

inductive RemovalPolicy where
  | requireUnreferenced
  | force
deriving DecidableEq

inductive RepairIssue where
  | missingInstallation
  | installedContentMismatch
  | manifestMismatch
  | missingArtifact (id : Text)
  | artifactSizeMismatch (id : Text)
  | artifactDigestMismatch (id : Text)
deriving DecidableEq

structure RepairAssessment where
  healthy : Bool
  issues : List RepairIssue
deriving DecidableEq

inductive ManagerError where
  | manifest (error : ManifestError)
  | licenseAcceptanceRequired
  | invalidCatalogBinding
  | selection (error : PackSelectionError)
  | immutableRevisionChanged (identity : PackRevision)
  | alreadyManaged (identity : PackRevision)
  | unknownRevision
  | unknownArtifact
  | invalidState (state : InstallState)
  | resume (error : ResumeError)
  | incompleteEvidence
  | storageIdentityMismatch
  | missingStagedTransaction
  | selfTestFailed
  | attestation (error : AttestationError)
  | attestationSerialization (error : SerdeError)
  | attestationVerification (error : AttestationVerificationError)
  | unsupportedAttestationSchema (schema : Text)
  | missingSelfTestChallenge
  | attestationChallengeMismatch
  | attestationNotYetValid
  | attestationExpired
  | runnerIdentityMismatch
  | attestationReplay
  | unapprovedSelfTestBackend (backend : Text)
  | invalidSelfTestLifetime
  | stagedContentBindingMismatch
  | stagedContentChangedAfterTest
  | missingSelfTestAuthorization
  | storage (error : StorageError)
  | notActive
  | alreadyActive
  | invalidConsumer
  | packInUse (references : Nat)
  | noRollback
deriving DecidableEq

structure ManagerCodec extends Codec where
  /-- `canonical_attestation_payload_bytes`. -/
  attestationPayload : Encoding SelfTestAttestationPayloadV1
  attestation : Encoding SelfTestAttestationV1
  /-- `serde_json::to_vec` of an identity, a runner id and a nonce. -/
  replayTuple : Encoding (PackRevision × Text × Text)

def attestationReplayKey (codec : ManagerCodec) (identity : PackRevision) (runnerId nonce : Text) :
    Sha256Digest :=
  let encoded := match codec.replayTuple (identity, runnerId, nonce) with
    | .ok bytes => bytes
    | .error _ => []
  let domain := ("npc-self-test-replay-key-v1".toList.map fun c => UInt8.ofNat c.toNat) ++ [0]
  codec.sha256 (domain ++ encoded)

structure ModelPackManager (σ : Type) where
  storage : σ
  records : Table PackRevision PackRecord := ∅
  staged : Table PackRevision StagedPack := ∅
  pendingSelfTests : Table PackRevision SelfTestChallengeV1 := ∅
  immutableRevisions : Table PackRevision Sha256Digest := ∅
  active : Table PackId Revision := ∅
  rollbacks : Table PackId (List Revision) := ∅
  references : Table PackId (List Text) := ∅

/-- The result of a call, and the manager it leaves. -/
abbrev ManagerCallOf (σ α : Type) := Except ManagerError α × ModelPackManager σ

namespace ModelPackManager

variable {σ : Type}

def new (storage : σ) : ModelPackManager σ := { storage }

/-- `record.state = state`. -/
def setState (m : ModelPackManager σ) (identity : PackRevision) (state : InstallState) :
    ModelPackManager σ :=
  { m with records := m.records.modify identity fun record => { record with state } }

/-- A fallible reading of the manager, then a change. -/
def checked {α β : Type} (m : ModelPackManager σ) (check : Except ManagerError α)
    (change : α → ManagerCallOf σ β) : ManagerCallOf σ β :=
  match check with
  | .ok a => change a
  | .error error => (.error error, m)

/-- A storage call, and what follows on its result. -/
def stored {α β : Type} (m : ModelPackManager σ) (call : StorageCall σ α)
    (next : Except StorageError α → ModelPackManager σ → ManagerCallOf σ β) : ManagerCallOf σ β :=
  let (result, storage) := call m.storage
  next result { m with storage }

/-! ## Installing -/

/-- The checks of `begin_install`, and the digest it records. -/
def checkInstall (m : ModelPackManager σ) (codec : ManagerCodec) (manifest : ModelPackManifestV1)
    (catalog : CatalogInstallBindingV1) (selection : PackSelectionAuthorizationV1)
    (licenseAccepted : Bool) : Except ManagerError Sha256Digest := do
  manifest.validate.mapError .manifest
  require (catalog.catalogVersion != 0) .invalidCatalogBinding
  (selection.validateForManifest codec.toCodec manifest).mapError .selection
  require (!(manifest.license.acceptanceRequired && !licenseAccepted)) .licenseAcceptanceRequired
  let digest ← (manifest.digest codec.toCodec).mapError .manifest
  require ((m.immutableRevisions.lookup manifest.identity).all fun trusted => trusted == digest)
    (.immutableRevisionChanged manifest.identity)
  (m.records.lookup manifest.identity).forM fun record => do
    require (record.manifestSha256 == digest) (.immutableRevisionChanged manifest.identity)
    .error (.alreadyManaged manifest.identity)
  return digest

/-- The journals of a new record. -/
def newDownloads (manifest : ModelPackManifestV1) : Table Text DownloadJournal :=
  Table.collect (fun artifact : ArtifactV1 => artifact.id)
    (fun artifact => DownloadJournal.new artifact.id artifact.sizeBytes artifact.sha256)
    manifest.artifacts

def beginInstall (m : ModelPackManager σ) (codec : ManagerCodec) (manifest : ModelPackManifestV1)
    (catalog : CatalogInstallBindingV1) (selection : PackSelectionAuthorizationV1)
    (licenseAccepted : Bool) : ManagerCallOf σ PackRevision :=
  m.checked (m.checkInstall codec manifest catalog selection licenseAccepted) fun digest =>
    let record : PackRecord :=
      { manifest
        manifestSha256 := digest
        state := .downloading
        downloads := newDownloads manifest
        catalog
        selection }
    (.ok manifest.identity,
      { m with
        records := m.records.insert manifest.identity record
        immutableRevisions := m.immutableRevisions.insert manifest.identity digest })

def beginUpdate (m : ModelPackManager σ) (codec : ManagerCodec) (manifest : ModelPackManifestV1)
    (catalog : CatalogInstallBindingV1) (selection : PackSelectionAuthorizationV1)
    (licenseAccepted : Bool) : ManagerCallOf σ PackRevision :=
  let check : Except ManagerError Unit := do
    let active ← okOr (m.active.lookup manifest.packId) .notActive
    require (active != manifest.revision) .alreadyActive
  m.checked check fun _ => m.beginInstall codec manifest catalog selection licenseAccepted

/-- The record of a revision whose artifacts are being received. -/
def receiving (m : ModelPackManager σ) (identity : PackRevision) :
    Except ManagerError PackRecord := do
  let record ← okOr (m.records.lookup identity) .unknownRevision
  require (record.state == .downloading || record.state == .verifying) (.invalidState record.state)
  return record

/-- `download_journal_mut`, and a call on the journal it hands out. -/
def downloadJournal (m : ModelPackManager σ) (identity : PackRevision) (artifactId : Text)
    (call : JournalCall) : ManagerCallOf σ Unit :=
  let check : Except ManagerError DownloadJournal := do
    let record ← m.receiving identity
    let journal ← okOr (record.downloads.lookup artifactId) .unknownArtifact
    (call.apply journal).mapError .resume
  m.checked check fun journal =>
    (.ok (), { m with
      records := m.records.modify identity fun record =>
        { record with downloads := record.downloads.modify artifactId fun _ => journal } })

/-- The record with verified evidence. -/
def withEvidence (record : PackRecord) (journal : DownloadJournal) (evidence : ArtifactEvidence) :
    PackRecord :=
  let collected := record.evidence.insert evidence.artifactId evidence
  { record with
    downloads := record.downloads.modify evidence.artifactId fun _ => journal
    evidence := collected
    state := if collected.entries.length = record.downloads.entries.length then .staging
             else .verifying }

def acceptVerifiedArtifact (m : ModelPackManager σ) (identity : PackRevision)
    (evidence : ArtifactEvidence) : ManagerCallOf σ Unit :=
  let check : Except ManagerError DownloadJournal := do
    let record ← m.receiving identity
    let journal ← okOr (record.downloads.lookup evidence.artifactId) .unknownArtifact
    (journal.markVerified evidence).mapError .resume
  m.checked check fun journal =>
    (.ok (), { m with
      records := m.records.modify identity fun record => withEvidence record journal evidence })

/-- The record of a revision in a state. -/
def inState (m : ModelPackManager σ) (identity : PackRevision) (state : InstallState) :
    Except ManagerError PackRecord := do
  let record ← okOr (m.records.lookup identity) .unknownRevision
  require (record.state == state) (.invalidState record.state)
  return record

def stage (m : ModelPackManager σ) (S : PackStorage σ) (identity : PackRevision) :
    ManagerCallOf σ Unit :=
  let check : Except ManagerError PackRecord := do
    let record ← m.inState identity .staging
    require (record.evidence.entries.length == record.manifest.artifacts.length) .incompleteEvidence
    return record
  m.checked check fun record =>
    m.stored (S.stage record.manifest record.evidence.ascending) fun
      | .error error, m => (.error (.storage error), m)
      | .ok staged, m =>
        if staged.identity ≠ identity then
          (.error .storageIdentityMismatch, m.setState identity
            (.quarantined .extraction "storage returned the wrong staged identity".toList false))
        else
          { m with staged := m.staged.insert identity staged }.stored (S.commitInactive staged) fun
            | .error error, m => (.error (.storage error), m.setState identity
                (.quarantined .extraction
                  "verified staging could not be atomically committed inactive".toList true))
            | .ok (), m => (.ok (), m.setState identity .awaitingSelfTest)

def authorizeActivation (m : ModelPackManager σ) (codec : ManagerCodec) (identity : PackRevision)
    (selection : PackSelectionAuthorizationV1) : ManagerCallOf σ Unit :=
  let check : Except ManagerError Unit := do
    let record ← m.inState identity .awaitingSelfTest
    require (m.pendingSelfTests.lookup identity).isNone (.invalidState record.state)
    (selection.validateForManifest codec.toCodec record.manifest).mapError .selection
    require selection.activationAllowed (.selection .activationNotAuthorized)
  m.checked check fun _ =>
    (.ok (), { m with
      records := m.records.modify identity fun record => { record with selection } })

/-! ## The self-test -/

/-- The checks in front of a challenge: the record and its staged transaction. -/
def checkChallenge (m : ModelPackManager σ) (identity : PackRevision) (runtimeBackend : Text)
    (lifetimeSeconds : Nat) : Except ManagerError (PackRecord × StagedPack) := do
  let record ← m.inState identity .awaitingSelfTest
  require (record.manifest.selfTest.allowedRuntimeBackends.contains runtimeBackend)
    (.unapprovedSelfTestBackend runtimeBackend)
  require (lifetimeSeconds != 0 &&
    decide (lifetimeSeconds ≤ maxSelfTestAttestationLifetimeSeconds)) .invalidSelfTestLifetime
  let staged ← okOr (m.staged.lookup identity) .missingStagedTransaction
  return (record, staged)

/-- The challenge for a binding of the staged content. -/
def makeChallenge (record : PackRecord) (staged : StagedPack) (binding : StagedContentBindingV1)
    (identity : PackRevision) (runtimeBackend : Text) (nowUnixSeconds lifetimeSeconds : Nat)
    (nonce : Except AttestationError Text) : Except ManagerError SelfTestChallengeV1 := do
  require (binding.identity == identity && binding.transactionId == staged.transactionId &&
    binding.manifestSha256 == record.manifestSha256) .stagedContentBindingMismatch
  let nonce ← nonce.mapError .attestation
  require (decide (nowUnixSeconds + lifetimeSeconds ≤ u64Max)) .invalidSelfTestLifetime
  let challenge : SelfTestChallengeV1 :=
    { schema := selfTestChallengeSchemaV1
      identity
      manifestSha256 := record.manifestSha256
      catalog := record.catalog
      staged := binding
      runtimeAbi := record.manifest.runtime.abi
      runtimeBackend
      testSuiteId := record.manifest.selfTest.kind
      testSuiteRevision := record.manifest.selfTest.suiteRevision
      nonce
      issuedUnixSeconds := nowUnixSeconds
      expiresUnixSeconds := nowUnixSeconds + lifetimeSeconds }
  (validateChallenge challenge).mapError .attestation
  return challenge

def issueSelfTestChallenge (m : ModelPackManager σ) (S : PackStorage σ) (identity : PackRevision)
    (runtimeBackend : Text) (nowUnixSeconds lifetimeSeconds : Nat)
    (nonce : Except AttestationError Text) : ManagerCallOf σ SelfTestChallengeV1 :=
  m.checked (m.checkChallenge identity runtimeBackend lifetimeSeconds) fun (record, staged) =>
    m.stored (S.stagedContentBinding staged) fun
      | .error error, m => (.error (.storage error), m)
      | .ok binding, m =>
        m.checked (makeChallenge record staged binding identity runtimeBackend nowUnixSeconds
          lifetimeSeconds nonce) fun challenge =>
            (.ok challenge, { m with
              pendingSelfTests := m.pendingSelfTests.insert identity challenge })

def abandonSelfTestChallenge (m : ModelPackManager σ) (identity : PackRevision)
    (expectedNonce : Text) : ManagerCallOf σ Unit :=
  let check : Except ManagerError Unit := do
    let _ ← m.inState identity .awaitingSelfTest
    let challenge ← okOr (m.pendingSelfTests.lookup identity) .missingSelfTestChallenge
    require (challenge.nonce == expectedNonce) .attestationChallengeMismatch
  m.checked check fun _ =>
    (.ok (), { m with pendingSelfTests := m.pendingSelfTests.erase identity })

/-- The record an attestation is for. -/
def attestedRecord (m : ModelPackManager σ) (identity : PackRevision)
    (attestation : SelfTestAttestationV1) : Except ManagerError PackRecord := do
  let record ← okOr (m.records.lookup identity) .unknownRevision
  require (!(record.state != .awaitingSelfTest && record.selfTestAuthorization.any fun receipt =>
    receipt.nonce == attestation.signed.challenge.nonce)) .attestationReplay
  require (record.state == .awaitingSelfTest) (.invalidState record.state)
  return record

/-- The checks of an attestation in front of its storage calls. -/
def checkAttestation (m : ModelPackManager σ) (codec : ManagerCodec) (identity : PackRevision)
    (attestation : SelfTestAttestationV1) (verifier : SelfTestAttestationVerifier)
    (nowUnixSeconds : Nat) : Except ManagerError
      (PackRecord × SelfTestChallengeV1 × VerifiedRunnerIdentity × StagedPack) := do
  let record ← m.attestedRecord identity attestation
  let signed := attestation.signed
  require (signed.schema == selfTestAttestationSchemaV1)
    (.unsupportedAttestationSchema signed.schema)
  (validateChallenge signed.challenge).mapError .attestation
  let expected ← okOr (m.pendingSelfTests.lookup identity) .missingSelfTestChallenge
  require (signed.challenge == expected && signed.challenge.identity == identity)
    .attestationChallengeMismatch
  require (decide (expected.issuedUnixSeconds ≤ nowUnixSeconds)) .attestationNotYetValid
  require (decide (nowUnixSeconds ≤ expected.expiresUnixSeconds)) .attestationExpired
  let payload ← (codec.attestationPayload signed).mapError .attestationSerialization
  let runner ← (verifier signed.runnerId attestation.proof payload).mapError
    .attestationVerification
  require (runner.runnerId == signed.runnerId) .runnerIdentityMismatch
  let staged ← okOr (m.staged.lookup identity) .missingStagedTransaction
  return (record, expected, runner, staged)

/-- `quarantine_attested_failure`. -/
def quarantineAttestedFailure (m : ModelPackManager σ) (identity : PackRevision) (reason : Text)
    (retryable : Bool) : ManagerCallOf σ Unit :=
  (.error .selfTestFailed, m.setState identity (.quarantined .selfTest reason retryable))

def recordSelfTestAttestation (m : ModelPackManager σ) (codec : ManagerCodec) (S : PackStorage σ)
    (identity : PackRevision) (attestation : SelfTestAttestationV1)
    (verifier : SelfTestAttestationVerifier) (nowUnixSeconds : Nat) : ManagerCallOf σ Unit :=
  m.checked (m.checkAttestation codec identity attestation verifier nowUnixSeconds)
    fun (record, expected, runner, staged) =>
    m.stored (S.stagedContentBinding staged) fun
      | .error error, m => (.error (.storage error), m.setState identity
          (.quarantined .selfTest
            "staged content could not be revalidated after self-test".toList false))
      | .ok binding, m =>
        let outcome := attestation.signed.outcome
        if binding ≠ expected.staged then
          (.error .stagedContentChangedAfterTest, m.setState identity
            (.quarantined .selfTest
              "staged content changed after self-test challenge".toList false))
        else if record.manifest.selfTest.timeoutMillis < outcome.durationMillis then
          m.quarantineAttestedFailure identity
            "attested self-test exceeded its declared timeout".toList true
        else if ¬outcome.passed then
          m.quarantineAttestedFailure identity
            (outcome.diagnosticCode.getD "attested self-test failed".toList) true
        else if record.manifest.selfTest.expectedOutputSha256.any
            fun expected => outcome.outputSha256 != some expected then
          m.quarantineAttestedFailure identity
            "attested self-test output digest mismatch".toList false
        else
          m.checked ((codec.attestation attestation).mapError .attestationSerialization)
            fun bytes =>
            let replayKey := attestationReplayKey codec identity attestation.signed.runnerId
              attestation.signed.challenge.nonce
            m.stored (S.consumeAttestationReplayKey replayKey) fun
              | .error error, m => (.error (.storage error), m)
              | .ok false, m => (.error .attestationReplay, m)
              | .ok true, m =>
                let receipt : SelfTestAuthorizationReceiptV1 :=
                  { attestationSha256 := codec.sha256 bytes
                    runnerId := runner.runnerId
                    runnerTrustRevision := runner.trustRevision
                    nonce := attestation.signed.challenge.nonce
                    replayKey
                    staged := binding
                    verifiedUnixSeconds := nowUnixSeconds }
                (.ok (), { m with
                  records := m.records.modify identity fun record =>
                    { record with selfTestAuthorization := some receipt, state := .activating }
                  pendingSelfTests := m.pendingSelfTests.erase identity })

/-! ## Activation -/

/-- The checks of `activate` in front of its storage calls. -/
def checkActivate (m : ModelPackManager σ) (identity : PackRevision) :
    Except ManagerError (SelfTestAuthorizationReceiptV1 × StagedPack) := do
  let record ← m.inState identity .activating
  let receipt ← okOr record.selfTestAuthorization .missingSelfTestAuthorization
  require record.selection.activationAllowed (.selection .activationNotAuthorized)
  let staged ← okOr (m.staged.lookup identity) .missingStagedTransaction
  return (receipt, staged)

/-- The revision becomes the active one, and the one it replaces goes on the rollback stack. -/
def switchTo (m : ModelPackManager σ) (identity : PackRevision) : ModelPackManager σ :=
  { m with
    staged := m.staged.erase identity
    active := m.active.insert identity.packId identity.revision
    rollbacks := match m.active.lookup identity.packId with
      | some old =>
        if old ≠ identity.revision then
          m.rollbacks.insert identity.packId
            ((m.rollbacks.lookup identity.packId).getD [] ++ [old])
        else m.rollbacks
      | none => m.rollbacks
    records := m.records.modify identity fun record => { record with state := .active } }

def activate (m : ModelPackManager σ) (S : PackStorage σ) (identity : PackRevision) :
    ManagerCallOf σ Unit :=
  m.checked (m.checkActivate identity) fun (receipt, staged) =>
    m.stored (S.stagedContentBinding staged) fun
      | .error error, m => (.error (.storage error), m.setState identity
          (.quarantined .activation
            "attested staged content could not be revalidated".toList false))
      | .ok binding, m =>
        if binding ≠ receipt.staged then
          (.error .stagedContentChangedAfterTest, m.setState identity
            (.quarantined .activation
              "staged content changed after its attested self-test".toList false))
        else
          m.stored (S.activate staged
            ⟨receipt.staged, receipt.attestationSha256, receipt.replayKey⟩) fun
            | .error error, m => (.error (.storage error), m.setState identity
                (.quarantined .activation
                  ("storage operation failed: ".toList ++ error.message) false))
            | .ok (), m => (.ok (), m.switchTo identity)

/-! ## References, removal and rollback -/

def addReference (m : ModelPackManager σ) (S : PackStorage σ) (packId : PackId) (consumer : Text) :
    ManagerCallOf σ Unit :=
  let check : Except ManagerError Unit := do
    require (m.active.lookup packId).isSome .notActive
    require (!(trim consumer == []) && decide (utf8Len consumer ≤ 256)) .invalidConsumer
  m.checked check fun _ =>
    m.stored (S.addReference packId consumer) fun
      | .error error, m => (.error (.storage error), m)
      | .ok (), m => (.ok (), { m with
          references := m.references.insert packId
            (((m.references.lookup packId).getD []).insert consumer) })

def releaseReference (m : ModelPackManager σ) (S : PackStorage σ) (packId : PackId)
    (consumer : Text) : ManagerCallOf σ Bool :=
  m.stored (S.removeReference packId consumer) fun
    | .error error, m => (.error (.storage error), m)
    | .ok persisted, m =>
      let consumers := (m.references.lookup packId).getD []
      let rest := consumers.erase consumer
      (.ok (consumers.contains consumer || persisted), { m with
        references := if rest = [] then m.references.erase packId
                      else m.references.insert packId rest })

def referenceCount (m : ModelPackManager σ) (S : PackStorage σ) (packId : PackId) :
    ManagerCallOf σ Nat :=
  m.stored (S.referenceCount packId) fun
    | .error error, m => (.error (.storage error), m)
    | .ok persisted, m =>
      (.ok (max ((m.references.lookup packId).getD []).length persisted), m)

/-- The loop of `remove`, which stops at the first failure. -/
def removeRevisions (S : PackStorage σ) :
    List PackRevision → ModelPackManager σ → ManagerCallOf σ Unit
  | [], m => (.ok (), m)
  | identity :: identities, m =>
    (m.setState identity .removing).stored (S.removeRevision identity) fun
      | .error error, m => (.error (.storage error), m)
      | .ok (), m => removeRevisions S identities { m with
          staged := m.staged.erase identity
          pendingSelfTests := m.pendingSelfTests.erase identity
          records := m.records.erase identity }

/-- The recorded revisions of a pack, in the order of the map. -/
def revisionsOf (m : ModelPackManager σ) (packId : PackId) : List PackRevision :=
  (m.records.keys.filter fun identity => identity.packId = packId).insertionSort (· ≤ ·)

def remove (m : ModelPackManager σ) (S : PackStorage σ) (packId : PackId) (policy : RemovalPolicy) :
    ManagerCallOf σ Nat :=
  match m.referenceCount S packId with
  | (.error error, m) => (.error error, m)
  | (.ok references, m) =>
    if 0 < references ∧ policy = .requireUnreferenced then (.error (.packInUse references), m)
    else
      let identities := m.revisionsOf packId
      match removeRevisions S identities m with
      | (.error error, m) => (.error error, m)
      | (.ok (), m) => (.ok identities.length, { m with
          active := m.active.erase packId
          rollbacks := m.rollbacks.erase packId
          references := m.references.erase packId })

/-- The switch back: the target is active, the revision it replaces is rolled back. -/
def switchBack (m : ModelPackManager σ) (packId : PackId) (target current : Revision) :
    ModelPackManager σ :=
  (m.setState ⟨packId, current⟩ .rolledBack).setState ⟨packId, target⟩ .active

def rollback (m : ModelPackManager σ) (S : PackStorage σ) (packId : PackId) :
    ManagerCallOf σ PackRevision :=
  match m.referenceCount S packId with
  | (.error error, m) => (.error error, m)
  | (.ok references, m) =>
    if 0 < references then (.error (.packInUse references), m)
    else
      match ((m.rollbacks.lookup packId).getD []).getLast? with
      | none => (.error .noRollback, m)
      | some target =>
        { m with rollbacks := m.rollbacks.modify packId List.dropLast }.stored
          (S.activateExisting ⟨packId, target⟩) fun
          | .error error, m => (.error (.storage error), m)
          | .ok (), m =>
            let switched := { m with active := m.active.insert packId target }
            match m.active.lookup packId with
            | none => (.error .notActive, switched)
            | some current => (.ok ⟨packId, target⟩, switched.switchBack packId target current)

/-! ## Repair -/

/-- What differs between a record and the installed version. -/
def repairIssues (record : PackRecord) (inspection : StorageInspection) : List RepairIssue :=
  (if inspection.present then [] else [.missingInstallation]) ++
  (if inspection.contentHealthy then [] else [.installedContentMismatch]) ++
  (if inspection.manifestSha256 = some record.manifestSha256 then [] else [.manifestMismatch]) ++
  record.manifest.artifacts.filterMap fun artifact =>
    match inspection.artifactEvidence.lookup artifact.id with
    | none => some (.missingArtifact artifact.id)
    | some actual =>
      if actual.sizeBytes ≠ artifact.sizeBytes then some (.artifactSizeMismatch artifact.id)
      else if actual.sha256 ≠ artifact.sha256 then some (.artifactDigestMismatch artifact.id)
      else none

def audit (m : ModelPackManager σ) (S : PackStorage σ) (identity : PackRevision) :
    ManagerCallOf σ RepairAssessment :=
  m.checked (okOr (m.records.lookup identity) .unknownRevision) fun record =>
    m.stored (S.inspect identity) fun
      | .error error, m => (.error (.storage error), m)
      | .ok inspection, m =>
        let issues := repairIssues record inspection
        (.ok ⟨issues.isEmpty, issues⟩, m)

def beginRepair (m : ModelPackManager σ) (S : PackStorage σ) (identity : PackRevision) :
    ManagerCallOf σ RepairAssessment :=
  match m.audit S identity with
  | (.error error, m) => (.error error, m)
  | (.ok assessment, m) =>
    if assessment.healthy then (.ok assessment, m)
    else (.ok assessment, { m with
        staged := m.staged.erase identity
        pendingSelfTests := m.pendingSelfTests.erase identity }.setState identity .repairing)

/-- The record back at the start of its downloads. -/
def restarted (record : PackRecord) : PackRecord :=
  { record with
    evidence := ∅
    selfTestAuthorization := none
    downloads := record.downloads.mapVal fun _ journal => journal.restart
    state := .downloading }

def restartRepairDownloads (m : ModelPackManager σ) (identity : PackRevision) :
    ManagerCallOf σ Unit :=
  m.checked (m.inState identity .repairing) fun _ =>
    (.ok (), { m with records := m.records.modify identity restarted })

end ModelPackManager

/-! ## Runs -/

/-- A call of the manager. -/
inductive ManagerCall where
  | beginInstall (manifest : ModelPackManifestV1) (catalog : CatalogInstallBindingV1)
      (selection : PackSelectionAuthorizationV1) (licenseAccepted : Bool)
  | beginUpdate (manifest : ModelPackManifestV1) (catalog : CatalogInstallBindingV1)
      (selection : PackSelectionAuthorizationV1) (licenseAccepted : Bool)
  | downloadJournal (identity : PackRevision) (artifactId : Text) (call : JournalCall)
  | acceptVerifiedArtifact (identity : PackRevision) (evidence : ArtifactEvidence)
  | stage (identity : PackRevision)
  | authorizeActivation (identity : PackRevision) (selection : PackSelectionAuthorizationV1)
  | issueSelfTestChallenge (identity : PackRevision) (runtimeBackend : Text)
      (nowUnixSeconds lifetimeSeconds : Nat) (nonce : Except AttestationError Text)
  | abandonSelfTestChallenge (identity : PackRevision) (expectedNonce : Text)
  | recordSelfTestAttestation (identity : PackRevision) (attestation : SelfTestAttestationV1)
      (verifier : SelfTestAttestationVerifier) (nowUnixSeconds : Nat)
  | activate (identity : PackRevision)
  | addReference (packId : PackId) (consumer : Text)
  | releaseReference (packId : PackId) (consumer : Text)
  | remove (packId : PackId) (policy : RemovalPolicy)
  | rollback (packId : PackId)
  | audit (identity : PackRevision)
  | beginRepair (identity : PackRevision)
  | restartRepairDownloads (identity : PackRevision)

/-- A call without its value. -/
def discard {σ α : Type} (call : ManagerCallOf σ α) : ManagerCallOf σ Unit :=
  (call.1.map fun _ => (), call.2)

def managerCall {σ : Type} (codec : ManagerCodec) (S : PackStorage σ) (call : ManagerCall)
    (m : ModelPackManager σ) : ManagerCallOf σ Unit :=
  match call with
  | .beginInstall manifest catalog selection licenseAccepted =>
    discard (m.beginInstall codec manifest catalog selection licenseAccepted)
  | .beginUpdate manifest catalog selection licenseAccepted =>
    discard (m.beginUpdate codec manifest catalog selection licenseAccepted)
  | .downloadJournal identity artifactId call => m.downloadJournal identity artifactId call
  | .acceptVerifiedArtifact identity evidence => m.acceptVerifiedArtifact identity evidence
  | .stage identity => m.stage S identity
  | .authorizeActivation identity selection => m.authorizeActivation codec identity selection
  | .issueSelfTestChallenge identity runtimeBackend nowUnixSeconds lifetimeSeconds nonce =>
    discard
      (m.issueSelfTestChallenge S identity runtimeBackend nowUnixSeconds lifetimeSeconds nonce)
  | .abandonSelfTestChallenge identity expectedNonce =>
    m.abandonSelfTestChallenge identity expectedNonce
  | .recordSelfTestAttestation identity attestation verifier nowUnixSeconds =>
    m.recordSelfTestAttestation codec S identity attestation verifier nowUnixSeconds
  | .activate identity => m.activate S identity
  | .addReference packId consumer => m.addReference S packId consumer
  | .releaseReference packId consumer => discard (m.releaseReference S packId consumer)
  | .remove packId policy => discard (m.remove S packId policy)
  | .rollback packId => discard (m.rollback S packId)
  | .audit identity => discard (m.audit S identity)
  | .beginRepair identity => discard (m.beginRepair S identity)
  | .restartRepairDownloads identity => m.restartRepairDownloads identity

end NpcRuntime.Packs
