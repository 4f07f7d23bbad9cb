import NpcRuntime.Packs.Lifecycle

/-!
# The storage in memory

`InMemoryPackStorage` of `model-manager/src/lifecycle.rs`: it keeps what has been staged and
installed, the active revision of each pack and the replay keys it has consumed. Its encoder and
the wording of a manifest error are parameters.
-/

namespace NpcRuntime.Packs

structure InMemoryPackStorage where
  staged : Table PackRevision StorageInspection := ∅
  installed : Table PackRevision StorageInspection := ∅
  active : Table PackId Revision := ∅
  stagedBindings : Table PackRevision StagedContentBindingV1 := ∅
  consumedAttestations : List Sha256Digest := []
  transactionCounter : Nat := 0

structure MemoryCodec extends Codec where
  /-- `serde_json::to_vec` of the ordered evidence. -/
  evidence : Encoding (List ArtifactEvidence)
  /-- `ManifestError::to_string`. -/
  manifestError : ManifestError → Text

def inMemoryTreeDigest (codec : MemoryCodec) (evidence : List ArtifactEvidence) : Sha256Digest :=
  let ordered := evidence.insertionSort fun left right => left.artifactId ≤ right.artifactId
  let bytes := match codec.evidence ordered with
    | .ok bytes => bytes
    | .error _ => []
  let domain := ("npc-in-memory-staged-tree-v1".toList.map fun c => UInt8.ofNat c.toNat) ++ [0]
  codec.sha256 (domain ++ bytes)

namespace InMemoryPackStorage

variable (codec : MemoryCodec) (s : InMemoryPackStorage)

def stage (manifest : ModelPackManifestV1) (evidence : List ArtifactEvidence) :
    Except StorageError StagedPack × InMemoryPackStorage :=
  let s := { s with transactionCounter := s.transactionCounter + 1 }
  match manifest.digest codec.toCodec with
  | .error error => (.error ⟨codec.manifestError error⟩, s)
  | .ok digest =>
    let identity := manifest.identity
    let tree := inMemoryTreeDigest codec evidence
    let staged : StagedPack :=
      ⟨identity, "memory-".toList ++ (toString s.transactionCounter).toList⟩
    (.ok staged, { s with
      staged := s.staged.insert identity
        { present := true
          contentHealthy := true
          manifestSha256 := some digest
          contentTreeSha256 := some tree
          artifactEvidence := Table.collect ArtifactEvidence.artifactId id evidence }
      stagedBindings := s.stagedBindings.insert identity
        { identity
          transactionId := staged.transactionId
          manifestSha256 := digest
          contentTreeSha256 := tree
          fileCount := evidence.length
          totalFileBytes := (evidence.map ArtifactEvidence.sizeBytes).sum } })

def stagedContentBinding (staged : StagedPack) : Except StorageError StagedContentBindingV1 :=
  okOr ((s.stagedBindings.lookup staged.identity).filter fun binding =>
    binding.transactionId == staged.transactionId)
    ⟨"staged content binding is missing".toList⟩

def commitInactive (staged : StagedPack) : Except StorageError Unit × InMemoryPackStorage :=
  match s.staged.lookup staged.identity with
  | none => (.error ⟨"staged transaction is missing".toList⟩, s)
  | some inspection =>
    (.ok (), { s with installed := s.installed.insert staged.identity inspection })

def consumeAttestationReplayKey (replayKey : Sha256Digest) :
    Except StorageError Bool × InMemoryPackStorage :=
  (.ok (!s.consumedAttestations.contains replayKey),
    { s with consumedAttestations := s.consumedAttestations.insert replayKey })

def activate (staged : StagedPack) (authorization : ActivationAuthorization) :
    Except StorageError Unit × InMemoryPackStorage :=
  match s.stagedContentBinding staged with
  | .error error => (.error error, s)
  | .ok actual =>
    if actual ≠ authorization.staged then
      (.error ⟨"activation authorization does not bind staged content".toList⟩, s)
    else
      match s.staged.lookup staged.identity with
      | none => (.error ⟨"staged transaction is missing".toList⟩, s)
      | some inspection =>
        (.ok (), { s with
          staged := s.staged.erase staged.identity
          active := s.active.insert staged.identity.packId staged.identity.revision
          installed := s.installed.insert staged.identity inspection
          stagedBindings := s.stagedBindings.erase actual.identity })

def activateExisting (target : PackRevision) : Except StorageError Unit × InMemoryPackStorage :=
  if (s.installed.lookup target).isNone then
    (.error ⟨"rollback target is not installed".toList⟩, s)
  else (.ok (), { s with active := s.active.insert target.packId target.revision })

def inspect (target : PackRevision) : StorageInspection :=
  (s.installed.lookup target).getD
    { present := false
      contentHealthy := false
      manifestSha256 := none
      contentTreeSha256 := none
      artifactEvidence := ∅ }

def removeRevision (target : PackRevision) : InMemoryPackStorage :=
  { s with
    active := if s.active.lookup target.packId = some target.revision
      then s.active.erase target.packId else s.active
    staged := s.staged.erase target
    stagedBindings := s.stagedBindings.erase target
    installed := s.installed.erase target }

end InMemoryPackStorage

/-- `impl PackStorage for InMemoryPackStorage`. References are not kept. -/
def inMemoryPackStorage (codec : MemoryCodec) : PackStorage InMemoryPackStorage where
  stage manifest evidence s := s.stage codec manifest evidence
  stagedContentBinding staged s := (s.stagedContentBinding staged, s)
  commitInactive staged s := s.commitInactive staged
  consumeAttestationReplayKey replayKey s := s.consumeAttestationReplayKey replayKey
  activate staged authorization s := s.activate staged authorization
  activateExisting target s := s.activateExisting target
  inspect target s := (.ok (s.inspect target), s)
  removeRevision target s := (.ok (), s.removeRevision target)
  addReference _ _ s := (.ok (), s)
  removeReference _ _ s := (.ok true, s)
  referenceCount _ s := (.ok 0, s)

/-! ## The contract -/

/-- Only a consumption touches the consumed keys. -/
theorem consumedAttestations_after (codec : MemoryCodec) (s : InMemoryPackStorage)
    (op : StorageOp) :
    ((inMemoryPackStorage codec).after s op).consumedAttestations =
      match op with
      | .consumeAttestationReplayKey replayKey => s.consumedAttestations.insert replayKey
      | _ => s.consumedAttestations := by
  cases op with
  | stage manifest evidence =>
    simp only [PackStorage.after, inMemoryPackStorage, InMemoryPackStorage.stage]
    split <;> rfl
  | commitInactive staged =>
    simp only [PackStorage.after, inMemoryPackStorage, InMemoryPackStorage.commitInactive]
    split <;> rfl
  | activate staged authorization =>
    simp only [PackStorage.after, inMemoryPackStorage, InMemoryPackStorage.activate]
    split
    · rfl
    · split_ifs
      · rfl
      · split <;> rfl
  | activateExisting target =>
    simp only [PackStorage.after, inMemoryPackStorage, InMemoryPackStorage.activateExisting]
    split_ifs <;> rfl
  | _ => rfl

/-- The storage in memory meets the contract. -/
def inMemoryReplayProtected (codec : MemoryCodec) :
    ReplayProtectedStorage InMemoryPackStorage where
  toPackStorage := inMemoryPackStorage codec
  consumed s replayKey := replayKey ∈ s.consumedAttestations
  consumed_after s op replayKey h := by
    rw [consumedAttestations_after]
    cases op with
    | consumeAttestationReplayKey other => exact List.mem_insert_of_mem h
    | _ => exact h
  consumed_once s replayKey s' h := by
    obtain ⟨hresult, rfl⟩ := Prod.mk.inj h
    have hfresh := Except.ok.inj hresult
    exact ⟨by simpa using hfresh, List.mem_insert_self⟩

/-! ## A pack of the tests

`sample_manifest` and `finish_install` of `tests/security_and_lifecycle.rs` with short texts, and
with an encoder and a digest that only keep what tells the revisions apart. -/

def textBytes (text : Text) : Bytes := text.map fun c => UInt8.ofNat c.toNat

def fixtureCodec : ManagerCodec where
  sha256 bytes := ⟨bytes.map fun byte => Char.ofNat byte.toNat⟩
  manifest manifest := .ok (textBytes manifest.revision.value)
  attestationPayload payload := .ok (textBytes payload.challenge.nonce)
  attestation attestation := .ok (textBytes attestation.signed.challenge.nonce)
  replayTuple tuple := .ok (textBytes tuple.1.revision.value ++ textBytes tuple.2.2)

def fixtureMemory : MemoryCodec where
  toCodec := fixtureCodec.toCodec
  evidence evidence := .ok (evidence.flatMap fun item => textBytes item.sha256.value)
  manifestError _ := "invalid manifest".toList

def fixtureEvidence (revision : Revision) : ArtifactEvidence :=
  ⟨"weights".toList, 9, ⟨"weights-".toList ++ revision.value⟩⟩

def samplePack : PackId := ⟨"pack".toList⟩

def sampleManifest (revision : Revision) : ModelPackManifestV1 where
  schema := modelPackManifestSchemaV1
  packId := samplePack
  revision
  displayName := "Test".toList
  description := "Fixture".toList
  sourceProject := "Upstream".toList
  sourceRevision := "fixture".toList
  capability := ⟨.lipSync, .generic⟩
  artifacts :=
    [{ id := "weights".toList
       kind := .file
       sourceUrls := ["https://models".toList]
       sizeBytes := (fixtureEvidence revision).sizeBytes
       sha256 := (fixtureEvidence revision).sha256
       destination := "weights.bin".toList }]
  runtime :=
    ⟨"onnx".toList, "v1".toList, some "1.20".toList, [.windows10, .windows11],
      [.x86_64]⟩
  hardware := ⟨2000000000, 4000000000, none, none, 2, [.cpu], []⟩
  resources :=
    ⟨9, 18, some 700000000, none, some 100, some "cpu".toList, .fast, ["en".toList]⟩
  license :=
    ⟨some "Apache-2.0".toList, "Apache".toList,
      "https://apache".toList, "Authors".toList, true,
      .allowed, .allowed, false, []⟩
  selfTest :=
    ⟨"sha256".toList, "v1".toList, ["mock".toList],
      "input.json".toList, some ⟨"ok".toList⟩, 10000⟩

def sampleIdentity (revision : Revision) : PackRevision := ⟨samplePack, revision⟩

def catalogBinding : CatalogInstallBindingV1 := ⟨⟨"catalog".toList⟩, 1, .releaseThreshold⟩

def selectionAuthorization (revision : Revision) : PackSelectionAuthorizationV1 where
  policy := apiFirstSelectionPolicyV1
  identity := sampleIdentity revision
  manifestSha256 := fixtureCodec.sha256 (textBytes revision.value)
  kind := .lipSync
  scope := .generic
  selectionId := "selection-".toList ++ revision.value
  selectedUnixSeconds := 1
  activationAllowed := true
  fitEvidenceSha256 := none

def fixtureVerifier : SelfTestAttestationVerifier :=
  fun runnerId _ _ => .ok ⟨runnerId, "trust-v1".toList⟩

def memoryBinding (revision : Revision) (transaction : Char) : StagedContentBindingV1 where
  identity := sampleIdentity revision
  transactionId := "memory-".toList ++ [transaction]
  manifestSha256 := fixtureCodec.sha256 (textBytes revision.value)
  contentTreeSha256 := inMemoryTreeDigest fixtureMemory [fixtureEvidence revision]
  fileCount := 1
  totalFileBytes := 9

/-- The attestation of that staged content, with a nonce of that character. -/
def fixtureAttestation (staged : StagedContentBindingV1) (nonce : Char) :
    SelfTestAttestationV1 where
  signed :=
    { schema := selfTestAttestationSchemaV1
      challenge :=
        { schema := selfTestChallengeSchemaV1
          identity := staged.identity
          manifestSha256 := staged.manifestSha256
          catalog := catalogBinding
          staged
          runtimeAbi := "v1".toList
          runtimeBackend := "mock".toList
          testSuiteId := "sha256".toList
          testSuiteRevision := "v1".toList
          nonce := List.replicate 64 nonce
          issuedUnixSeconds := 100
          expiresUnixSeconds := 160 }
      runnerId := "runner".toList
      outcome := ⟨true, 20, some ⟨"ok".toList⟩, none⟩ }
  proof := ⟨"proof".toList, "valid".toList⟩

/-- The calls that install a revision whose staged content is that one. -/
def installCalls (staged : StagedContentBindingV1) (nonce : Char) : List ManagerCall :=
  let identity := staged.identity
  [.beginInstall (sampleManifest identity.revision) catalogBinding
      (selectionAuthorization identity.revision) true,
    .downloadJournal identity "weights".toList (.recordBytes 9),
    .acceptVerifiedArtifact identity (fixtureEvidence identity.revision),
    .stage identity,
    .issueSelfTestChallenge identity "mock".toList 100 60 (.ok (List.replicate 64 nonce)),
    .recordSelfTestAttestation identity (fixtureAttestation staged nonce) fixtureVerifier 120,
    .activate identity]

/-- The calls that install a revision, in the storage's transaction of that number. -/
def finishInstall (revision : Revision) (transaction : Char) : List ManagerCall :=
  installCalls (memoryBinding revision transaction) transaction

def fixtureStorage : PackStorage InMemoryPackStorage := inMemoryPackStorage fixtureMemory

def firstRevision : Revision := ⟨['r', '1']⟩

def secondRevision : Revision := ⟨['r', '2']⟩

/-- A revision is installed and another one takes its place. -/
def installTwo : List ManagerCall :=
  finishInstall firstRevision '1' ++ finishInstall secondRevision '2'

end NpcRuntime.Packs
