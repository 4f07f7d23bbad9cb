import NpcRuntime.Lib.Machine
import NpcRuntime.Packs.MemoryStorage

/-!
# What runs has been attested

An active revision should hold evidence for all of its artifacts and the receipt of one accepted
attestation of its manifest.

A record that holds a receipt holds all the rest, in every run (`RecordInv`): evidence is complete
when a challenge can be issued, and both go together when a repair starts over. Activations check
the receipt. A rollback does not: it makes its target active even if the target is in the middle of
a repair or of a new installation.
-/

namespace NpcRuntime.Packs

variable {σ : Type}

/-! ## Runs -/

/-- A manager, and the replay keys of the attestations it has accepted. -/
structure AttestedRun (σ : Type) where
  manager : ModelPackManager σ
  accepted : List Sha256Digest := []

/-- The replay key a call is accepted under, if it is an accepted attestation. -/
def acceptedKey (codec : ManagerCodec) :
    ManagerCall → Except ManagerError Unit → List Sha256Digest
  | .recordSelfTestAttestation identity attestation _ _, .ok () =>
    [attestationReplayKey codec identity attestation.signed.runnerId
      attestation.signed.challenge.nonce]
  | _, _ => []

def attestedStep (codec : ManagerCodec) (S : PackStorage σ) (call : ManagerCall)
    (run : AttestedRun σ) : AttestedRun σ :=
  let (result, manager) := managerCall codec S call run.manager
  { manager, accepted := run.accepted ++ acceptedKey codec call result }

/-- A record holds matching evidence for every artifact, and a receipt for its manifest from exactly
one accepted attestation. -/
structure Attests (accepted : List Sha256Digest) (record : PackRecord) : Prop where
  evidence : ∀ artifact ∈ record.manifest.artifacts, ∃ evidence,
    record.evidence.lookup artifact.id = some evidence ∧
      evidence.sizeBytes = artifact.sizeBytes ∧ evidence.sha256 = artifact.sha256
  authorization : ∃ receipt, record.selfTestAuthorization = some receipt ∧
    receipt.staged.manifestSha256 = record.manifestSha256 ∧
      accepted.count receipt.replayKey = 1

/-- Nothing runs unattested. -/
def NothingUnattested (run : AttestedRun σ) : Prop :=
  ∀ identity record, run.manager.records.lookup identity = some record →
    record.state = .active → Attests run.accepted record

/-- A rollback that goes through finds a receipt in the record of its target. -/
def TargetAuthorized (S : PackStorage σ) (run : AttestedRun σ) (call : ManagerCall) : Prop :=
  ∀ packId current target s s', call = .rollback packId →
    run.manager.RollbackGoes S packId current target s s' →
      ∀ record, run.manager.records.lookup ⟨packId, target⟩ = some record →
        record.selfTestAuthorization.isSome

/-! ## Records -/

/-- The evidence has an entry for every artifact. -/
def PackRecord.Complete (record : PackRecord) : Prop :=
  ∀ artifact ∈ record.manifest.artifacts, artifact.id ∈ record.evidence

/-- What every record satisfies in every run. -/
structure RecordInv (accepted : List Sha256Digest) (record : PackRecord) : Prop where
  distinct : (record.manifest.artifacts.map ArtifactV1.id).Nodup
  /-- A journal is for the artifact it is filed under. -/
  journals : ∀ id journal, record.downloads.lookup id = some journal →
    ∃ artifact ∈ record.manifest.artifacts, artifact.id = id ∧
      (DownloadJournal.new artifact.id artifact.sizeBytes artifact.sha256).SameTarget journal
  evidence : ∀ id evidence, record.evidence.lookup id = some evidence →
    ∃ artifact ∈ record.manifest.artifacts, artifact.id = id ∧
      evidence.sizeBytes = artifact.sizeBytes ∧ evidence.sha256 = artifact.sha256
  tested : record.state = .awaitingSelfTest → record.Complete
  authorized : ∀ receipt, record.selfTestAuthorization = some receipt → record.Complete ∧
    receipt.staged.manifestSha256 = record.manifestSha256 ∧ receipt.replayKey ∈ accepted

namespace RecordInv

variable {accepted : List Sha256Digest} {record record' : PackRecord}

theorem attests (h : RecordInv accepted record) (hnodup : accepted.Nodup) :
    Attests accepted record ↔ record.selfTestAuthorization.isSome := by
  constructor
  · intro hattests
    obtain ⟨receipt, hreceipt, -⟩ := hattests.authorization
    rw [hreceipt]
    rfl
  · intro hsome
    obtain ⟨receipt, hreceipt⟩ := Option.isSome_iff_exists.1 hsome
    obtain ⟨hcomplete, hdigest, haccepted⟩ := h.authorized receipt hreceipt
    refine ⟨fun artifact hartifact => ?_, receipt, hreceipt, hdigest,
      List.count_eq_one_of_mem hnodup haccepted⟩
    obtain ⟨evidence, hlookup⟩ :=
      Option.isSome_iff_exists.1 (AList.lookup_isSome.2 (hcomplete artifact hartifact))
    obtain ⟨other, hother, hid, hmatches⟩ := h.evidence _ evidence hlookup
    obtain rfl := List.inj_on_of_nodup_map h.distinct hother hartifact hid
    exact ⟨evidence, hlookup, hmatches⟩

variable {selection : PackSelectionAuthorizationV1}

theorem newRecord {manifest : ModelPackManifestV1} {digest : Sha256Digest}
    {catalog : CatalogInstallBindingV1} (hvalid : manifest.validate = .ok ()) :
    RecordInv accepted (newRecord manifest digest catalog selection) where
  distinct := manifest.artifact_ids_nodup hvalid
  journals := fun id journal hjournal => by
    obtain ⟨artifact, hartifact, rfl, rfl⟩ := Table.exists_of_lookup_collect hjournal
    exact ⟨artifact, hartifact, rfl, rfl, rfl, rfl⟩
  evidence := fun id evidence h => by cases h
  tested := fun h => by cases h
  authorized := fun receipt h => by cases h

variable (h : RecordInv accepted record)

include h

/-- Only the state and the selection differ, and no test is due. -/
theorem of_state {state : InstallState} (hstate : state = .awaitingSelfTest → record.Complete) :
    RecordInv accepted { record with state, selection } :=
  ⟨h.distinct, h.journals, h.evidence, hstate, h.authorized⟩

/-- The evidence is complete when its count is. -/
theorem complete_of_length
    (hlength : record.evidence.entries.length = record.manifest.artifacts.length) :
    record.Complete := by
  intro artifact hartifact
  have hmem : artifact.id ∈ record.manifest.artifacts.map ArtifactV1.id :=
    List.mem_map_of_mem hartifact
  refine Table.mem_of_length_le (fun id hid => ?_) ?_ hmem
  · obtain ⟨evidence, hlookup⟩ := Option.isSome_iff_exists.1 (AList.lookup_isSome.2 hid)
    obtain ⟨other, hother, rfl, -⟩ := h.evidence id evidence hlookup
    exact List.mem_map_of_mem hother
  · rw [List.length_map, hlength]

/-- A journal that expects the same bytes takes the place of another. -/
theorem journals_modify {artifactId : Text} {journal journal' : DownloadJournal}
    (hjournal : record.downloads.lookup artifactId = some journal)
    (hsame : journal.SameTarget journal') :
    ∀ id other, (record.downloads.modify artifactId fun _ => journal').lookup id = some other →
      ∃ artifact ∈ record.manifest.artifacts, artifact.id = id ∧
        (DownloadJournal.new artifact.id artifact.sizeBytes artifact.sha256).SameTarget other := by
  intro id other hother
  rw [Table.lookup_modify] at hother
  split_ifs at hother with hid
  · subst hid
    rw [hjournal] at hother
    obtain rfl := Option.some.inj hother
    obtain ⟨artifact, hartifact, hid, htarget⟩ := h.journals id journal hjournal
    exact ⟨artifact, hartifact, hid, htarget.trans hsame⟩
  · exact h.journals id other hother

theorem verified {evidence : ArtifactEvidence} {journal journal' : DownloadJournal}
    (hjournal : record.downloads.lookup evidence.artifactId = some journal)
    (hverified : journal.markVerified evidence = .ok journal') :
    RecordInv accepted (ModelPackManager.withEvidence record journal' evidence) := by
  obtain ⟨-, hsize, hsha⟩ := DownloadJournal.markVerified_evidence hverified
  obtain ⟨artifact, hartifact, hid, -, hsize', hsha'⟩ := h.journals _ journal hjournal
  refine ⟨h.distinct,
    h.journals_modify hjournal (DownloadJournal.sameTarget_markVerified hverified), ?_, ?_, ?_⟩
  · intro id other hother
    simp only [ModelPackManager.withEvidence, Table.lookup_insert_eq] at hother
    split_ifs at hother with heq
    · obtain rfl := Option.some.inj hother
      exact ⟨artifact, hartifact, hid.trans heq.symm, hsize.trans hsize'.symm,
        hsha.trans hsha'.symm⟩
    · exact h.evidence id other hother
  · intro hstate
    simp only [ModelPackManager.withEvidence] at hstate
    split_ifs at hstate
  · intro receipt hreceipt
    obtain ⟨hcomplete, hrest⟩ := h.authorized receipt hreceipt
    exact ⟨fun other hother => (AList.mem_insert _).2 (.inr (hcomplete other hother)), hrest⟩

theorem restarted :
    RecordInv accepted (ModelPackManager.restarted record) where
  distinct := h.distinct
  journals := fun id journal hjournal => by
    simp only [ModelPackManager.restarted, Table.lookup_mapVal, Option.map_eq_some_iff] at hjournal
    obtain ⟨before, hbefore, rfl⟩ := hjournal
    obtain ⟨artifact, hartifact, hid, htarget⟩ := h.journals id before hbefore
    exact ⟨artifact, hartifact, hid, htarget.trans before.sameTarget_restart⟩
  evidence := fun id evidence h => by cases h
  tested := fun h => by cases h
  authorized := fun receipt h => by cases h

/-- **One change of a record.** -/
theorem change (hchange : RecordChange record record') : RecordInv accepted record' := by
  cases hchange with
  | kept => exact h
  | parked hparked =>
    refine h.of_state ?_
    rintro rfl
    cases hparked
  | received hjournal hcall =>
    exact ⟨h.distinct, h.journals_modify hjournal (DownloadJournal.sameTarget_apply hcall),
      h.evidence, h.tested, h.authorized⟩
  | verified hjournal hverified => exact h.verified hjournal hverified
  | staged hevidence => exact h.of_state fun _ => h.complete_of_length hevidence
  | selected selection => exact h.of_state h.tested
  | restarted => exact h.restarted

theorem mono (new : List Sha256Digest) :
    RecordInv (accepted ++ new) record where
  distinct := h.distinct
  journals := h.journals
  evidence := h.evidence
  tested := h.tested
  authorized := fun receipt hreceipt => by
    obtain ⟨hcomplete, hdigest, haccepted⟩ := h.authorized receipt hreceipt
    exact ⟨hcomplete, hdigest, List.mem_append_left new haccepted⟩

/-- An accepted attestation adds its receipt. -/
theorem attested (hstate : record.state = .awaitingSelfTest)
    {receipt : SelfTestAuthorizationReceiptV1}
    (hdigest : receipt.staged.manifestSha256 = record.manifestSha256) :
    RecordInv (accepted ++ [receipt.replayKey])
      { record with selfTestAuthorization := some receipt, state := .activating } where
  distinct := h.distinct
  journals := h.journals
  evidence := h.evidence
  tested := fun h => by cases h
  authorized := fun other hother => by
    obtain rfl := Option.some.inj hother
    exact ⟨h.tested hstate, hdigest, List.mem_append_right _ List.mem_cons_self⟩

end RecordInv

/-! ## Runs keep the records in order -/

/-- What every run satisfies. -/
structure AttestedInv (S : ReplayProtectedStorage σ) (run : AttestedRun σ) : Prop where
  records : ∀ identity record, run.manager.records.lookup identity = some record →
    RecordInv run.accepted record
  /-- A pending challenge is for the manifest that is recorded. -/
  pending : ∀ identity challenge, run.manager.pendingSelfTests.lookup identity = some challenge →
    ∃ record, run.manager.records.lookup identity = some record ∧
      challenge.staged.manifestSha256 = record.manifestSha256
  nodup : run.accepted.Nodup
  consumed : ∀ replayKey ∈ run.accepted, S.consumed run.manager.storage replayKey

namespace AttestedInv

variable {codec : ManagerCodec} {S : ReplayProtectedStorage σ} {m m' : ModelPackManager σ}
  {accepted : List Sha256Digest}

/-- Nothing active appears but what was active with a receipt. -/
def ActiveKept (m m' : ModelPackManager σ) : Prop :=
  ∀ identity record', m'.records.lookup identity = some record' → record'.state = .active →
    ∃ record, m.records.lookup identity = some record ∧ record.state = .active ∧
      record'.selfTestAuthorization = record.selfTestAuthorization

theorem quiet (h : AttestedInv S ⟨m, accepted⟩) (hquiet : m.Quiet m')
    (hrun : StorageRun S.toPackStorage m.storage m'.storage) : AttestedInv S ⟨m', accepted⟩ where
  records := fun identity record' hrecord' => by
    have hchange := hquiet.records identity
    rw [hrecord'] at hchange
    generalize hrecord : m.records.lookup identity = entry at hchange
    cases hchange with
    | installed digest catalog selection hvalid => exact .newRecord hvalid
    | changed hchange => exact (h.records identity _ hrecord).change hchange
  pending := fun identity challenge hpending => by
    obtain ⟨record, hrecord, hdigest⟩ : ∃ record, m.records.lookup identity = some record ∧
        challenge.staged.manifestSha256 = record.manifestSha256 := by
      rcases hquiet.pending identity challenge hpending with hbefore | hnew
      · exact h.pending identity challenge hbefore
      · exact hnew
    have hchange := hquiet.records identity
    rw [hrecord] at hchange
    generalize hrecord' : m'.records.lookup identity = entry at hchange
    cases hchange with
    | changed hchange => exact ⟨_, rfl, hdigest.trans hchange.manifest.2.symm⟩
  nodup := h.nodup
  consumed := fun replayKey hmem => S.consumed_run hrun (h.consumed replayKey hmem)

theorem activeKept_quiet (hquiet : m.Quiet m') : ActiveKept m m' := by
  intro identity record' hrecord' hactive
  have hchange := hquiet.records identity
  rw [hrecord'] at hchange
  generalize hrecord : m.records.lookup identity = entry at hchange
  cases hchange with
  | installed => cases hactive
  | changed hchange => exact ⟨_, rfl, hchange.active hactive⟩

theorem withdrawn (h : AttestedInv S ⟨m, accepted⟩) (hwithdrawn : m.Withdrawn m')
    (hrun : StorageRun S.toPackStorage m.storage m'.storage) : AttestedInv S ⟨m', accepted⟩ where
  records := fun identity record' hrecord' => by
    rcases hwithdrawn.records identity with hsame | hnone | ⟨record, hrecord, hremoving⟩
    · exact h.records identity record' (hsame ▸ hrecord')
    · cases hnone.symm.trans hrecord'
    · obtain rfl := Option.some.inj (hremoving.symm.trans hrecord')
      exact (h.records identity record hrecord).of_state fun h => by cases h
  pending := fun identity challenge hpending => by
    obtain ⟨hbefore, hgone⟩ := hwithdrawn.pending identity challenge hpending
    obtain ⟨record, hrecord, hdigest⟩ := h.pending identity challenge hbefore
    rcases hwithdrawn.records identity with hsame | hnone | ⟨other, hother, hremoving⟩
    · exact ⟨record, hsame.trans hrecord, hdigest⟩
    · cases hrecord.symm.trans (hgone hnone)
    · obtain rfl := Option.some.inj (hrecord.symm.trans hother)
      exact ⟨_, hremoving, hdigest⟩
  nodup := h.nodup
  consumed := fun replayKey hmem => S.consumed_run hrun (h.consumed replayKey hmem)

theorem activeKept_withdrawn (hwithdrawn : m.Withdrawn m') : ActiveKept m m' := by
  intro identity record' hrecord' hactive
  rcases hwithdrawn.records identity with hsame | hnone | ⟨record, hrecord, hremoving⟩
  · exact ⟨record', hsame ▸ hrecord', hactive, rfl⟩
  · cases hnone.symm.trans hrecord'
  · obtain rfl := Option.some.inj (hremoving.symm.trans hrecord')
    cases hactive

variable (h : AttestedInv S ⟨m, accepted⟩)

include h

/-- The records and the challenges are the same. -/
theorem of_records (hrecords : m'.records = m.records)
    (hpending : m'.pendingSelfTests = m.pendingSelfTests)
    (hrun : StorageRun S.toPackStorage m.storage m'.storage) : AttestedInv S ⟨m', accepted⟩ where
  records := hrecords ▸ h.records
  pending := by
    rw [hpending, hrecords]
    exact h.pending
  nodup := h.nodup
  consumed := fun replayKey hmem => S.consumed_run hrun (h.consumed replayKey hmem)

theorem setState {identity : PackRevision} {state : InstallState}
    (hstate : state ≠ .awaitingSelfTest) :
    AttestedInv S ⟨m.setState identity state, accepted⟩ where
  records := fun other record' hrecord' => by
    rw [ModelPackManager.lookup_setState] at hrecord'
    split_ifs at hrecord'
    · obtain ⟨record, hrecord, rfl⟩ := Option.map_eq_some_iff.1 hrecord'
      exact (h.records other record hrecord).of_state fun h => absurd h hstate
    · exact h.records other record' hrecord'
  pending := fun other challenge hpending => by
    obtain ⟨record, hrecord, hdigest⟩ := h.pending other challenge hpending
    rw [ModelPackManager.lookup_setState, hrecord]
    split_ifs
    · exact ⟨_, rfl, hdigest⟩
    · exact ⟨_, rfl, hdigest⟩
  nodup := h.nodup
  consumed := h.consumed

/-- An accepted attestation. Its key is new, since the storage had not consumed it. -/
theorem attested {identity : PackRevision} {challenge : SelfTestChallengeV1}
    {receipt : SelfTestAuthorizationReceiptV1} {s : σ}
    (hattested : m.Attested S.toPackStorage m' identity challenge receipt s) :
    AttestedInv S ⟨m', accepted ++ [receipt.replayKey]⟩ := by
  obtain ⟨record, hrecord, hdigest⟩ := h.pending identity challenge hattested.pending
  obtain ⟨hfresh, hconsumed⟩ := S.consumed_once _ _ _ hattested.consumed
  have hkept : ∀ replayKey ∈ accepted, S.consumed s replayKey := fun replayKey hmem =>
    S.consumed_run hattested.before.storageRun (h.consumed replayKey hmem)
  refine ⟨fun other record' hrecord' => ?_, fun other pending hpending => ?_, ?_, ?_⟩
  · simp only [hattested.records, Table.lookup_modify] at hrecord'
    split_ifs at hrecord' with heq
    · subst heq
      rw [hrecord] at hrecord'
      obtain rfl := Option.some.inj hrecord'
      exact (h.records other record hrecord).attested (hattested.tested record hrecord)
        (hattested.binding ▸ hdigest)
    · exact (h.records other record' hrecord').mono _
  · simp only [hattested.pendingAfter, Table.lookup_erase_eq] at hpending
    split_ifs at hpending with heq
    obtain ⟨record, hrecord, hdigest⟩ := h.pending other pending hpending
    refine ⟨record, ?_, hdigest⟩
    simp only [hattested.records, Table.lookup_modify, if_neg heq]
    exact hrecord
  · refine List.nodup_append.2 ⟨h.nodup, List.nodup_singleton _, ?_⟩
    rintro replayKey hmem _ hsingle rfl
    obtain rfl := List.mem_singleton.1 hsingle
    exact hfresh (hkept _ hmem)
  · intro replayKey hmem
    rcases List.mem_append.1 hmem with hmem | hmem
    · have hafter := S.consumed_after s (.consumeAttestationReplayKey receipt.replayKey) replayKey
        (hkept replayKey hmem)
      rwa [show S.after s (.consumeAttestationReplayKey receipt.replayKey) = m'.storage from
        congrArg Prod.snd hattested.consumed] at hafter
    · obtain rfl := List.mem_singleton.1 hmem
      exact hconsumed

end AttestedInv

/-! ## Steps -/

/-- Every active record holds a receipt. -/
def Authorized (m : ModelPackManager σ) : Prop :=
  ∀ identity record, m.records.lookup identity = some record → record.state = .active →
    record.selfTestAuthorization.isSome

section Steps

variable {codec : ManagerCodec} {S : ReplayProtectedStorage σ} {run : AttestedRun σ}

theorem AttestedInv.nothingUnattested_iff (h : AttestedInv S run) :
    NothingUnattested run ↔ Authorized run.manager :=
  forall₃_congr fun identity record hrecord =>
    forall_congr' fun _ => (h.records identity record hrecord).attests h.nodup

theorem Authorized.of_activeKept {m m' : ModelPackManager σ} (h : Authorized m)
    (hkept : AttestedInv.ActiveKept m m') : Authorized m' := by
  intro identity record' hrecord' hactive
  obtain ⟨record, hrecord, hbefore, hsame⟩ := hkept identity record' hrecord' hactive
  rw [hsame]
  exact h identity record hrecord hbefore

variable {m : ModelPackManager σ}

/-- A state is set; where it is the active one, the record has to hold a receipt. -/
theorem Authorized.setState_iff (h : Authorized m) (identity : PackRevision)
    (state : InstallState) :
    Authorized (m.setState identity state) ↔ (state = .active →
      ∀ record, m.records.lookup identity = some record →
        record.selfTestAuthorization.isSome) := by
  constructor
  · rintro hset rfl record hrecord
    refine hset identity { record with state := .active } ?_ rfl
    rw [ModelPackManager.lookup_setState, if_pos rfl, hrecord]
    rfl
  · intro hreceipt other record' hrecord' hactive
    rw [ModelPackManager.lookup_setState] at hrecord'
    split_ifs at hrecord' with heq
    · obtain ⟨record, hrecord, rfl⟩ := Option.map_eq_some_iff.1 hrecord'
      exact hreceipt hactive record (heq ▸ hrecord)
    · exact h other record' hrecord' hactive

/-- **A rollback authorizes its target only if the target is authorized.** -/
theorem Authorized.rolledBack_iff (h : Authorized m) (packId : PackId) (target current : Revision)
    (s : σ) :
    Authorized (({ m with storage := s }).rolledBack packId target current) ↔
      ∀ record, m.records.lookup ⟨packId, target⟩ = some record →
        record.selfTestAuthorization.isSome := by
  have hbefore : Authorized (({ m with
      storage := s
      rollbacks := m.rollbacks.modify packId List.dropLast
      active := m.active.insert packId target } : ModelPackManager σ).setState
        ⟨packId, current⟩ .rolledBack) :=
    (Authorized.setState_iff h _ _).2 fun h => by cases h
  refine (hbefore.setState_iff ⟨packId, target⟩ .active).trans ?_
  rw [ModelPackManager.lookup_setState]
  split_ifs
  · simp
  · simp

theorem targetAuthorized_of_ne {call : ManagerCall} (h : ∀ packId, call ≠ .rollback packId) :
    TargetAuthorized S.toPackStorage run call :=
  fun packId _ _ _ _ hcall => absurd hcall (h packId)

/-- An attestation keeps the invariant, and nothing becomes active. -/
theorem attestation_step (h : AttestedInv S run) (identity : PackRevision)
    (attestation : SelfTestAttestationV1) (verifier : SelfTestAttestationVerifier) (now : Nat) :
    AttestedInv S (attestedStep codec S.toPackStorage
        (.recordSelfTestAttestation identity attestation verifier now) run) ∧
      AttestedInv.ActiveKept run.manager (attestedStep codec S.toPackStorage
        (.recordSelfTestAttestation identity attestation verifier now) run).manager := by
  have houtcome := ModelPackManager.recordSelfTestAttestation_outcome codec S.toPackStorage
    run.manager identity attestation verifier now
  simp only [attestedStep, managerCall]
  generalize run.manager.recordSelfTestAttestation codec S.toPackStorage identity attestation
    verifier now = out at houtcome ⊢
  cases houtcome with
  | accepted challenge receipt s hkey hattested =>
    refine ⟨?_, ?_⟩
    · simp only [acceptedKey, ← hkey]
      exact h.attested hattested
    intro other record' hrecord' hactive
    simp only [hattested.records, Table.lookup_modify] at hrecord'
    split_ifs at hrecord'
    · obtain ⟨record, -, rfl⟩ := Option.map_eq_some_iff.1 hrecord'
      cases hactive
    · exact ⟨record', hrecord', hactive, rfl⟩
  | refused hquiet =>
    refine ⟨?_, AttestedInv.activeKept_quiet hquiet.quiet⟩
    rw [show acceptedKey codec _ (.error _) = [] from rfl, List.append_nil]
    exact h.quiet hquiet.quiet hquiet.storage.storageRun

variable {accepted : List Sha256Digest}

section

variable (h : AttestedInv S ⟨m, accepted⟩)

include h

/-- A removal keeps the invariant, and nothing becomes active. -/
theorem removal_step (packId : PackId) (policy : RemovalPolicy) :
    AttestedInv S ⟨(m.remove S.toPackStorage packId policy).2, accepted⟩ ∧
      AttestedInv.ActiveKept m (m.remove S.toPackStorage packId policy).2 := by
  have houtcome := ModelPackManager.remove_outcome S.toPackStorage m packId policy
  generalize m.remove S.toPackStorage packId policy = out at houtcome ⊢
  cases houtcome with
  | removed hwithdrawn _ hrun hremovals =>
    exact ⟨h.withdrawn hwithdrawn (hrun.storageRun.trans hremovals.storageRun),
      AttestedInv.activeKept_withdrawn hwithdrawn⟩
  | refused hrun =>
    exact ⟨h.of_records rfl rfl hrun.storageRun, fun _ record' hrecord' hactive =>
      ⟨record', hrecord', hactive, rfl⟩⟩
  | failed hwithdrawn _ _ hrun =>
    exact ⟨h.withdrawn hwithdrawn hrun, AttestedInv.activeKept_withdrawn hwithdrawn⟩

/-- An activation finds a receipt. -/
theorem activation_step (identity : PackRevision) :
    AttestedInv S ⟨(m.activate S.toPackStorage identity).2, accepted⟩ ∧
      (Authorized m → Authorized (m.activate S.toPackStorage identity).2) := by
  have houtcome := ModelPackManager.activate_outcome S.toPackStorage m identity
  generalize m.activate S.toPackStorage identity = out at houtcome ⊢
  cases houtcome with
  | activated hgoes =>
    refine ⟨(h.setState (by simp)).of_records rfl rfl hgoes.storageRun, fun hauthorized => ?_⟩
    obtain ⟨record, hrecord, -, hreceipt⟩ := ModelPackManager.checkActivate_eq_ok hgoes.checks
    refine (hauthorized.setState_iff identity .active).2 fun _ other hother => ?_
    obtain rfl := Option.some.inj (hrecord.symm.trans hother)
    rw [hreceipt]
    rfl
  | refused _ hquiet =>
    exact ⟨h.quiet hquiet.quiet hquiet.storage.storageRun, fun hauthorized =>
      hauthorized.of_activeKept (AttestedInv.activeKept_quiet hquiet.quiet)⟩
  | @failed _ _ staged _ _ _ hquiet _ hbefore hactivate =>
    have hrun := hbefore.call (.activate staged _) (congrArg Prod.snd hactivate)
    exact ⟨h.quiet hquiet hrun, fun hauthorized =>
      hauthorized.of_activeKept (AttestedInv.activeKept_quiet hquiet)⟩

/-- A rollback that goes through needs a receipt for its target; any other leaves the records. -/
theorem rollback_step (packId : PackId) :
    AttestedInv S ⟨(m.rollback S.toPackStorage packId).2, accepted⟩ ∧
      (Authorized m → (Authorized (m.rollback S.toPackStorage packId).2 ↔
        TargetAuthorized S.toPackStorage ⟨m, accepted⟩ (.rollback packId))) := by
  have houtcome := ModelPackManager.rollback_outcome S.toPackStorage m packId
  generalize m.rollback S.toPackStorage packId = out at houtcome ⊢
  cases houtcome with
  | @rolledBack current target s s' hgoes =>
    refine ⟨?_, fun hauthorized => (hauthorized.rolledBack_iff packId target current s').trans ?_⟩
    · have hbooks : AttestedInv S ⟨{ m with
          storage := s'
          rollbacks := m.rollbacks.modify packId List.dropLast
          active := m.active.insert packId target }, accepted⟩ :=
        h.of_records rfl rfl hgoes.storageRun
      exact (hbooks.setState (by simp)).setState (by simp)
    · constructor
      · rintro hreceipt _ _ _ _ _ ⟨⟩ hother
        obtain rfl := Option.some.inj (hgoes.top.symm.trans hother.top)
        exact hreceipt
      · intro hreceipt
        exact hreceipt packId current target s s' rfl hgoes
  | refused hnot hrun =>
    refine ⟨h.of_records rfl rfl hrun.storageRun, fun hauthorized => iff_of_true hauthorized ?_⟩
    rintro _ _ _ _ _ ⟨⟩ hgoes
    exact absurd hgoes (hnot _ _ _ _)
  | @failed _ target _ _ hnot _ hbefore hactivate =>
    have hrun := hbefore.call (.activateExisting ⟨packId, target⟩) (congrArg Prod.snd hactivate)
    refine ⟨h.of_records rfl rfl hrun, fun hauthorized => iff_of_true hauthorized ?_⟩
    rintro _ _ _ _ _ ⟨⟩ hgoes
    exact absurd hgoes (hnot _ _ _ _)
  | @inactive target _ _ hnone _ hbefore hactivate =>
    have hrun := hbefore.call (.activateExisting ⟨packId, target⟩) (congrArg Prod.snd hactivate)
    refine ⟨h.of_records rfl rfl hrun, fun hauthorized => iff_of_true hauthorized ?_⟩
    rintro _ _ _ _ _ ⟨⟩ hgoes
    cases hnone.symm.trans hgoes.current

end

/-- **One step.** It keeps the invariant, and whether it keeps every active record authorized is up
to the target of a rollback. -/
theorem attested_step (h : AttestedInv S run) (call : ManagerCall) :
    AttestedInv S (attestedStep codec S.toPackStorage call run) ∧
      (Authorized run.manager →
        (Authorized (attestedStep codec S.toPackStorage call run).manager ↔
          TargetAuthorized S.toPackStorage run call)) := by
  obtain ⟨m, accepted⟩ := run
  by_cases hquiet : call.quiet
  · have hcall : m.QuietCall S.toPackStorage (managerCall codec S.toPackStorage call m).2 :=
      quiet_managerCall hquiet
    have hinv := h.quiet hcall.quiet hcall.storage.storageRun
    have hkept := AttestedInv.activeKept_quiet hcall.quiet
    have haccepted : acceptedKey codec call (managerCall codec S.toPackStorage call m).1 = [] := by
      cases call with
      | recordSelfTestAttestation => cases hquiet
      | _ => rfl
    refine ⟨?_, fun hauthorized => iff_of_true (hauthorized.of_activeKept hkept)
      (targetAuthorized_of_ne ?_)⟩
    · simp only [attestedStep, haccepted, List.append_nil]
      exact hinv
    · rintro packId rfl
      cases hquiet
  cases call with
  | recordSelfTestAttestation identity attestation verifier now =>
    obtain ⟨hinv, hkept⟩ :=
      @attestation_step σ codec S ⟨m, accepted⟩ h identity attestation verifier now
    exact ⟨hinv, fun hauthorized => iff_of_true (hauthorized.of_activeKept hkept)
      (targetAuthorized_of_ne (by simp))⟩
  | activate identity =>
    obtain ⟨hinv, hkept⟩ := activation_step h identity
    simp only [attestedStep, acceptedKey, List.append_nil]
    exact ⟨hinv, fun hauthorized => iff_of_true (hkept hauthorized)
      (targetAuthorized_of_ne (by simp))⟩
  | remove packId policy =>
    obtain ⟨hinv, hkept⟩ := removal_step h packId policy
    simp only [attestedStep, acceptedKey, List.append_nil]
    exact ⟨hinv, fun hauthorized => iff_of_true (hauthorized.of_activeKept hkept)
      (targetAuthorized_of_ne (by simp))⟩
  | rollback packId =>
    simp only [attestedStep, acceptedKey, List.append_nil]
    exact rollback_step h packId
  | _ => exact absurd rfl hquiet

end Steps

/-- **Nothing runs unattested.** From an empty manager over any storage that meets its contract,
every state of a run is free of unattested active revisions exactly if every rollback that goes
through finds a receipt in the record of its target. -/
theorem nothing_unattested_iff (codec : ManagerCodec) (S : ReplayProtectedStorage σ) (storage : σ)
    (calls : List ManagerCall) :
    (∀ pre, pre <+: calls → NothingUnattested
        (runFrom (attestedStep codec S.toPackStorage) pre ⟨.new storage, []⟩)) ↔
      Along (attestedStep codec S.toPackStorage) (TargetAuthorized S.toPackStorage) calls
        ⟨.new storage, []⟩ := by
  have hnew : AttestedInv S ⟨.new storage, []⟩ :=
    ⟨fun _ _ h => (by cases h), fun _ _ h => (by cases h), .nil, by simp⟩
  refine along_iff_prefixes (AttestedInv S) NothingUnattested
    (fun run call h => (attested_step h call).1) ?_ hnew ?_
  · intro run call h hattested
    obtain ⟨hinv, hstep⟩ := @attested_step σ codec S run h call
    rw [hinv.nothingUnattested_iff]
    exact hstep (h.nothingUnattested_iff.1 hattested)
  · exact hnew.nothingUnattested_iff.2 fun _ _ h => by cases h

/-- The storage with the content of one revision damaged. -/
def ReplayProtectedStorage.damaged (S : ReplayProtectedStorage σ) (identity : PackRevision) :
    ReplayProtectedStorage σ where
  toPackStorage := { S.toPackStorage with
    inspect := fun target s =>
      ((S.inspect target s).1.map fun inspection =>
        if target = identity then { inspection with contentHealthy := false } else inspection,
        (S.inspect target s).2) }
  consumed := S.consumed
  consumed_after s op replayKey h := by
    have hkept := S.consumed_after s op replayKey h
    cases op <;> exact hkept
  consumed_once := S.consumed_once

/-- The first of two revisions is damaged and goes back to its downloads; a rollback then makes it
active with neither evidence nor receipt. -/
theorem rollback_revives_a_repair :
    ¬ ∀ (codec : ManagerCodec) (S : ReplayProtectedStorage InMemoryPackStorage)
        (storage : InMemoryPackStorage) (calls : List ManagerCall),
      NothingUnattested
        (runFrom (attestedStep codec S.toPackStorage) calls ⟨.new storage, []⟩) := by
  intro h
  let S := (inMemoryReplayProtected fixtureMemory).damaged (sampleIdentity firstRevision)
  let run := runFrom (attestedStep fixtureCodec S.toPackStorage)
    (installTwo ++ [.beginRepair (sampleIdentity firstRevision),
      .restartRepairDownloads (sampleIdentity firstRevision), .rollback samplePack]) ⟨.new {}, []⟩
  have hrecord : (run.manager.records.lookup (sampleIdentity firstRevision)).map (fun record =>
      (record.state, record.selfTestAuthorization)) = some (.active, none) := by
    decide +kernel
  obtain ⟨record, hlookup, hfields⟩ := Option.map_eq_some_iff.1 hrecord
  obtain ⟨hactive, hnone⟩ := Prod.mk.inj hfields
  obtain ⟨receipt, hreceipt, -⟩ := (h fixtureCodec S {} _ _ record hlookup hactive).authorization
  cases hnone.symm.trans hreceipt

end NpcRuntime.Packs
