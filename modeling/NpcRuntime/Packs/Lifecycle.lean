import Mathlib.Logic.Relation
import NpcRuntime.Packs.Manager

/-!
# What a call of the pack manager does

Most calls are quiet: they leave the active revisions and the rollback stacks alone, change
records only in the few ways of `RecordChange` and use the storage without switching it
(`quiet_managerCall`). The four others are attestations, activations, removals and rollbacks, and
each has a theorem that says all it can do.

A property of the manager is then shown once for the quiet calls and once for each of the four.
-/

namespace NpcRuntime.Packs

variable {σ : Type}

/-! ## The storage -/

/-- A call of the storage. -/
inductive StorageOp where
  | stage (manifest : ModelPackManifestV1) (evidence : List ArtifactEvidence)
  | stagedContentBinding (staged : StagedPack)
  | commitInactive (staged : StagedPack)
  | consumeAttestationReplayKey (replayKey : Sha256Digest)
  | activate (staged : StagedPack) (authorization : ActivationAuthorization)
  | activateExisting (target : PackRevision)
  | inspect (target : PackRevision)
  | removeRevision (target : PackRevision)
  | addReference (packId : PackId) (consumer : Text)
  | removeReference (packId : PackId) (consumer : Text)
  | referenceCount (packId : PackId)

/-- The storage after a call. -/
def PackStorage.after (S : PackStorage σ) (s : σ) : StorageOp → σ
  | .stage manifest evidence => (S.stage manifest evidence s).2
  | .stagedContentBinding staged => (S.stagedContentBinding staged s).2
  | .commitInactive staged => (S.commitInactive staged s).2
  | .consumeAttestationReplayKey replayKey => (S.consumeAttestationReplayKey replayKey s).2
  | .activate staged authorization => (S.activate staged authorization s).2
  | .activateExisting target => (S.activateExisting target s).2
  | .inspect target => (S.inspect target s).2
  | .removeRevision target => (S.removeRevision target s).2
  | .addReference packId consumer => (S.addReference packId consumer s).2
  | .removeReference packId consumer => (S.removeReference packId consumer s).2
  | .referenceCount packId => (S.referenceCount packId s).2

/-- The calls that say which revision is active. -/
def StorageOp.switches : StorageOp → Bool
  | .activate .. | .activateExisting .. | .removeRevision .. => true
  | _ => false

/-- Any number of storage calls. -/
abbrev StorageRun (S : PackStorage σ) : σ → σ → Prop :=
  Relation.ReflTransGen fun s s' => ∃ op, S.after s op = s'

/-- Any number of storage calls that switch nothing. -/
abbrev QuietStorageRun (S : PackStorage σ) : σ → σ → Prop :=
  Relation.ReflTransGen fun s s' => ∃ op : StorageOp, op.switches = false ∧ S.after s op = s'

variable {S : PackStorage σ} {s s' : σ}

theorem QuietStorageRun.storageRun (h : QuietStorageRun S s s') : StorageRun S s s' := by
  induction h with
  | refl => exact .refl
  | tail _ hop ih =>
    obtain ⟨op, -, hop⟩ := hop
    exact ih.tail ⟨op, hop⟩

/-- One more call, of any kind. -/
theorem QuietStorageRun.call {s t s' : σ} (h : QuietStorageRun S s t) (op : StorageOp)
    (hop : S.after t op = s') : StorageRun S s s' :=
  h.storageRun.tail ⟨op, hop⟩

/-- A storage that meets the contract of its trait: a replay key is consumed once, and no call
forgets it. -/
structure ReplayProtectedStorage (σ : Type) extends PackStorage σ where
  consumed : σ → Sha256Digest → Prop
  consumed_after : ∀ s op replayKey, consumed s replayKey →
    consumed (toPackStorage.after s op) replayKey
  consumed_once : ∀ s replayKey s', consumeAttestationReplayKey replayKey s = (.ok true, s') →
    ¬consumed s replayKey ∧ consumed s' replayKey

theorem ReplayProtectedStorage.consumed_run {S : ReplayProtectedStorage σ}
    (h : StorageRun S.toPackStorage s s') {replayKey : Sha256Digest}
    (hconsumed : S.consumed s replayKey) : S.consumed s' replayKey := by
  induction h with
  | refl => exact hconsumed
  | tail _ hop ih =>
    obtain ⟨op, rfl⟩ := hop
    exact S.consumed_after _ op replayKey ih

/-! ## Records -/

/-- The states in which a revision waits for something else than its own installation. -/
def InstallState.parked : InstallState → Bool
  | .quarantined .. | .repairing | .removing | .rolledBack => true
  | _ => false

/-- What a quiet call does to a record. -/
inductive RecordChange : PackRecord → PackRecord → Prop
  | kept (record : PackRecord) : RecordChange record record
  | parked (record : PackRecord) {state : InstallState} (h : state.parked) :
      RecordChange record { record with state }
  | received (record : PackRecord) {artifactId : Text} {journal journal' : DownloadJournal}
      {call : JournalCall} (hjournal : record.downloads.lookup artifactId = some journal)
      (hcall : call.apply journal = .ok journal') :
      RecordChange record
        { record with downloads := record.downloads.modify artifactId fun _ => journal' }
  | verified (record : PackRecord) {evidence : ArtifactEvidence}
      {journal journal' : DownloadJournal}
      (hjournal : record.downloads.lookup evidence.artifactId = some journal)
      (hverified : journal.markVerified evidence = .ok journal') :
      RecordChange record (ModelPackManager.withEvidence record journal' evidence)
  | staged (record : PackRecord)
      (hevidence : record.evidence.entries.length = record.manifest.artifacts.length) :
      RecordChange record { record with state := .awaitingSelfTest }
  | selected (record : PackRecord) (selection : PackSelectionAuthorizationV1) :
      RecordChange record { record with selection }
  | restarted (record : PackRecord) : RecordChange record (ModelPackManager.restarted record)

variable {record : PackRecord}

theorem RecordChange.manifest {record' : PackRecord} (h : RecordChange record record') :
    record'.manifest = record.manifest ∧ record'.manifestSha256 = record.manifestSha256 := by
  cases h <;> exact ⟨rfl, rfl⟩

/-- No quiet call makes a record active, and an active one keeps what it holds. -/
theorem RecordChange.active {record' : PackRecord} (h : RecordChange record record')
    (hactive : record'.state = .active) :
    record.state = .active ∧ record'.selfTestAuthorization = record.selfTestAuthorization := by
  cases h with
  | kept | received | selected => exact ⟨hactive, rfl⟩
  | parked hparked =>
    cases hactive
    cases hparked
  | verified =>
    simp only [ModelPackManager.withEvidence] at hactive
    split at hactive <;> cases hactive
  | staged | restarted => cases hactive

/-- The record of a new installation. -/
def newRecord (manifest : ModelPackManifestV1) (manifestSha256 : Sha256Digest)
    (catalog : CatalogInstallBindingV1) (selection : PackSelectionAuthorizationV1) : PackRecord :=
  { manifest
    manifestSha256
    state := .downloading
    downloads := ModelPackManager.newDownloads manifest
    catalog
    selection }

/-- What a quiet call does to the entry of a revision. -/
inductive EntryChange : Option PackRecord → Option PackRecord → Prop
  | absent : EntryChange none none
  | installed {manifest : ModelPackManifestV1} (digest : Sha256Digest)
      (catalog : CatalogInstallBindingV1) (selection : PackSelectionAuthorizationV1)
      (hvalid : manifest.validate = .ok ()) :
      EntryChange none (some (newRecord manifest digest catalog selection))
  | changed {record record' : PackRecord} (h : RecordChange record record') :
      EntryChange (some record) (some record')

theorem EntryChange.refl (entry : Option PackRecord) : EntryChange entry entry := by
  cases entry with
  | none => exact .absent
  | some record => exact .changed (.kept record)

namespace ModelPackManager

/-! ## Rules for calls -/

section Rules

variable {m : ModelPackManager σ} {α β : Type}

/-- **Rule for checks.** -/
theorem checked_rule {check : Except ManagerError α} {change : α → ManagerCallOf σ β}
    (Q : ManagerCallOf σ β → Prop) (hfails : ∀ error, Q (.error error, m))
    (hpasses : ∀ a, check = .ok a → Q (change a)) : Q (m.checked check change) := by
  cases hcheck : check with
  | error error => exact hfails error
  | ok a => exact hpasses a hcheck

/-- **Rule for storage calls.** -/
theorem stored_rule {call : StorageCall σ α}
    {next : Except StorageError α → ModelPackManager σ → ManagerCallOf σ β}
    (Q : ManagerCallOf σ β → Prop)
    (h : ∀ result s, call m.storage = (result, s) → Q (next result { m with storage := s })) :
    Q (m.stored call next) :=
  h (call m.storage).1 (call m.storage).2 rfl

end Rules

/-! ## Quiet calls -/

/-- What a quiet call does to the books of the manager. -/
structure Quiet (m m' : ModelPackManager σ) : Prop where
  active : m'.active = m.active
  rollbacks : m'.rollbacks = m.rollbacks
  records : ∀ identity, EntryChange (m.records.lookup identity) (m'.records.lookup identity)
  /-- A new challenge is for the manifest that is recorded. -/
  pending : ∀ identity challenge, m'.pendingSelfTests.lookup identity = some challenge →
    m.pendingSelfTests.lookup identity = some challenge ∨
      ∃ record, m.records.lookup identity = some record ∧
        challenge.staged.manifestSha256 = record.manifestSha256
  /-- A new staged transaction is for the revision it is filed under. -/
  staged : ∀ identity staged, m'.staged.lookup identity = some staged →
    m.staged.lookup identity = some staged ∨ staged.identity = identity

theorem Quiet.refl (m : ModelPackManager σ) : Quiet m m :=
  ⟨rfl, rfl, fun _ => .refl _, fun _ _ h => .inl h, fun _ _ h => .inl h⟩

variable {m m' : ModelPackManager σ}

/-- The records are the same. -/
theorem Quiet.of_records (hactive : m'.active = m.active) (hrollbacks : m'.rollbacks = m.rollbacks)
    (hrecords : m'.records = m.records) (hpending : m'.pendingSelfTests = m.pendingSelfTests)
    (hstaged : m'.staged = m.staged) :
    Quiet m m' where
  active := hactive
  rollbacks := hrollbacks
  records := fun _ => by rw [hrecords]; exact .refl _
  pending := fun _ _ h => .inl (hpending ▸ h)
  staged := fun _ _ h => .inl (hstaged ▸ h)

/-- One record changes, and challenges and staged transactions are only withdrawn. -/
theorem Quiet.of_modify {identity : PackRevision} {f : PackRecord → PackRecord}
    (hf : ∀ record, m.records.lookup identity = some record → RecordChange record (f record))
    (hactive : m'.active = m.active) (hrollbacks : m'.rollbacks = m.rollbacks)
    (hrecords : m'.records = m.records.modify identity f)
    (hpending : ∀ other challenge, m'.pendingSelfTests.lookup other = some challenge →
      m.pendingSelfTests.lookup other = some challenge)
    (hstaged : ∀ other staged, m'.staged.lookup other = some staged →
      m.staged.lookup other = some staged) : Quiet m m' where
  active := hactive
  rollbacks := hrollbacks
  records := fun other => by
    rw [hrecords, Table.lookup_modify]
    split_ifs with h
    · subst h
      cases hrecord : m.records.lookup other with
      | none => exact .absent
      | some record => exact .changed (hf record hrecord)
    · exact .refl _
  pending := fun other challenge h => .inl (hpending other challenge h)
  staged := fun other staged h => .inl (hstaged other staged h)

theorem lookup_setState (m : ModelPackManager σ) (identity other : PackRevision)
    (state : InstallState) : (m.setState identity state).records.lookup other =
      if other = identity then (m.records.lookup other).map fun record => { record with state }
      else m.records.lookup other :=
  Table.lookup_modify ..

variable {m : ModelPackManager σ}

/-- A record is parked. -/
theorem quiet_setState {identity : PackRevision} {state : InstallState} (h : state.parked) :
    Quiet m (m.setState identity state) :=
  .of_modify (fun record _ => .parked record h) rfl rfl rfl (fun _ _ h => h) fun _ _ h => h

theorem lookup_of_lookup_erase {κ α : Type} [DecidableEq κ] {t : Table κ α} {k j : κ} {v : α}
    (h : (t.erase k).lookup j = some v) : t.lookup j = some v := by
  rw [Table.lookup_erase_eq] at h
  split_ifs at h
  exact h

/-- What a quiet call does to the manager. -/
structure QuietCall (S : PackStorage σ) (m m' : ModelPackManager σ) : Prop where
  quiet : Quiet m m'
  storage : QuietStorageRun S m.storage m'.storage

section QuietRules

variable {S : PackStorage σ} {m m' : ModelPackManager σ} {α β : Type}

theorem QuietCall.refl (m : ModelPackManager σ) : QuietCall S m m := ⟨.refl m, .refl⟩

/-- A transaction is staged in front of the call. -/
theorem QuietCall.of_staged {identity : PackRevision} {staged : StagedPack}
    (hstaged : staged.identity = identity)
    (h : QuietCall S { m with staged := m.staged.insert identity staged } m') :
    QuietCall S m m' := by
  refine ⟨⟨h.quiet.1, h.quiet.2, h.quiet.3, h.quiet.4, fun other found hfound => ?_⟩, h.storage⟩
  rcases h.quiet.staged other found hfound with hbefore | hsame
  · rw [Table.lookup_insert_eq] at hbefore
    split_ifs at hbefore with heq
    · obtain rfl := Option.some.inj hbefore
      exact .inr (hstaged.trans heq.symm)
    · exact .inl hbefore
  · exact .inr hsame

theorem Quiet.of_storage {s : σ} (h : Quiet { m with storage := s } m') : Quiet m m' :=
  ⟨h.1, h.2, h.3, h.4, h.5⟩

/-- The storage was read in front of the call. -/
theorem QuietCall.of_storage {s : σ} (hrun : QuietStorageRun S m.storage s)
    (h : QuietCall S { m with storage := s } m') : QuietCall S m m' :=
  ⟨h.quiet.of_storage, hrun.trans h.storage⟩

theorem Quiet.call (h : Quiet m m') (hstorage : m'.storage = m.storage) : QuietCall S m m' :=
  ⟨h, hstorage ▸ .refl⟩

/-- A call that changes one record. -/
theorem QuietCall.of_modify {identity : PackRevision} {f : PackRecord → PackRecord}
    (hf : ∀ record, m.records.lookup identity = some record → RecordChange record (f record)) :
    QuietCall S m { m with records := m.records.modify identity f } :=
  Quiet.call (.of_modify hf rfl rfl rfl (fun _ _ h => h) fun _ _ h => h) rfl

theorem quiet_checked {check : Except ManagerError α} {change : α → ManagerCallOf σ β}
    (h : ∀ a, check = .ok a → QuietCall S m (change a).2) :
    QuietCall S m (m.checked check change).2 :=
  checked_rule (fun out => QuietCall S m out.2) (fun _ => .refl m) h

theorem quiet_stored {call : StorageCall σ α}
    {next : Except StorageError α → ModelPackManager σ → ManagerCallOf σ β} (op : StorageOp)
    (hop : op.switches = false) (hafter : ∀ s, S.after s op = (call s).2)
    (h : ∀ result s, QuietCall S { m with storage := s } (next result { m with storage := s }).2) :
    QuietCall S m (m.stored call next).2 := by
  refine stored_rule (fun out => QuietCall S m out.2) fun result s hcall => ?_
  have hs : S.after m.storage op = s := by rw [hafter, hcall]
  exact .of_storage (.single ⟨op, hop, hs⟩) (h result s)

end QuietRules

section Calls

variable {codec : ManagerCodec} {S : PackStorage σ} {m : ModelPackManager σ}
  {identity : PackRevision}

theorem inState_eq_ok {state : InstallState} :
    m.inState identity state = .ok record ↔
      m.records.lookup identity = some record ∧ record.state = state := by
  simp only [inState, bind_eq_ok, okOr_eq_ok, require_eq_ok, pure_eq_ok, beq_iff_eq]
  constructor
  · rintro ⟨_, hlookup, _, hstate, rfl⟩
    exact ⟨hlookup, hstate⟩
  · rintro ⟨hlookup, hstate⟩
    exact ⟨record, hlookup, ⟨⟩, hstate, rfl⟩

variable {selection : PackSelectionAuthorizationV1}

theorem checkInstall_eq_ok {manifest : ModelPackManifestV1} {catalog : CatalogInstallBindingV1}
    {licenseAccepted : Bool} {digest : Sha256Digest}
    (h : m.checkInstall codec manifest catalog selection licenseAccepted = .ok digest) :
    manifest.validate = .ok () ∧ m.records.lookup manifest.identity = none := by
  simp only [checkInstall, bind_eq_ok, mapError_eq_ok, option_forM_eq_ok] at h
  obtain ⟨_, hvalid, _, -, _, -, _, -, _, -, _, -, _, hrecord, -⟩ := h
  refine ⟨hvalid, ?_⟩
  cases hlookup : m.records.lookup manifest.identity with
  | none => rfl
  | some record =>
    obtain ⟨_, -, habsurd⟩ := hrecord record hlookup
    cases habsurd

theorem quiet_beginInstall {manifest : ModelPackManifestV1} {catalog : CatalogInstallBindingV1}
    {licenseAccepted : Bool} :
    QuietCall S m (m.beginInstall codec manifest catalog selection licenseAccepted).2 := by
  refine quiet_checked fun digest hcheck => Quiet.call
    ⟨rfl, rfl, ?_, fun _ _ h => .inl h, fun _ _ h => .inl h⟩ rfl
  obtain ⟨hvalid, hnone⟩ := checkInstall_eq_ok hcheck
  intro other
  rw [Table.lookup_insert_eq]
  split_ifs with h
  · rw [h, hnone]
    exact .installed digest catalog selection hvalid
  · exact .refl _

theorem quiet_downloadJournal {artifactId : Text} {call : JournalCall} :
    QuietCall S m (m.downloadJournal identity artifactId call).2 := by
  refine quiet_checked fun journal hcheck => .of_modify fun record hrecord => ?_
  simp only [receiving, bind_eq_ok, okOr_eq_ok, mapError_eq_ok, pure_eq_ok] at hcheck
  obtain ⟨_, ⟨_, hlookup, _, -, rfl⟩, _, hjournal, hcall⟩ := hcheck
  obtain rfl := Option.some.inj (hrecord.symm.trans hlookup)
  exact .received record hjournal hcall

theorem quiet_acceptVerifiedArtifact {evidence : ArtifactEvidence} :
    QuietCall S m (m.acceptVerifiedArtifact identity evidence).2 := by
  refine quiet_checked fun journal hcheck => .of_modify fun record hrecord => ?_
  simp only [receiving, bind_eq_ok, okOr_eq_ok, mapError_eq_ok, pure_eq_ok] at hcheck
  obtain ⟨_, ⟨_, hlookup, _, -, rfl⟩, _, hjournal, hverified⟩ := hcheck
  obtain rfl := Option.some.inj (hrecord.symm.trans hlookup)
  exact .verified record hjournal hverified

theorem quiet_stage : QuietCall S m (m.stage S identity).2 := by
  refine quiet_checked fun record hcheck => ?_
  simp only [bind_eq_ok, inState_eq_ok, require_eq_ok, pure_eq_ok, beq_iff_eq] at hcheck
  obtain ⟨_, ⟨hrecord, -⟩, _, hlength, rfl⟩ := hcheck
  refine quiet_stored (.stage _ _) rfl (fun _ => rfl) fun result s => ?_
  cases result with
  | error error => exact .refl _
  | ok staged =>
    show QuietCall S _ (ite _ _ _ : ManagerCallOf σ Unit).2
    split_ifs with hidentity
    · exact (quiet_setState rfl).call rfl
    · refine (quiet_stored (.commitInactive staged) rfl (fun _ => rfl)
        fun result s => ?_).of_staged (not_not.1 hidentity)
      cases result with
      | error error => exact (quiet_setState rfl).call rfl
      | ok _ =>
        refine .of_modify fun other hother => ?_
        obtain rfl := Option.some.inj (hrecord.symm.trans hother)
        exact .staged _ hlength

theorem quiet_authorizeActivation :
    QuietCall S m (m.authorizeActivation codec identity selection).2 :=
  quiet_checked fun _ _ => .of_modify fun record _ => .selected record selection

variable {nowUnixSeconds lifetimeSeconds : Nat} {nonce : Except AttestationError Text}

theorem makeChallenge_eq_ok {staged : StagedPack} {binding : StagedContentBindingV1}
    {runtimeBackend : Text} {challenge : SelfTestChallengeV1} (h : makeChallenge
      record staged binding identity runtimeBackend nowUnixSeconds lifetimeSeconds nonce = .ok
      challenge) : challenge.staged.manifestSha256 = record.manifestSha256 := by
  simp only [makeChallenge, bind_eq_ok, require_eq_ok, Bool.and_eq_true, beq_iff_eq,
    pure_eq_ok] at h
  obtain ⟨_, ⟨-, hdigest⟩, _, -, _, -, _, -, rfl⟩ := h
  exact hdigest

theorem quiet_issueSelfTestChallenge {runtimeBackend : Text} :
    QuietCall S m (m.issueSelfTestChallenge S identity runtimeBackend nowUnixSeconds
      lifetimeSeconds nonce).2 := by
  refine quiet_checked fun (record, staged) hcheck => ?_
  simp only [checkChallenge, bind_eq_ok, inState_eq_ok, pure_eq_ok, Prod.mk.injEq] at hcheck
  obtain ⟨_, ⟨hrecord, -⟩, _, -, _, -, _, -, rfl, -⟩ := hcheck
  refine quiet_stored (.stagedContentBinding staged) rfl (fun _ => rfl) fun result s => ?_
  cases result with
  | error error => exact .refl _
  | ok binding =>
    refine quiet_checked fun challenge hchallenge => Quiet.call
      ⟨rfl, rfl, fun _ => .refl _, ?_, fun _ _ h => .inl h⟩ rfl
    intro other pending hpending
    rw [Table.lookup_insert_eq] at hpending
    split_ifs at hpending with h
    · obtain rfl := Option.some.inj hpending
      exact .inr ⟨_, h ▸ hrecord, makeChallenge_eq_ok hchallenge⟩
    · exact .inl hpending

theorem quiet_abandonSelfTestChallenge {expectedNonce : Text} :
    QuietCall S m (m.abandonSelfTestChallenge identity expectedNonce).2 :=
  quiet_checked fun _ _ => Quiet.call
    ⟨rfl, rfl, fun _ => .refl _, fun _ _ h => .inl (lookup_of_lookup_erase h),
      fun _ _ h => .inl h⟩ rfl

theorem quiet_addReference {packId : PackId} {consumer : Text} :
    QuietCall S m (m.addReference S packId consumer).2 := by
  refine quiet_checked fun _ _ => ?_
  refine quiet_stored (.addReference packId consumer) rfl (fun _ => rfl) fun result s => ?_
  cases result with
  | error error => exact .refl _
  | ok _ => refine Quiet.call (.of_records ?_ ?_ ?_ ?_ ?_) ?_ <;> rfl

theorem quiet_releaseReference {packId : PackId} {consumer : Text} :
    QuietCall S m (m.releaseReference S packId consumer).2 := by
  refine quiet_stored (.removeReference packId consumer) rfl (fun _ => rfl) fun result s => ?_
  cases result with
  | error error => exact .refl _
  | ok _ => refine Quiet.call (.of_records ?_ ?_ ?_ ?_ ?_) ?_ <;> rfl

/-- An audit only reads. -/
theorem audit_reads (S : PackStorage σ) (m : ModelPackManager σ) (identity : PackRevision) :
    ∃ s, QuietStorageRun S m.storage s ∧ (m.audit S identity).2 = { m with storage := s } := by
  simp only [audit, checked]
  split
  · refine ⟨_, .single ⟨.inspect identity, rfl, rfl⟩, ?_⟩
    simp only [stored]
    cases (S.inspect identity m.storage).1 <;> rfl
  · exact ⟨_, .refl, rfl⟩

theorem quiet_audit : QuietCall S m (m.audit S identity).2 := by
  obtain ⟨s, hrun, heq⟩ := audit_reads S m identity
  exact heq ▸ .of_storage hrun (.refl _)

theorem quiet_beginRepair : QuietCall S m (m.beginRepair S identity).2 := by
  obtain ⟨s, hrun, heq⟩ := audit_reads S m identity
  simp only [beginRepair]
  split
  · next m' haudit =>
    rw [haudit] at heq
    exact heq ▸ .of_storage hrun (.refl _)
  · next assessment m' haudit =>
    rw [haudit] at heq
    obtain rfl : m' = _ := heq
    split_ifs
    · exact .of_storage hrun (.refl _)
    · refine .of_storage hrun (Quiet.call (.of_modify (fun record _ => .parked record rfl)
        rfl rfl rfl ?_ ?_) rfl)
      · exact fun _ _ h => lookup_of_lookup_erase h
      · exact fun _ _ h => lookup_of_lookup_erase h

theorem quiet_restartRepairDownloads : QuietCall S m (m.restartRepairDownloads identity).2 :=
  quiet_checked fun _ _ => .of_modify fun record _ => .restarted record

end Calls

/-! ## Attestations -/

/-- An accepted attestation: its challenge was pending, its key was fresh for the storage, and the
record gets the receipt. -/
structure Attested (S : PackStorage σ) (m m' : ModelPackManager σ) (identity : PackRevision)
    (challenge : SelfTestChallengeV1) (receipt : SelfTestAuthorizationReceiptV1) (s : σ) :
    Prop where
  tested : ∀ record, m.records.lookup identity = some record → record.state = .awaitingSelfTest
  pending : m.pendingSelfTests.lookup identity = some challenge
  binding : receipt.staged = challenge.staged
  before : QuietStorageRun S m.storage s
  consumed : S.consumeAttestationReplayKey receipt.replayKey s = (.ok true, m'.storage)
  records : m'.records = m.records.modify identity fun record =>
    { record with selfTestAuthorization := some receipt, state := .activating }
  pendingAfter : m'.pendingSelfTests = m.pendingSelfTests.erase identity
  active : m'.active = m.active
  rollbacks : m'.rollbacks = m.rollbacks
  staged : m'.staged = m.staged

section Attestation

variable {codec : ManagerCodec} {S : PackStorage σ} {m : ModelPackManager σ}
  {identity : PackRevision} {attestation : SelfTestAttestationV1}
  {verifier : SelfTestAttestationVerifier} {nowUnixSeconds : Nat}

theorem checkAttestation_eq_ok {challenge : SelfTestChallengeV1} {runner : VerifiedRunnerIdentity}
    {staged : StagedPack} (h : m.checkAttestation codec identity attestation verifier
      nowUnixSeconds = .ok (record, challenge, runner, staged)) :
    m.records.lookup identity = some record ∧ record.state = .awaitingSelfTest ∧
      m.pendingSelfTests.lookup identity = some challenge := by
  simp only [checkAttestation, attestedRecord, bind_eq_ok, okOr_eq_ok, require_eq_ok, beq_iff_eq,
    mapError_eq_ok, pure_eq_ok, Prod.mk.injEq] at h
  obtain ⟨_, ⟨_, hrecord, _, -, _, hstate, rfl⟩, _, -, _, -, _, hpending, _, -, _, -, _, -, _, -,
    _, -, _, -, _, -, rfl, rfl, -, -⟩ := h
  exact ⟨hrecord, hstate, hpending⟩

/-- The outcomes of an attestation. -/
inductive AttestationOutcome (S : PackStorage σ) (m : ModelPackManager σ)
    (identity : PackRevision) (replayKey : Sha256Digest) : ManagerCallOf σ Unit → Prop
  | accepted {m' : ModelPackManager σ} (challenge : SelfTestChallengeV1)
      (receipt : SelfTestAuthorizationReceiptV1) (s : σ) (hkey : receipt.replayKey = replayKey)
      (h : Attested S m m' identity challenge receipt s) :
      AttestationOutcome S m identity replayKey (.ok (), m')
  | refused {error : ManagerError} {m' : ModelPackManager σ} (h : QuietCall S m m') :
      AttestationOutcome S m identity replayKey (.error error, m')

variable (codec S m identity attestation verifier nowUnixSeconds) in
/-- **All that an attestation can do.** -/
theorem recordSelfTestAttestation_outcome :
    AttestationOutcome S m identity (attestationReplayKey codec identity
        attestation.signed.runnerId attestation.signed.challenge.nonce)
      (m.recordSelfTestAttestation codec S identity attestation verifier nowUnixSeconds) := by
  refine checked_rule _ (fun _ => .refused (.refl m))
    fun (record, expected, runner, staged) hcheck => ?_
  obtain ⟨hrecord, hstate, hpending⟩ := checkAttestation_eq_ok hcheck
  refine stored_rule _ fun result s hbinding => ?_
  have hrun : QuietStorageRun S m.storage s :=
    .single ⟨.stagedContentBinding staged, rfl, congrArg Prod.snd hbinding⟩
  -- a refusal behind the first storage call parks the record or leaves it
  have hparks : ∀ error state, state.parked → AttestationOutcome S m identity
      (attestationReplayKey codec identity attestation.signed.runnerId
        attestation.signed.challenge.nonce)
      (.error error, ({ m with storage := s } : ModelPackManager σ).setState identity state) :=
    fun error state h => .refused (.of_storage hrun ((quiet_setState h).call rfl))
  cases result with
  | error error => exact hparks _ _ rfl
  | ok binding =>
    show AttestationOutcome S m identity _ (ite _ _ _)
    split_ifs with hbound
    · exact hparks _ _ rfl
    · exact hparks _ _ rfl
    · exact hparks _ _ rfl
    · refine checked_rule _ (fun _ => .refused (.of_storage hrun (.refl _))) fun bytes _ => ?_
      refine stored_rule _ fun result s' hconsume => ?_
      have hrun' : QuietStorageRun S m.storage s' :=
        hrun.tail ⟨.consumeAttestationReplayKey _, rfl, congrArg Prod.snd hconsume⟩
      match result with
      | .error error => exact .refused (.of_storage hrun' (.refl _))
      | .ok false => exact .refused (.of_storage hrun' (.refl _))
      | .ok true =>
        exact .accepted expected ⟨_, _, _, _, _, binding, _⟩ s rfl {
          tested := fun other hother => by
            obtain rfl := Option.some.inj (hrecord.symm.trans hother)
            exact hstate
          pending := hpending
          binding := not_not.1 hbound
          before := hrun
          consumed := hconsume
          records := rfl
          pendingAfter := rfl
          active := rfl
          rollbacks := rfl
          staged := rfl }
    · exact hparks _ _ rfl

end Attestation

/-! ## Activations -/

/-- An activation goes through: the record is ready, the staged content is the attested one and the
storage activates it. -/
structure ActivationGoes (S : PackStorage σ) (m : ModelPackManager σ) (identity : PackRevision)
    (receipt : SelfTestAuthorizationReceiptV1) (staged : StagedPack) (s s' : σ) : Prop where
  checks : m.checkActivate identity = .ok (receipt, staged)
  binding : S.stagedContentBinding staged m.storage = (.ok receipt.staged, s)
  activates : S.activate staged ⟨receipt.staged, receipt.attestationSha256, receipt.replayKey⟩ s =
    (.ok (), s')

theorem ActivationGoes.storageRun {identity : PackRevision}
    {receipt : SelfTestAuthorizationReceiptV1} {staged : StagedPack}
    (h : ActivationGoes S m identity receipt staged s s') : StorageRun S m.storage s' :=
  .tail (.single ⟨.stagedContentBinding staged, congrArg Prod.snd h.binding⟩)
    ⟨.activate staged _, congrArg Prod.snd h.activates⟩

/-- The outcomes of an activation. -/
inductive ActivationOutcome (S : PackStorage σ) (m : ModelPackManager σ)
    (identity : PackRevision) : ManagerCallOf σ Unit → Prop
  | activated {receipt : SelfTestAuthorizationReceiptV1} {staged : StagedPack} {s s' : σ}
      (h : ActivationGoes S m identity receipt staged s s') :
      ActivationOutcome S m identity (.ok (), ({ m with storage := s' }).switchTo identity)
  | refused {error : ManagerError} {m' : ModelPackManager σ}
      (hnot : ∀ receipt staged s s', ¬ActivationGoes S m identity receipt staged s s')
      (h : QuietCall S m m') : ActivationOutcome S m identity (.error error, m')
  | failed {error : StorageError} {receipt : SelfTestAuthorizationReceiptV1}
      {staged : StagedPack} {s : σ} {m' : ModelPackManager σ}
      (hnot : ∀ receipt staged s s', ¬ActivationGoes S m identity receipt staged s s')
      (h : Quiet m m') (hchecks : m.checkActivate identity = .ok (receipt, staged))
      (hbefore : QuietStorageRun S m.storage s)
      (hactivate : S.activate staged
        ⟨receipt.staged, receipt.attestationSha256, receipt.replayKey⟩ s =
          (.error error, m'.storage)) :
      ActivationOutcome S m identity (.error (.storage error), m')

section Activation

variable {S : PackStorage σ} {m : ModelPackManager σ} {identity : PackRevision}
  {receipt receipt' : SelfTestAuthorizationReceiptV1} {staged staged' : StagedPack} {s s' : σ}

theorem checkActivate_eq_ok (h : m.checkActivate identity = .ok (receipt, staged)) :
    ∃ record, m.records.lookup identity = some record ∧ record.state = .activating ∧
      record.selfTestAuthorization = some receipt := by
  simp only [checkActivate, bind_eq_ok, inState_eq_ok, okOr_eq_ok, pure_eq_ok,
    Prod.mk.injEq] at h
  obtain ⟨record, ⟨hrecord, hstate⟩, _, hreceipt, _, -, _, -, rfl, -⟩ := h
  exact ⟨record, hrecord, hstate, hreceipt⟩

theorem checkActivate_staged (h : m.checkActivate identity = .ok (receipt, staged)) :
    m.staged.lookup identity = some staged := by
  simp only [checkActivate, bind_eq_ok, okOr_eq_ok, pure_eq_ok, Prod.mk.injEq] at h
  obtain ⟨_, -, _, -, _, -, _, hstaged, -, rfl⟩ := h
  exact hstaged

variable (S m identity) in
/-- **All that an activation can do.** -/
theorem activate_outcome : ActivationOutcome S m identity (m.activate S identity) := by
  rcases hcheck : m.checkActivate identity with error | ⟨receipt, staged⟩
  · simp only [activate, checked, hcheck]
    refine .refused (fun receipt staged s s' h => ?_) (.refl m)
    cases hcheck.symm.trans h.checks
  have hsame : ∀ {receipt' staged' t t'}, ActivationGoes S m identity receipt' staged' t t' →
      receipt' = receipt ∧ staged' = staged := by
    intro receipt' staged' t t' h
    exact Prod.mk.inj (Except.ok.inj (h.checks.symm.trans hcheck))
  simp only [activate, checked, hcheck]
  refine stored_rule _ fun result s hbinding => ?_
  have hrun : QuietStorageRun S m.storage s :=
    .single ⟨.stagedContentBinding staged, rfl, congrArg Prod.snd hbinding⟩
  cases result with
  | error error =>
    refine .refused (fun _ _ _ _ h => ?_) (.of_storage hrun ((quiet_setState rfl).call rfl))
    obtain ⟨rfl, rfl⟩ := hsame h
    cases hbinding.symm.trans h.binding
  | ok binding =>
    show ActivationOutcome S m identity (ite _ _ _)
    split_ifs with hbound
    · refine .refused (fun _ _ _ _ h => ?_) (.of_storage hrun ((quiet_setState rfl).call rfl))
      obtain ⟨rfl, rfl⟩ := hsame h
      cases hbinding.symm.trans h.binding
      exact hbound rfl
    · obtain rfl := not_not.1 hbound
      refine stored_rule _ fun result s' hactivate => ?_
      cases result with
      | error error =>
        refine .failed (fun _ _ _ _ h => ?_) (.of_storage (quiet_setState rfl)) hcheck hrun
          hactivate
        obtain ⟨rfl, rfl⟩ := hsame h
        cases hbinding.symm.trans h.binding
        cases hactivate.symm.trans h.activates
      | ok _ => exact .activated ⟨hcheck, hbinding, hactivate⟩

end Activation

/-! ## Rollbacks -/

/-- The rollback stack of a pack. -/
def rollbackStack (m : ModelPackManager σ) (packId : PackId) : List Revision :=
  (m.rollbacks.lookup packId).getD []

theorem rollbackStack_congr (h : m'.rollbacks = m.rollbacks) (packId : PackId) :
    m'.rollbackStack packId = m.rollbackStack packId := by
  rw [rollbackStack, h, rollbackStack]

/-- A rollback goes through: nothing refers to the pack, and the storage activates the revision on
top of the stack. -/
structure RollbackGoes (S : PackStorage σ) (m : ModelPackManager σ) (packId : PackId)
    (current target : Revision) (s s' : σ) : Prop where
  references : S.referenceCount packId m.storage = (.ok 0, s)
  unreferenced : (m.references.lookup packId).getD [] = []
  top : (m.rollbackStack packId).getLast? = some target
  activates : S.activateExisting ⟨packId, target⟩ s = (.ok (), s')
  current : m.active.lookup packId = some current

theorem RollbackGoes.storageRun {packId : PackId} {current target : Revision}
    (h : RollbackGoes S m packId current target s s') : StorageRun S m.storage s' :=
  .tail (.single ⟨.referenceCount packId, congrArg Prod.snd h.references⟩)
    ⟨.activateExisting ⟨packId, target⟩, congrArg Prod.snd h.activates⟩

/-- The manager behind a rollback from one revision to another. -/
def rolledBack (m : ModelPackManager σ) (packId : PackId) (target current : Revision) :
    ModelPackManager σ :=
  { m with
    rollbacks := m.rollbacks.modify packId List.dropLast
    active := m.active.insert packId target }.switchBack packId target current

/-- The outcomes of a rollback. -/
inductive RollbackOutcome (S : PackStorage σ) (m : ModelPackManager σ) (packId : PackId) :
    ManagerCallOf σ PackRevision → Prop
  | rolledBack {current target : Revision} {s s' : σ}
      (h : RollbackGoes S m packId current target s s') :
      RollbackOutcome S m packId
        (.ok ⟨packId, target⟩, ({ m with storage := s' }).rolledBack packId target current)
  | refused {error : ManagerError} {s : σ}
      (hnot : ∀ current target s s', ¬RollbackGoes S m packId current target s s')
      (hrun : QuietStorageRun S m.storage s) :
      RollbackOutcome S m packId (.error error, { m with storage := s })
  /-- The storage fails behind the pop. -/
  | failed {error : StorageError} {target : Revision} {t s : σ}
      (hnot : ∀ current target s s', ¬RollbackGoes S m packId current target s s')
      (htarget : (m.rollbackStack packId).getLast? = some target)
      (hbefore : QuietStorageRun S m.storage t)
      (hactivate : S.activateExisting ⟨packId, target⟩ t = (.error error, s)) :
      RollbackOutcome S m packId (.error (.storage error),
        { m with storage := s, rollbacks := m.rollbacks.modify packId List.dropLast })
  /-- A stack without an active revision. -/
  | inactive {target : Revision} {t s : σ} (hnone : m.active.lookup packId = none)
      (htarget : (m.rollbackStack packId).getLast? = some target)
      (hbefore : QuietStorageRun S m.storage t)
      (hactivate : S.activateExisting ⟨packId, target⟩ t = (.ok (), s)) :
      RollbackOutcome S m packId (.error .notActive,
        { m with
          storage := s
          rollbacks := m.rollbacks.modify packId List.dropLast
          active := m.active.insert packId target })

section Rollback

/-- The reference count only reads. -/
theorem referenceCount_cases (S : PackStorage σ) (m : ModelPackManager σ) (packId : PackId) :
    ∃ s, QuietStorageRun S m.storage s ∧
      ((∃ count, S.referenceCount packId m.storage = (.ok count, s) ∧
        m.referenceCount S packId =
          (.ok (max ((m.references.lookup packId).getD []).length count),
            { m with storage := s })) ∨
      ∃ error, S.referenceCount packId m.storage = (.error error, s) ∧
        m.referenceCount S packId = (.error (.storage error), { m with storage := s })) := by
  rcases hcount : S.referenceCount packId m.storage with ⟨error | count, s⟩
  all_goals refine ⟨s, .single ⟨.referenceCount packId, rfl, congrArg Prod.snd hcount⟩, ?_⟩
  · exact .inr ⟨error, rfl, by simp only [referenceCount, stored, hcount]⟩
  · exact .inl ⟨count, rfl, by simp only [referenceCount, stored, hcount]⟩

variable {S : PackStorage σ} {m : ModelPackManager σ} {packId : PackId}

variable (S m packId) in
/-- **All that a rollback can do.** -/
theorem rollback_outcome : RollbackOutcome S m packId (m.rollback S packId) := by
  obtain ⟨s, hrun, ⟨count, hcount, heq⟩ | ⟨error, hcount, heq⟩⟩ := referenceCount_cases S m packId
  · simp only [rollback, heq]
    split_ifs with href
    · refine .refused (fun current target t t' h => ?_) hrun
      cases hcount.symm.trans h.references
      simp [h.unreferenced] at href
    · split
      · next hnone =>
        refine .refused (fun current target t t' h => ?_) hrun
        cases hnone.symm.trans h.top
      · next target htarget =>
        refine stored_rule _ fun result s' hactivate => ?_
        cases result with
        | error error =>
          refine .failed (fun current target' t t' h => ?_) htarget hrun hactivate
          cases hcount.symm.trans h.references
          cases htarget.symm.trans h.top
          cases hactivate.symm.trans h.activates
        | ok _ =>
          dsimp only
          split
          · next hnone => exact .inactive hnone htarget hrun hactivate
          · next current hcurrent =>
            have hzero : count = 0 := by omega
            have hempty : (m.references.lookup packId).getD [] = [] := by
              apply List.eq_nil_of_length_eq_zero
              omega
            exact .rolledBack ⟨hzero ▸ hcount, hempty, htarget, hactivate, hcurrent⟩
  · simp only [rollback, heq]
    refine .refused (fun current target t t' h => ?_) hrun
    cases hcount.symm.trans h.references

end Rollback

/-! ## Removals -/

/-- Some records are gone or on their way. -/
structure Withdrawn (m m' : ModelPackManager σ) : Prop where
  records : ∀ identity, m'.records.lookup identity = m.records.lookup identity ∨
    m'.records.lookup identity = none ∨
      ∃ record, m.records.lookup identity = some record ∧
        m'.records.lookup identity = some { record with state := .removing }
  /-- The challenges of records that are gone are gone too. -/
  pending : ∀ identity challenge, m'.pendingSelfTests.lookup identity = some challenge →
    m.pendingSelfTests.lookup identity = some challenge ∧
      (m'.records.lookup identity = none → m.records.lookup identity = none)
  staged : ∀ identity staged, m'.staged.lookup identity = some staged →
    m.staged.lookup identity = some staged

theorem Withdrawn.refl (m : ModelPackManager σ) : Withdrawn m m :=
  ⟨fun _ => .inl rfl, fun _ _ h => ⟨h, id⟩, fun _ _ h => h⟩

theorem Withdrawn.trans {m m' m'' : ModelPackManager σ} (h : Withdrawn m m')
    (h' : Withdrawn m' m'') : Withdrawn m m'' where
  records := fun identity => by
    obtain heq | hnone | ⟨record, hrecord, hremoving⟩ := h'.records identity
    · rw [heq]
      exact h.records identity
    · exact .inr (.inl hnone)
    · obtain heq | hnone | ⟨first, hfirst, hsecond⟩ := h.records identity
      · exact .inr (.inr ⟨record, heq ▸ hrecord, hremoving⟩)
      · cases hnone.symm.trans hrecord
      · obtain rfl := Option.some.inj (hsecond.symm.trans hrecord)
        exact .inr (.inr ⟨first, hfirst, hremoving⟩)
  pending := fun identity challenge hpending => by
    obtain ⟨hpending, hgone⟩ := h'.pending identity challenge hpending
    obtain ⟨hpending, hgone'⟩ := h.pending identity challenge hpending
    exact ⟨hpending, fun hnone => hgone' (hgone hnone)⟩
  staged := fun identity staged hstaged =>
    h.staged identity staged (h'.staged identity staged hstaged)

/-- Removals of revisions from the storage, one after another. -/
inductive Removals (S : PackStorage σ) : List PackRevision → σ → σ → Prop
  | nil (s : σ) : Removals S [] s s
  | cons {identity : PackRevision} {identities : List PackRevision} {s s' s'' : σ}
      (h : S.removeRevision identity s = (.ok (), s')) (rest : Removals S identities s' s'') :
      Removals S (identity :: identities) s s''

theorem Removals.storageRun {identities : List PackRevision} (h : Removals S identities s s') :
    StorageRun S s s' := by
  induction h with
  | nil => exact .refl
  | cons hremove _ ih => exact .head ⟨.removeRevision _, congrArg Prod.snd hremove⟩ ih

/-- The outcomes of the removal loop. -/
inductive LoopOutcome (S : PackStorage σ) (m : ModelPackManager σ)
    (identities : List PackRevision) : ManagerCallOf σ Unit → Prop
  | removed {m' : ModelPackManager σ} (h : Withdrawn m m')
      (hrecords : ∀ identity, m'.records.lookup identity =
        if identity ∈ identities then none else m.records.lookup identity)
      (hactive : m'.active = m.active) (hrollbacks : m'.rollbacks = m.rollbacks)
      (hstorage : Removals S identities m.storage m'.storage) :
      LoopOutcome S m identities (.ok (), m')
  | failed {error : StorageError} {m' : ModelPackManager σ} (h : Withdrawn m m')
      (hactive : m'.active = m.active) (hrollbacks : m'.rollbacks = m.rollbacks)
      (hrun : StorageRun S m.storage m'.storage) :
      LoopOutcome S m identities (.error (.storage error), m')

/-- The books of a removed pack are empty, the others stay. -/
structure Removed (m m' : ModelPackManager σ) (packId : PackId) : Prop where
  records : ∀ identity, m'.records.lookup identity =
    if identity.packId = packId then none else m.records.lookup identity
  active : m'.active = m.active.erase packId
  rollbacks : m'.rollbacks = m.rollbacks.erase packId

/-- The outcomes of a removal. -/
inductive RemovalOutcome (S : PackStorage σ) (m : ModelPackManager σ) (packId : PackId) :
    ManagerCallOf σ Nat → Prop
  | removed {count : Nat} {s : σ} {m' : ModelPackManager σ} (h : Withdrawn m m')
      (hremoved : Removed m m' packId) (hrun : QuietStorageRun S m.storage s)
      (hstorage : Removals S (m.revisionsOf packId) s m'.storage) :
      RemovalOutcome S m packId (.ok count, m')
  | refused {error : ManagerError} {s : σ} (hrun : QuietStorageRun S m.storage s) :
      RemovalOutcome S m packId (.error error, { m with storage := s })
  | failed {error : StorageError} {m' : ModelPackManager σ} (h : Withdrawn m m')
      (hactive : m'.active = m.active) (hrollbacks : m'.rollbacks = m.rollbacks)
      (hrun : StorageRun S m.storage m'.storage) :
      RemovalOutcome S m packId (.error (.storage error), m')

section Removal

variable {S : PackStorage σ} {m : ModelPackManager σ} {packId : PackId}

theorem mem_revisionsOf {identity : PackRevision} :
    identity ∈ m.revisionsOf packId ↔
      identity.packId = packId ∧ (m.records.lookup identity).isSome := by
  rw [revisionsOf, List.mem_insertionSort, List.mem_filter, decide_eq_true_iff, and_comm,
    AList.lookup_isSome, AList.mem_keys]

theorem withdrawn_removing {identity : PackRevision} {s : σ} :
    Withdrawn m { m.setState identity .removing with storage := s } where
  records := fun other => by
    rw [lookup_setState]
    split_ifs
    · cases hrecord : m.records.lookup other with
      | none => exact .inl rfl
      | some record => exact .inr (.inr ⟨record, rfl, rfl⟩)
    · exact .inl rfl
  pending := fun other challenge h => by
    refine ⟨h, fun hnone => ?_⟩
    simp only [setState, Table.lookup_modify] at hnone
    split_ifs at hnone with heq
    · exact Option.map_eq_none_iff.1 hnone
    · exact hnone
  staged := fun _ _ h => h

theorem withdrawn_erase {identity : PackRevision} :
    Withdrawn m { m with
      staged := m.staged.erase identity
      pendingSelfTests := m.pendingSelfTests.erase identity
      records := m.records.erase identity } where
  records := fun other => by
    simp only [Table.lookup_erase_eq]
    split_ifs
    · exact .inr (.inl rfl)
    · exact .inl rfl
  pending := fun other challenge h => by
    simp only [Table.lookup_erase_eq] at h ⊢
    split_ifs at h ⊢ with heq
    exact ⟨h, id⟩
  staged := fun _ _ h => lookup_of_lookup_erase h

/-- **Rule for the removal loop.** -/
theorem removeRevisions_rule (inv : ModelPackManager σ → Prop) {identities : List PackRevision}
    (hfails : ∀ m, ∀ identity ∈ identities, ∀ error s, inv m →
      S.removeRevision identity m.storage = (.error error, s) →
        inv { m.setState identity .removing with storage := s })
    (hremoves : ∀ m, ∀ identity ∈ identities, ∀ s, inv m →
      S.removeRevision identity m.storage = (.ok (), s) →
        inv { m.setState identity .removing with
          storage := s
          staged := m.staged.erase identity
          pendingSelfTests := m.pendingSelfTests.erase identity
          records := (m.setState identity .removing).records.erase identity }) (h : inv m) :
    inv (removeRevisions S identities m).2 := by
  induction identities generalizing m with
  | nil => exact h
  | cons identity identities ih =>
    simp only [removeRevisions]
    refine stored_rule (fun out => inv out.2) fun result s hremove => ?_
    have hhead : identity ∈ identity :: identities := List.mem_cons_self
    cases result with
    | error error => exact hfails m identity hhead error s h hremove
    | ok _ =>
      exact ih (fun m other hother => hfails m other (List.mem_cons_of_mem _ hother))
        (fun m other hother => hremoves m other (List.mem_cons_of_mem _ hother))
        (hremoves m identity hhead s h hremove)

theorem removeRevisions_outcome (S : PackStorage σ) (identities : List PackRevision)
    (m : ModelPackManager σ) : LoopOutcome S m identities (removeRevisions S identities m) := by
  induction identities generalizing m with
  | nil => exact .removed (.refl m) (fun _ => rfl) rfl rfl (.nil _)
  | cons identity identities ih =>
    simp only [removeRevisions]
    refine stored_rule _ fun result s hremove => ?_
    have hremoving := @withdrawn_removing σ m identity s
    cases result with
    | error error =>
      exact .failed hremoving rfl rfl
        (.single ⟨.removeRevision identity, congrArg Prod.snd hremove⟩)
    | ok _ =>
      have hfirst := hremoving.trans (@withdrawn_erase σ _ identity)
      set m₁ : ModelPackManager σ := { m.setState identity .removing with
        storage := s
        staged := m.staged.erase identity
        pendingSelfTests := m.pendingSelfTests.erase identity
        records := (m.setState identity .removing).records.erase identity }
      have hlookup : ∀ other, m₁.records.lookup other =
          if other = identity then none else m.records.lookup other := by
        intro other
        simp only [m₁, setState, Table.lookup_erase_eq, Table.lookup_modify]
        split_ifs <;> rfl
      show LoopOutcome S m _ (removeRevisions S identities m₁)
      have hrest := ih m₁
      generalize removeRevisions S identities m₁ = out at hrest ⊢
      cases hrest with
      | removed h hrecords hactive hrollbacks hstorage =>
        refine .removed (hfirst.trans h) (fun other => ?_) hactive hrollbacks
          (.cons hremove hstorage)
        simp only [hrecords, hlookup, List.mem_cons]
        by_cases hhead : other = identity <;> simp [hhead]
      | failed h hactive hrollbacks hrun =>
        exact .failed (hfirst.trans h) hactive hrollbacks
          (.head ⟨.removeRevision identity, congrArg Prod.snd hremove⟩ hrun)

variable (S m packId) in
/-- **All that a removal can do.** -/
theorem remove_outcome (policy : RemovalPolicy) :
    RemovalOutcome S m packId (m.remove S packId policy) := by
  obtain ⟨s, hrun, ⟨count, -, heq⟩ | ⟨error, -, heq⟩⟩ := referenceCount_cases S m packId
  · simp only [remove, heq]
    split_ifs with href
    · exact .refused hrun
    · have hloop := removeRevisions_outcome S (m.revisionsOf packId) { m with storage := s }
      have hsame : ({ m with storage := s } : ModelPackManager σ).revisionsOf packId =
          m.revisionsOf packId := rfl
      rw [hsame]
      generalize removeRevisions S (m.revisionsOf packId) { m with storage := s } = out at hloop ⊢
      cases hloop with
      | removed h hrecords hactive hrollbacks hstorage =>
        refine .removed ⟨h.records, h.pending, h.staged⟩ ⟨fun identity => ?_,
          congrArg (AList.erase packId) hactive, congrArg (AList.erase packId) hrollbacks⟩
          hrun hstorage
        rw [hrecords]
        simp only [mem_revisionsOf]
        by_cases hpack : identity.packId = packId
        · rw [if_pos hpack]
          split_ifs with hmem
          · rfl
          · cases hlookup : m.records.lookup identity with
            | none => rfl
            | some record => exact absurd ⟨hpack, by rw [hlookup]; rfl⟩ hmem
        · rw [if_neg hpack, if_neg fun hmem => hpack hmem.1]
      | failed h hactive hrollbacks hloop =>
        exact .failed ⟨h.records, h.pending, h.staged⟩ hactive hrollbacks
          (hrun.storageRun.trans hloop)
  · simp only [remove, heq]
    exact .refused hrun

end Removal

end ModelPackManager

/-! ## Every call -/

open ModelPackManager

/-- The calls that can change what is active, tested or recorded as such. -/
def ManagerCall.quiet : ManagerCall → Bool
  | .recordSelfTestAttestation .. | .activate _ | .remove .. | .rollback _ => false
  | _ => true

/-- **Every other call is quiet.** -/
theorem quiet_managerCall {codec : ManagerCodec} {call : ManagerCall} {m : ModelPackManager σ}
    (h : call.quiet) : QuietCall S m (managerCall codec S call m).2 := by
  cases call with
  | recordSelfTestAttestation | activate | remove | rollback => cases h
  | beginInstall => exact quiet_beginInstall
  | beginUpdate => exact quiet_checked fun _ _ => quiet_beginInstall
  | downloadJournal => exact quiet_downloadJournal
  | acceptVerifiedArtifact => exact quiet_acceptVerifiedArtifact
  | stage => exact quiet_stage
  | authorizeActivation => exact quiet_authorizeActivation
  | issueSelfTestChallenge => exact quiet_issueSelfTestChallenge
  | abandonSelfTestChallenge => exact quiet_abandonSelfTestChallenge
  | addReference => exact quiet_addReference
  | releaseReference => exact quiet_releaseReference
  | audit => exact quiet_audit
  | beginRepair => exact quiet_beginRepair
  | restartRepairDownloads => exact quiet_restartRepairDownloads

end NpcRuntime.Packs
