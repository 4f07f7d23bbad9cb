import NpcRuntime.Lib.Lists
import NpcRuntime.Lib.Machine
import NpcRuntime.Lib.Version
import NpcRuntime.Packs.Manifest

/-!
# Trusted catalogs

`verify_catalog` of `model-manager/src/catalog.rs`, and what a sequence of its calls accepts when
each call is handed the trust state of the one before it.

Versions and revisions hold through every history but for one gap: a trusted version 0 reads like
the fresh state, so a second catalog of version 0 is not compared with the first
(`second_version_zero`). Without such a pair no history takes anything back
(`catalog_history_iff`).
-/

namespace NpcRuntime.Packs

open Text

def signedCatalogSchemaV1 : Text := "npc.model-catalog/v1".toList

structure CatalogEntryV1 where
  manifest : ModelPackManifestV1
  manifestSha256 : Sha256Digest
  channels : List Text
  publishedUnixSeconds : Nat
  revoked : Bool
  revocationReason : Option Text
deriving DecidableEq

structure CatalogPayloadV1 where
  schema : Text
  version : Nat
  generatedUnixSeconds : Nat
  expiresUnixSeconds : Nat
  entries : List CatalogEntryV1
deriving DecidableEq

structure CatalogSignatureV1 where
  keyId : Text
  algorithm : Text
  signature : Text
deriving DecidableEq

structure SignedCatalogV1 where
  signed : CatalogPayloadV1
  signatures : List CatalogSignatureV1
deriving DecidableEq

/-! ## Signatures -/

structure CatalogSignatureVerifier where
  isTrustedKey : Text → Bool
  verify : Text → Text → Bytes → Text → Bool

namespace CatalogSignatureVerifier

variable (verifier : CatalogSignatureVerifier) (message : Bytes)

/-- A trusted key, and a signature of the message that verifies under it. -/
def accepts (signature : CatalogSignatureV1) : Bool :=
  verifier.isTrustedKey signature.keyId &&
    verifier.verify signature.keyId signature.algorithm message signature.signature

/-- The loop that fills `accepted_keys`. -/
def acceptedKeys (signatures : List CatalogSignatureV1) : List Text :=
  distinctKeys (verifier.accepts message) CatalogSignatureV1.keyId signatures

/-- At least `threshold` trusted keys have signed the message. -/
def SignedBy (signatures : List CatalogSignatureV1) (threshold : Nat) : Prop :=
  ∃ keys : List Text, keys.Nodup ∧ threshold ≤ keys.length ∧
    ∀ key ∈ keys, verifier.isTrustedKey key = true ∧ ∃ signature ∈ signatures,
      signature.keyId = key ∧
        verifier.verify key signature.algorithm message signature.signature = true

theorem signedBy_of_acceptedKeys {signatures : List CatalogSignatureV1} {threshold : Nat}
    (h : threshold ≤ (verifier.acceptedKeys message signatures).length) :
    verifier.SignedBy message signatures threshold := by
  refine ⟨_, distinctKeys_nodup _ _ signatures, h, ?_⟩
  intro key hkey
  obtain ⟨signature, hmem, haccepts, rfl⟩ := (mem_distinctKeys _ _).1 hkey
  simp only [accepts, Bool.and_eq_true] at haccepts
  exact ⟨haccepts.1, signature, hmem, rfl, haccepts.2⟩

end CatalogSignatureVerifier

/-! ## Verification -/

structure CatalogTrustPolicy where
  signatureThreshold : Nat := 2
  maximumLifetimeSeconds : Nat := 31 * 24 * 60 * 60
  maximumClockSkewSeconds : Nat := 10 * 60
deriving DecidableEq

structure CatalogTrustState where
  highestVersion : Nat := 0
  acceptedPayloadSha256 : Option Sha256Digest := none
  immutableRevisions : Table PackRevision Sha256Digest := ∅

structure TrustedCatalog where
  payload : CatalogPayloadV1
  entries : Table PackRevision CatalogEntryV1
  payloadDigest : Sha256Digest

inductive CatalogError where
  | unsupportedSchema (schema : Text)
  | zeroThreshold
  | rollback (trusted received : Nat)
  | generatedInFuture
  | expired
  | invalidLifetime
  | versionEquivocation (version : Nat)
  | signatureThreshold (required valid : Nat)
  | entriesNotStrictlySorted
  | manifest (error : ManifestError)
  | manifestDigestMismatch (identity : PackRevision)
  | immutableRevisionChanged (identity : PackRevision)
  | revocationWithoutReason (identity : PackRevision)
  | serialization (error : SerdeError)
deriving DecidableEq

structure CatalogCodec extends Codec where
  /-- `canonical_catalog_payload_bytes`. -/
  payload : Encoding CatalogPayloadV1

/-- What the loop over the entries has seen. -/
structure EntryChecks where
  entries : Table PackRevision CatalogEntryV1 := ∅
  immutable : Table PackRevision Sha256Digest := ∅
  previous : Option PackRevision := none

/-- The body of the loop over the entries. -/
def checkCatalogEntry (codec : Codec) (state : EntryChecks) (entry : CatalogEntryV1) :
    Except CatalogError EntryChecks := do
  entry.manifest.validate.mapError .manifest
  let identity := entry.manifest.identity
  require (state.previous.all fun previous => decide (previous < identity))
    .entriesNotStrictlySorted
  let actual ← (entry.manifest.digest codec).mapError .manifest
  require (actual == entry.manifestSha256) (.manifestDigestMismatch identity)
  require ((state.immutable.lookup identity).all fun trusted => trusted == actual)
    (.immutableRevisionChanged identity)
  require (!(entry.revoked && trim (entry.revocationReason.getD []) == []))
    (.revocationWithoutReason identity)
  return { entries := state.entries.insert identity entry
           immutable := if (state.immutable.lookup identity).isSome then state.immutable
                        else state.immutable.insert identity actual
           previous := some identity }

def verifyCatalog (codec : CatalogCodec) (catalog : SignedCatalogV1)
    (verifier : CatalogSignatureVerifier) (policy : CatalogTrustPolicy)
    (prior : CatalogTrustState) (nowUnixSeconds : Nat) :
    Except CatalogError (TrustedCatalog × CatalogTrustState) := do
  let signed := catalog.signed
  require (signed.schema == signedCatalogSchemaV1) (.unsupportedSchema signed.schema)
  require (policy.signatureThreshold != 0) .zeroThreshold
  require (decide (prior.highestVersion ≤ signed.version))
    (.rollback prior.highestVersion signed.version)
  require (decide (signed.generatedUnixSeconds ≤
    satAdd nowUnixSeconds policy.maximumClockSkewSeconds)) .generatedInFuture
  require (decide (nowUnixSeconds < signed.expiresUnixSeconds)) .expired
  require (decide (signed.generatedUnixSeconds ≤ signed.expiresUnixSeconds)) .invalidLifetime
  require (decide (signed.expiresUnixSeconds - signed.generatedUnixSeconds ≤
    policy.maximumLifetimeSeconds)) .invalidLifetime
  let message ← (codec.payload signed).mapError .serialization
  let payloadDigest := codec.sha256 message
  -- version 0 stands for a state that has accepted nothing yet
  require (!(signed.version == prior.highestVersion && prior.highestVersion != 0 &&
    prior.acceptedPayloadSha256 != some payloadDigest)) (.versionEquivocation signed.version)
  let valid := (verifier.acceptedKeys message catalog.signatures).length
  require (decide (policy.signatureThreshold ≤ valid))
    (.signatureThreshold policy.signatureThreshold valid)
  let checks ← signed.entries.foldlM (checkCatalogEntry codec.toCodec)
    { immutable := prior.immutableRevisions }
  return (⟨signed, checks.entries, payloadDigest⟩,
    ⟨signed.version, some payloadDigest, checks.immutable⟩)

/-! ## One call -/

structure CatalogCall where
  catalog : SignedCatalogV1
  policy : CatalogTrustPolicy
  nowUnixSeconds : Nat
deriving DecidableEq

/-- The call passes every check of `verify_catalog` but the one for equivocation. -/
structure CatalogPasses (codec : CatalogCodec) (verifier : CatalogSignatureVerifier)
    (prior : CatalogTrustState) (call : CatalogCall) (message : Bytes) (checks : EntryChecks) :
    Prop where
  schema : call.catalog.signed.schema = signedCatalogSchemaV1
  threshold : call.policy.signatureThreshold ≠ 0
  version : prior.highestVersion ≤ call.catalog.signed.version
  generated : call.catalog.signed.generatedUnixSeconds ≤
    satAdd call.nowUnixSeconds call.policy.maximumClockSkewSeconds
  fresh : call.nowUnixSeconds < call.catalog.signed.expiresUnixSeconds
  lifetime : call.catalog.signed.generatedUnixSeconds ≤ call.catalog.signed.expiresUnixSeconds ∧
    call.catalog.signed.expiresUnixSeconds - call.catalog.signed.generatedUnixSeconds ≤
      call.policy.maximumLifetimeSeconds
  encoded : codec.payload call.catalog.signed = .ok message
  signatures : call.policy.signatureThreshold ≤
    (verifier.acceptedKeys message call.catalog.signatures).length
  entries : call.catalog.signed.entries.foldlM (checkCatalogEntry codec.toCodec)
    { immutable := prior.immutableRevisions } = .ok checks

theorem verifyCatalog_ok {codec : CatalogCodec} {verifier : CatalogSignatureVerifier}
    {prior trust : CatalogTrustState} {call : CatalogCall} {trusted : TrustedCatalog} :
    verifyCatalog codec call.catalog verifier call.policy prior call.nowUnixSeconds =
        .ok (trusted, trust) ↔
      ∃ message checks, CatalogPasses codec verifier prior call message checks ∧
        (call.catalog.signed.version = prior.highestVersion → prior.highestVersion ≠ 0 →
          prior.acceptedPayloadSha256 = some (codec.sha256 message)) ∧
        trusted = ⟨call.catalog.signed, checks.entries, codec.sha256 message⟩ ∧
        trust = ⟨call.catalog.signed.version, some (codec.sha256 message), checks.immutable⟩ := by
  simp only [verifyCatalog, bind_eq_ok, require_eq_ok, mapError_eq_ok, pure_eq_ok,
    decide_eq_true_eq, beq_iff_eq, bne_iff_ne, Bool.not_eq_true', Prod.mk.injEq]
  have hequivocation : ∀ message,
      ((call.catalog.signed.version == prior.highestVersion && prior.highestVersion != 0 &&
          prior.acceptedPayloadSha256 != some (codec.sha256 message)) = false ↔
        (call.catalog.signed.version = prior.highestVersion → prior.highestVersion ≠ 0 →
          prior.acceptedPayloadSha256 = some (codec.sha256 message))) := by
    intro message
    rw [Bool.eq_false_iff]
    simp only [ne_eq, Bool.and_eq_true, beq_iff_eq, bne_iff_ne, not_and, not_not, and_imp]
  simp only [hequivocation]
  constructor
  · intro h
    obtain ⟨_, hschema, _, hthreshold, _, hversion, _, hgenerated, _, hfresh, _, horder, _,
      hlifetime, message, hmessage, _, hequal, _, hsignatures, checks, hchecks, rfl, rfl⟩ := h
    exact ⟨message, checks, ⟨hschema, hthreshold, hversion, hgenerated, hfresh,
      ⟨horder, hlifetime⟩, hmessage, hsignatures, hchecks⟩, hequal, rfl, rfl⟩
  · intro h
    obtain ⟨message, checks, hpass, hequal, rfl, rfl⟩ := h
    exact ⟨(), hpass.schema, (), hpass.threshold, (), hpass.version, (), hpass.generated, (),
      hpass.fresh, (), hpass.lifetime.1, (), hpass.lifetime.2, message, hpass.encoded, (), hequal,
      (), hpass.signatures, checks, hpass.entries, rfl, rfl⟩

/-- Every entry is signed for with the digest of its manifest, and recorded with it. -/
def EntriesRecorded (codec : Codec) (entries : List CatalogEntryV1)
    (immutable : Table PackRevision Sha256Digest) : Prop :=
  ∀ entry ∈ entries, entry.manifest.digest codec = .ok entry.manifestSha256 ∧
    immutable.lookup entry.manifest.identity = some entry.manifestSha256

/-- What was recorded stays recorded. -/
def Extends (older newer : Table PackRevision Sha256Digest) : Prop :=
  ∀ identity digest, older.lookup identity = some digest → newer.lookup identity = some digest

theorem EntriesRecorded.extend {codec : Codec} {entries : List CatalogEntryV1}
    {older newer : Table PackRevision Sha256Digest} (h : EntriesRecorded codec entries older)
    (hextends : Extends older newer) : EntriesRecorded codec entries newer := by
  intro entry hentry
  exact ⟨(h entry hentry).1, hextends _ _ (h entry hentry).2⟩

theorem checkCatalogEntry_ok {codec : Codec} {state state' : EntryChecks} {entry : CatalogEntryV1}
    (h : checkCatalogEntry codec state entry = .ok state') :
    entry.manifest.digest codec = .ok entry.manifestSha256 ∧
      state'.immutable.lookup entry.manifest.identity = some entry.manifestSha256 ∧
      Extends state.immutable state'.immutable := by
  simp only [checkCatalogEntry, bind_eq_ok, require_eq_ok, mapError_eq_ok, pure_eq_ok,
    beq_iff_eq] at h
  obtain ⟨_, -, _, -, actual, hdigest, _, rfl, _, htrusted, _, -, rfl⟩ := h
  refine ⟨hdigest, ?_⟩
  cases hlookup : state.immutable.lookup entry.manifest.identity with
  | some trusted =>
    rw [hlookup, Option.all_some, beq_iff_eq] at htrusted
    subst htrusted
    simp only [hlookup, Option.isSome_some, if_true]
    exact ⟨trivial, fun _ _ hold => hold⟩
  | none =>
    simp only [Option.isSome_none, Bool.false_eq_true, if_false]
    refine ⟨AList.lookup_insert _, ?_⟩
    intro identity digest hold
    rw [Table.lookup_insert_eq, if_neg]
    · exact hold
    · rintro rfl
      rw [hlookup] at hold
      cases hold

theorem foldlM_checkCatalogEntry_ok {codec : Codec} {entries : List CatalogEntryV1}
    {state state' : EntryChecks}
    (h : entries.foldlM (checkCatalogEntry codec) state = .ok state') :
    EntriesRecorded codec entries state'.immutable ∧
      Extends state.immutable state'.immutable := by
  induction entries generalizing state with
  | nil =>
    cases h
    exact ⟨by simp [EntriesRecorded], fun _ _ hold => hold⟩
  | cons entry entries ih =>
    rw [List.foldlM_cons, bind_eq_ok] at h
    obtain ⟨next, hcheck, hrest⟩ := h
    obtain ⟨hdigest, hrecorded, hfirst⟩ := checkCatalogEntry_ok hcheck
    obtain ⟨hothers, hextends⟩ := ih hrest
    refine ⟨?_, fun identity digest hold => hextends _ _ (hfirst _ _ hold)⟩
    intro other hother
    rcases List.mem_cons.1 hother with rfl | hother
    · exact ⟨hdigest, hextends _ _ hrecorded⟩
    · exact hothers other hother

/-! ## Histories -/

structure AcceptedCatalog where
  call : CatalogCall
  trusted : TrustedCatalog

/-- A trust state, and what was accepted on the way to it. -/
structure CatalogHistory where
  trust : CatalogTrustState := {}
  accepted : List AcceptedCatalog := []

/-- One call of `verify_catalog` with the trust state of the call before. -/
def catalogStep (codec : CatalogCodec) (verifier : CatalogSignatureVerifier) (call : CatalogCall)
    (history : CatalogHistory) : CatalogHistory :=
  match verifyCatalog codec call.catalog verifier call.policy history.trust
      call.nowUnixSeconds with
  | .ok (trusted, trust) => ⟨trust, history.accepted ++ [⟨call, trusted⟩]⟩
  | .error _ => history

namespace AcceptedCatalog

def version (accepted : AcceptedCatalog) : Version Sha256Digest :=
  ⟨accepted.trusted.payload.version, accepted.trusted.payloadDigest⟩

end AcceptedCatalog

/-- Nothing that was accepted is taken back later, and all of it is signed. -/
structure NoCatalogRollback (codec : CatalogCodec) (verifier : CatalogSignatureVerifier)
    (accepted : List AcceptedCatalog) : Prop where
  versions : accepted.Pairwise fun a b =>
    a.trusted.payload.version ≤ b.trusted.payload.version
  payloads : accepted.Pairwise fun a b =>
    a.trusted.payload.version = b.trusted.payload.version →
      a.trusted.payloadDigest = b.trusted.payloadDigest
  revisions : accepted.Pairwise fun a b =>
    ∀ entry ∈ a.trusted.payload.entries, ∀ later ∈ b.trusted.payload.entries,
      entry.manifest.identity = later.manifest.identity →
        entry.manifest.digest codec.toCodec = later.manifest.digest codec.toCodec
  signed : ∀ a ∈ accepted, ∃ message, codec.payload a.trusted.payload = .ok message ∧
    a.trusted.payloadDigest = codec.sha256 message ∧
    verifier.SignedBy message a.call.catalog.signatures a.call.policy.signatureThreshold

/-- What holds of a history whatever the versions are. -/
structure CatalogHistory.Inv (codec : CatalogCodec) (verifier : CatalogSignatureVerifier)
    (history : CatalogHistory) : Prop where
  latest : history.accepted.getLast?.map AcceptedCatalog.version =
    history.trust.acceptedPayloadSha256.map (Version.mk history.trust.highestVersion)
  recorded : ∀ a ∈ history.accepted,
    EntriesRecorded codec.toCodec a.trusted.payload.entries history.trust.immutableRevisions
  revisions : history.accepted.Pairwise fun a b =>
    ∀ entry ∈ a.trusted.payload.entries, ∀ later ∈ b.trusted.payload.entries,
      entry.manifest.identity = later.manifest.identity →
        entry.manifest.digest codec.toCodec = later.manifest.digest codec.toCodec
  signed : ∀ a ∈ history.accepted, ∃ message, codec.payload a.trusted.payload = .ok message ∧
    a.trusted.payloadDigest = codec.sha256 message ∧
    verifier.SignedBy message a.call.catalog.signatures a.call.policy.signatureThreshold

/-- A catalog of version 0 that passes every other check meets no other catalog of version 0. -/
def ZeroIsSettled (codec : CatalogCodec) (verifier : CatalogSignatureVerifier)
    (history : CatalogHistory) (call : CatalogCall) : Prop :=
  ∀ message checks, CatalogPasses codec verifier history.trust call message checks →
    call.catalog.signed.version = 0 →
    ∀ digest, history.trust.acceptedPayloadSha256 = some digest → digest = codec.sha256 message

section Histories

variable {codec : CatalogCodec} {verifier : CatalogSignatureVerifier} {history : CatalogHistory}
  {call : CatalogCall}

/-- A call is refused, or it is accepted as `verifyCatalog_ok` says. -/
theorem catalogStep_cases (codec : CatalogCodec) (verifier : CatalogSignatureVerifier)
    (history : CatalogHistory) (call : CatalogCall) :
    (∃ message checks, CatalogPasses codec verifier history.trust call message checks ∧
        (call.catalog.signed.version = history.trust.highestVersion →
          history.trust.highestVersion ≠ 0 →
          history.trust.acceptedPayloadSha256 = some (codec.sha256 message)) ∧
        catalogStep codec verifier call history =
          ⟨⟨call.catalog.signed.version, some (codec.sha256 message), checks.immutable⟩,
            history.accepted ++
              [⟨call, ⟨call.catalog.signed, checks.entries, codec.sha256 message⟩⟩]⟩) ∨
      (catalogStep codec verifier call history = history ∧
        ∀ message checks, CatalogPasses codec verifier history.trust call message checks →
          call.catalog.signed.version = history.trust.highestVersion ∧
            history.trust.highestVersion ≠ 0) := by
  cases hverify : verifyCatalog codec call.catalog verifier call.policy history.trust
      call.nowUnixSeconds with
  | ok result =>
    obtain ⟨trusted, trust⟩ := result
    obtain ⟨message, checks, hpass, hequal, rfl, rfl⟩ := verifyCatalog_ok.1 hverify
    exact .inl ⟨message, checks, hpass, hequal, by simp only [catalogStep, hverify]⟩
  | error error =>
    refine .inr ⟨by simp only [catalogStep, hverify], ?_⟩
    intro message checks hpass
    by_contra hfree
    have hequal : call.catalog.signed.version = history.trust.highestVersion →
        history.trust.highestVersion ≠ 0 →
        history.trust.acceptedPayloadSha256 = some (codec.sha256 message) :=
      fun hversion hzero => absurd ⟨hversion, hzero⟩ hfree
    have hok := verifyCatalog_ok.2 ⟨message, checks, hpass, hequal, rfl, rfl⟩
    rw [hverify] at hok
    cases hok

variable (h : history.Inv codec verifier)

include h

theorem CatalogHistory.Inv.step (call : CatalogCall) :
    (catalogStep codec verifier call history).Inv codec verifier := by
  rcases catalogStep_cases codec verifier history call with
    ⟨message, checks, hpass, -, hstep⟩ | ⟨hstep, -⟩
  · rw [hstep]
    obtain ⟨hentries, hextends⟩ := foldlM_checkCatalogEntry_ok hpass.entries
    refine ⟨?_, ?_, ?_, ?_⟩
    · simp [AcceptedCatalog.version]
    · rw [forall_mem_concat]
      exact ⟨fun a ha => (h.recorded a ha).extend hextends, hentries⟩
    · rw [pairwise_concat]
      refine ⟨h.revisions, ?_⟩
      intro a ha entry hentry later hlater hidentity
      obtain ⟨hdigest, hrecorded⟩ := (h.recorded a ha).extend hextends entry hentry
      obtain ⟨hdigest', hrecorded'⟩ := hentries later hlater
      rw [hidentity, hrecorded'] at hrecorded
      rw [hdigest, hdigest', Option.some.inj hrecorded]
    · rw [forall_mem_concat]
      exact ⟨h.signed, message, hpass.encoded, rfl,
        verifier.signedBy_of_acceptedKeys message hpass.signatures⟩
  · rw [hstep]
    exact h

theorem noCatalogRollback_iff :
    NoCatalogRollback codec verifier history.accepted ↔
      history.accepted.Pairwise fun a b => a.version ≤ b.version := by
  constructor
  · intro hkept
    exact hkept.versions.and hkept.payloads
  · intro horder
    exact ⟨horder.imp fun hle => hle.1, horder.imp fun hle => hle.2, h.revisions, h.signed⟩

/-- What one call does to a history in order. -/
theorem noCatalogRollback_step (hkept : NoCatalogRollback codec verifier history.accepted) :
    NoCatalogRollback codec verifier (catalogStep codec verifier call history).accepted ↔
      ZeroIsSettled codec verifier history call := by
  rw [noCatalogRollback_iff (h.step call)]
  have horder := (noCatalogRollback_iff h).1 hkept
  rcases catalogStep_cases codec verifier history call with
    ⟨message, checks, hpass, hequal, hstep⟩ | ⟨hstep, hnone⟩
  · have hlatest : ∀ a, history.accepted.getLast? = some a →
        history.trust.acceptedPayloadSha256 = some a.version.digest ∧
          history.trust.highestVersion = a.version.number := by
      intro a ha
      have hmark := h.latest
      rw [ha, Option.map_some] at hmark
      obtain ⟨digest, hdigest, hversion⟩ := Option.map_eq_some_iff.1 hmark.symm
      rw [hdigest, ← hversion]
      exact ⟨rfl, rfl⟩
    rw [hstep, pairwise_concat_last (r := fun a b : AcceptedCatalog => a.version ≤ b.version)
      fun _ _ _ => le_trans]
    constructor
    · intro hnext other checks' hpass' hzero digest hdigest
      have hmark := h.latest
      rw [hdigest, Option.map_some] at hmark
      obtain ⟨last, hlast, hversion⟩ := Option.map_eq_some_iff.1 hmark
      have hle := hnext.2 last hlast
      rw [hversion] at hle
      have hhighest : history.trust.highestVersion = 0 := by
        have hversion := hpass.version
        omega
      obtain rfl : message = other := Except.ok.inj (hpass.encoded.symm.trans hpass'.encoded)
      exact hle.2 (hhighest.trans hzero.symm)
    · intro hsettled
      refine ⟨horder, ?_⟩
      intro last hlast
      obtain ⟨hdigest, hnumber⟩ := hlatest last hlast
      refine ⟨hnumber ▸ hpass.version, ?_⟩
      intro hsame
      by_cases hzero : history.trust.highestVersion = 0
      · have hversion : call.catalog.signed.version = 0 := by
          rw [← hzero, hnumber]
          exact hsame.symm
        exact hsettled message checks hpass hversion _ hdigest
      · have hcompared := hequal (hsame.symm.trans hnumber.symm) hzero
        exact Option.some.inj (hdigest.symm.trans hcompared)
  · rw [hstep]
    refine iff_of_true horder ?_
    intro message checks hpass hzero
    obtain ⟨hversion, hhighest⟩ := hnone message checks hpass
    exact absurd (hversion ▸ hzero) hhighest

end Histories

/-- **Catalog anti-rollback.** From the fresh trust state, every history is free of rollbacks and
equivocation exactly as long as no catalog of version 0 that passes every other check comes behind
an accepted catalog of version 0 with another payload. -/
theorem catalog_history_iff (codec : CatalogCodec) (verifier : CatalogSignatureVerifier)
    (calls : List CatalogCall) :
    (∀ pre, pre <+: calls →
        NoCatalogRollback codec verifier
          (runFrom (catalogStep codec verifier) pre {}).accepted) ↔
      Along (catalogStep codec verifier) (ZeroIsSettled codec verifier) calls {} := by
  refine along_iff_prefixes (CatalogHistory.Inv codec verifier)
    (fun history => NoCatalogRollback codec verifier history.accepted) ?_ ?_ ?_ ?_
  · intro history call h
    exact h.step call
  · intro history call h hkept
    exact noCatalogRollback_step h hkept
  · exact ⟨rfl, by simp, .nil, by simp⟩
  · exact ⟨.nil, .nil, .nil, by simp⟩

set_option maxRecDepth 4000 in
/-- Two empty catalogs of version 0 that differ in their time, each signed by a trusted key. -/
theorem second_version_zero :
    ¬ ∀ (codec : CatalogCodec) (verifier : CatalogSignatureVerifier) (calls : List CatalogCall),
      NoCatalogRollback codec verifier
        (runFrom (catalogStep codec verifier) calls {}).accepted := by
  intro h
  let codec : CatalogCodec :=
    { sha256 := fun bytes => ⟨bytes.map fun byte => Char.ofNat byte.toNat⟩
      manifest := fun _ => .ok []
      payload := fun payload => .ok [UInt8.ofNat payload.generatedUnixSeconds] }
  let verifier : CatalogSignatureVerifier := ⟨fun _ => true, fun _ _ _ _ => true⟩
  let call (generated : Nat) : CatalogCall :=
    { catalog := ⟨⟨signedCatalogSchemaV1, 0, generated, 100, []⟩, [⟨['k'], ['e'], ['s']⟩]⟩
      policy := { signatureThreshold := 1 }
      nowUnixSeconds := 50 }
  have hkept := (h codec verifier [call 1, call 2]).payloads
  have haccepted : (runFrom (catalogStep codec verifier) [call 1, call 2] {}).accepted =
      [⟨call 1, ⟨(call 1).catalog.signed, ∅, ⟨[Char.ofNat 1]⟩⟩⟩,
        ⟨call 2, ⟨(call 2).catalog.signed, ∅, ⟨[Char.ofNat 2]⟩⟩⟩] := by rfl
  rw [haccepted, List.pairwise_pair] at hkept
  have hdigests := hkept rfl
  revert hdigests
  decide

end NpcRuntime.Packs
