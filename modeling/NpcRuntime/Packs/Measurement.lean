import NpcRuntime.Packs.Catalog

/-!
# Measured resource envelopes

`verify_measured_resource_envelope` of `model-manager/src/resource_governor.rs`, and what a
sequence of its calls accepts when each call is handed the trust state of the one before it.

The trust state keeps one version for each stream. Each accepted version follows the one kept for
its stream and takes its place, so that by transitivity it follows all accepted before it
(`measurement_history_sound`).
-/

namespace NpcRuntime.Packs

open Text

def measuredResourceEnvelopeSchemaV1 : Text := "npc.measured-resource-envelope/v1".toList

inductive ResidencyModeV1 where
  | cpuResident
  | gpuResident
  | cpuResidentGpuCold
deriving DecidableEq

structure PlacementMeasurementV1 where
  residentRamBytes : Nat
  p99TotalRamBytes : Nat
  residentVramBytes : Nat
  p99WorkspaceVramBytes : Nat
  p99LoadMillis : Nat
  p99ReloadMillis : Nat
  p99OperationMillis : Nat
deriving DecidableEq

structure MeasuredResourceEnvelopePayloadV1 where
  schema : Text
  reportId : Text
  sequence : Nat
  measuredUnixSeconds : Nat
  expiresUnixSeconds : Nat
  deviceFingerprintSha256 : Sha256Digest
  identity : PackRevision
  manifestSha256 : Sha256Digest
  capability : ModelPackKindV1
  benchmarkSuiteRevision : Text
  runtime : Text
  runtimeRevision : Text
  backend : Text
  sampleCount : Nat
  /-- In the order of the modes. -/
  placements : List (ResidencyModeV1 × PlacementMeasurementV1)
deriving DecidableEq

structure SignedMeasuredResourceEnvelopeV1 where
  signed : MeasuredResourceEnvelopePayloadV1
  signatures : List CatalogSignatureV1
deriving DecidableEq

structure MeasurementTrustPolicyV1 where
  signatureThreshold : Nat := 1
  minimumSamples : Nat := 20
  maximumLifetimeSeconds : Nat := 30 * 24 * 60 * 60
  maximumClockSkewSeconds : Nat := 10 * 60
deriving DecidableEq

structure MeasurementStreamKeyV1 where
  identity : PackRevision
  deviceFingerprintSha256 : Sha256Digest
  runtime : Text
  backend : Text
deriving DecidableEq

structure MeasurementVersionV1 where
  sequence : Nat
  payloadSha256 : Sha256Digest
deriving DecidableEq

structure MeasurementTrustStateV1 where
  accepted : Table MeasurementStreamKeyV1 MeasurementVersionV1 := ∅

structure QualifiedResourceEnvelopeV1 where
  payload : MeasuredResourceEnvelopePayloadV1
  payloadSha256 : Sha256Digest
deriving DecidableEq

inductive ResourceEnvelopeError where
  | unsupportedSchema (schema : Text)
  | invalidField (field : String)
  | incompleteMeasurement
  | measuredInFuture
  | expired
  | invalidLifetime
  | invalidPlacementMeasurement (mode : ResidencyModeV1)
  | zeroSignatureThreshold
  | signatureThreshold (required valid : Nat)
  | rollback (trusted received : Nat)
  | sequenceEquivocation (sequence : Nat)
  | serialization (error : SerdeError)
deriving DecidableEq

structure MeasurementCodec where
  /-- `Sha256Digest::of_bytes`. -/
  sha256 : Bytes → Sha256Digest
  /-- `canonical_measured_resource_envelope_bytes`. -/
  payload : Encoding MeasuredResourceEnvelopePayloadV1

/-! ## Verification -/

def validateToken (field : String) (value : Text) (min max : Nat) :
    Except ResourceEnvelopeError Unit :=
  require (isToken value min max) (.invalidField field)

/-- The body of the loop over the placements. -/
def validatePlacement (placement : ResidencyModeV1 × PlacementMeasurementV1) :
    Except ResourceEnvelopeError Unit := do
  let (mode, measurement) := placement
  require (measurement.residentRamBytes != 0 &&
      decide (measurement.residentRamBytes ≤ measurement.p99TotalRamBytes) &&
      measurement.p99LoadMillis != 0 && measurement.p99ReloadMillis != 0 &&
      measurement.p99OperationMillis != 0) (.invalidPlacementMeasurement mode)
  match mode with
  | .gpuResident =>
    require (measurement.residentVramBytes != 0) (.invalidPlacementMeasurement mode)
  | .cpuResident | .cpuResidentGpuCold =>
    require (measurement.residentVramBytes == 0 && measurement.p99WorkspaceVramBytes == 0)
      (.invalidPlacementMeasurement mode)

def validateMeasurementPayload (payload : MeasuredResourceEnvelopePayloadV1)
    (policy : MeasurementTrustPolicyV1) (nowUnixSeconds : Nat) :
    Except ResourceEnvelopeError Unit := do
  require (payload.schema == measuredResourceEnvelopeSchemaV1) (.unsupportedSchema payload.schema)
  validateToken "report_id" payload.reportId 8 128
  validateToken "benchmark_suite_revision" payload.benchmarkSuiteRevision 1 128
  validateToken "runtime" payload.runtime 1 128
  validateToken "runtime_revision" payload.runtimeRevision 1 128
  validateToken "backend" payload.backend 1 128
  require (payload.sequence != 0 && payload.measuredUnixSeconds != 0 &&
      decide (policy.minimumSamples ≤ payload.sampleCount) && payload.placements != [])
    .incompleteMeasurement
  require (decide (payload.measuredUnixSeconds ≤
    satAdd nowUnixSeconds policy.maximumClockSkewSeconds)) .measuredInFuture
  require (decide (nowUnixSeconds < payload.expiresUnixSeconds)) .expired
  require (decide (payload.measuredUnixSeconds ≤ payload.expiresUnixSeconds)) .invalidLifetime
  require (decide (payload.expiresUnixSeconds - payload.measuredUnixSeconds ≤
    policy.maximumLifetimeSeconds)) .invalidLifetime
  payload.placements.forM validatePlacement

namespace SignedMeasuredResourceEnvelopeV1

def stream (envelope : SignedMeasuredResourceEnvelopeV1) : MeasurementStreamKeyV1 :=
  { identity := envelope.signed.identity
    deviceFingerprintSha256 := envelope.signed.deviceFingerprintSha256
    runtime := envelope.signed.runtime
    backend := envelope.signed.backend }

end SignedMeasuredResourceEnvelopeV1

def verifyMeasuredResourceEnvelope (codec : MeasurementCodec)
    (envelope : SignedMeasuredResourceEnvelopeV1) (verifier : CatalogSignatureVerifier)
    (policy : MeasurementTrustPolicyV1) (prior : MeasurementTrustStateV1) (nowUnixSeconds : Nat) :
    Except ResourceEnvelopeError (QualifiedResourceEnvelopeV1 × MeasurementTrustStateV1) := do
  validateMeasurementPayload envelope.signed policy nowUnixSeconds
  require (policy.signatureThreshold != 0) .zeroSignatureThreshold
  let bytes ← (codec.payload envelope.signed).mapError .serialization
  let digest := codec.sha256 bytes
  (prior.accepted.lookup envelope.stream).forM fun version => do
    require (decide (version.sequence ≤ envelope.signed.sequence))
      (.rollback version.sequence envelope.signed.sequence)
    require (!(envelope.signed.sequence == version.sequence && digest != version.payloadSha256))
      (.sequenceEquivocation envelope.signed.sequence)
  let valid := (verifier.acceptedKeys bytes envelope.signatures).length
  require (decide (policy.signatureThreshold ≤ valid))
    (.signatureThreshold policy.signatureThreshold valid)
  return (⟨envelope.signed, digest⟩,
    ⟨prior.accepted.insert envelope.stream ⟨envelope.signed.sequence, digest⟩⟩)

/-! ## One call -/

structure MeasurementCall where
  envelope : SignedMeasuredResourceEnvelopeV1
  policy : MeasurementTrustPolicyV1
  nowUnixSeconds : Nat
deriving DecidableEq

def MeasurementVersionV1.version (v : MeasurementVersionV1) : Version Sha256Digest :=
  ⟨v.sequence, v.payloadSha256⟩

/-- What an accepted call has passed, and what it leaves. -/
theorem verifyMeasuredResourceEnvelope_ok {codec : MeasurementCodec}
    {verifier : CatalogSignatureVerifier} {prior trust : MeasurementTrustStateV1}
    {call : MeasurementCall} {qualified : QualifiedResourceEnvelopeV1}
    (h : verifyMeasuredResourceEnvelope codec call.envelope verifier call.policy prior
      call.nowUnixSeconds = .ok (qualified, trust)) :
    ∃ bytes, codec.payload call.envelope.signed = .ok bytes ∧
      qualified = ⟨call.envelope.signed, codec.sha256 bytes⟩ ∧
      verifier.SignedBy bytes call.envelope.signatures call.policy.signatureThreshold ∧
      (∀ mark, prior.accepted.lookup call.envelope.stream = some mark →
        mark.version ≤ ⟨call.envelope.signed.sequence, codec.sha256 bytes⟩) ∧
      trust = ⟨prior.accepted.insert call.envelope.stream
        ⟨call.envelope.signed.sequence, codec.sha256 bytes⟩⟩ := by
  simp only [verifyMeasuredResourceEnvelope, bind_eq_ok, require_eq_ok, mapError_eq_ok,
    option_forM_eq_ok, pure_eq_ok, decide_eq_true_eq, Prod.mk.injEq] at h
  obtain ⟨_, -, _, -, bytes, hbytes, _, hmark, _, hkeys, rfl, rfl⟩ := h
  refine ⟨bytes, hbytes, rfl, verifier.signedBy_of_acceptedKeys bytes hkeys, ?_, rfl⟩
  intro mark hlookup
  obtain ⟨_, hle, hequal⟩ := hmark mark hlookup
  refine ⟨hle, ?_⟩
  intro hsame
  have hsequence : call.envelope.signed.sequence = mark.sequence := hsame.symm
  have hdigest : codec.sha256 bytes = mark.payloadSha256 := by simpa [hsequence] using hequal
  exact hdigest.symm

/-! ## Histories -/

structure AcceptedMeasurement where
  call : MeasurementCall
  qualified : QualifiedResourceEnvelopeV1

namespace AcceptedMeasurement

def stream (accepted : AcceptedMeasurement) : MeasurementStreamKeyV1 :=
  accepted.call.envelope.stream

def version (accepted : AcceptedMeasurement) : Version Sha256Digest :=
  ⟨accepted.qualified.payload.sequence, accepted.qualified.payloadSha256⟩

end AcceptedMeasurement

/-- A trust state, and what was accepted on the way to it. -/
structure MeasurementHistory where
  trust : MeasurementTrustStateV1 := {}
  accepted : List AcceptedMeasurement := []

/-- One call of `verify_measured_resource_envelope` with the trust state of the call before. -/
def measurementStep (codec : MeasurementCodec) (verifier : CatalogSignatureVerifier)
    (call : MeasurementCall) (history : MeasurementHistory) : MeasurementHistory :=
  match verifyMeasuredResourceEnvelope codec call.envelope verifier call.policy history.trust
      call.nowUnixSeconds with
  | .ok (qualified, trust) => ⟨trust, history.accepted ++ [⟨call, qualified⟩]⟩
  | .error _ => history

/-- No stream goes back, and all that was accepted is signed. -/
structure NoMeasurementRollback (codec : MeasurementCodec) (verifier : CatalogSignatureVerifier)
    (accepted : List AcceptedMeasurement) : Prop where
  sequences : accepted.Pairwise fun a b => a.stream = b.stream →
    a.qualified.payload.sequence ≤ b.qualified.payload.sequence
  payloads : accepted.Pairwise fun a b => a.stream = b.stream →
    a.qualified.payload.sequence = b.qualified.payload.sequence →
      a.qualified.payloadSha256 = b.qualified.payloadSha256
  signed : ∀ a ∈ accepted, ∃ bytes, codec.payload a.qualified.payload = .ok bytes ∧
    a.qualified.payloadSha256 = codec.sha256 bytes ∧
    verifier.SignedBy bytes a.call.envelope.signatures a.call.policy.signatureThreshold

/-- A call leaves what is kept for the other streams. -/
def OtherStreamsKept (codec : MeasurementCodec) (verifier : CatalogSignatureVerifier)
    (history : MeasurementHistory) (call : MeasurementCall) : Prop :=
  ∀ stream, stream ≠ call.envelope.stream →
    (measurementStep codec verifier call history).trust.accepted.lookup stream =
      history.trust.accepted.lookup stream

structure MeasurementHistory.Inv (codec : MeasurementCodec) (verifier : CatalogSignatureVerifier)
    (history : MeasurementHistory) : Prop where
  marked : ∀ a ∈ history.accepted, ∃ mark,
    history.trust.accepted.lookup a.stream = some mark ∧ a.version ≤ mark.version
  sound : NoMeasurementRollback codec verifier history.accepted

section Histories

variable {codec : MeasurementCodec} {verifier : CatalogSignatureVerifier}
  {history : MeasurementHistory}

/-- A call is refused, or what it accepts follows the version kept for its stream. -/
theorem measurementStep_cases (codec : MeasurementCodec) (verifier : CatalogSignatureVerifier)
    (history : MeasurementHistory) (call : MeasurementCall) :
    measurementStep codec verifier call history = history ∨
    ∃ bytes, codec.payload call.envelope.signed = .ok bytes ∧
      verifier.SignedBy bytes call.envelope.signatures call.policy.signatureThreshold ∧
      (∀ mark, history.trust.accepted.lookup call.envelope.stream = some mark →
        mark.version ≤ ⟨call.envelope.signed.sequence, codec.sha256 bytes⟩) ∧
      measurementStep codec verifier call history =
        ⟨⟨history.trust.accepted.insert call.envelope.stream
            ⟨call.envelope.signed.sequence, codec.sha256 bytes⟩⟩,
          history.accepted ++ [⟨call, ⟨call.envelope.signed, codec.sha256 bytes⟩⟩]⟩ := by
  cases hverify : verifyMeasuredResourceEnvelope codec call.envelope verifier call.policy
      history.trust call.nowUnixSeconds with
  | ok result =>
    obtain ⟨qualified, trust⟩ := result
    obtain ⟨bytes, hbytes, rfl, hsigned, hmark, rfl⟩ := verifyMeasuredResourceEnvelope_ok hverify
    exact .inr ⟨bytes, hbytes, hsigned, hmark, by simp only [measurementStep, hverify]⟩
  | error error => exact .inl (by simp only [measurementStep, hverify])

theorem otherStreamsKept (codec : MeasurementCodec) (verifier : CatalogSignatureVerifier)
    (history : MeasurementHistory) (call : MeasurementCall) :
    OtherStreamsKept codec verifier history call := by
  intro stream hstream
  rcases measurementStep_cases codec verifier history call with hstep | ⟨bytes, -, -, -, hstep⟩
  · rw [hstep]
  · rw [hstep]
    exact AList.lookup_insert_ne hstream

theorem MeasurementHistory.Inv.step (h : history.Inv codec verifier) (call : MeasurementCall) :
    (measurementStep codec verifier call history).Inv codec verifier := by
  rcases measurementStep_cases codec verifier history call with
    hstep | ⟨bytes, hbytes, hsigned, hmark, hstep⟩
  · rw [hstep]
    exact h
  · rw [hstep]
    -- by transitivity through the mark of the stream
    have hfollows : ∀ a ∈ history.accepted, a.stream = call.envelope.stream →
        a.version ≤ ⟨call.envelope.signed.sequence, codec.sha256 bytes⟩ := by
      intro a ha hstream
      obtain ⟨mark, hlookup, hle⟩ := h.marked a ha
      exact hle.trans (hmark mark (hstream ▸ hlookup))
    refine ⟨?_, ?_, ?_, ?_⟩
    · rw [forall_mem_concat]
      refine ⟨?_, _, AList.lookup_insert _, le_refl _⟩
      intro a ha
      by_cases hstream : a.stream = call.envelope.stream
      · refine ⟨⟨call.envelope.signed.sequence, codec.sha256 bytes⟩, ?_, hfollows a ha hstream⟩
        rw [hstream]
        exact AList.lookup_insert _
      · obtain ⟨mark, hlookup, hle⟩ := h.marked a ha
        exact ⟨mark, (AList.lookup_insert_ne hstream).trans hlookup, hle⟩
    · rw [pairwise_concat]
      exact ⟨h.sound.sequences, fun a ha hstream => (hfollows a ha hstream).1⟩
    · rw [pairwise_concat]
      exact ⟨h.sound.payloads, fun a ha hstream => (hfollows a ha hstream).2⟩
    · rw [forall_mem_concat]
      exact ⟨h.sound.signed, bytes, hbytes, rfl, hsigned⟩

end Histories

/-- **Measurement anti-rollback.** From any trust state, whatever envelopes are presented: no
stream goes back or equivocates, every accepted envelope is signed by enough keys, and no call
touches another stream. -/
theorem measurement_history_sound (codec : MeasurementCodec) (verifier : CatalogSignatureVerifier)
    (trust : MeasurementTrustStateV1) (calls : List MeasurementCall) :
    NoMeasurementRollback codec verifier
        (runFrom (measurementStep codec verifier) calls ⟨trust, []⟩).accepted ∧
      Along (measurementStep codec verifier) (OtherStreamsKept codec verifier) calls
        ⟨trust, []⟩ := by
  constructor
  · have hinv := inv_runFrom (MeasurementHistory.Inv codec verifier)
      (fun history call h => h.step call)
      (s := ⟨trust, []⟩) ⟨by simp, .nil, .nil, by simp⟩ calls
    exact hinv.sound
  · exact along_of_forall (otherStreamsKept codec verifier) calls _

end NpcRuntime.Packs
