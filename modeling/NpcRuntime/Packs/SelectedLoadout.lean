import NpcRuntime.Packs.ResidencyTracker
import NpcRuntime.Packs.Scheduler

/-!
# The selected loadout

`SelectedLoadoutManagerV1` of `model-manager/src/selected_loadout.rs`: an admission resolves the
selected packs in the trusted catalog, verifies one signed envelope for each of them, asks the
governor for a receipt and plans the residency of the models. An admission for a running game then
replaces the active evidence, from which later maintenance is planned; one for setup leaves it.

The texts that explain a refusal are left out. The provenance of a telemetry snapshot is reduced to
whether the snapshot is valid, and the source of envelopes may answer each admission differently.
-/

namespace NpcRuntime.Packs

open Text

structure SelectedPackV1 where
  role : ModelPackKindV1
  identity : PackRevision
  preferredResidency : ResidencyModeV1
deriving DecidableEq

structure SelectedLoadoutSelectionV1 where
  selectionId : Text
  roles : List SelectedPackV1
  expectedIdleMillis : Nat
deriving DecidableEq

/-- The metrics an admission reads, where they are available. -/
structure ResourceTelemetrySnapshotV1 where
  /-- `validate_snapshot`. -/
  valid : Bool
  capturedMonotonicMillis : Nat
  selectedGamePid : Option Nat
  physicalRamBytes : Option Nat
  availableRamBytes : Option Nat
  deviceFingerprintSha256 : Option Text
  dedicatedVramBytes : Option Nat
  osLocalVramBudgetBytes : Option Nat
  totalDevicePressureVramBytes : Option Nat
  selectedGameWorkingSetBytes : Option Nat
  selectedGameVramBytes : Option Nat
deriving DecidableEq

structure NativeAdmissionContextV1 where
  exactTargetPid : Option Nat
  nowUnixSeconds : Nat
  nowMonotonicMillis : Nat
  configuredGameReserveVramBytes : Nat
  gameAdditionalReserveRamBytes : Nat
  resourcePressure : ResourcePressureLevelV1
  telemetry : Option ResourceTelemetrySnapshotV1
deriving DecidableEq

/-- What `load_signed_envelope` answers; an error is only reported. -/
abbrev SignedResourceEnvelopeSourceV1 :=
  PackRevision → Sha256Digest → ResidencyModeV1 →
    Except Text (Option SignedMeasuredResourceEnvelopeV1)

inductive SelectedLoadoutBlockCodeV1 where
  | invalidSelection
  | missingTargetPid
  | missingTelemetry
  | targetPidMismatch
  | catalogExpired
  | unknownPack
  | revokedPack
  | manifestInvalid
  | roleManifestMismatch
  | nonGenericPack
  | missingMeasuredEnvelope
  | measuredEnvelopeLoadFailed
  | measuredEnvelopeUntrusted
  | measuredEnvelopeExpired
  | measuredEnvelopeWrongDevice
  | measuredEnvelopeManifestMismatch
  | measuredEnvelopeCapabilityMismatch
  | unknownPlacementMeasurement
  | invalidTelemetry
  | requiredTelemetryUnavailable
  | staleTelemetry
  | vramContention
  | ramContention
  | resourceArithmetic
deriving DecidableEq

inductive ResidencyDispositionV1 where
  | keepWarm
  | cpuResidentGpuCold
  | unload
deriving DecidableEq

structure MeasuredResidencyDecisionV1 where
  role : ModelPackKindV1
  identity : PackRevision
  current : RuntimeResidencyStateV1
  disposition : ResidencyDispositionV1
  expectedIdleMillis : Nat
  comparedP99ReloadMillis : Nat
  evidencePlacement : ResidencyModeV1
  measuredEnvelopeSha256 : Sha256Digest
deriving DecidableEq

structure SelectedLoadoutDecisionV1 where
  selectionId : Text
  exactTargetPid : Option Nat
  selectedRoles : List SelectedPackV1
  liveSnapshot : Option ResourceTelemetrySnapshotV1
  /-- A receipt and the residency of its models, or why there is none. -/
  outcome : Except SelectedLoadoutBlockCodeV1
    (LoadoutAdmissionV1 × List MeasuredResidencyDecisionV1)
  pressureCancellations : List WorkCancellationV1

structure SelectedLoadoutManagerV1 where
  catalog : TrustedCatalog
  measurementPolicy : MeasurementTrustPolicyV1
  measurementState : MeasurementTrustStateV1 := {}
  governorPolicy : ResourceGovernorPolicyV1
  scheduler : WorkSchedulerV1
  activeEvidence : Table PackRevision QualifiedResourceEnvelopeV1 := ∅

/-! ## Planning -/

/-- `plan_one_residency`. It panics (`none`) where the evidence has no such placement. -/
def planOneResidency (role : ModelPackKindV1) (identity : PackRevision)
    (currentMode : ResidencyModeV1) (expectedIdleMillis : Nat)
    (evidence : QualifiedResourceEnvelopeV1) : Option MeasuredResidencyDecisionV1 := do
  let currentMeasurement ← evidence.placement currentMode
  let reload := currentMeasurement.p99ReloadMillis
  let decision := fun current disposition compared placement =>
    { role, identity, current, disposition, expectedIdleMillis
      comparedP99ReloadMillis := compared
      evidencePlacement := placement
      measuredEnvelopeSha256 := evidence.payloadSha256 : MeasuredResidencyDecisionV1 }
  match currentMode with
  | .gpuResident =>
    if expectedIdleMillis ≤ reload then
      return decision .gpuWarm .keepWarm reload .gpuResident
    else
      match evidence.placement .cpuResidentGpuCold with
      | some cold =>
        return decision .gpuWarm
          (if expectedIdleMillis ≤ cold.p99ReloadMillis then .cpuResidentGpuCold else .unload)
          cold.p99ReloadMillis .cpuResidentGpuCold
      | none => return decision .gpuWarm .unload reload .gpuResident
  | .cpuResidentGpuCold =>
    return decision .cpuResidentGpuCold
      (if expectedIdleMillis ≤ reload then .cpuResidentGpuCold else .unload)
      reload .cpuResidentGpuCold
  | .cpuResident =>
    return decision .cpuWarm (if expectedIdleMillis ≤ reload then .keepWarm else .unload)
      reload .cpuResident

/-- A plan panics exactly where the evidence lacks the placement. -/
theorem planOneResidency_isSome {role : ModelPackKindV1} {identity : PackRevision}
    {mode : ResidencyModeV1} {idle : Nat} {evidence : QualifiedResourceEnvelopeV1} :
    (planOneResidency role identity mode idle evidence).isSome ↔
      (evidence.placement mode).isSome := by
  unfold planOneResidency
  cases hplacement : evidence.placement mode with
  | none => exact Iff.rfl
  | some measurement =>
    refine iff_of_true ?_ rfl
    cases mode with
    | gpuResident =>
      simp only [Option.bind_eq_bind, Option.bind_some]
      split_ifs
      · rfl
      · split <;> rfl
    | cpuResident | cpuResidentGpuCold => rfl

/-! ## Admission -/

def validateSelection (selection : SelectedLoadoutSelectionV1) : Bool :=
  isToken selection.selectionId 8 128 &&
    (!selection.roles.isEmpty && decide (selection.roles.length ≤ 8)) &&
    decide (selection.expectedIdleMillis ≤ 24 * 60 * 60 * 1000) &&
    decide (selection.roles.map SelectedPackV1.role).Nodup &&
    decide (selection.roles.map SelectedPackV1.identity).Nodup

/-- The process an admission is for: one of a game, or none for setup. -/
def targetPid (requireTargetPid : Bool) (exactTargetPid : Option Nat) :
    Except SelectedLoadoutBlockCodeV1 (Option Nat) :=
  match requireTargetPid, exactTargetPid with
  | true, some pid => if pid ≠ 0 then .ok (some pid) else .error .missingTargetPid
  | true, none => .error .missingTargetPid
  | false, none => .ok none
  | false, some _ => .error .invalidSelection

/-- `Sha256Digest::parse`. -/
def Sha256Digest.parse (value : Text) : Except ManifestError Sha256Digest :=
  let value := toAsciiLowercase value
  if utf8Len value = 64 ∧ value.all fun c => c.isDigit || ('a' ≤ c && c ≤ 'f') then .ok ⟨value⟩
  else .error (.invalidSha256 value)

/-- The memory of the selected game on the device, if there is a game. -/
def selectedGameVram (telemetry : ResourceTelemetrySnapshotV1) :
    Except SelectedLoadoutBlockCodeV1 Nat :=
  match telemetry.selectedGamePid with
  | none => .ok 0
  | some _ => do
    let gameVram ← okOr telemetry.selectedGameVramBytes .requiredTelemetryUnavailable
    let _ ← okOr telemetry.selectedGameWorkingSetBytes .requiredTelemetryUnavailable
    return gameVram

/-- `admission_view`, the conversion of its view and the codes of their errors. -/
def liveResources (telemetry : ResourceTelemetrySnapshotV1)
    (configuredGameReserveVramBytes gameAdditionalReserveRamBytes : Nat) :
    Except SelectedLoadoutBlockCodeV1 LiveResourceSnapshotV1 := do
  require telemetry.valid .invalidTelemetry
  let device ← okOr (telemetry.deviceFingerprintSha256.filter fun value =>
      decide (utf8Len value = 64) && value.all fun c =>
        c.isDigit || ('a' ≤ c && c ≤ 'f') || ('A' ≤ c && c ≤ 'F')) .requiredTelemetryUnavailable
  let physicalVram ← okOr telemetry.dedicatedVramBytes .requiredTelemetryUnavailable
  let budget ← okOr telemetry.osLocalVramBudgetBytes .requiredTelemetryUnavailable
  let totalPressure ← okOr telemetry.totalDevicePressureVramBytes .requiredTelemetryUnavailable
  let physicalRam ← okOr telemetry.physicalRamBytes .requiredTelemetryUnavailable
  let availableRam ← okOr telemetry.availableRamBytes .requiredTelemetryUnavailable
  let gameVram ← selectedGameVram telemetry
  require (decide (gameVram ≤ totalPressure)) .invalidTelemetry
  let deviceFingerprint ← (Sha256Digest.parse device).mapError fun _ => .invalidTelemetry
  return {
    capturedMonotonicMillis := telemetry.capturedMonotonicMillis
    deviceFingerprintSha256 := deviceFingerprint
    physicalVramBytes := physicalVram
    osVramBudgetBytes := budget
    desktopResidentVramBytes := totalPressure - gameVram
    gameResidentVramBytes := gameVram
    gameReserveVramBytes := configuredGameReserveVramBytes
    physicalRamBytes := physicalRam
    availableRamBytes := availableRam
    gameAdditionalReserveRamBytes }

/-- `TrustedCatalog::installable_entry`, with the code of its error. -/
def TrustedCatalog.installableEntry (catalog : TrustedCatalog) (identity : PackRevision) :
    Except SelectedLoadoutBlockCodeV1 CatalogEntryV1 := do
  let entry ← okOr (catalog.entries.lookup identity) .unknownPack
  require (!entry.revoked) .revokedPack
  return entry

def mapEnvelopeError : ResourceEnvelopeError → SelectedLoadoutBlockCodeV1
  | .expired => .measuredEnvelopeExpired
  | _ => .measuredEnvelopeUntrusted

def mapGovernorError : ResourceAdmissionError → SelectedLoadoutBlockCodeV1
  | .staleSnapshot _ | .snapshotFromFuture => .staleTelemetry
  | .invalidSnapshot => .invalidTelemetry
  | .deviceFingerprintMismatch => .measuredEnvelopeWrongDevice
  | .capabilityMismatch .. => .measuredEnvelopeCapabilityMismatch
  | .unknownEnvelope .. => .unknownPlacementMeasurement
  | .vramSoftCeilingExceeded .. => .vramContention
  | .ramSoftCeilingExceeded .. => .ramContention
  | .arithmeticOverflow => .resourceArithmetic
  | _ => .invalidSelection

/-- Encoders and keys. -/
structure LoadoutAuthority where
  codec : Codec
  measurements : MeasurementCodec
  verifier : CatalogSignatureVerifier

section Admission

variable (authority : LoadoutAuthority) (m : SelectedLoadoutManagerV1)

/-- What the loop over the selected roles has collected: the trust state and the evidence. -/
structure Qualification where
  trust : MeasurementTrustStateV1
  evidence : List QualifiedResourceEnvelopeV1 := []

/-- The body of the loop over the selected roles. -/
def qualifyRole (source : SignedResourceEnvelopeSourceV1) (live : LiveResourceSnapshotV1)
    (nowUnixSeconds : Nat) (state : Qualification) (selected : SelectedPackV1) :
    Except SelectedLoadoutBlockCodeV1 Qualification := do
  let entry ← m.catalog.installableEntry selected.identity
  entry.manifest.validate.mapError fun _ => .manifestInvalid
  let manifestDigest ← (entry.manifest.digest authority.codec).mapError fun _ => .manifestInvalid
  require (manifestDigest == entry.manifestSha256) .manifestInvalid
  require (entry.manifest.capability.kind == selected.role) .roleManifestMismatch
  require (entry.manifest.capability.scope == .generic) .nonGenericPack
  let loaded ← (source selected.identity live.deviceFingerprintSha256
    selected.preferredResidency).mapError fun _ => .measuredEnvelopeLoadFailed
  let signed ← okOr loaded .missingMeasuredEnvelope
  let (evidence, trust) ← (verifyMeasuredResourceEnvelope authority.measurements signed
    authority.verifier m.measurementPolicy state.trust nowUnixSeconds).mapError mapEnvelopeError
  require (evidence.payload.identity == selected.identity &&
    evidence.payload.manifestSha256 == manifestDigest) .measuredEnvelopeManifestMismatch
  require (evidence.payload.capability == selected.role) .measuredEnvelopeCapabilityMismatch
  require (evidence.payload.deviceFingerprintSha256 == live.deviceFingerprintSha256)
    .measuredEnvelopeWrongDevice
  require (evidence.placement selected.preferredResidency).isSome .unknownPlacementMeasurement
  return ⟨trust, state.evidence ++ [evidence]⟩

def requestsOf (roles : List SelectedPackV1) (evidence : List QualifiedResourceEnvelopeV1) :
    List LoadoutModelRequestV1 :=
  List.zipWith (fun selected envelope => ⟨selected.role, selected.preferredResidency, envelope⟩)
    roles evidence

/-- Everything an admission checks: the receipt, and what the loop has collected. -/
def checkAdmission (source : SignedResourceEnvelopeSourceV1)
    (selection : SelectedLoadoutSelectionV1) (context : NativeAdmissionContextV1)
    (requireTargetPid : Bool) :
    Except SelectedLoadoutBlockCodeV1 (LoadoutAdmissionV1 × Qualification) := do
  require (validateSelection selection) .invalidSelection
  let target ← targetPid requireTargetPid context.exactTargetPid
  let telemetry ← okOr context.telemetry .missingTelemetry
  require (telemetry.selectedGamePid == target) .targetPidMismatch
  require (decide (context.nowUnixSeconds < m.catalog.payload.expiresUnixSeconds)) .catalogExpired
  let live ← liveResources telemetry context.configuredGameReserveVramBytes
    context.gameAdditionalReserveRamBytes
  let qualified ← selection.roles.foldlM (qualifyRole authority m source live
    context.nowUnixSeconds) { trust := m.measurementState }
  let receipt ← (admitRequests m.governorPolicy live context.nowMonotonicMillis
    (requestsOf selection.roles qualified.evidence)).mapError mapGovernorError
  return (receipt, qualified)

/-- `plan_residency_from_evidence`. -/
def planResidencyFromEvidence (expectedIdleMillis : Nat) (roles : List SelectedPackV1)
    (evidence : List QualifiedResourceEnvelopeV1) :
    Option (List MeasuredResidencyDecisionV1) :=
  (roles.zip evidence).mapM fun (selected, evidence) =>
    planOneResidency selected.role selected.identity selected.preferredResidency
      expectedIdleMillis evidence

namespace SelectedLoadoutManagerV1

/-- An admission, unless it panics. -/
def admitWithTargetPolicy (source : SignedResourceEnvelopeSourceV1)
    (selection : SelectedLoadoutSelectionV1) (context : NativeAdmissionContextV1)
    (requireTargetPid : Bool) :
    Option (SelectedLoadoutDecisionV1 × SelectedLoadoutManagerV1) :=
  let (cancellations, scheduler) :=
    if requireTargetPid then
      m.scheduler.applyPressure context.resourcePressure context.nowMonotonicMillis
    else ([], m.scheduler)
  let m := { m with scheduler }
  let decision := fun outcome =>
    { selectionId := selection.selectionId
      exactTargetPid := context.exactTargetPid
      selectedRoles := selection.roles
      liveSnapshot := context.telemetry
      outcome
      pressureCancellations := cancellations : SelectedLoadoutDecisionV1 }
  match checkAdmission authority m source selection context requireTargetPid with
  | .error code => some (decision (.error code), m)
  | .ok (receipt, qualified) => do
    let residency ← planResidencyFromEvidence selection.expectedIdleMillis selection.roles
      qualified.evidence
    return (decision (.ok (receipt, residency)),
      if requireTargetPid then
        { m with
          measurementState := qualified.trust
          activeEvidence := Table.collect (fun evidence => evidence.payload.identity) id
            qualified.evidence }
      else m)

/-- The loop over the placements of `refresh_trusted_pack_measurement`: the first envelope that
verifies and is of the pack and the device. -/
def refreshPlacements (source : SignedResourceEnvelopeSourceV1) (entry : CatalogEntryV1)
    (identity : PackRevision) (device : Sha256Digest) (manifestDigest : Sha256Digest)
    (nowUnixSeconds : Nat) :
    List ResidencyModeV1 → Option (MeasuredResourceEnvelopePayloadV1 × MeasurementTrustStateV1)
  | [] => none
  | placement :: placements =>
    match source identity device placement with
    | .error _ => none
    | .ok none => refreshPlacements source entry identity device manifestDigest nowUnixSeconds
        placements
    | .ok (some signed) =>
      match verifyMeasuredResourceEnvelope authority.measurements signed authority.verifier
        m.measurementPolicy m.measurementState nowUnixSeconds with
      | .error _ => refreshPlacements source entry identity device manifestDigest nowUnixSeconds
          placements
      | .ok (qualified, trust) =>
        if qualified.payload.identity ≠ identity ∨
            qualified.payload.deviceFingerprintSha256 ≠ device ∨
            qualified.payload.manifestSha256 ≠ manifestDigest ∨
            qualified.payload.capability ≠ entry.manifest.capability.kind ∨
            (qualified.placement placement).isNone then
          refreshPlacements source entry identity device manifestDigest nowUnixSeconds placements
        else some (qualified.payload, trust)

/-- The measurement to show for a pack, and the manager behind it. -/
def refreshTrustedPackMeasurement (source : SignedResourceEnvelopeSourceV1)
    (identity : PackRevision) (allowedResidencies : List ResidencyModeV1) (device : Sha256Digest)
    (nowUnixSeconds : Nat) :
    Option MeasuredResourceEnvelopePayloadV1 × SelectedLoadoutManagerV1 :=
  let found := do
    let entry ← (m.catalog.entries.lookup identity).filter fun entry => !entry.revoked
    let manifestDigest ← (entry.manifest.digest authority.codec).toOption
    refreshPlacements authority m source entry identity device manifestDigest nowUnixSeconds
      allowedResidencies
  match found with
  | none => (none, m)
  | some (payload, trust) => (some payload, { m with measurementState := trust })

/-- The plan for the models of a receipt whose evidence is active, unless it panics. -/
def planMaintenance (admission : LoadoutAdmissionV1) (expectedIdleMillis : Nat) :
    Option (List MeasuredResidencyDecisionV1) :=
  (admission.models.filterMap fun model =>
    (m.activeEvidence.lookup model.identity).map fun evidence => (model, evidence)).mapM
      fun (model, evidence) =>
        planOneResidency model.role model.identity model.mode expectedIdleMillis evidence

end SelectedLoadoutManagerV1

end Admission

/-! ## What is admitted -/

section Admitted

variable {authority : LoadoutAuthority} {m : SelectedLoadoutManagerV1}
  {source : SignedResourceEnvelopeSourceV1} {live : LiveResourceSnapshotV1}

/-- The evidence of a selected role. -/
structure Qualifies (source : SignedResourceEnvelopeSourceV1) (live : LiveResourceSnapshotV1)
    (selected : SelectedPackV1) (evidence : QualifiedResourceEnvelopeV1) : Prop where
  identity : evidence.payload.identity = selected.identity
  placement : (evidence.placement selected.preferredResidency).isSome
  loaded : ∃ signed : SignedMeasuredResourceEnvelopeV1,
    source selected.identity live.deviceFingerprintSha256 selected.preferredResidency =
      .ok (some signed) ∧ evidence.payload = signed.signed

theorem qualifyRole_ok {nowUnixSeconds : Nat} {state state' : Qualification}
    {selected : SelectedPackV1}
    (h : qualifyRole authority m source live nowUnixSeconds state selected = .ok state') :
    ∃ evidence, Qualifies source live selected evidence ∧
      state'.evidence = state.evidence ++ [evidence] := by
  simp only [qualifyRole, bind_eq_ok, require_eq_ok, mapError_eq_ok, okOr_eq_ok, pure_eq_ok,
    Bool.and_eq_true, beq_iff_eq] at h
  obtain ⟨_, -, _, -, _, -, _, -, _, -, _, -, loaded, hloaded, signed, rfl, ⟨evidence, trust⟩,
    hverify, _, ⟨hidentity, -⟩, _, -, _, -, _, hplacement, rfl⟩ := h
  refine ⟨evidence, ⟨hidentity, hplacement, signed, hloaded, ?_⟩, rfl⟩
  obtain ⟨bytes, -, rfl, -⟩ := @verifyMeasuredResourceEnvelope_ok _ _ _ _
    ⟨signed, m.measurementPolicy, nowUnixSeconds⟩ _ hverify
  rfl

/-- The loop qualifies one envelope for each role. -/
theorem foldlM_qualifyRole_ok {nowUnixSeconds : Nat} {state state' : Qualification}
    {roles : List SelectedPackV1}
    (h : roles.foldlM (qualifyRole authority m source live nowUnixSeconds) state = .ok state') :
    ∃ evidence, state'.evidence = state.evidence ++ evidence ∧
      List.Forall₂ (Qualifies source live) roles evidence := by
  induction roles generalizing state with
  | nil =>
    obtain rfl := pure_eq_ok.1 h
    exact ⟨[], by simp, .nil⟩
  | cons selected roles ih =>
    rw [List.foldlM_cons, bind_eq_ok] at h
    obtain ⟨next, hnext, hrest⟩ := h
    obtain ⟨first, hfirst, hevidence⟩ := qualifyRole_ok hnext
    obtain ⟨rest, hrest, hall⟩ := ih hrest
    exact ⟨first :: rest, by rw [hrest, hevidence, List.append_assoc]; rfl, .cons hfirst hall⟩

/-- The receipt and the evidence of an admission. -/
structure AdmissionLedger (selection : SelectedLoadoutSelectionV1)
    (source : SignedResourceEnvelopeSourceV1) (live : LiveResourceSnapshotV1)
    (receipt : LoadoutAdmissionV1) (evidence : List QualifiedResourceEnvelopeV1) : Prop where
  identities : (selection.roles.map SelectedPackV1.identity).Nodup
  qualified : List.Forall₂ (Qualifies source live) selection.roles evidence
  /-- The models of the receipt are those of the selection. -/
  models : ∀ identity mode, (∃ model ∈ receipt.models, model.identity = identity ∧
    model.mode = mode) ↔ ∃ selected ∈ selection.roles, selected.identity = identity ∧
      selected.preferredResidency = mode

theorem mem_requestedModels_requestsOf {roles : List SelectedPackV1}
    {evidence : List QualifiedResourceEnvelopeV1}
    (hqualified : List.Forall₂ (Qualifies source live) roles evidence)
    (hmeasured : ∀ request ∈ requestsOf roles evidence, (request.model live).isSome)
    (identity : PackRevision) (mode : ResidencyModeV1) :
    (∃ model ∈ requestedModels live (requestsOf roles evidence), model.identity = identity ∧
      model.mode = mode) ↔ ∃ selected ∈ roles, selected.identity = identity ∧
        selected.preferredResidency = mode := by
  induction hqualified with
  | nil => simp [requestsOf, requestedModels]
  | @cons selected first roles evidence hfirst _ ih =>
    have hrequests : requestsOf (selected :: roles) (first :: evidence) =
        ⟨selected.role, selected.preferredResidency, first⟩ :: requestsOf roles evidence := rfl
    rw [hrequests] at hmeasured ⊢
    obtain ⟨model, hmodel⟩ := Option.isSome_iff_exists.1 (hmeasured _ List.mem_cons_self)
    have hsame : model.identity = selected.identity ∧
        model.mode = selected.preferredResidency := by
      unfold LoadoutModelRequestV1.model at hmodel
      split at hmodel
      · obtain ⟨measurement, -, rfl⟩ := Option.map_eq_some_iff.1 hmodel
        exact ⟨hfirst.identity, rfl⟩
      · cases hmodel
    rw [requestedModels_cons hmodel]
    simp only [List.exists_mem_cons_iff]
    rw [hsame.1, hsame.2,
      ih fun request hrequest => hmeasured request (List.mem_cons_of_mem _ hrequest)]

/-- **What an admission that goes through has checked.** -/
theorem checkAdmission_ok {selection : SelectedLoadoutSelectionV1}
    {context : NativeAdmissionContextV1} {requireTargetPid : Bool}
    {receipt : LoadoutAdmissionV1} {qualified : Qualification}
    (h : checkAdmission authority m source selection context requireTargetPid =
      .ok (receipt, qualified)) :
    ∃ live, AdmissionLedger selection source live receipt qualified.evidence := by
  simp only [checkAdmission, bind_eq_ok, require_eq_ok, mapError_eq_ok, okOr_eq_ok, pure_eq_ok,
    Prod.mk.injEq] at h
  obtain ⟨_, hselection, _, -, _, -, _, -, _, -, live, -, collected, hcollected, admission,
    hadmission, rfl, rfl⟩ := h
  obtain ⟨evidence, hevidence, hqualified⟩ := foldlM_qualifyRole_ok hcollected
  obtain ⟨hadmissible, rfl⟩ := admit_eq_ok.1 hadmission
  simp only [List.nil_append] at hevidence
  rw [hevidence] at hadmissible ⊢
  refine ⟨live, ?_, hqualified, fun identity mode => ?_⟩
  · simp only [validateSelection, Bool.and_eq_true, decide_eq_true_eq] at hselection
    exact hselection.2
  · rw [← mem_requestedModels_requestsOf hqualified hadmissible.measured]
    simp only [exactAdmission, sortByRole, List.mem_insertionSort]

end Admitted

end NpcRuntime.Packs
