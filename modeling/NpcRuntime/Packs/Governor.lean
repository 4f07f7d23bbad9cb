import Mathlib.Algebra.Order.BigOperators.Group.List
import Mathlib.Data.Finset.Insert
import NpcRuntime.Packs.Measurement

/-!
# Admission of a loadout

`ResourceGovernorV1::admit` of `model-manager/src/resource_governor.rs`: the requested models are
measured one after the other, their peaks are summed in checked 64-bit arithmetic, and the sums are
held against the ceilings for VRAM and RAM.
-/

namespace NpcRuntime.Packs

def resourceGovernorPolicySchemaV1 : Text := "npc.resource-governor-policy/v1".toList

structure ResourceGovernorPolicyV1 where
  schema : Text := resourceGovernorPolicySchemaV1
  vramSoftCeilingBasisPoints : Nat := 9000
  ramSoftCeilingBasisPoints : Nat := 8500
  minimumVramSafetyBytes : Nat := 1500000000
  proportionalVramSafetyBasisPoints : Nat := 1500
  minimumRamSafetyBytes : Nat := 2000000000
  maximumSnapshotAgeMillis : Nat := 2000
  keepWarmMillis : Nat := 30000
  unloadTtlMillis : Nat := 120000
deriving DecidableEq

structure LiveResourceSnapshotV1 where
  capturedMonotonicMillis : Nat
  deviceFingerprintSha256 : Sha256Digest
  physicalVramBytes : Nat
  osVramBudgetBytes : Nat
  desktopResidentVramBytes : Nat
  gameResidentVramBytes : Nat
  gameReserveVramBytes : Nat
  physicalRamBytes : Nat
  availableRamBytes : Nat
  gameAdditionalReserveRamBytes : Nat
deriving DecidableEq

structure LoadoutModelRequestV1 where
  role : ModelPackKindV1
  mode : ResidencyModeV1
  envelope : QualifiedResourceEnvelopeV1
deriving DecidableEq

structure AdmittedModelV1 where
  role : ModelPackKindV1
  identity : PackRevision
  manifestSha256 : Sha256Digest
  measuredEnvelopeSha256 : Sha256Digest
  mode : ResidencyModeV1
  measurement : PlacementMeasurementV1
deriving DecidableEq

structure LoadoutAdmissionV1 where
  snapshotMonotonicMillis : Nat
  deviceFingerprintSha256 : Sha256Digest
  models : List AdmittedModelV1
  vramSoftCeilingBytes : Nat
  protectedDesktopAndGameVramBytes : Nat
  selectedPeakVramBytes : Nat
  vramSafetyBytes : Nat
  projectedTotalVramBytes : Nat
  ramSoftCeilingBytes : Nat
  selectedPeakRamBytes : Nat
  ramSafetyBytes : Nat
deriving DecidableEq

inductive ResourceAdmissionError where
  | unsupportedPolicySchema (schema : Text)
  | invalidPolicy
  | invalidSnapshot
  | snapshotFromFuture
  | staleSnapshot (ageMillis : Nat)
  | emptyLoadout
  | duplicateRole (role : ModelPackKindV1)
  | deviceFingerprintMismatch
  | capabilityMismatch (measured requested : ModelPackKindV1)
  | unknownEnvelope (identity : PackRevision) (mode : ResidencyModeV1)
  | vramSoftCeilingExceeded (projectedBytes ceilingBytes : Nat)
  | ramSoftCeilingExceeded (projectedBytes ceilingBytes : Nat)
  | arithmeticOverflow
  | admissionSerialization
  | invalidResidencyUpdate
  | unknownResidency
  | residencyClockWentBackward
deriving DecidableEq

theorem ModelPackKindV1.ctorIdx_injective : Function.Injective ModelPackKindV1.ctorIdx := by
  intro a b h
  cases a <;> cases b <;> first | rfl | cases h

/-- The derived order, that of the declaration. -/
instance : LinearOrder ModelPackKindV1 :=
  LinearOrder.lift' ModelPackKindV1.ctorIdx ModelPackKindV1.ctorIdx_injective

def basisPointsWhole : Nat := 10000

def ResourceGovernorPolicyV1.validate (policy : ResourceGovernorPolicyV1) :
    Except ResourceAdmissionError Unit := do
  require (policy.schema == resourceGovernorPolicySchemaV1)
    (.unsupportedPolicySchema policy.schema)
  require (policy.vramSoftCeilingBasisPoints != 0 &&
      decide (policy.vramSoftCeilingBasisPoints ≤ basisPointsWhole) &&
      policy.ramSoftCeilingBasisPoints != 0 &&
      decide (policy.ramSoftCeilingBasisPoints ≤ basisPointsWhole) &&
      decide (policy.proportionalVramSafetyBasisPoints ≤ basisPointsWhole) &&
      policy.maximumSnapshotAgeMillis != 0 &&
      decide (policy.keepWarmMillis ≤ policy.unloadTtlMillis)) .invalidPolicy

/-! ## Checked arithmetic -/

/-- A result of `u64` arithmetic that must not overflow. -/
def checked (value : Nat) : Except ResourceAdmissionError Nat :=
  if value ≤ u64Max then .ok value else .error .arithmeticOverflow

@[simp] theorem checked_eq_ok {value result : Nat} :
    checked value = .ok result ↔ value ≤ u64Max ∧ value = result := by
  unfold checked
  split <;> simp_all

def checkedSum (left right : Nat) : Except ResourceAdmissionError Nat := checked (left + right)

def basisPoints (value bps : Nat) : Except ResourceAdmissionError Nat := do
  let scaled ← checked (value * bps)
  return scaled / basisPointsWhole

theorem basisPoints_eq_ok {value bps result : Nat} :
    basisPoints value bps = .ok result ↔
      value * bps ≤ u64Max ∧ value * bps / basisPointsWhole = result := by
  unfold basisPoints
  simp only [bind_eq_ok, checked_eq_ok, pure_eq_ok]
  constructor
  · rintro ⟨_, ⟨hle, rfl⟩, rfl⟩
    exact ⟨hle, rfl⟩
  · rintro ⟨hle, rfl⟩
    exact ⟨_, ⟨hle, rfl⟩, rfl⟩

/-! ## Admission -/

def validateSnapshot (snapshot : LiveResourceSnapshotV1) (now : Nat)
    (policy : ResourceGovernorPolicyV1) : Except ResourceAdmissionError Unit := do
  require (snapshot.capturedMonotonicMillis != 0 && snapshot.physicalVramBytes != 0 &&
      snapshot.osVramBudgetBytes != 0 && snapshot.physicalRamBytes != 0 &&
      snapshot.availableRamBytes != 0 &&
      decide (snapshot.osVramBudgetBytes ≤ snapshot.physicalVramBytes) &&
      decide (snapshot.availableRamBytes ≤ snapshot.physicalRamBytes) &&
      decide (snapshot.desktopResidentVramBytes ≤ snapshot.osVramBudgetBytes) &&
      decide (snapshot.gameResidentVramBytes ≤ snapshot.osVramBudgetBytes)) .invalidSnapshot
  require (decide (snapshot.capturedMonotonicMillis ≤ now)) .snapshotFromFuture
  require (decide (now - snapshot.capturedMonotonicMillis ≤ policy.maximumSnapshotAgeMillis))
    (.staleSnapshot (now - snapshot.capturedMonotonicMillis))

/-- What the loop over the requests has collected. -/
structure Selection where
  roles : Finset ModelPackKindV1
  models : List AdmittedModelV1
  selectedPeakVram : Nat
  selectedPeakRam : Nat

def QualifiedResourceEnvelopeV1.placement (envelope : QualifiedResourceEnvelopeV1)
    (mode : ResidencyModeV1) : Option PlacementMeasurementV1 :=
  envelope.payload.placements.lookup mode

def LoadoutModelRequestV1.admitted (request : LoadoutModelRequestV1)
    (measurement : PlacementMeasurementV1) : AdmittedModelV1 where
  role := request.role
  identity := request.envelope.payload.identity
  manifestSha256 := request.envelope.payload.manifestSha256
  measuredEnvelopeSha256 := request.envelope.payloadSha256
  mode := request.mode
  measurement := measurement

/-- The body of the loop over the requests. -/
def selectModel (snapshot : LiveResourceSnapshotV1) (selection : Selection)
    (request : LoadoutModelRequestV1) : Except ResourceAdmissionError Selection := do
  require (decide (request.role ∉ selection.roles)) (.duplicateRole request.role)
  require (request.envelope.payload.deviceFingerprintSha256 == snapshot.deviceFingerprintSha256)
    .deviceFingerprintMismatch
  require (request.envelope.payload.capability == request.role)
    (.capabilityMismatch request.envelope.payload.capability request.role)
  let measurement ← okOr (request.envelope.placement request.mode)
    (.unknownEnvelope request.envelope.payload.identity request.mode)
  let peakVram ← checkedSum measurement.residentVramBytes measurement.p99WorkspaceVramBytes
  let selectedPeakVram ← checkedSum selection.selectedPeakVram peakVram
  let selectedPeakRam ← checkedSum selection.selectedPeakRam measurement.p99TotalRamBytes
  return {
    roles := insert request.role selection.roles
    models := selection.models ++ [request.admitted measurement]
    selectedPeakVram, selectedPeakRam }

/-- `models.sort_by(role)`, a stable sort. -/
def sortByRole (models : List AdmittedModelV1) : List AdmittedModelV1 :=
  models.insertionSort fun left right => left.role ≤ right.role

def admitRequests (policy : ResourceGovernorPolicyV1) (snapshot : LiveResourceSnapshotV1)
    (now : Nat) (requests : List LoadoutModelRequestV1) :
    Except ResourceAdmissionError LoadoutAdmissionV1 := do
  validateSnapshot snapshot now policy
  require (!requests.isEmpty) .emptyLoadout
  let selection ← requests.foldlM (selectModel snapshot) ⟨∅, [], 0, 0⟩
  let vramHardBudget := min snapshot.physicalVramBytes snapshot.osVramBudgetBytes
  let vramSoftCeiling ← basisPoints vramHardBudget policy.vramSoftCeilingBasisPoints
  let protectedGame := max snapshot.gameResidentVramBytes snapshot.gameReserveVramBytes
  let protectedDesktopAndGame ← checkedSum snapshot.desktopResidentVramBytes protectedGame
  let proportionalSafety ← basisPoints vramHardBudget policy.proportionalVramSafetyBasisPoints
  let vramSafety := max policy.minimumVramSafetyBytes proportionalSafety
  let selectedTotalVram ← checkedSum protectedDesktopAndGame selection.selectedPeakVram
  let projectedTotalVram ← checkedSum selectedTotalVram vramSafety
  require (decide (projectedTotalVram ≤ vramSoftCeiling))
    (.vramSoftCeilingExceeded projectedTotalVram vramSoftCeiling)
  let ramSoftCeiling ← basisPoints snapshot.physicalRamBytes policy.ramSoftCeilingBasisPoints
  let incrementalRamBudget := min snapshot.availableRamBytes ramSoftCeiling
  let selectedTotalRam ← checkedSum selection.selectedPeakRam snapshot.gameAdditionalReserveRamBytes
  let requiredIncrementalRam ← checkedSum selectedTotalRam policy.minimumRamSafetyBytes
  require (decide (requiredIncrementalRam ≤ incrementalRamBudget))
    (.ramSoftCeilingExceeded requiredIncrementalRam incrementalRamBudget)
  return {
    snapshotMonotonicMillis := snapshot.capturedMonotonicMillis
    deviceFingerprintSha256 := snapshot.deviceFingerprintSha256
    models := sortByRole selection.models
    vramSoftCeilingBytes := vramSoftCeiling
    protectedDesktopAndGameVramBytes := protectedDesktopAndGame
    selectedPeakVramBytes := selection.selectedPeakVram
    vramSafetyBytes := vramSafety
    projectedTotalVramBytes := projectedTotalVram
    ramSoftCeilingBytes := incrementalRamBudget
    selectedPeakRamBytes := selection.selectedPeakRam
    ramSafetyBytes := policy.minimumRamSafetyBytes }

/-! ## What is admitted -/

def AdmittedModelV1.peakVram (model : AdmittedModelV1) : Nat :=
  model.measurement.residentVramBytes + model.measurement.p99WorkspaceVramBytes

def AdmittedModelV1.peakRam (model : AdmittedModelV1) : Nat := model.measurement.p99TotalRamBytes

/-- The model of a request, unless its envelope is of another device or role or has no such
placement. -/
def LoadoutModelRequestV1.model (snapshot : LiveResourceSnapshotV1)
    (request : LoadoutModelRequestV1) : Option AdmittedModelV1 :=
  if request.envelope.payload.deviceFingerprintSha256 = snapshot.deviceFingerprintSha256 ∧
      request.envelope.payload.capability = request.role then
    (request.envelope.placement request.mode).map request.admitted
  else none

def requestedModels (snapshot : LiveResourceSnapshotV1) (requests : List LoadoutModelRequestV1) :
    List AdmittedModelV1 :=
  requests.filterMap (LoadoutModelRequestV1.model snapshot)

def totalVram (models : List AdmittedModelV1) : Nat := (models.map AdmittedModelV1.peakVram).sum

def totalRam (models : List AdmittedModelV1) : Nat := (models.map AdmittedModelV1.peakRam).sum

section Exact

variable (policy : ResourceGovernorPolicyV1) (snapshot : LiveResourceSnapshotV1)

def vramHardBudget : Nat := min snapshot.physicalVramBytes snapshot.osVramBudgetBytes

def exactVramSoftCeiling : Nat :=
  vramHardBudget snapshot * policy.vramSoftCeilingBasisPoints / basisPointsWhole

def exactProtected : Nat :=
  snapshot.desktopResidentVramBytes +
    max snapshot.gameResidentVramBytes snapshot.gameReserveVramBytes

def exactVramSafety : Nat :=
  max policy.minimumVramSafetyBytes
    (vramHardBudget snapshot * policy.proportionalVramSafetyBasisPoints / basisPointsWhole)

def exactRamBudget : Nat :=
  min snapshot.availableRamBytes
    (snapshot.physicalRamBytes * policy.ramSoftCeilingBasisPoints / basisPointsWhole)

/-- The receipt in exact arithmetic. -/
def exactAdmission (requests : List LoadoutModelRequestV1) : LoadoutAdmissionV1 where
  snapshotMonotonicMillis := snapshot.capturedMonotonicMillis
  deviceFingerprintSha256 := snapshot.deviceFingerprintSha256
  models := sortByRole (requestedModels snapshot requests)
  vramSoftCeilingBytes := exactVramSoftCeiling policy snapshot
  protectedDesktopAndGameVramBytes := exactProtected snapshot
  selectedPeakVramBytes := totalVram (requestedModels snapshot requests)
  vramSafetyBytes := exactVramSafety policy snapshot
  projectedTotalVramBytes :=
    exactProtected snapshot + totalVram (requestedModels snapshot requests) +
      exactVramSafety policy snapshot
  ramSoftCeilingBytes := exactRamBudget policy snapshot
  selectedPeakRamBytes := totalRam (requestedModels snapshot requests)
  ramSafetyBytes := policy.minimumRamSafetyBytes

/-- The ceilings can be computed, and the totals are within them. -/
structure Fits (vram ram : Nat) : Prop where
  vramCeiling : vramHardBudget snapshot * policy.vramSoftCeilingBasisPoints ≤ u64Max
  protectedVram : exactProtected snapshot ≤ u64Max
  vramSafety : vramHardBudget snapshot * policy.proportionalVramSafetyBasisPoints ≤ u64Max
  vram : exactProtected snapshot + vram + exactVramSafety policy snapshot ≤
    exactVramSoftCeiling policy snapshot
  ramCeiling : snapshot.physicalRamBytes * policy.ramSoftCeilingBasisPoints ≤ u64Max
  ram : ram + snapshot.gameAdditionalReserveRamBytes + policy.minimumRamSafetyBytes ≤
    exactRamBudget policy snapshot

/-- What a loadout must be to be admitted; nothing here depends on the order of the requests. -/
structure LoadoutAdmissible (now : Nat) (requests : List LoadoutModelRequestV1) : Prop where
  valid : validateSnapshot snapshot now policy = .ok ()
  nonempty : requests ≠ []
  roles : (requests.map (·.role)).Nodup
  measured : ∀ request ∈ requests, (request.model snapshot).isSome
  fits : Fits policy snapshot (totalVram (requestedModels snapshot requests))
    (totalRam (requestedModels snapshot requests))

end Exact

section Admit

variable {policy : ResourceGovernorPolicyV1} {snapshot : LiveResourceSnapshotV1} {now : Nat}

variable {vram ram : Nat}

section

variable (h : Fits policy snapshot vram ram)

include h

theorem Fits.vram_le : exactProtected snapshot + vram + exactVramSafety policy snapshot ≤ u64Max :=
  h.vram.trans ((Nat.div_le_self _ _).trans h.vramCeiling)

theorem Fits.ram_le :
    ram + snapshot.gameAdditionalReserveRamBytes + policy.minimumRamSafetyBytes ≤ u64Max :=
  h.ram.trans ((min_le_right _ _).trans ((Nat.div_le_self _ _).trans h.ramCeiling))

/-- Less fits as well. -/
theorem Fits.mono {vram' ram' : Nat} (hvram : vram' ≤ vram) (hram : ram' ≤ ram) :
    Fits policy snapshot vram' ram' where
  vramCeiling := h.vramCeiling
  protectedVram := h.protectedVram
  vramSafety := h.vramSafety
  vram := by
    have := h.vram
    omega
  ramCeiling := h.ramCeiling
  ram := by
    have := h.ram
    omega

end

variable {selection : Selection}

/-- One request, with the sums that it leaves. -/
theorem selectModel_eq_ok {selected : Selection} {request : LoadoutModelRequestV1} :
    selectModel snapshot selection request = .ok selected ↔
      request.role ∉ selection.roles ∧ ∃ model, request.model snapshot = some model ∧
        selection.selectedPeakVram + model.peakVram ≤ u64Max ∧
        selection.selectedPeakRam + model.peakRam ≤ u64Max ∧
        selected = ⟨insert request.role selection.roles, selection.models ++ [model],
          selection.selectedPeakVram + model.peakVram,
          selection.selectedPeakRam + model.peakRam⟩ := by
  unfold selectModel LoadoutModelRequestV1.model checkedSum
  simp only [bind_eq_ok, require_eq_ok, decide_eq_true_eq, beq_iff_eq, okOr_eq_ok,
    checked_eq_ok, pure_eq_ok]
  constructor
  · rintro ⟨_, hrole, _, hdevice, _, hcapability, measurement, hplacement, _, ⟨-, rfl⟩, _, ⟨hvram, rfl⟩,
      _, ⟨hram, rfl⟩, rfl⟩
    refine ⟨hrole, request.admitted measurement, ?_, hvram, hram, rfl⟩
    rw [if_pos ⟨hdevice, hcapability⟩, hplacement]
    rfl
  · rintro ⟨hrole, model, hmodel, hvram, hram, rfl⟩
    split at hmodel
    next hsame =>
      obtain ⟨measurement, hplacement, rfl⟩ := Option.map_eq_some_iff.1 hmodel
      exact ⟨⟨⟩, hrole, ⟨⟩, hsame.1, ⟨⟩, hsame.2, measurement, hplacement, _,
        ⟨(Nat.le_add_left _ _).trans hvram, rfl⟩, _, ⟨hvram, rfl⟩, _, ⟨hram, rfl⟩, rfl⟩
    next => cases hmodel

/-- What the loop over the requests can select after a selection. -/
structure Selectable (snapshot : LiveResourceSnapshotV1) (selection : Selection)
    (requests : List LoadoutModelRequestV1) : Prop where
  roles : (requests.map (·.role)).Nodup
  fresh : ∀ request ∈ requests, request.role ∉ selection.roles
  measured : ∀ request ∈ requests, (request.model snapshot).isSome
  vram : selection.selectedPeakVram + totalVram (requestedModels snapshot requests) ≤ u64Max
  ram : selection.selectedPeakRam + totalRam (requestedModels snapshot requests) ≤ u64Max

/-- What it has selected then. -/
structure Selected (snapshot : LiveResourceSnapshotV1) (selection : Selection)
    (requests : List LoadoutModelRequestV1) (selected : Selection) : Prop where
  models : selected.models = selection.models ++ requestedModels snapshot requests
  vram : selected.selectedPeakVram =
    selection.selectedPeakVram + totalVram (requestedModels snapshot requests)
  ram : selected.selectedPeakRam =
    selection.selectedPeakRam + totalRam (requestedModels snapshot requests)

theorem requestedModels_cons {request : LoadoutModelRequestV1} {model : AdmittedModelV1}
    (h : request.model snapshot = some model) (requests : List LoadoutModelRequestV1) :
    requestedModels snapshot (request :: requests) =
      model :: requestedModels snapshot requests :=
  List.filterMap_cons_some h

theorem totalVram_cons (model : AdmittedModelV1) (models : List AdmittedModelV1) :
    totalVram (model :: models) = model.peakVram + totalVram models := by
  simp [totalVram]

theorem totalRam_cons (model : AdmittedModelV1) (models : List AdmittedModelV1) :
    totalRam (model :: models) = model.peakRam + totalRam models := by
  simp [totalRam]

variable {requests : List LoadoutModelRequestV1}

/-- **The loop over the requests** sums exactly. -/
theorem foldlM_selectModel_ok {selected : Selection} (hvram : selection.selectedPeakVram ≤ u64Max)
    (hram : selection.selectedPeakRam ≤ u64Max)
    (h : requests.foldlM (selectModel snapshot) selection = .ok selected) :
    Selectable snapshot selection requests ∧ Selected snapshot selection requests selected := by
  induction requests generalizing selection with
  | nil =>
    cases h
    exact ⟨⟨List.nodup_nil, by simp, by simp, hvram, hram⟩, ⟨(List.append_nil _).symm, rfl, rfl⟩⟩
  | cons request requests ih =>
    rw [List.foldlM_cons, bind_eq_ok] at h
    obtain ⟨next, hnext, hrest⟩ := h
    obtain ⟨hrole, model, hmodel, hvram, hram, rfl⟩ := selectModel_eq_ok.1 hnext
    obtain ⟨hselectable, hselected⟩ := ih hvram hram hrest
    have hfresh : ∀ other ∈ requests, other.role ≠ request.role ∧ other.role ∉ selection.roles :=
      fun other hother => by simpa [Finset.mem_insert] using hselectable.fresh other hother
    refine ⟨⟨?_, ?_, ?_, ?_, ?_⟩, ⟨?_, ?_, ?_⟩⟩
    · rw [List.map_cons, List.nodup_cons]
      refine ⟨fun hmem => ?_, hselectable.roles⟩
      obtain ⟨other, hother, hsame⟩ := List.mem_map.1 hmem
      exact (hfresh other hother).1 hsame
    · exact List.forall_mem_cons.2 ⟨hrole, fun other hother => (hfresh other hother).2⟩
    · exact List.forall_mem_cons.2 ⟨by rw [hmodel]; rfl, hselectable.measured⟩
    · rw [requestedModels_cons hmodel, totalVram_cons, ← Nat.add_assoc]
      exact hselectable.vram
    · rw [requestedModels_cons hmodel, totalRam_cons, ← Nat.add_assoc]
      exact hselectable.ram
    · rw [requestedModels_cons hmodel, hselected.models, List.append_assoc, List.singleton_append]
    · rw [requestedModels_cons hmodel, totalVram_cons, ← Nat.add_assoc]
      exact hselected.vram
    · rw [requestedModels_cons hmodel, totalRam_cons, ← Nat.add_assoc]
      exact hselected.ram

theorem exists_foldlM_selectModel (h : Selectable snapshot selection requests) :
    ∃ selected, requests.foldlM (selectModel snapshot) selection = .ok selected := by
  induction requests generalizing selection with
  | nil => exact ⟨selection, rfl⟩
  | cons request requests ih =>
    obtain ⟨model, hmodel⟩ := Option.isSome_iff_exists.1 (h.measured request List.mem_cons_self)
    have hnodup := List.nodup_cons.1 h.roles
    have hvram := h.vram
    have hram := h.ram
    rw [requestedModels_cons hmodel, totalVram_cons, ← Nat.add_assoc] at hvram
    rw [requestedModels_cons hmodel, totalRam_cons, ← Nat.add_assoc] at hram
    have hnext := selectModel_eq_ok.2 ⟨h.fresh request List.mem_cons_self, model, hmodel,
      (Nat.le_add_right _ _).trans hvram, (Nat.le_add_right _ _).trans hram, rfl⟩
    have hselectable : Selectable snapshot ⟨insert request.role selection.roles,
        selection.models ++ [model], selection.selectedPeakVram + model.peakVram,
        selection.selectedPeakRam + model.peakRam⟩ requests := by
      refine ⟨hnodup.2, ?_, fun other hother =>
        h.measured other (List.mem_cons_of_mem request hother), hvram, hram⟩
      intro other hother
      rw [Finset.mem_insert, not_or]
      refine ⟨fun hsame => hnodup.1 ?_, h.fresh other (List.mem_cons_of_mem request hother)⟩
      exact List.mem_map.2 ⟨other, hother, hsame⟩
    obtain ⟨selected, hrest⟩ := ih hselectable
    exact ⟨selected, bind_eq_ok.2 ⟨_, hnext, hrest⟩⟩

/-- **Admission** in exact arithmetic. -/
theorem admit_eq_ok {admission : LoadoutAdmissionV1} :
    admitRequests policy snapshot now requests = .ok admission ↔
      LoadoutAdmissible policy snapshot now requests ∧
        admission = exactAdmission policy snapshot requests := by
  unfold admitRequests checkedSum
  simp only [bind_eq_ok, require_eq_ok, decide_eq_true_eq, checked_eq_ok, basisPoints_eq_ok,
    pure_eq_ok]
  constructor
  · rintro ⟨_, hvalid, _, hnonempty, selected, hselected, _, ⟨hceiling, rfl⟩, _, ⟨hprotected, rfl⟩,
      _, ⟨hsafety, rfl⟩, _, ⟨-, rfl⟩, _, ⟨-, rfl⟩, _, hvram, _, ⟨hramCeiling, rfl⟩, _, ⟨-, rfl⟩, _,
      ⟨-, rfl⟩, _, hram, rfl⟩
    obtain ⟨hselectable, hmodels, hpeakVram, hpeakRam⟩ :=
      foldlM_selectModel_ok (Nat.zero_le _) (Nat.zero_le _) hselected
    rw [Nat.zero_add] at hpeakVram hpeakRam
    rw [List.nil_append] at hmodels
    rw [hpeakVram] at hvram
    rw [hpeakRam] at hram
    refine ⟨⟨hvalid, ?_, hselectable.roles, hselectable.measured, hceiling, hprotected, hsafety,
      hvram, hramCeiling, hram⟩, ?_⟩
    · simpa using hnonempty
    · rw [hpeakVram, hpeakRam, hmodels]
      rfl
  · rintro ⟨h, rfl⟩
    have hvram := h.fits.vram_le
    have hram := h.fits.ram_le
    have hselectable : Selectable snapshot ⟨∅, [], 0, 0⟩ requests := by
      refine ⟨h.roles, fun request _ => Finset.notMem_empty _, h.measured, ?_, ?_⟩
      · show 0 + totalVram (requestedModels snapshot requests) ≤ u64Max
        omega
      · show 0 + totalRam (requestedModels snapshot requests) ≤ u64Max
        omega
    obtain ⟨selected, hselected⟩ := exists_foldlM_selectModel hselectable
    obtain ⟨-, hmodels, hpeakVram, hpeakRam⟩ :=
      foldlM_selectModel_ok (Nat.zero_le _) (Nat.zero_le _) hselected
    rw [Nat.zero_add] at hpeakVram hpeakRam
    rw [List.nil_append] at hmodels
    refine ⟨⟨⟩, h.valid, ⟨⟩, by simpa using h.nonempty, selected, hselected, _,
      ⟨h.fits.vramCeiling, rfl⟩, _, ⟨h.fits.protectedVram, rfl⟩, _, ⟨h.fits.vramSafety, rfl⟩, _,
      ⟨?_, rfl⟩, _, ⟨?_, rfl⟩, ⟨⟩, ?_, _, ⟨h.fits.ramCeiling, rfl⟩, _, ⟨?_, rfl⟩, _, ⟨?_, rfl⟩, ⟨⟩,
      ?_, ?_⟩
    · rw [hpeakVram]
      exact (Nat.le_add_right _ _).trans hvram
    · rw [hpeakVram]
      exact hvram
    · rw [hpeakVram]
      exact h.fits.vram
    · rw [hpeakRam]
      exact (Nat.le_add_right _ _).trans hram
    · rw [hpeakRam]
      exact hram
    · rw [hpeakRam]
      exact h.fits.ram
    · rw [hpeakVram, hpeakRam, hmodels]
      rfl

/-! ## Order and size of the loadout -/

theorem requestedModels_roles (h : ∀ request ∈ requests, (request.model snapshot).isSome) :
    (requestedModels snapshot requests).map (·.role) = requests.map (·.role) := by
  induction requests with
  | nil => rfl
  | cons request requests ih =>
    obtain ⟨model, hmodel⟩ := Option.isSome_iff_exists.1 (h request List.mem_cons_self)
    have hrole : model.role = request.role := by
      unfold LoadoutModelRequestV1.model at hmodel
      split at hmodel
      · obtain ⟨measurement, -, rfl⟩ := Option.map_eq_some_iff.1 hmodel
        rfl
      · cases hmodel
    rw [requestedModels_cons hmodel, List.map_cons, List.map_cons, hrole,
      ih fun other hother => h other (List.mem_cons_of_mem request hother)]

/-- Models of different roles are sorted in one way only. -/
theorem sortByRole_perm {models models' : List AdmittedModelV1} (hperm : models'.Perm models)
    (hroles : (models.map (·.role)).Nodup) : sortByRole models' = sortByRole models := by
  have hsorted : ∀ models, (sortByRole models).Pairwise fun left right => left.role ≤ right.role :=
    fun models => List.pairwise_insertionSort _ models
  have hsame : (sortByRole models').Perm (sortByRole models) :=
    (List.perm_insertionSort _ _).trans (hperm.trans (List.perm_insertionSort _ _).symm)
  refine hsame.eq_of_pairwise ?_ (hsorted models') (hsorted models)
  intro left right hleft hright hle hge
  have hleft := hperm.subset ((List.perm_insertionSort _ _).subset hleft)
  have hright := (List.perm_insertionSort _ _).subset hright
  exact List.inj_on_of_nodup_map hroles hleft hright (le_antisymm hle hge)

/-- **A permutation** of an admissible loadout gets the same receipt. -/
theorem LoadoutAdmissible.perm {requests' : List LoadoutModelRequestV1}
    (h : LoadoutAdmissible policy snapshot now requests) (hperm : requests'.Perm requests) :
    LoadoutAdmissible policy snapshot now requests' ∧
      exactAdmission policy snapshot requests' = exactAdmission policy snapshot requests := by
  have hmodels : (requestedModels snapshot requests').Perm (requestedModels snapshot requests) :=
    hperm.filterMap _
  have hvram : totalVram (requestedModels snapshot requests') =
      totalVram (requestedModels snapshot requests) := (hmodels.map _).sum_eq
  have hram : totalRam (requestedModels snapshot requests') =
      totalRam (requestedModels snapshot requests) := (hmodels.map _).sum_eq
  have hsorted := sortByRole_perm hmodels (by
    rw [requestedModels_roles h.measured]
    exact h.roles)
  refine ⟨⟨h.valid, ?_, ?_, ?_, ?_⟩, ?_⟩
  · rintro rfl
    exact h.nonempty hperm.symm.eq_nil
  · exact ((hperm.map _).nodup_iff).2 h.roles
  · exact fun request hrequest => h.measured request (hperm.subset hrequest)
  · rw [hvram, hram]
    exact h.fits
  · rw [exactAdmission, hvram, hram, hsorted]
    rfl

/-- **A part** of an admissible loadout is admissible. -/
theorem LoadoutAdmissible.sublist {part : List LoadoutModelRequestV1}
    (h : LoadoutAdmissible policy snapshot now requests) (hpart : part.Sublist requests)
    (hnonempty : part ≠ []) : LoadoutAdmissible policy snapshot now part := by
  have hmodels : (requestedModels snapshot part).Sublist (requestedModels snapshot requests) :=
    hpart.filterMap _
  refine ⟨h.valid, hnonempty, (hpart.map _).nodup h.roles, ?_, h.fits.mono ?_ ?_⟩
  · exact fun request hrequest => h.measured request (hpart.subset hrequest)
  · exact (hmodels.map _).sum_le_sum fun _ _ => Nat.zero_le _
  · exact (hmodels.map _).sum_le_sum fun _ _ => Nat.zero_le _

/-- What an admitted loadout is. -/
structure AdmissionLaw (policy : ResourceGovernorPolicyV1) (snapshot : LiveResourceSnapshotV1)
    (now : Nat) (requests : List LoadoutModelRequestV1) (admission : LoadoutAdmissionV1) :
    Prop where
  perm : ∀ requests', requests'.Perm requests →
    admitRequests policy snapshot now requests' = .ok admission
  sublist : ∀ part, part.Sublist requests → part ≠ [] →
    ∃ smaller, admitRequests policy snapshot now part = .ok smaller
  peakVram : admission.selectedPeakVramBytes = (admission.models.map AdmittedModelV1.peakVram).sum
  peakRam : admission.selectedPeakRamBytes = (admission.models.map AdmittedModelV1.peakRam).sum
  ceiling : admission.projectedTotalVramBytes ≤ admission.vramSoftCeilingBytes
  exact : admission = exactAdmission policy snapshot requests

/-- **Admission** does not depend on the order of the requests, is closed under parts, and computes
exactly. -/
theorem admission_order_independent (policy : ResourceGovernorPolicyV1)
    (snapshot : LiveResourceSnapshotV1) (now : Nat) (requests : List LoadoutModelRequestV1)
    (admission : LoadoutAdmissionV1) (h : admitRequests policy snapshot now requests = .ok admission) :
    AdmissionLaw policy snapshot now requests admission := by
  obtain ⟨hadmissible, rfl⟩ := admit_eq_ok.1 h
  have hsorted := List.perm_insertionSort (fun left right : AdmittedModelV1 =>
    left.role ≤ right.role) (requestedModels snapshot requests)
  refine ⟨?_, ?_, ?_, ?_, hadmissible.fits.vram, rfl⟩
  · intro requests' hperm
    obtain ⟨hadmissible', hsame⟩ := hadmissible.perm hperm
    exact admit_eq_ok.2 ⟨hadmissible', hsame.symm⟩
  · intro part hpart hnonempty
    exact ⟨_, admit_eq_ok.2 ⟨hadmissible.sublist hpart hnonempty, rfl⟩⟩
  · exact (hsorted.map _).sum_eq.symm
  · exact (hsorted.map _).sum_eq.symm

end Admit

/-! ## Inputs of concrete runs -/

namespace Sample

def placement (vramMb : Nat) : PlacementMeasurementV1 where
  residentRamBytes := 100000000
  p99TotalRamBytes := 200000000
  residentVramBytes := vramMb * 1000000
  p99WorkspaceVramBytes := 50000000
  p99LoadMillis := 10
  p99ReloadMillis := 10
  p99OperationMillis := 10

def measuredEnvelope (pack : String) (capability : ModelPackKindV1) (vramMb : Nat) :
    QualifiedResourceEnvelopeV1 where
  payload := {
    schema := measuredResourceEnvelopeSchemaV1
    reportId := []
    sequence := 1
    measuredUnixSeconds := 1
    expiresUnixSeconds := 100
    deviceFingerprintSha256 := ⟨['d']⟩
    identity := ⟨⟨pack.toList⟩, ⟨['r']⟩⟩
    manifestSha256 := ⟨['m']⟩
    capability := capability
    benchmarkSuiteRevision := []
    runtime := []
    runtimeRevision := []
    backend := []
    sampleCount := 20
    placements := [(.gpuResident, placement vramMb)] }
  payloadSha256 := ⟨['e']⟩

def loadoutRequest (pack : String) (role : ModelPackKindV1) (vramMb : Nat) :
    LoadoutModelRequestV1 :=
  ⟨role, .gpuResident, measuredEnvelope pack role vramMb⟩

def resourceSnapshot (now : Nat) : LiveResourceSnapshotV1 where
  capturedMonotonicMillis := now
  deviceFingerprintSha256 := ⟨['d']⟩
  physicalVramBytes := 12000000000
  osVramBudgetBytes := 11000000000
  desktopResidentVramBytes := 500000000
  gameResidentVramBytes := 3000000000
  gameReserveVramBytes := 4000000000
  physicalRamBytes := 32000000000
  availableRamBytes := 16000000000
  gameAdditionalReserveRamBytes := 1000000000

end Sample

theorem admission_order_independent_twoModels :
    let requests := [Sample.loadoutRequest "voice" .speechSynthesis 600,
      Sample.loadoutRequest "chat" .languageModel 2000]
    AdmissionLaw {} (Sample.resourceSnapshot 7) 8 requests
      (exactAdmission {} (Sample.resourceSnapshot 7) requests) :=
  admission_order_independent {} (Sample.resourceSnapshot 7) 8
    [Sample.loadoutRequest "voice" .speechSynthesis 600,
      Sample.loadoutRequest "chat" .languageModel 2000] _ (by decide +kernel)

end NpcRuntime.Packs
