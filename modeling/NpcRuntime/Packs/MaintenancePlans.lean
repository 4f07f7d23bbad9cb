import NpcRuntime.Lib.Machine
import NpcRuntime.Packs.MemoryStorage
import NpcRuntime.Packs.SelectedLoadout

/-!
# Receipts and later evidence

Maintenance is planned from a receipt and from the evidence that is active by then. Every admission
for a game replaces that evidence, and a newer envelope of a pack need not measure the placement an
older receipt was minted for. The plan for such a receipt panics.

No plan for a receipt ever minted panics exactly if every admission keeps to the receipts before it
(`maintenance_never_panics_iff`).
-/

namespace NpcRuntime.Packs

/-- A manager, and the receipts it has minted. -/
structure LoadoutRun where
  manager : SelectedLoadoutManagerV1
  receipts : List LoadoutAdmissionV1 := []

/-- A call of the manager, with what the source of envelopes answers during it. -/
inductive LoadoutCall where
  | admitSelection (source : SignedResourceEnvelopeSourceV1) (selection : SelectedLoadoutSelectionV1)
      (context : NativeAdmissionContextV1) (requireTargetPid : Bool)
  | refreshTrustedPackMeasurement (source : SignedResourceEnvelopeSourceV1)
      (identity : PackRevision) (allowedResidencies : List ResidencyModeV1)
      (device : Sha256Digest) (nowUnixSeconds : Nat)
  | work (call : WorkCall)

def loadoutStep (authority : LoadoutAuthority) (call : LoadoutCall) (run : LoadoutRun) :
    LoadoutRun :=
  match call with
  | .admitSelection source selection context requireTargetPid =>
    match run.manager.admitWithTargetPolicy authority source selection context
      requireTargetPid with
    | some (decision, manager) =>
      { manager
        receipts := run.receipts ++ match decision.outcome with
          | .ok (receipt, _) => [receipt]
          | .error _ => [] }
    | none => run
  | .refreshTrustedPackMeasurement source identity allowedResidencies device nowUnixSeconds =>
    { run with
      manager := (run.manager.refreshTrustedPackMeasurement authority source identity
        allowedResidencies device nowUnixSeconds).2 }
  | .work call =>
    { run with manager.scheduler := workStep call run.manager.scheduler }

/-! ## Plans -/

/-- The evidence that is active for a model measures its placement. -/
def Covered (evidence : Table PackRevision QualifiedResourceEnvelopeV1)
    (identity : PackRevision) (mode : ResidencyModeV1) : Prop :=
  ∀ active, evidence.lookup identity = some active → (active.placement mode).isSome

theorem isSome_mapM {α β : Type*} {f : α → Option β} {l : List α} :
    (l.mapM f).isSome ↔ ∀ a ∈ l, (f a).isSome := by
  induction l with
  | nil => simp
  | cons a l ih =>
    rw [List.mapM_cons, List.forall_mem_cons, ← ih]
    cases f a with
    | none => simp
    | some b => cases l.mapM f <;> simp

variable {receipt : LoadoutAdmissionV1}

/-- A plan panics exactly where a model is not covered. -/
theorem planMaintenance_isSome {m : SelectedLoadoutManagerV1} {idle : Nat} :
    (m.planMaintenance receipt idle).isSome ↔
      ∀ model ∈ receipt.models, Covered m.activeEvidence model.identity model.mode := by
  rw [SelectedLoadoutManagerV1.planMaintenance, isSome_mapM]
  constructor
  · intro h model hmodel active hactive
    have hmem : (model, active) ∈ receipt.models.filterMap fun model =>
        (m.activeEvidence.lookup model.identity).map fun evidence => (model, evidence) :=
      List.mem_filterMap.2 ⟨model, hmodel, by rw [hactive, Option.map_some]⟩
    exact planOneResidency_isSome.1 (h _ hmem)
  · rintro h ⟨model, active⟩ hmem
    obtain ⟨model', hmodel, heq⟩ := List.mem_filterMap.1 hmem
    obtain ⟨active', hactive, heq⟩ := Option.map_eq_some_iff.1 heq
    obtain ⟨rfl, rfl⟩ := Prod.mk.inj heq
    exact planOneResidency_isSome.2 (h model' hmodel active' hactive)

/-- No plan for a minted receipt panics. -/
def Plannable (run : LoadoutRun) : Prop :=
  ∀ receipt ∈ run.receipts, ∀ idle, (run.manager.planMaintenance receipt idle).isSome

theorem plannable_iff {run : LoadoutRun} : Plannable run ↔ ∀ receipt ∈ run.receipts,
    ∀ model ∈ receipt.models, Covered run.manager.activeEvidence model.identity model.mode := by
  refine forall₂_congr fun receipt _ => ?_
  constructor
  · exact fun h => planMaintenance_isSome.1 (h 0)
  · exact fun h idle => planMaintenance_isSome.2 h

/-! ## Admissions -/

/-- An admission for a game brings evidence that covers the receipts before it, and one for setup
mints a receipt that the active evidence covers. -/
def KeepsPlacements (authority : LoadoutAuthority) (run : LoadoutRun) : LoadoutCall → Prop
  | .admitSelection source selection context requireTargetPid => ∀ receipt qualified,
    checkAdmission authority run.manager source selection context requireTargetPid =
      .ok (receipt, qualified) →
    if requireTargetPid then
      ∀ earlier ∈ run.receipts, ∀ model ∈ earlier.models, ∀ evidence ∈ qualified.evidence,
        evidence.payload.identity = model.identity → (evidence.placement model.mode).isSome
    else
      ∀ selected ∈ selection.roles,
        Covered run.manager.activeEvidence selected.identity selected.preferredResidency
  | _ => True

section Steps

variable {authority : LoadoutAuthority} {run : LoadoutRun} {source : SignedResourceEnvelopeSourceV1}

/-- Admissions plan from evidence they have just checked. -/
theorem planResidencyFromEvidence_isSome {live : LiveResourceSnapshotV1} {idle : Nat}
    {roles : List SelectedPackV1} {evidence : List QualifiedResourceEnvelopeV1}
    (h : List.Forall₂ (Qualifies source live) roles evidence) :
    (planResidencyFromEvidence idle roles evidence).isSome := by
  rw [planResidencyFromEvidence, isSome_mapM]
  rintro ⟨selected, found⟩ hmem
  exact planOneResidency_isSome.2 (List.forall₂_iff_zip.1 h |>.2 hmem).placement

variable {live : LiveResourceSnapshotV1} {evidence : List QualifiedResourceEnvelopeV1}

theorem qualified_identities {roles : List SelectedPackV1}
    (h : List.Forall₂ (Qualifies source live) roles evidence) :
    evidence.map (fun found => found.payload.identity) = roles.map SelectedPackV1.identity := by
  induction h with
  | nil => rfl
  | cons hfirst _ ih => rw [List.map_cons, List.map_cons, hfirst.identity, ih]

theorem exists_qualifies {roles : List SelectedPackV1}
    (h : List.Forall₂ (Qualifies source live) roles evidence) {found : QualifiedResourceEnvelopeV1}
    (hfound : found ∈ evidence) : ∃ selected ∈ roles, Qualifies source live selected found := by
  induction h with
  | nil => cases hfound
  | @cons selected first roles evidence hfirst _ ih =>
    rcases List.mem_cons.1 hfound with rfl | hfound
    · exact ⟨selected, List.mem_cons_self, hfirst⟩
    · obtain ⟨other, hother, hqualifies⟩ := ih hfound
      exact ⟨other, List.mem_cons_of_mem _ hother, hqualifies⟩

variable {selection : SelectedLoadoutSelectionV1}

/-- Evidence that has just been collected covers what each piece of it measures. -/
theorem covered_collect_iff (h : AdmissionLedger selection source live receipt evidence)
    {identity : PackRevision} {mode : ResidencyModeV1} :
    Covered (Table.collect (fun evidence => evidence.payload.identity) id evidence) identity
        mode ↔
      ∀ found ∈ evidence, found.payload.identity = identity → (found.placement mode).isSome := by
  have hidentities := qualified_identities h.qualified
  constructor
  · rintro hcovered found hmem rfl
    exact hcovered found (Table.lookup_collect_of_mem (hidentities ▸ h.identities) hmem)
  · intro hall active hactive
    obtain ⟨found, hmem, hidentity, rfl⟩ := Table.exists_of_lookup_collect hactive
    exact hall found hmem hidentity

/-- The receipt of an admission is covered by the evidence of the admission. -/
theorem covered_receipt (h : AdmissionLedger selection source live receipt evidence) :
    ∀ model ∈ receipt.models,
      Covered (Table.collect (fun evidence => evidence.payload.identity) id evidence)
        model.identity model.mode := by
  intro model hmodel
  obtain ⟨selected, hselected, hidentity, hmode⟩ :=
    (h.models model.identity model.mode).1 ⟨model, hmodel, rfl, rfl⟩
  rw [covered_collect_iff h, ← hidentity, ← hmode]
  intro found hfound hsame
  obtain ⟨selected', hselected', hqualifies⟩ := exists_qualifies h.qualified hfound
  have hpartner : selected' = selected :=
    List.inj_on_of_nodup_map h.identities hselected' hselected
      (hqualifies.identity.symm.trans hsame)
  exact hpartner ▸ hqualifies.placement

theorem refresh_activeEvidence (m : SelectedLoadoutManagerV1)
    (source : SignedResourceEnvelopeSourceV1) (identity : PackRevision)
    (allowedResidencies : List ResidencyModeV1) (device : Sha256Digest) (nowUnixSeconds : Nat) :
    (m.refreshTrustedPackMeasurement authority source identity allowedResidencies device
      nowUnixSeconds).2.activeEvidence = m.activeEvidence := by
  unfold SelectedLoadoutManagerV1.refreshTrustedPackMeasurement
  dsimp only
  split <;> rfl

section Admit

variable {source : SignedResourceEnvelopeSourceV1} {selection : SelectedLoadoutSelectionV1}
  {context : NativeAdmissionContextV1} {requireTargetPid : Bool}

/-- A refused admission leaves the evidence. -/
theorem loadoutStep_refused {code : SelectedLoadoutBlockCodeV1}
    (h : checkAdmission authority run.manager source selection context requireTargetPid =
      .error code) :
    (loadoutStep authority (.admitSelection source selection context requireTargetPid)
        run).receipts = run.receipts ∧
      (loadoutStep authority (.admitSelection source selection context requireTargetPid)
        run).manager.activeEvidence = run.manager.activeEvidence := by
  have hscheduled : ∀ scheduler, checkAdmission authority { run.manager with scheduler } source
      selection context requireTargetPid = .error code := fun _ => h
  simp only [loadoutStep, SelectedLoadoutManagerV1.admitWithTargetPolicy, hscheduled,
    List.append_nil, and_self]

/-- An admission that goes through mints its receipt; one for a game puts its evidence in place. -/
theorem loadoutStep_admitted {qualified : Qualification} (h : checkAdmission authority
      run.manager source selection context requireTargetPid = .ok (receipt, qualified)) :
    (loadoutStep authority (.admitSelection source selection context requireTargetPid)
        run).receipts = run.receipts ++ [receipt] ∧
      (loadoutStep authority (.admitSelection source selection context requireTargetPid)
        run).manager.activeEvidence =
          if requireTargetPid then
            Table.collect (fun evidence => evidence.payload.identity) id qualified.evidence
          else run.manager.activeEvidence := by
  obtain ⟨live, hledger⟩ := checkAdmission_ok h
  obtain ⟨residency, hresidency⟩ := Option.isSome_iff_exists.1
    (@planResidencyFromEvidence_isSome _ _ selection.expectedIdleMillis _ _ hledger.qualified)
  have hscheduled : ∀ scheduler, checkAdmission authority { run.manager with scheduler } source
      selection context requireTargetPid = .ok (receipt, qualified) := fun _ => h
  simp only [loadoutStep, SelectedLoadoutManagerV1.admitWithTargetPolicy, hscheduled, hresidency,
    Option.bind_eq_bind, Option.bind_some, Option.pure_def]
  refine ⟨trivial, ?_⟩
  split_ifs <;> rfl

end Admit

/-- **One step.** An admission keeps the plans of all receipts exactly if it keeps the
placements. -/
theorem plannable_step (h : Plannable run) (call : LoadoutCall) :
    Plannable (loadoutStep authority call run) ↔ KeepsPlacements authority run call := by
  rw [plannable_iff] at h
  cases call with
  | work call => exact iff_of_true (plannable_iff.2 h) trivial
  | refreshTrustedPackMeasurement source identity allowedResidencies device now =>
    refine iff_of_true (plannable_iff.2 ?_) trivial
    simp only [loadoutStep, refresh_activeEvidence]
    exact h
  | admitSelection source selection context requireTargetPid =>
    rw [plannable_iff]
    cases hcheck : checkAdmission authority run.manager source selection context
        requireTargetPid with
    | error code =>
      obtain ⟨hreceipts, hactive⟩ := loadoutStep_refused hcheck
      rw [hreceipts, hactive, KeepsPlacements]
      refine iff_of_true h fun receipt qualified hok => ?_
      cases hcheck.symm.trans hok
    | ok admitted =>
      obtain ⟨receipt, qualified⟩ := admitted
      obtain ⟨live, hledger⟩ := checkAdmission_ok hcheck
      obtain ⟨hreceipts, hactive⟩ := loadoutStep_admitted hcheck
      have hkeeps : KeepsPlacements authority run
          (.admitSelection source selection context requireTargetPid) ↔
            if requireTargetPid then
              ∀ earlier ∈ run.receipts, ∀ model ∈ earlier.models, ∀ evidence ∈ qualified.evidence,
                evidence.payload.identity = model.identity →
                  (evidence.placement model.mode).isSome
            else
              ∀ selected ∈ selection.roles,
                Covered run.manager.activeEvidence selected.identity
                  selected.preferredResidency := by
        constructor
        · exact fun h => h receipt qualified hcheck
        · intro h receipt' qualified' hok
          cases hcheck.symm.trans hok
          exact h
      rw [hreceipts, hactive, hkeeps, forall_mem_concat]
      cases requireTargetPid with
      | true =>
        simp only [if_pos]
        rw [and_iff_left (covered_receipt hledger)]
        exact forall₂_congr fun earlier _ => forall₂_congr fun model _ =>
          covered_collect_iff hledger
      | false =>
        simp only [Bool.false_eq_true, if_false]
        rw [and_iff_right h]
        constructor
        · intro hcovered selected hselected
          obtain ⟨model, hmodel, hidentity, hmode⟩ :=
            (hledger.models selected.identity selected.preferredResidency).2
              ⟨selected, hselected, rfl, rfl⟩
          exact hidentity ▸ hmode ▸ hcovered model hmodel
        · intro hcovered model hmodel
          obtain ⟨selected, hselected, hidentity, hmode⟩ :=
            (hledger.models model.identity model.mode).1 ⟨model, hmodel, rfl, rfl⟩
          exact hidentity ▸ hmode ▸ hcovered selected hselected

end Steps

/-- A manager that has admitted nothing yet. -/
def LoadoutRun.fresh (catalog : TrustedCatalog) (measurementPolicy : MeasurementTrustPolicyV1)
    (governorPolicy : ResourceGovernorPolicyV1) (scheduler : WorkSchedulerV1) : LoadoutRun :=
  { manager := { catalog, measurementPolicy, governorPolicy, scheduler } }

/-- **Maintenance planning.** No plan for any receipt panics in any state of a run exactly if every
admission of the run keeps the placements. -/
theorem maintenance_never_panics_iff (authority : LoadoutAuthority) (catalog : TrustedCatalog)
    (measurementPolicy : MeasurementTrustPolicyV1) (governorPolicy : ResourceGovernorPolicyV1)
    (scheduler : WorkSchedulerV1) (calls : List LoadoutCall) :
    (∀ pre, pre <+: calls → Plannable (runFrom (loadoutStep authority) pre
        (.fresh catalog measurementPolicy governorPolicy scheduler))) ↔
      Along (loadoutStep authority) (KeepsPlacements authority) calls
        (.fresh catalog measurementPolicy governorPolicy scheduler) := by
  refine along_iff_prefixes (fun _ => True) Plannable (fun _ _ _ => trivial)
    (fun run call _ h => plannable_step h call) trivial ?_
  intro receipt hmem
  cases hmem

/-! ## A newer envelope -/

namespace Sample

def authority : LoadoutAuthority where
  codec := fixtureCodec.toCodec
  measurements := ⟨fixtureCodec.sha256, fun payload => .ok [UInt8.ofNat payload.sequence]⟩
  verifier := ⟨fun _ => true, fun _ _ _ _ => true⟩

def lipSyncEntry : CatalogEntryV1 where
  manifest := sampleManifest firstRevision
  manifestSha256 := fixtureCodec.sha256 (textBytes firstRevision.value)
  channels := []
  publishedUnixSeconds := 1
  revoked := false
  revocationReason := none

def lipSyncCatalog : TrustedCatalog where
  payload := ⟨signedCatalogSchemaV1, 1, 1, 1000, [lipSyncEntry]⟩
  entries := Table.collect (fun entry => entry.manifest.identity) id [lipSyncEntry]
  payloadDigest := ⟨['c']⟩

def device : Text := List.replicate 64 'a'

/-- The envelope of a sequence, which measures one placement. -/
def signedEnvelope (sequence : Nat) (mode : ResidencyModeV1) (vramBytes : Nat) :
    SignedMeasuredResourceEnvelopeV1 where
  signed := {
    schema := measuredResourceEnvelopeSchemaV1
    reportId := "report-1".toList
    sequence
    measuredUnixSeconds := 1
    expiresUnixSeconds := 100
    deviceFingerprintSha256 := ⟨device⟩
    identity := sampleIdentity firstRevision
    manifestSha256 := lipSyncEntry.manifestSha256
    capability := .lipSync
    benchmarkSuiteRevision := ['1']
    runtime := ['o']
    runtimeRevision := ['1']
    backend := ['d']
    sampleCount := 20
    placements := [(mode, ⟨100000000, 200000000, vramBytes, 0, 10, 10, 10⟩)] }
  signatures := [⟨['k'], ['a'], ['s']⟩]

def gameContext : NativeAdmissionContextV1 where
  exactTargetPid := some 7
  nowUnixSeconds := 2
  nowMonotonicMillis := 8
  configuredGameReserveVramBytes := 4000000000
  gameAdditionalReserveRamBytes := 1000000000
  resourcePressure := .normal
  telemetry := some {
    valid := true
    capturedMonotonicMillis := 7
    selectedGamePid := some 7
    physicalRamBytes := some 32000000000
    availableRamBytes := some 16000000000
    deviceFingerprintSha256 := some device
    dedicatedVramBytes := some 12000000000
    osLocalVramBudgetBytes := some 11000000000
    totalDevicePressureVramBytes := some 3500000000
    selectedGameWorkingSetBytes := some 1000000000
    selectedGameVramBytes := some 3000000000 }

/-- An admission of the pack, while the source holds one envelope of it. -/
def admission (sequence : Nat) (mode : ResidencyModeV1) (vramBytes : Nat) : LoadoutCall :=
  .admitSelection (fun _ _ _ => .ok (some (signedEnvelope sequence mode vramBytes)))
    ⟨"loadout-1".toList, [⟨.lipSync, sampleIdentity firstRevision, mode⟩], 0⟩ gameContext true

end Sample

/-- A pack is admitted on the device, and later in memory by a newer envelope. The plan for the
first receipt panics. -/
theorem newer_envelope_panics :
    ¬ ∀ (authority : LoadoutAuthority) (catalog : TrustedCatalog)
        (measurementPolicy : MeasurementTrustPolicyV1) (governorPolicy : ResourceGovernorPolicyV1)
        (scheduler : WorkSchedulerV1) (calls : List LoadoutCall),
      Plannable (runFrom (loadoutStep authority) calls
        (.fresh catalog measurementPolicy governorPolicy scheduler)) := by
  intro h
  have hplans := h Sample.authority Sample.lipSyncCatalog {} {} ⟨{}, 0, [], 0, 0⟩
    [Sample.admission 1 .gpuResident 600000000, Sample.admission 2 .cpuResident 0]
  set run := runFrom (loadoutStep Sample.authority)
    [Sample.admission 1 .gpuResident 600000000, Sample.admission 2 .cpuResident 0]
    (.fresh Sample.lipSyncCatalog {} {} ⟨{}, 0, [], 0, 0⟩) with hrun
  have hpanics : (run.receipts.all fun receipt =>
      (run.manager.planMaintenance receipt 0).isSome) = false := by
    rw [hrun]
    decide +kernel
  rw [List.all_eq_false] at hpanics
  obtain ⟨receipt, hreceipt, hnone⟩ := hpanics
  exact hnone (hplans receipt hreceipt 0)

end NpcRuntime.Packs
