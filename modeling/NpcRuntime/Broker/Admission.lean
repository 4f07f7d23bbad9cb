import NpcRuntime.Broker.Types
import NpcRuntime.Lib.Text

/-!
# Resource broker: admission

The pure decisions of `resource_broker.rs` (estimates, projections, quarantine, fit, residency,
target selection) and the four state changes that every operation is made of: pushing a
diagnostic, reserving, releasing and admitting.
-/

namespace NpcRuntime.Broker

/-! ## Job checks -/

/-- `s.trim().is_empty()`. -/
def isBlankId (s : String) : Bool := Text.isBlank s.toList

def validateJob (job : ResourceJob) : Except BrokerError Unit :=
  if isBlankId job.jobId then .error (.invalidJob "job_id is empty")
  else if isBlankId job.primary.targetId then .error (.invalidJob "primary target_id is empty")
  else if (job.fallbacks.head?.map (·.provider.modality)).getD job.primary.provider.modality !=
        job.primary.provider.modality ||
      job.fallbacks.any (·.provider.modality != job.primary.provider.modality) then
    .error (.invalidJob "fallback modality differs from primary")
  else if ¬ (job.targets.map (·.targetId)).Nodup then
    .error (.invalidJob "target IDs must be unique within a job")
  else .ok ()

variable {job : ResourceJob}

theorem validateJob_nodup (h : validateJob job = .ok ()) :
    (job.targets.map (·.targetId)).Nodup := by
  unfold validateJob at h
  split_ifs at h with _ _ _ hnodup
  exact hnodup

/-- The target ID of a valid job names its target. -/
theorem find?_target (h : validateJob job = .ok ()) {target : ComputeTarget}
    (hmem : target ∈ job.targets) :
    job.targets.find? (·.targetId == target.targetId) = some target := by
  cases hf : job.targets.find? (·.targetId == target.targetId) with
  | none => exact absurd (by simp) (List.find?_eq_none.1 hf target hmem)
  | some found =>
    have hid : found.targetId = target.targetId := by simpa using List.find?_some hf
    rw [List.inj_on_of_nodup_map (validateJob_nodup h) (List.mem_of_find?_eq_some hf) hmem hid]

def isLate (job : ResourceJob) (nowMs : Nat) : Bool :=
  job.deadlineMs.any fun deadline => decide (deadline < nowMs)

def isStale (cfg : ResourceBrokerConfig) (job : ResourceJob) (nowMs : Nat) : Bool :=
  match job.kind.capturedAtMs with
  | none => false
  | some capturedAtMs =>
    match job.dropPolicy with
    | .dropIfStale maximumAgeMs => decide (maximumAgeMs < nowMs - capturedAtMs)
    | _ =>
      if job.kind.isVisualBurst then decide (cfg.defaultVisionStaleMs < nowMs - capturedAtMs)
      else false

/-- `queue_order`: priority descending, deadline ascending, submission order. -/
def queueOrder (left right : QueuedRecord) : Ordering :=
  (compare right.job.priority.rank left.job.priority.rank).then <|
    (compare (left.job.deadlineMs.getD u64Max) (right.job.deadlineMs.getD u64Max)).then <|
      compare left.sequence right.sequence

/-! ## Residency and GPU accounting -/

/-- The record a target's model is registered under, when the registration is for this target. -/
def registeredModelForTarget (s : BrokerState) (target : ComputeTarget) :
    Option ModelResidencyRecord :=
  (target.modelId.bind fun modelId => s.residency.lookup modelId).filter fun record =>
    record.spec.targetId == target.targetId && record.spec.gpuResidency == target.gpuResidency

/-- What a job on a registered model takes: no resident memory of its own, and at least the
measured p99 workspace. -/
def ledgerEstimate (target : ComputeTarget) (record : ModelResidencyRecord) : ResourceEstimate :=
  { target.estimate with
    vramResidentBytes := 0
    vramTransientBytes :=
      max target.estimate.vramTransientBytes record.spec.envelope.p99TransientBytes }

def effectiveJobEstimate (s : BrokerState) (target : ComputeTarget) : Option ResourceEstimate :=
  match target.modelId with
  | none => some target.estimate
  | some modelId =>
    match s.residency.lookup modelId with
    | none => some target.estimate
    | some record =>
      if record.spec.targetId != target.targetId ||
          record.spec.gpuResidency != target.gpuResidency ||
          !(record.state == .loaded || record.state == .inFlight) then none
      else some (ledgerEstimate target record)

def brokerReservedGpuUsage (s : BrokerState) : BrokerAccountedGpuUsage where
  residentBytes := satAdd s.reservations.vramResidentBytes <|
    satSum ((s.residency.values.filter (·.holdsResidentMemory)).map (·.spec.envelope.residentBytes))
  transientBytes := s.reservations.vramTransientBytes

def unreportedGpuUsage (reserved accounted : BrokerAccountedGpuUsage) :
    BrokerAccountedGpuUsage where
  residentBytes := reserved.residentBytes - min accounted.residentBytes reserved.residentBytes
  transientBytes := reserved.transientBytes - min accounted.transientBytes reserved.transientBytes

/-- What the broker holds and the telemetry does not show yet. -/
def unreported (s : BrokerState) : BrokerAccountedGpuUsage :=
  unreportedGpuUsage (brokerReservedGpuUsage s) s.telemetryAccounted

def protectedSystemRamUsed (b : BudgetSnapshot) : Nat :=
  satAdd b.systemRamUsedBytes b.additionalGameRamReserveBytes

def protectedGpuVramUsed (b : BudgetSnapshot) : Nat :=
  satAdd b.gpuVramUsedBytes b.additionalGameVramReserveBytes

/-- `vram_ceiling_bytes.min(gpu_vram_budget_bytes)`. -/
def vramCeiling (cfg : ResourceBrokerConfig) (b : BudgetSnapshot) : Nat :=
  min cfg.vramCeilingBytes b.gpuVramBudgetBytes

/-- Protected VRAM and unreported broker VRAM, in the order the code adds them. -/
def vramInUse (s : BrokerState) (b : BudgetSnapshot) : Nat :=
  satAdd (satAdd (protectedGpuVramUsed b) (unreported s).residentBytes)
    (unreported s).transientBytes

/-- Protected RAM and reserved RAM. -/
def ramInUse (s : BrokerState) (b : BudgetSnapshot) : Nat :=
  satAdd (protectedSystemRamUsed b) s.reservations.ramBytes

/-! ## Target selection -/

def targetFits (cfg : ResourceBrokerConfig) (s : BrokerState) (b : BudgetSnapshot)
    (target : ComputeTarget) : Bool :=
  match effectiveJobEstimate s target with
  | none => false
  | some estimate =>
    if b.systemRamBudgetBytes < satAdd (ramInUse s b) estimate.ramBytes then false
    else
      let ceiling := vramCeiling cfg b
      let projectedResident := satAdd (vramInUse s b) estimate.vramResidentBytes
      let projectedTotal := satAdd projectedResident estimate.vramTransientBytes
      if ceiling < projectedResident then false
      else if projectedTotal ≤ ceiling then true
      else decide (projectedTotal - ceiling ≤ cfg.transientVramAllowanceBytes) &&
        decide (0 < estimate.transientDurationMs) &&
        decide (estimate.transientDurationMs ≤ cfg.transientVramGraceMs)

def isTargetQuarantined (s : BrokerState) (targetId : String) (nowMs : Nat) : Bool :=
  ((s.targetHealth.lookup targetId).any fun health => decide (nowMs < health.quarantineUntilMs)) ||
    s.residency.values.any fun record =>
      record.spec.targetId == targetId && record.state == .quarantined &&
        record.quarantineUntilMs.all fun untilMs => decide (nowMs < untilMs)

def residencyAvailable (s : BrokerState) (job : ResourceJob) (target : ComputeTarget) : Bool :=
  if job.kind.holdsForegroundTurnSlot && s.reservations.foregroundTurnJob.isSome then false
  else if (target.modelId.bind fun modelId => s.residency.lookup modelId).any fun record =>
      record.spec.targetId != target.targetId || record.spec.gpuResidency != target.gpuResidency ||
        !(record.state == .loaded || record.state == .inFlight) then false
  else match target.gpuResidency with
    | .none => true
    | .shared => s.reservations.exclusiveGpuJob.isNone
    | .exclusive => s.reservations.gpuLeases == 0

/-- The target an utterance is bound to. -/
def boundTarget (s : BrokerState) (job : ResourceJob) : Option String :=
  job.kind.utteranceId.bind fun utterance => s.utteranceBindings.lookup utterance

/-- One candidate of `select_target_locked`. -/
def candidateAdmissible (cfg : ResourceBrokerConfig) (s : BrokerState) (b : BudgetSnapshot)
    (job : ResourceJob) (allowFallback : Bool) (candidate : ComputeTarget × AdmissionOutcome) :
    Bool :=
  let (target, outcome) := candidate
  if outcome == .admittedFallback && !allowFallback then false
  else if (boundTarget s job).any fun bound => bound != target.targetId then false
  else
    let privacyAllowed :=
      if outcome == .admittedPrimary then job.privacy.allows target.provider
      else job.privacy.allowsFallback job.primary.provider target.provider
    !(!privacyAllowed || isTargetQuarantined s target.targetId b.monotonicMs ||
      !targetFits cfg s b target || !residencyAvailable s job target)

def selectTargetLocked (cfg : ResourceBrokerConfig) (s : BrokerState) (b : BudgetSnapshot)
    (job : ResourceJob) (allowFallback : Bool) : Option (ComputeTarget × AdmissionOutcome) :=
  ((job.primary, .admittedPrimary) ::
    job.fallbacks.map fun target => (target, .admittedFallback)).find?
    (candidateAdmissible cfg s b job allowFallback)

/-- What a selected target has passed. -/
theorem selectTargetLocked_spec {cfg : ResourceBrokerConfig} {s : BrokerState} {b : BudgetSnapshot}
    {target : ComputeTarget} {outcome : AdmissionOutcome}
    (h : selectTargetLocked cfg s b job true = some (target, outcome)) :
    target ∈ job.targets ∧ (∀ bound, boundTarget s job = some bound → target.targetId = bound) ∧
      isTargetQuarantined s target.targetId b.monotonicMs = false ∧
      targetFits cfg s b target = true ∧ residencyAvailable s job target = true := by
  have hmem := List.mem_of_find?_eq_some h
  have hadm := List.find?_some h
  simp only [candidateAdmissible, Bool.not_true, Bool.and_false, Bool.false_eq_true,
    if_false] at hadm
  by_cases hbound : ((boundTarget s job).any fun bound => bound != target.targetId) = true
  · rw [if_pos hbound] at hadm
    cases hadm
  rw [if_neg hbound] at hadm
  simp only [Bool.not_or, Bool.and_eq_true, Bool.not_not, Bool.not_eq_true'] at hadm
  refine ⟨?_, ?_, hadm.1.1.2, hadm.1.2, hadm.2⟩
  · rcases List.mem_cons.1 hmem with heq | hmem
    · rw [(Prod.mk.inj heq).1]
      exact List.mem_cons_self
    · obtain ⟨t, ht, heq⟩ := List.mem_map.1 hmem
      rw [← (Prod.mk.inj heq).1]
      exact List.mem_cons_of_mem _ ht
  · intro bound hb
    rw [hb, Option.any_some, bne_iff_ne, ne_eq, not_not] at hbound
    exact hbound.symm

def terminalRejection (s : BrokerState) (b : BudgetSnapshot) (job : ResourceJob) :
    Option (AdmissionOutcome × String) :=
  let privacyAllowed := job.targets.filter fun target =>
    if target.targetId == job.primary.targetId then job.privacy.allows target.provider
    else job.privacy.allowsFallback job.primary.provider target.provider
  if privacyAllowed.isEmpty then
    some (.rejectedPrivacy, "no target is authorized by the job privacy policy")
  else if (boundTarget s job).any fun bound => privacyAllowed.all fun target =>
      target.targetId != bound then
    some (.rejectedUtteranceBinding, "no authorized target matches the utterance model binding")
  else if privacyAllowed.all fun target => isTargetQuarantined s target.targetId b.monotonicMs then
    some (.rejectedQuarantined, "all privacy-authorized targets are quarantined")
  else none

/-! ## Diagnostics -/

def projection (cfg : ResourceBrokerConfig) (b : BudgetSnapshot) (s : BrokerState)
    (estimate : ResourceEstimate) : ResourceProjection where
  ramBytes := satAdd (ramInUse s b) estimate.ramBytes
  vramBytes := satAdd (vramInUse s b) estimate.totalVram
  vramCeilingBytes := vramCeiling cfg b
  transientOvershootBytes := satAdd (vramInUse s b) estimate.totalVram - vramCeiling cfg b

/-- `effective_job_estimate(state, target).unwrap_or(target.estimate)`. -/
def estimateOrDeclared (s : BrokerState) (target : ComputeTarget) : ResourceEstimate :=
  (effectiveJobEstimate s target).getD target.estimate

def admissionDiagnostic (cfg : ResourceBrokerConfig) (b : BudgetSnapshot) (s : BrokerState)
    (job : ResourceJob) (outcome : AdmissionOutcome) (selectedTargetId : Option String)
    (reason : String) : AdmissionDiagnostic :=
  let selectedTarget :=
    (selectedTargetId.bind fun id => job.targets.find? (·.targetId == id)).getD job.primary
  { monotonicMs := b.monotonicMs
    jobId := job.jobId
    kind := job.kind
    priority := job.priority
    outcome := outcome
    selectedTargetId := selectedTargetId
    pressure := s.pressure
    activeDegradations := degradationOrder.take s.degradationCount
    projection := projection cfg b s (estimateOrDeclared s selectedTarget)
    reason := reason }

/-- The ring keeps the newest `diagnostic_capacity` entries. -/
def pushDiagnostic (cfg : ResourceBrokerConfig) (d : BrokerDiagnostic) (s : BrokerState) :
    BrokerState :=
  { s with
    diagnostics :=
      (if s.diagnostics.length = cfg.diagnosticCapacity then s.diagnostics.tail
        else s.diagnostics) ++ [d]
    emitted := s.emitted ++ [d] }

def pushAdmission (cfg : ResourceBrokerConfig) (d : AdmissionDiagnostic) (s : BrokerState) :
    BrokerState :=
  pushDiagnostic cfg (.admission d) s

/-! ## Reserving and releasing -/

/-- A job starts on a registered model. -/
def ModelResidencyRecord.beginJob (record : ModelResidencyRecord) : ModelResidencyRecord :=
  { record with activeJobs := record.activeJobs + 1, state := .inFlight }

/-- A job on a registered model ends; the last one leaves an in-flight model loaded. -/
def ModelResidencyRecord.endJob (record : ModelResidencyRecord) : ModelResidencyRecord :=
  { record with
    activeJobs := record.activeJobs - 1
    state := if record.activeJobs - 1 == 0 && record.state == .inFlight then .loaded
      else record.state }

def reserve (s : BrokerState) (job : ResourceJob) (target : ComputeTarget) : BrokerState :=
  let estimate := estimateOrDeclared s target
  let registeredModelId := (registeredModelForTarget s target).map (·.spec.modelId)
  let r := s.reservations
  { s with
    reservations := {
      ramBytes := satAdd r.ramBytes estimate.ramBytes
      vramResidentBytes := satAdd r.vramResidentBytes estimate.vramResidentBytes
      vramTransientBytes := satAdd r.vramTransientBytes estimate.vramTransientBytes
      gpuLeases := if target.gpuResidency != .none then r.gpuLeases + 1 else r.gpuLeases
      exclusiveGpuJob :=
        if target.gpuResidency == .exclusive then some job.jobId else r.exclusiveGpuJob
      foregroundTurnJob :=
        if job.kind.holdsForegroundTurnSlot then some job.jobId else r.foregroundTurnJob }
    residency := match registeredModelId with
      | some modelId => s.residency.modify modelId (·.beginJob)
      | none => s.residency }

/-- What `release` gives back for a target: its own recomputation, not what `reserve` took. -/
def releaseEstimate (s : BrokerState) (target : ComputeTarget) : ResourceEstimate :=
  match registeredModelForTarget s target with
  | some record => ledgerEstimate target record
  | none => target.estimate

def release (s : BrokerState) (job : ResourceJob) (target : ComputeTarget) : BrokerState :=
  let estimate := releaseEstimate s target
  let registeredModelId := (registeredModelForTarget s target).map (·.spec.modelId)
  let r := s.reservations
  { s with
    reservations := {
      ramBytes := r.ramBytes - estimate.ramBytes
      vramResidentBytes := r.vramResidentBytes - estimate.vramResidentBytes
      vramTransientBytes := r.vramTransientBytes - estimate.vramTransientBytes
      gpuLeases := if target.gpuResidency != .none then r.gpuLeases - 1 else r.gpuLeases
      exclusiveGpuJob := if r.exclusiveGpuJob == some job.jobId then none else r.exclusiveGpuJob
      foregroundTurnJob :=
        if r.foregroundTurnJob == some job.jobId then none else r.foregroundTurnJob }
    residency := match registeredModelId with
      | some modelId => s.residency.modify modelId (·.endJob)
      | none => s.residency }

/-- The diagnostic of an admission. -/
def admittedDiagnostic (cfg : ResourceBrokerConfig) (s : BrokerState) (b : BudgetSnapshot)
    (job : ResourceJob) (target : ComputeTarget) (outcome : AdmissionOutcome) :
    AdmissionDiagnostic :=
  admissionDiagnostic cfg b s job outcome (some target.targetId)
    (if outcome == .admittedFallback then "primary target unavailable; authorized fallback admitted"
      else "resource lease admitted")

/-- The record of an admission. -/
def admittedRecord (cfg : ResourceBrokerConfig) (s : BrokerState) (b : BudgetSnapshot)
    (job : ResourceJob) (target : ComputeTarget) (outcome : AdmissionOutcome) : ActiveRecord where
  job := job
  target := target
  cancellation := false
  outputStarted := false
  cancelledByBroker := false
  transientDeadlineMs :=
    if 0 < (admittedDiagnostic cfg s b job target outcome).projection.transientOvershootBytes then
      some (satAdd b.monotonicMs cfg.transientVramGraceMs)
    else none
  reserved := estimateOrDeclared s target

def admitLocked (cfg : ResourceBrokerConfig) (s : BrokerState) (b : BudgetSnapshot)
    (job : ResourceJob) (target : ComputeTarget) (outcome : AdmissionOutcome) :
    BrokerState × Submission :=
  let diagnostic := admittedDiagnostic cfg s b job target outcome
  let record := admittedRecord cfg s b job target outcome
  let s := reserve s job target
  let s := { s with active := s.active.insert job.jobId record }
  (pushAdmission cfg diagnostic s,
    { diagnostic := diagnostic, lease := some ⟨job.jobId, target.targetId⟩ })

def rejectedSubmission (cfg : ResourceBrokerConfig) (s : BrokerState) (b : BudgetSnapshot)
    (job : ResourceJob) (outcome : AdmissionOutcome) (reason : String) : BrokerState × Submission :=
  let diagnostic := admissionDiagnostic cfg b s job outcome none reason
  (pushAdmission cfg diagnostic s, { diagnostic := diagnostic, lease := none })

end NpcRuntime.Broker
