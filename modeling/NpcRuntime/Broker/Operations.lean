import Mathlib.Data.List.Sort
import NpcRuntime.Broker.Admission
import NpcRuntime.Lib.Machine

/-!
# Resource broker: operations

The public operations of `ResourceBroker` and of its leases. Every operation runs under the
broker's mutex, so a run of the broker is a sequence of calls; each call carries what its
telemetry reads at that moment (`Reading`), and the environment is free to choose both.

An operation that fails may still have changed the state (`mark_model_loaded` and `report_oom`
record the accounted usage first), so operations return the next state beside their result.
-/

namespace NpcRuntime.Broker

variable (cfg : ResourceBrokerConfig)

/-! ## Pressure -/

def nextPressure (current : PressureLevel) (utilization : ℚ) : PressureLevel :=
  match current with
  | .green =>
    if cfg.redEnterRatio ≤ utilization then .red
    else if cfg.amberEnterRatio ≤ utilization then .amber
    else .green
  | .amber =>
    if cfg.redEnterRatio ≤ utilization then .red
    else if utilization ≤ cfg.greenReenterRatio then .green
    else .amber
  | .red => if utilization ≤ cfg.amberReenterRatio then .amber else .red

def pressureFloor : PressureLevel → Nat
  | .green => 0
  | .amber => 1
  | .red => 2

def emitDegradationLocked (s : BrokerState) (nowMs : Nat) (reason : String) : BrokerState :=
  pushDiagnostic cfg
    (.degradationChanged nowMs (degradationOrder.take s.degradationCount) reason) s

def escalateDegradationLocked (s : BrokerState) (nowMs : Nat) (reason : String) : BrokerState :=
  if s.degradationCount < degradationOrder.length then
    emitDegradationLocked cfg { s with degradationCount := s.degradationCount + 1 } nowMs reason
  else s

/-- The utilization of one sample: the largest of VRAM, RAM and GPU load. -/
def utilization (ratio : Nat → Nat → ℚ) (s : BrokerState) (b : BudgetSnapshot) : ℚ :=
  max (max (ratio (vramInUse s b) (vramCeiling cfg b))
      (ratio (ramInUse s b) b.systemRamBudgetBytes))
    b.gpuUtilization

/-- The pressure level moves. -/
def setPressure (s : BrokerState) (nowMs : Nat) (u : ℚ) : BrokerState :=
  let next := nextPressure cfg s.pressure u
  if next ≠ s.pressure then
    pushDiagnostic cfg (.pressureChanged nowMs s.pressure next u) { s with pressure := next }
  else s

/-- The degradation count is raised to the floor of the pressure level. -/
def raiseToFloor (s : BrokerState) (nowMs : Nat) : BrokerState :=
  if s.degradationCount < pressureFloor s.pressure then
    emitDegradationLocked cfg { s with degradationCount := pressureFloor s.pressure } nowMs
      "pressure floor increased"
  else s

/-- Green samples are counted (in a `u32` that wraps in release builds) and spent on recovery. -/
def countGreenSample (s : BrokerState) (nowMs : Nat) : BrokerState :=
  if s.pressure = .green then
    let greenSamples := (s.greenSamples + 1) % 2 ^ 32
    if cfg.recoveryGreenSamples ≤ greenSamples ∧ 0 < s.degradationCount then
      emitDegradationLocked cfg
        { s with degradationCount := s.degradationCount - 1, greenSamples := 0 } nowMs
        "sustained green pressure recovery"
    else { s with greenSamples := greenSamples }
  else { s with greenSamples := 0 }

def updatePressureLocked (ratio : Nat → Nat → ℚ) (s : BrokerState) (b : BudgetSnapshot) :
    BrokerState :=
  countGreenSample cfg
    (raiseToFloor cfg (setPressure cfg s b.monotonicMs (utilization cfg ratio s b)) b.monotonicMs)
    b.monotonicMs

/-- Whether `expire_transient_overages_locked` cancels a record. -/
def overageExpired (nowMs : Nat) (record : ActiveRecord) : Bool :=
  (record.transientDeadlineMs.any fun deadline => decide (deadline < nowMs)) &&
    !record.cancelledByBroker

def expireTransientOveragesLocked (s : BrokerState) (nowMs : Nat) : BrokerState :=
  let expired := (s.active.entries.filter fun e => overageExpired nowMs e.2).map Sigma.fst
  let s := { s with active := s.active.mapVal fun _ record =>
    if overageExpired nowMs record then
      { record with cancelledByBroker := true, cancellation := true }
    else record }
  expired.foldl (fun s jobId => pushDiagnostic cfg
    (.cancellationRequested nowMs jobId "transient VRAM ceiling grace expired") s) s

/-- The prologue of `submit`, `poll_ready` and `refresh_pressure`. -/
def observe (ratio : Nat → Nat → ℚ) (b : BudgetSnapshot) (accounted : BrokerAccountedGpuUsage)
    (s : BrokerState) : BrokerState :=
  updatePressureLocked cfg ratio
    (expireTransientOveragesLocked cfg { s with telemetryAccounted := accounted } b.monotonicMs) b

/-! ## Submitting -/

def dropBeforeAdmission (s : BrokerState) (b : BudgetSnapshot) (job : ResourceJob) :
    Option (BrokerState × Submission) :=
  if isLate job b.monotonicMs && job.dropPolicy == .dropIfLate then
    some (rejectedSubmission cfg s b job .droppedLate "job arrived after its deadline")
  else if isStale cfg job b.monotonicMs then
    some (rejectedSubmission cfg s b job .droppedStale "vision frame is stale")
  else if job.kind.isVisualBurst && s.pressure != .green &&
      job.dropPolicy == .dropUnderPressure then
    some (rejectedSubmission cfg s b job .droppedPressure
      "visual burst dropped under memory pressure")
  else none

/-- Whether a queued record is coalesced away by a new job. -/
def supersededBy (job : ResourceJob) (queued : QueuedRecord) : Bool :=
  match job.dropPolicy with
  | .supersede key => queued.job.dropPolicy == .supersede key
  | _ => false

def supersedeQueued (s : BrokerState) (b : BudgetSnapshot) (job : ResourceJob) : BrokerState :=
  let removed := (s.queued.filter (supersededBy job)).map (·.job)
  let s := { s with queued := s.queued.filter fun queued => !supersededBy job queued }
  removed.foldl (fun s old => pushAdmission cfg
    (admissionDiagnostic cfg b s old .droppedStale none "superseded by a newer coalesced job") s) s

/-- The last arm of `submit`: the job waits, and the broker degrades by one step. -/
def enqueueLocked (s : BrokerState) (b : BudgetSnapshot) (job : ResourceJob) :
    BrokerState × Submission :=
  let s := escalateDegradationLocked cfg s b.monotonicMs "admission could not fit current budget"
  let sequence := (s.sequence + 1) % 2 ^ 64
  let s := { s with
    sequence := sequence
    queued := s.queued ++ [{ sequence := sequence, job := job }] }
  let diagnostic := admissionDiagnostic cfg b s job .queued none
    "waiting for resource, foreground, or residency lease"
  (pushAdmission cfg diagnostic s, { diagnostic := diagnostic, lease := none })

/-- The job ID is active or queued. -/
def isKnownJob (s : BrokerState) (jobId : String) : Bool :=
  (s.active.lookup jobId).isSome || s.queued.any (·.job.jobId == jobId)

/-- `submit` once its job and telemetry are valid and the pressure sample is taken. -/
def submitLocked (s : BrokerState) (b : BudgetSnapshot) (job : ResourceJob) :
    BrokerState × Submission :=
  if isKnownJob s job.jobId then
    rejectedSubmission cfg s b job .rejectedDuplicate "job ID is already active or queued"
  else match dropBeforeAdmission cfg s b job with
    | some dropped => dropped
    | none =>
      let s := supersedeQueued cfg s b job
      match selectTargetLocked cfg s b job true with
      | some (target, outcome) => admitLocked cfg s b job target outcome
      | none => match terminalRejection s b job with
        | some (outcome, reason) => rejectedSubmission cfg s b job outcome reason
        | none => match job.dropPolicy with
          | .dropUnderPressure => rejectedSubmission cfg s b job .droppedPressure
              "job cannot fit the current pressure and residency constraints"
          | .dropIfLate =>
            if isLate job b.monotonicMs then
              rejectedSubmission cfg s b job .droppedLate "job deadline has elapsed"
            else enqueueLocked cfg s b job
          | _ => enqueueLocked cfg s b job

def submit (r : Reading) (job : ResourceJob) (s : BrokerState) :
    BrokerState × Except BrokerError Submission :=
  match validateJob job, r.validated with
  | .error e, _ => (s, .error e)
  | .ok (), .error e => (s, .error e)
  | .ok (), .ok (b, accounted) =>
    let (s, submission) := submitLocked cfg (observe cfg r.ratio b accounted s) b job
    (s, .ok submission)

/-! ## Polling -/

/-- One queued record of the `poll_ready` loop, the queue having been taken out of the state. -/
def pollEntry (b : BudgetSnapshot) (s : BrokerState) (queued : QueuedRecord) :
    BrokerState × Option ResourceLease :=
  if isLate queued.job b.monotonicMs && queued.job.dropPolicy == .dropIfLate then
    (pushAdmission cfg
      (admissionDiagnostic cfg b s queued.job .droppedLate none "queued job deadline elapsed") s,
      none)
  else if isStale cfg queued.job b.monotonicMs then
    (pushAdmission cfg
      (admissionDiagnostic cfg b s queued.job .droppedStale none
        "queued vision frame became stale") s,
      none)
  else match selectTargetLocked cfg s b queued.job true with
    | some (target, outcome) =>
      let (s, submission) := admitLocked cfg s b queued.job target outcome
      (s, submission.lease)
    | none => ({ s with queued := s.queued ++ [queued] }, none)

def pollLoop (b : BudgetSnapshot) :
    List QueuedRecord → BrokerState → BrokerState × List ResourceLease
  | [], s => (s, [])
  | queued :: rest, s =>
    let entry := pollEntry cfg b s queued
    let tail := pollLoop b rest entry.1
    (tail.1, entry.2.toList ++ tail.2)

/-- `queued.sort_by(queue_order)`, a stable sort. -/
def sortQueue (queued : List QueuedRecord) : List QueuedRecord :=
  queued.insertionSort fun left right => queueOrder left right ≠ .gt

def pollReady (r : Reading) (s : BrokerState) :
    BrokerState × Except BrokerError (List ResourceLease) :=
  match r.validated with
  | .error e => (s, .error e)
  | .ok (b, accounted) =>
    let s := observe cfg r.ratio b accounted s
    let (s, leases) := pollLoop cfg b (sortQueue s.queued) { s with queued := [] }
    (s, .ok leases)

def refreshPressure (r : Reading) (s : BrokerState) :
    BrokerState × Except BrokerError PressureLevel :=
  match r.validated with
  | .error e => (s, .error e)
  | .ok (b, accounted) =>
    let s := observe cfg r.ratio b accounted s
    (s, .ok s.pressure)

/-! ## The residency ledger -/

/-- The first check of `register_model_residency` that fails. -/
def registrationError (spec : ModelResidencySpec) (s : BrokerState) : Option BrokerError :=
  if isBlankId spec.modelId || isBlankId spec.targetId then
    some (.invalidResidency "model_id and target_id must be non-empty")
  else if spec.provider.location.isNetworked || spec.gpuResidency == .none then
    some (.invalidResidency "API-only and CPU-only targets have no GPU model residency context")
  else match spec.envelope.validate with
    | .error e => some e
    | .ok _ =>
      if (s.residency.lookup spec.modelId).isSome ||
          s.residency.values.any (·.spec.targetId == spec.targetId) then
        some (.invalidResidency "model_id and target_id must be unique in the residency ledger")
      else none

/-- A model is registered cold. -/
def coldRecord (spec : ModelResidencySpec) : ModelResidencyRecord :=
  { spec := spec, state := .cold, activeJobs := 0, quarantineUntilMs := none }

def registerModelResidency (spec : ModelResidencySpec) (s : BrokerState) :
    BrokerState × Except BrokerError Unit :=
  match registrationError spec s with
  | some e => (s, .error e)
  | none => ({ s with residency := s.residency.insert spec.modelId (coldRecord spec) }, .ok ())

def beginModelWarming (r : Reading) (modelId : String) (s : BrokerState) :
    BrokerState × Except BrokerError Unit :=
  match r.validated with
  | .error e => (s, .error e)
  | .ok (b, accounted) =>
    match s.residency.lookup modelId with
    | none => (s, .error (.unknownModel modelId))
    | some record =>
      let free := unreportedGpuUsage (brokerReservedGpuUsage s) accounted
      if record.state ≠ .cold then
        (s, .error (.invalidResidencyTransition modelId record.state .warming))
      else if vramCeiling cfg b <
          satAdd (satAdd (satAdd (protectedGpuVramUsed b) free.residentBytes)
          free.transientBytes) record.spec.envelope.residentBytes then
        (s, .error (.residencyCapacityExceeded modelId))
      else
        ({ s with residency := s.residency.modify modelId fun record =>
            { record with state := .warming } }, .ok ())

def markModelLoaded (r : Reading) (modelId : String) (measured : MeasuredGpuEnvelope)
    (s : BrokerState) : BrokerState × Except BrokerError Unit :=
  match measured.validate, r.validated with
  | .error e, _ => (s, .error e)
  | .ok _, .error e => (s, .error e)
  | .ok _, .ok (b, accounted) =>
    let s := { s with telemetryAccounted := accounted }
    match s.residency.lookup modelId with
    | none => (s, .error (.unknownModel modelId))
    | some record =>
      let reserved := brokerReservedGpuUsage s
      let free := unreportedGpuUsage
        ⟨satAdd (reserved.residentBytes - record.spec.envelope.residentBytes)
          measured.residentBytes,
          reserved.transientBytes⟩ accounted
      if record.state ≠ .warming then
        (s, .error (.invalidResidencyTransition modelId record.state .loaded))
      else if vramCeiling cfg b < satAdd (satAdd (protectedGpuVramUsed b) free.residentBytes)
          free.transientBytes then
        (s, .error (.residencyCapacityExceeded modelId))
      else
        ({ s with residency := s.residency.modify modelId fun record =>
            { record with spec := { record.spec with envelope := measured }, state := .loaded } },
          .ok ())

def transitionIdleModel (modelId : String) (fromState toState : ModelResidencyState)
    (s : BrokerState) : BrokerState × Except BrokerError Unit :=
  match s.residency.lookup modelId with
  | none => (s, .error (.unknownModel modelId))
  | some record =>
    if record.state ≠ fromState ∨ record.activeJobs ≠ 0 then
      (s, .error (.invalidResidencyTransition modelId record.state toState))
    else
      ({ s with residency := s.residency.modify modelId fun record =>
          { record with state := toState } }, .ok ())

def beginModelEviction (modelId : String) (s : BrokerState) :
    BrokerState × Except BrokerError Unit :=
  transitionIdleModel modelId .loaded .evicting s

def markModelCold (modelId : String) (s : BrokerState) : BrokerState × Except BrokerError Unit :=
  transitionIdleModel modelId .evicting .cold s

/-- The two writes that quarantine a record. -/
def quarantineRecord (untilMs : Nat) (record : ModelResidencyRecord) : ModelResidencyRecord :=
  { record with state := .quarantined, quarantineUntilMs := some untilMs }

def quarantineModelResidency (modelId : String) (untilMs : Nat) (s : BrokerState) :
    BrokerState × Except BrokerError Unit :=
  match s.residency.lookup modelId with
  | none => (s, .error (.unknownModel modelId))
  | some _ =>
    ({ s with residency := s.residency.modify modelId (quarantineRecord untilMs) }, .ok ())

/-- The check of `clear_model_quarantine`: the record is quarantined and its time has passed. -/
def quarantineElapsed (nowMs : Nat) (record : ModelResidencyRecord) : Bool :=
  record.state == .quarantined &&
    !(record.quarantineUntilMs.any fun untilMs => decide (nowMs < untilMs))

def clearModelQuarantine (r : Reading) (modelId : String) (s : BrokerState) :
    BrokerState × Except BrokerError Unit :=
  match r.snapshot.bind (·.validate) with
  | .error e => (s, .error e)
  | .ok b =>
    match s.residency.lookup modelId with
    | none => (s, .error (.unknownModel modelId))
    | some record =>
      if quarantineElapsed b.monotonicMs record then
        ({ s with residency := s.residency.modify modelId fun record =>
            { record with state := .cold, quarantineUntilMs := none } }, .ok ())
      else (s, .error (.invalidResidencyTransition modelId record.state .cold))

/-! ## Cancelling, output and out-of-memory reports -/

def cancel (r : Reading) (jobId reason : String) (s : BrokerState) : BrokerState × Bool :=
  match r.snapshot with
  | .error _ => (s, false)
  | .ok b =>
    match s.queued.find? (·.job.jobId == jobId) with
    | some queued =>
      let s := { s with queued := s.queued.eraseP (·.job.jobId == jobId) }
      (pushAdmission cfg
        (admissionDiagnostic cfg b s queued.job .cancelled none "queued job cancelled") s, true)
    | none =>
      match s.active.lookup jobId with
      | none => (s, false)
      | some _ =>
        let s := { s with active := s.active.modify jobId fun record =>
          { record with cancelledByBroker := true, cancellation := true } }
        (pushDiagnostic cfg (.cancellationRequested b.monotonicMs jobId reason) s, true)

/-- `mark_output_started` on an active record: the utterance is bound to the record's target. -/
def startOutput (s : BrokerState) (jobId : String) (record : ActiveRecord) : BrokerState :=
  { s with
    active := s.active.modify jobId fun record => { record with outputStarted := true }
    utteranceBindings := match record.job.kind.utteranceId with
      | some utteranceId => s.utteranceBindings.insert utteranceId record.target.targetId
      | none => s.utteranceBindings }

def markOutputStarted (jobId : String) (s : BrokerState) : BrokerState × Bool :=
  match s.active.lookup jobId with
  | none => (s, false)
  | some record => (startOutput s jobId record, true)

def finishUtterance (utteranceId : String) (s : BrokerState) : BrokerState :=
  { s with utteranceBindings := s.utteranceBindings.erase utteranceId }

/-- `target_health.entry(target).or_default()`. -/
def healthOf (s : BrokerState) (targetId : String) : TargetHealth :=
  (s.targetHealth.lookup targetId).getD {}

/-- `report_oom` counts the failure. -/
def countOom (s : BrokerState) (targetId : String) : TargetHealth :=
  { healthOf s targetId with oomFailures := ((healthOf s targetId).oomFailures + 1) % 2 ^ 32 }

/-- `report_oom` past the failure limit: the target and its model's record are quarantined. -/
def quarantineTarget (s : BrokerState) (target : ComputeTarget) (untilMs nowMs : Nat) :
    BrokerState :=
  let health := { countOom s target.targetId with quarantineUntilMs := untilMs }
  pushDiagnostic cfg (.targetQuarantined nowMs target.targetId untilMs health.oomFailures)
    { s with
      targetHealth := s.targetHealth.insert target.targetId health
      residency := match target.modelId with
        | some modelId => s.residency.modify modelId (quarantineRecord untilMs)
        | none => s.residency }

/-- A fallback that `report_oom` may name. -/
def fallbackEligible (s : BrokerState) (b : BudgetSnapshot) (job : ResourceJob)
    (fallback : ComputeTarget) : Bool :=
  job.privacy.allowsFallback job.primary.provider fallback.provider &&
    !isTargetQuarantined s fallback.targetId b.monotonicMs && targetFits cfg s b fallback

def reportOom (r : Reading) (jobId : String) (s : BrokerState) :
    BrokerState × Except BrokerError RecoveryDirective :=
  match r.validated with
  | .error e => (s, .error e)
  | .ok (b, accounted) =>
    let s := { s with telemetryAccounted := accounted }
    match s.active.lookup jobId with
    | none => (s, .ok .jobNotActive)
    | some active =>
      let health := countOom s active.target.targetId
      if health.oomFailures < cfg.oomFailuresBeforeQuarantine then
        ({ s with targetHealth := s.targetHealth.insert active.target.targetId health },
          .ok (.retrySameTargetAfterEviction active.target.targetId))
      else
        let s := quarantineTarget cfg s active.target (satAdd b.monotonicMs cfg.quarantineMs)
          b.monotonicMs
        if active.outputStarted || active.job.kind.holdsForegroundTurnSlot then
          (s, .ok .abortUtteranceNoModelSwap)
        else match active.job.fallbacks.find? (fallbackEligible cfg s b active.job) with
          | some fallback => (s, .ok (.retryFallback fallback.targetId))
          | none => (s, .ok .quarantinedNoSafeFallback)

/-- `finish_lease` on an active record, before it reports: the record leaves, its reservation is
released, and a completed job clears its target's health. -/
def endLease (s : BrokerState) (jobId : String) (active : ActiveRecord)
    (status : CompletionStatus) : BrokerState :=
  let s := release { s with active := s.active.erase jobId } active.job active.target
  { s with
    targetHealth :=
      if status = .completed then s.targetHealth.erase active.target.targetId else s.targetHealth }

/-- `telemetry.snapshot().ok()` read as a time, zero when it fails. -/
def Reading.nowMs (r : Reading) : Nat :=
  match r.snapshot with
  | .ok b => b.monotonicMs
  | .error _ => 0

/-- `finish_lease`: completing, completing unmeasured or dropping a lease. -/
def finishLease (r : Reading) (jobId : String) (actual : ActualUsage) (measured : Bool)
    (status : CompletionStatus) (s : BrokerState) : BrokerState :=
  match s.active.lookup jobId with
  | none => s
  | some active =>
    pushDiagnostic cfg (.actual {
      monotonicMs := r.nowMs
      jobId := jobId
      targetId := active.target.targetId
      estimated := active.target.estimate
      actual := actual
      actualUsageMeasured := measured
      status := status
      deadlineMissed := isLate active.job r.nowMs
      cancelledByBroker := active.cancelledByBroker }) (endLease s jobId active status)

/-! ## Calls and runs -/

/-- The state-changing operations. -/
inductive Op where
  | submit (job : ResourceJob)
  | pollReady
  | refreshPressure
  | registerModelResidency (spec : ModelResidencySpec)
  | beginModelWarming (modelId : String)
  | markModelLoaded (modelId : String) (measured : MeasuredGpuEnvelope)
  | beginModelEviction (modelId : String)
  | markModelCold (modelId : String)
  | quarantineModelResidency (modelId : String) (untilMs : Nat)
  | clearModelQuarantine (modelId : String)
  | cancel (jobId reason : String)
  | markOutputStarted (jobId : String)
  | finishUtterance (utteranceId : String)
  | reportOom (jobId : String)
  | finishLease (jobId : String) (actual : ActualUsage) (measured : Bool)
      (status : CompletionStatus)
  | drainDiagnostics

/-- An operation together with what its telemetry reads. -/
structure Call where
  reading : Reading
  op : Op

/-- What a call returns. -/
inductive Response where
  | submitted (result : Except BrokerError Submission)
  | polled (result : Except BrokerError (List ResourceLease))
  | pressure (result : Except BrokerError PressureLevel)
  | done (result : Except BrokerError Unit)
  | flag (result : Bool)
  | recovery (result : Except BrokerError RecoveryDirective)
  | diagnostics (result : List BrokerDiagnostic)
  | unit

/-- The leases a response hands out. -/
def Response.leases : Response → List ResourceLease
  | .submitted (.ok submission) => submission.lease.toList
  | .polled (.ok leases) => leases
  | _ => []

/-- One call of the broker. -/
def respond (c : Call) (s : BrokerState) : BrokerState × Response :=
  match c.op with
  | .submit job => (submit cfg c.reading job s).map id .submitted
  | .pollReady => (pollReady cfg c.reading s).map id .polled
  | .refreshPressure => (refreshPressure cfg c.reading s).map id .pressure
  | .registerModelResidency spec => (registerModelResidency spec s).map id .done
  | .beginModelWarming modelId => (beginModelWarming cfg c.reading modelId s).map id .done
  | .markModelLoaded modelId measured =>
    (markModelLoaded cfg c.reading modelId measured s).map id .done
  | .beginModelEviction modelId => (beginModelEviction modelId s).map id .done
  | .markModelCold modelId => (markModelCold modelId s).map id .done
  | .quarantineModelResidency modelId untilMs =>
    (quarantineModelResidency modelId untilMs s).map id .done
  | .clearModelQuarantine modelId => (clearModelQuarantine c.reading modelId s).map id .done
  | .cancel jobId reason => (cancel cfg c.reading jobId reason s).map id .flag
  | .markOutputStarted jobId => (markOutputStarted jobId s).map id .flag
  | .finishUtterance utteranceId => (finishUtterance utteranceId s, .unit)
  | .reportOom jobId => (reportOom cfg c.reading jobId s).map id .recovery
  | .finishLease jobId actual measured status =>
    (finishLease cfg c.reading jobId actual measured status s, .unit)
  | .drainDiagnostics => ({ s with diagnostics := [] }, .diagnostics s.diagnostics)

/-- The state after one call. -/
def step (c : Call) (s : BrokerState) : BrokerState := (respond cfg c s).1

/-- The state after a run of calls from the empty broker. -/
def run (calls : List Call) : BrokerState := runFrom (step cfg) calls {}

/-! ## Inputs of concrete runs

The helpers of the source's own tests, with their values. -/

namespace Sample

def snapshot (now vramUsed vramBudget : Nat) : BudgetSnapshot where
  monotonicMs := now
  systemRamBudgetBytes := 16000 * mib
  systemRamUsedBytes := 1000 * mib
  additionalGameRamReserveBytes := 0
  gpuVramBudgetBytes := vramBudget
  gpuVramUsedBytes := vramUsed
  additionalGameVramReserveBytes := 0
  gpuUtilization := 1 / 10

/-- A telemetry source that reports no broker-owned usage and divides exactly. -/
def reading (now : Nat) (vramUsed : Nat := 100 * mib) (vramBudget : Nat := 2000 * mib) :
    Reading where
  snapshot := .ok (snapshot now vramUsed vramBudget)
  accounted := .ok ⟨0, 0⟩
  ratio used budget := used / budget

def localProvider (id : String) : ProviderDescriptor where
  id := id
  modality := .languageModel
  location := .local
  mayRetainData := false

def target (id : String) (residentMib transientMib transientMs : Nat) (residency : GpuResidency) :
    ComputeTarget where
  targetId := id
  modelId := some id
  provider := localProvider "local"
  estimate :=
    { ramBytes := 128 * mib
      vramResidentBytes := residentMib * mib
      vramTransientBytes := transientMib * mib
      transientDurationMs := transientMs
      gpuTimeMs := 10 }
  gpuResidency := residency

def job (jobId : String) (kind : ResourceJobKind) (primary : ComputeTarget) : ResourceJob where
  jobId := jobId
  kind := kind
  priority := .interactive
  deadlineMs := some 10000
  primary := primary
  fallbacks := []
  dropPolicy := .never
  privacy := .fullyLocal

def config : ResourceBrokerConfig where
  vramCeilingBytes := 1000 * mib
  quarantineMs := 1000

def envelope (residentMib transientMib : Nat) : MeasuredGpuEnvelope where
  residentBytes := residentMib * mib
  p99TransientBytes := transientMib * mib
  sampleCount := 500

def residencySpec (id : String) (residentMib transientMib : Nat) : ModelResidencySpec where
  modelId := id
  targetId := id
  provider := localProvider "local"
  gpuResidency := .shared
  envelope := envelope residentMib transientMib

/-- A call at `now` under the sample telemetry. -/
def call (now : Nat) (op : Op) : Call := ⟨reading now, op⟩

/-- A lease that ends without a measurement. -/
def finish (jobId : String) (status : CompletionStatus) : Op := .finishLease jobId {} false status

end Sample

end NpcRuntime.Broker
