import Mathlib.Data.Rat.Defs
import Mathlib.Algebra.Order.Ring.Rat
import NpcRuntime.Lib.Saturating
import NpcRuntime.Lib.Table
import NpcRuntime.Provider

/-!
# Resource broker: data model

The types of `runtime-core/src/resource_broker.rs`.

Byte counts, times and sequence numbers are the `u64` values read as natural numbers, added with
`satAdd` where the code saturates. Counters of records that are in memory at the same time
(`active_jobs`, `gpu_leases`) are plain naturals. Floating point is taken as exact rationals; how
`update_pressure_locked` rounds its quotients is an input of every sample (`Reading.ratio`), so
nothing below depends on it.

Two fields are ghosts that no operation reads: `ActiveRecord.reserved`, what `reserve` added for
the lease, and `BrokerState.emitted`, every diagnostic ever pushed, also those that the bounded
ring has already evicted.
-/

namespace NpcRuntime.Broker

/-- `1024 * 1024`. -/
def mib : Nat := 1024 * 1024

/-! ## Jobs -/

inductive JobPriority where
  | opportunistic
  | background
  | interactive
  | critical
deriving DecidableEq

/-- The derived order: the position in the declaration. -/
def JobPriority.rank : JobPriority → Nat
  | .opportunistic => 0
  | .background => 1
  | .interactive => 2
  | .critical => 3

inductive ResourceJobKind where
  | interactiveTurn (utteranceId : String)
  | foregroundLlm (utteranceId : String)
  | speechSynthesis (utteranceId : String) (sentenceId : Nat)
  | embedding
  | continuousVision (frameSequence capturedAtMs : Nat)
  | screenSpaceLipSync (frameSequence capturedAtMs : Nat)
  | nativeRigAnimation (utteranceId : String)
  | modelLoad
  | maintenance
deriving DecidableEq

namespace ResourceJobKind

def holdsForegroundTurnSlot : ResourceJobKind → Bool
  | .interactiveTurn _ | .foregroundLlm _ => true
  | _ => false

def utteranceId : ResourceJobKind → Option String
  | .interactiveTurn u | .foregroundLlm u | .speechSynthesis u _ | .nativeRigAnimation u => some u
  | _ => none

def capturedAtMs : ResourceJobKind → Option Nat
  | .continuousVision _ t | .screenSpaceLipSync _ t => some t
  | _ => none

def isVisualBurst : ResourceJobKind → Bool
  | .continuousVision _ _ | .screenSpaceLipSync _ _ => true
  | _ => false

end ResourceJobKind

structure ResourceEstimate where
  ramBytes : Nat
  vramResidentBytes : Nat
  vramTransientBytes : Nat
  transientDurationMs : Nat
  gpuTimeMs : Nat
deriving DecidableEq

def ResourceEstimate.totalVram (e : ResourceEstimate) : Nat :=
  satAdd e.vramResidentBytes e.vramTransientBytes

inductive GpuResidency where
  | none
  | shared
  | exclusive
deriving DecidableEq

structure ComputeTarget where
  targetId : String
  modelId : Option String
  provider : ProviderDescriptor
  estimate : ResourceEstimate
  gpuResidency : GpuResidency
deriving DecidableEq

inductive DropPolicy where
  | never
  | dropIfLate
  | dropIfStale (maximumAgeMs : Nat)
  | dropUnderPressure
  | supersede (key : String)
deriving DecidableEq

structure BrokerPrivacyContext where
  executionMode : ExecutionMode
  networkPolicy : NetworkPolicy
  authorizedCloudProviders : List String
  allowRetainingProviders : Bool
  allowLocalToCloudFallback : Bool
deriving DecidableEq

namespace BrokerPrivacyContext

def fullyLocal : BrokerPrivacyContext where
  executionMode := .fullyLocal
  networkPolicy := .offline
  authorizedCloudProviders := []
  allowRetainingProviders := false
  allowLocalToCloudFallback := false

def allows (c : BrokerPrivacyContext) (provider : ProviderDescriptor) : Bool :=
  if provider.mayRetainData && !c.allowRetainingProviders then false
  else if !provider.location.isNetworked then true
  else c.networkPolicy == .online && c.executionMode != .fullyLocal &&
    c.authorizedCloudProviders.contains provider.id

def allowsFallback (c : BrokerPrivacyContext) (primary fallback : ProviderDescriptor) : Bool :=
  c.allows fallback &&
    (!primary.location.isLocal || fallback.location.isLocal || c.allowLocalToCloudFallback)

end BrokerPrivacyContext

structure ResourceJob where
  jobId : String
  kind : ResourceJobKind
  priority : JobPriority
  deadlineMs : Option Nat
  primary : ComputeTarget
  fallbacks : List ComputeTarget
  dropPolicy : DropPolicy
  privacy : BrokerPrivacyContext
deriving DecidableEq

/-- The primary target and then the fallbacks, in the order they are tried. -/
def ResourceJob.targets (job : ResourceJob) : List ComputeTarget := job.primary :: job.fallbacks

/-! ## Model residency -/

inductive ModelResidencyState where
  | cold
  | warming
  | loaded
  | inFlight
  | evicting
  | quarantined
deriving DecidableEq

inductive BrokerError where
  | invalidTelemetry (reason : String)
  | invalidJob (reason : String)
  | invalidResidency (reason : String)
  | unknownModel (modelId : String)
  | invalidResidencyTransition (modelId : String) (fromState toState : ModelResidencyState)
  | residencyCapacityExceeded (modelId : String)
deriving DecidableEq

structure MeasuredGpuEnvelope where
  residentBytes : Nat
  p99TransientBytes : Nat
  sampleCount : Nat
deriving DecidableEq

def MeasuredGpuEnvelope.validate (e : MeasuredGpuEnvelope) :
    Except BrokerError MeasuredGpuEnvelope :=
  if e.residentBytes == 0 then
    .error (.invalidResidency "measured resident_bytes must be non-zero")
  else if e.sampleCount == 0 then
    .error (.invalidResidency "measured GPU envelope must contain at least one sample")
  else .ok e

structure ModelResidencySpec where
  modelId : String
  targetId : String
  provider : ProviderDescriptor
  gpuResidency : GpuResidency
  envelope : MeasuredGpuEnvelope
deriving DecidableEq

structure ModelResidencyRecord where
  spec : ModelResidencySpec
  state : ModelResidencyState
  activeJobs : Nat
  quarantineUntilMs : Option Nat
deriving DecidableEq

def ModelResidencyRecord.holdsResidentMemory (r : ModelResidencyRecord) : Bool :=
  r.state == .warming || r.state == .loaded || r.state == .inFlight || r.state == .evicting ||
    (r.state == .quarantined && decide (0 < r.activeJobs))

/-! ## Telemetry -/

structure BudgetSnapshot where
  monotonicMs : Nat
  systemRamBudgetBytes : Nat
  systemRamUsedBytes : Nat
  additionalGameRamReserveBytes : Nat
  gpuVramBudgetBytes : Nat
  gpuVramUsedBytes : Nat
  additionalGameVramReserveBytes : Nat
  /-- A non-finite `f32` fails `validate` like any value outside `0..=1`. -/
  gpuUtilization : ℚ
deriving DecidableEq

def BudgetSnapshot.validate (b : BudgetSnapshot) : Except BrokerError BudgetSnapshot :=
  if b.systemRamBudgetBytes == 0 || b.gpuVramBudgetBytes == 0 then
    .error (.invalidTelemetry "RAM and VRAM budgets must be non-zero")
  else if !(decide (0 ≤ b.gpuUtilization) && decide (b.gpuUtilization ≤ 1)) then
    .error (.invalidTelemetry "GPU utilization must be finite and within 0..=1")
  else .ok b

structure BrokerAccountedGpuUsage where
  residentBytes : Nat
  transientBytes : Nat
deriving DecidableEq

/-- What one call reads from its `dyn BudgetTelemetry`. Any implementation is a source of such
readings; `ratio` is the `f64` quotient of `update_pressure_locked` as it rounds on this call. -/
structure Reading where
  snapshot : Except BrokerError BudgetSnapshot
  accounted : Except BrokerError BrokerAccountedGpuUsage
  ratio : Nat → Nat → ℚ

/-- `snapshot()?.validate()?` and then `broker_accounted_gpu_usage()?`. -/
def Reading.validated (r : Reading) :
    Except BrokerError (BudgetSnapshot × BrokerAccountedGpuUsage) := do
  let snapshot ← r.snapshot
  let snapshot ← snapshot.validate
  let accounted ← r.accounted
  return (snapshot, accounted)

/-! ## Configuration -/

structure ResourceBrokerConfig where
  vramCeilingBytes : Nat := 10 * 1024 * mib
  transientVramAllowanceBytes : Nat := 256 * mib
  transientVramGraceMs : Nat := 2000
  amberEnterRatio : ℚ := 75 / 100
  greenReenterRatio : ℚ := 65 / 100
  redEnterRatio : ℚ := 90 / 100
  amberReenterRatio : ℚ := 82 / 100
  recoveryGreenSamples : Nat := 3
  defaultVisionStaleMs : Nat := 100
  oomFailuresBeforeQuarantine : Nat := 2
  quarantineMs : Nat := 60000
  diagnosticCapacity : Nat := 2048

/-- The assertions of `ResourceBrokerConfig::validate`. -/
def ResourceBrokerConfig.Valid (c : ResourceBrokerConfig) : Prop :=
  0 < c.vramCeilingBytes ∧ 0 < c.transientVramGraceMs ∧ c.greenReenterRatio < c.amberEnterRatio ∧
    c.amberEnterRatio < c.amberReenterRatio ∧ c.amberReenterRatio < c.redEnterRatio ∧
    c.redEnterRatio ≤ 1 ∧ 0 < c.recoveryGreenSamples ∧ 0 < c.oomFailuresBeforeQuarantine ∧
    0 < c.diagnosticCapacity

instance (c : ResourceBrokerConfig) : Decidable c.Valid := by
  unfold ResourceBrokerConfig.Valid; infer_instance

/-! ## Diagnostics -/

inductive PressureLevel where
  | green
  | amber
  | red
deriving DecidableEq

inductive BrokerDegradation where
  | reduceContinuousVision
  | disableScreenSpaceLipSync
  | neutralizeOptionalEffects
  | disableVectorRetrieval
  | audioAndSubtitlesOnly
  | typedInputOrSubtitles
  | retryableLlmFailure
deriving DecidableEq

/-- `DEGRADATION_ORDER`. -/
def degradationOrder : List BrokerDegradation :=
  [.reduceContinuousVision, .disableScreenSpaceLipSync, .neutralizeOptionalEffects,
    .disableVectorRetrieval, .audioAndSubtitlesOnly, .typedInputOrSubtitles, .retryableLlmFailure]

inductive AdmissionOutcome where
  | admittedPrimary
  | admittedFallback
  | queued
  | droppedStale
  | droppedLate
  | droppedPressure
  | rejectedPrivacy
  | rejectedQuarantined
  | rejectedNoCapacity
  | rejectedDuplicate
  | rejectedUtteranceBinding
  | cancelled
deriving DecidableEq

structure ResourceProjection where
  ramBytes : Nat
  vramBytes : Nat
  vramCeilingBytes : Nat
  transientOvershootBytes : Nat
deriving DecidableEq

structure AdmissionDiagnostic where
  monotonicMs : Nat
  jobId : String
  kind : ResourceJobKind
  priority : JobPriority
  outcome : AdmissionOutcome
  selectedTargetId : Option String
  pressure : PressureLevel
  activeDegradations : List BrokerDegradation
  projection : ResourceProjection
  reason : String
deriving DecidableEq

inductive CompletionStatus where
  | completed
  | failed
  | cancelled
  | outOfMemory
  | deadlineMissed
deriving DecidableEq

structure ActualUsage where
  peakRamBytes : Nat := 0
  peakVramBytes : Nat := 0
  gpuTimeMs : Nat := 0
deriving DecidableEq

structure ActualDiagnostic where
  monotonicMs : Nat
  jobId : String
  targetId : String
  estimated : ResourceEstimate
  actual : ActualUsage
  actualUsageMeasured : Bool
  status : CompletionStatus
  deadlineMissed : Bool
  cancelledByBroker : Bool
deriving DecidableEq

inductive BrokerDiagnostic where
  | pressureChanged (monotonicMs : Nat) (fromLevel toLevel : PressureLevel) (utilizationRatio : ℚ)
  | degradationChanged (monotonicMs : Nat) (active : List BrokerDegradation) (reason : String)
  | admission (diagnostic : AdmissionDiagnostic)
  | actual (diagnostic : ActualDiagnostic)
  | targetQuarantined (monotonicMs : Nat) (targetId : String) (untilMs oomFailures : Nat)
  | cancellationRequested (monotonicMs : Nat) (jobId reason : String)
deriving DecidableEq

inductive RecoveryDirective where
  | retrySameTargetAfterEviction (targetId : String)
  | retryFallback (targetId : String)
  | abortUtteranceNoModelSwap
  | quarantinedNoSafeFallback
  | jobNotActive
deriving DecidableEq

/-! ## State -/

/-- The identity of a `ResourceLease`. Whoever holds one may finish or drop it. -/
structure ResourceLease where
  jobId : String
  targetId : String
deriving DecidableEq

structure Submission where
  diagnostic : AdmissionDiagnostic
  lease : Option ResourceLease
deriving DecidableEq

structure Reservations where
  ramBytes : Nat := 0
  vramResidentBytes : Nat := 0
  vramTransientBytes : Nat := 0
  gpuLeases : Nat := 0
  exclusiveGpuJob : Option String := none
  foregroundTurnJob : Option String := none
deriving DecidableEq

structure ActiveRecord where
  job : ResourceJob
  target : ComputeTarget
  /-- Whether the lease's cancellation token is cancelled. -/
  cancellation : Bool
  outputStarted : Bool
  cancelledByBroker : Bool
  transientDeadlineMs : Option Nat
  /-- Ghost: the amounts `reserve` added for this lease. -/
  reserved : ResourceEstimate
deriving DecidableEq

structure TargetHealth where
  oomFailures : Nat := 0
  quarantineUntilMs : Nat := 0
deriving DecidableEq

structure QueuedRecord where
  sequence : Nat
  job : ResourceJob
deriving DecidableEq

structure BrokerState where
  pressure : PressureLevel := .green
  greenSamples : Nat := 0
  degradationCount : Nat := 0
  sequence : Nat := 0
  reservations : Reservations := {}
  active : Table String ActiveRecord := ∅
  queued : List QueuedRecord := []
  targetHealth : Table String TargetHealth := ∅
  residency : Table String ModelResidencyRecord := ∅
  utteranceBindings : Table String String := ∅
  diagnostics : List BrokerDiagnostic := []
  telemetryAccounted : BrokerAccountedGpuUsage := ⟨0, 0⟩
  /-- Ghost: every diagnostic pushed so far, oldest first. -/
  emitted : List BrokerDiagnostic := []

end NpcRuntime.Broker
