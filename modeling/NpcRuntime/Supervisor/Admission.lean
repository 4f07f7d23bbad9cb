import NpcRuntime.Broker.Step
import NpcRuntime.Lib.Result
import NpcRuntime.Policy

/-!
# Supervisor: admission of a turn

`admit_turn_resources` of `runtime-core/src/supervisor.rs` makes a broker job out of a turn's
request and its resource plan and submits it. The request's policy is thereby applied a second time,
by the broker, on the flags that are copied into the job (`turnPrivacy`). One flag is not copied:
`allow_provider_fallback`. Admission respects the policy exactly when that makes no difference
(`admission_respects_policy_iff`).
-/

namespace NpcRuntime.Supervisor

open Broker

structure TurnResourcePlan where
  primary : ComputeTarget
  fallbacks : List ComputeTarget
  deadlineMs : Option Nat
  priority : JobPriority
  dropPolicy : DropPolicy
deriving DecidableEq

inductive StartTurnError where
  | invalidRequest (error : ValidationError)
  | shuttingDown
  | resourceBroker (error : BrokerError)
  | resourceNotAdmitted (outcome : AdmissionOutcome) (reason : String)
deriving DecidableEq

def turnJobId (identity : TurnIdentity) : String :=
  "turn/" ++ identity.sessionId ++ "/" ++ identity.turnId ++ "/" ++
    toString identity.cancellationGeneration

/-- The part of a request that is copied into its job. -/
def turnPrivacy (request : TurnRequest) : BrokerPrivacyContext where
  executionMode := request.executionMode
  networkPolicy := request.networkPolicy
  authorizedCloudProviders := request.authorizedCloudProviders
  allowRetainingProviders := request.allowRetainingProviders
  allowLocalToCloudFallback := request.allowLocalToCloudFallback

def turnJob (request : TurnRequest) (identity : TurnIdentity) (plan : TurnResourcePlan) :
    ResourceJob where
  jobId := turnJobId identity
  kind := .interactiveTurn identity.display
  priority := plan.priority
  deadlineMs := plan.deadlineMs
  primary := plan.primary
  fallbacks := plan.fallbacks
  dropPolicy := plan.dropPolicy
  privacy := turnPrivacy request

/-- The first half of `admit_turn_resources`: the planner's answer is submitted. -/
def submitTurn (cfg : ResourceBrokerConfig) (r : Reading)
    (plan : Except BrokerError TurnResourcePlan) (request : TurnRequest) (identity : TurnIdentity)
    (s : BrokerState) : BrokerState × Except StartTurnError Submission :=
  match plan with
  | .error error => (s, .error (.resourceBroker error))
  | .ok plan =>
    match submit cfg r (turnJob request identity plan) s with
    | (s, .error error) => (s, .error (.resourceBroker error))
    | (s, .ok submission) => (s, .ok submission)

/-- A turn cannot own a lease that is handed out later, so a submission without one is withdrawn. -/
def withdrawTurn (cfg : ResourceBrokerConfig) (r : Reading) (identity : TurnIdentity)
    (s : BrokerState) : BrokerState :=
  (cancel cfg r (turnJobId identity) "turn start requires immediate admission" s).1

def notAdmitted (submission : Submission) : StartTurnError :=
  .resourceNotAdmitted submission.diagnostic.outcome submission.diagnostic.reason

/-- `admit_turn_resources` of a supervisor with resource admission. The two readings are those of
the submission and of its withdrawal. -/
def admitTurnResources (cfg : ResourceBrokerConfig) (r r' : Reading)
    (plan : Except BrokerError TurnResourcePlan) (request : TurnRequest) (identity : TurnIdentity)
    (s : BrokerState) : BrokerState × Except StartTurnError (ResourceLease × String) :=
  match submitTurn cfg r plan request identity s with
  | (s, .error error) => (s, .error error)
  | (s, .ok submission) =>
    match submission.lease with
    | some lease => (s, .ok (lease, turnJobId identity))
    | none => (withdrawTurn cfg r' identity s, .error (notAdmitted submission))

/-! ## The two policies -/

theorem allows_eq_true {c : BrokerPrivacyContext} {provider : ProviderDescriptor} :
    c.allows provider = true ↔
      (provider.location.isNetworked = true → c.networkPolicy = .online ∧
        c.executionMode ≠ .fullyLocal ∧ provider.id ∈ c.authorizedCloudProviders) ∧
      (provider.mayRetainData = true → c.allowRetainingProviders = true) := by
  unfold BrokerPrivacyContext.allows
  split_ifs with hretain hnetworked
  · rw [Bool.and_eq_true, Bool.not_eq_true'] at hretain
    simp [hretain]
  · rw [Bool.not_eq_true'] at hnetworked
    simpa [hnetworked] using hretain
  · simp only [Bool.not_eq_true', Bool.not_eq_false] at hnetworked
    have hkeeps : provider.mayRetainData = true → c.allowRetainingProviders = true := by
      simpa using hretain
    simp only [hnetworked, Bool.and_eq_true, beq_iff_eq, bne_iff_ne, List.contains_iff_mem,
      forall_const, and_assoc]
    exact ⟨fun h => ⟨h.1, h.2.1, h.2.2, hkeeps⟩, fun h => ⟨h.1, h.2.1, h.2.2.1⟩⟩

/-- The privacy check of the broker is the one of the request. -/
theorem allows_iff_evaluate (request : TurnRequest) (provider : ProviderDescriptor) :
    (turnPrivacy request).allows provider = true ↔
      (RoutingPlan.fromRequest request).privacy.evaluate provider = .allowed := by
  have honline : request.networkPolicy = .online ↔ request.networkPolicy ≠ .offline := by
    cases request.networkPolicy <;> simp
  rw [PrivacyPolicy.evaluate_eq_allowed, allows_eq_true]
  simp only [turnPrivacy, RoutingPlan.fromRequest, PrivacyPolicy.fromRequest, honline]

variable {primary fallback : ProviderDescriptor}

theorem allows_of_allowsFallback {c : BrokerPrivacyContext}
    (h : c.allowsFallback primary fallback = true) : c.allows fallback = true := by
  simp only [BrokerPrivacyContext.allowsFallback, Bool.and_eq_true] at h
  exact h.1

/-- Where the broker lets a fallback through, the request's policy does so too if it allows fallback
providers or the provider is the same. -/
theorem allowsTransition_of_allowsFallback {request : TurnRequest}
    (h : (turnPrivacy request).allowsFallback primary fallback = true) :
    (RoutingPlan.fromRequest request).fallback.allowsTransition primary fallback = true ↔
      request.allowProviderFallback = true ∨ fallback.id = primary.id := by
  by_cases hsame : primary.id = fallback.id
  · simp [FallbackPolicy.allowsTransition, hsame]
  · rw [FallbackPolicy.allowsTransition_of_ne hsame]
    simp only [BrokerPrivacyContext.allowsFallback, Bool.and_eq_true, Bool.or_eq_true,
      turnPrivacy] at h
    obtain ⟨-, hlocal⟩ := h
    constructor
    · rintro ⟨hallow, -⟩
      exact .inl hallow
    · rintro (hallow | hid)
      · refine ⟨hallow, ?_⟩
        intro hprimary hcloud
        have hflag : request.allowLocalToCloudFallback = true := by
          rw [hprimary, ProviderLocation.isLocal, hcloud] at hlocal
          simpa using hlocal
        exact hflag
      · exact absurd hid.symm hsame

/-! ## Leases -/

variable {cfg : ResourceBrokerConfig} {s : BrokerState} {request : TurnRequest}
  {identity : TurnIdentity} {plan : TurnResourcePlan} {target : ComputeTarget}

/-- The lease of a submission is on a target that its job's privacy context lets through. -/
theorem selectTargetLocked_privacy {b : BudgetSnapshot} {job : ResourceJob}
    {outcome : AdmissionOutcome}
    (h : selectTargetLocked cfg s b job true = some (target, outcome)) :
    (target = job.primary ∧ job.privacy.allows target.provider = true) ∨
      (target ∈ job.fallbacks ∧
        job.privacy.allowsFallback job.primary.provider target.provider = true) := by
  have hmem := List.mem_of_find?_eq_some h
  have hadmissible := List.find?_some h
  simp only [candidateAdmissible, Bool.not_true, Bool.and_false, Bool.false_eq_true,
    if_false] at hadmissible
  split_ifs at hadmissible with hbound hprimary
  · simp only [Bool.not_or, Bool.and_eq_true, Bool.not_not] at hadmissible
    rcases List.mem_cons.1 hmem with heq | hmem
    · exact .inl ⟨(Prod.mk.inj heq).1, hadmissible.1.1.1⟩
    · obtain ⟨t, -, heq⟩ := List.mem_map.1 hmem
      rw [← (Prod.mk.inj heq).2] at hprimary
      cases hprimary
  · simp only [Bool.not_or, Bool.and_eq_true, Bool.not_not] at hadmissible
    rcases List.mem_cons.1 hmem with heq | hmem
    · rw [(Prod.mk.inj heq).2] at hprimary
      exact absurd rfl hprimary
    · obtain ⟨t, ht, heq⟩ := List.mem_map.1 hmem
      rw [← (Prod.mk.inj heq).1] at hadmissible ⊢
      exact .inr ⟨ht, hadmissible.1.1.1⟩

/-- A turn with a plan is submitted to the broker. -/
theorem submitTurn_plan (r : Reading) : submitTurn cfg r (.ok plan) request identity s =
    ((submit cfg r (turnJob request identity plan) s).1,
      (submit cfg r (turnJob request identity plan) s).2.mapError .resourceBroker) := by
  simp only [submitTurn]
  split <;> rename_i hsubmit <;> rw [hsubmit] <;> rfl

variable {r : Reading}

/-- What the submission of a turn returns, the broker has returned. -/
theorem submitTurn_ok {submission : Submission}
    (h : (submitTurn cfg r (.ok plan) request identity s).2 = .ok submission) :
    (submit cfg r (turnJob request identity plan) s).2 = .ok submission := by
  rw [submitTurn_plan] at h
  exact mapError_eq_ok.1 h

/-- What a turn that obtains a lease has passed. -/
theorem admitTurnResources_lease {r' : Reading} {lease : ResourceLease} {jobId : String}
    (h : (admitTurnResources cfg r r' (.ok plan) request identity s).2 = .ok (lease, jobId)) :
    validateJob (turnJob request identity plan) = .ok () ∧ ∃ s' b target outcome,
      selectTargetLocked cfg s' b (turnJob request identity plan) true = some (target, outcome) ∧
      lease = ⟨turnJobId identity, target.targetId⟩ := by
  simp only [admitTurnResources] at h
  cases hsubmit : submitTurn cfg r (.ok plan) request identity s with
  | mk s₁ result =>
    cases result with
    | error error =>
      simp only [hsubmit] at h
      cases h
    | ok submission =>
      simp only [hsubmit] at h
      split at h
      · rename_i granted hgranted
        cases h
        obtain ⟨hvalid, b, s₂, target, outcome, -, hselect, -, rfl⟩ :=
          submit_lease (submitTurn_ok (congrArg Prod.snd hsubmit)) hgranted
        exact ⟨hvalid, s₂, b, target, outcome, hselect, rfl⟩
      · cases h

/-- The request's policy lets the turn run on the target. -/
def PolicyAllows (request : TurnRequest) (plan : TurnResourcePlan) (target : ComputeTarget) :
    Prop :=
  (RoutingPlan.fromRequest request).privacy.evaluate target.provider = .allowed ∧
    (target ≠ plan.primary → (RoutingPlan.fromRequest request).fallback.allowsTransition
      plan.primary.provider target.provider = true)

/-- A fallback of another provider is within the broker's reach. -/
def ReachesOtherProvider (request : TurnRequest) (identity : TurnIdentity)
    (plan : TurnResourcePlan) : Prop :=
  validateJob (turnJob request identity plan) = .ok () ∧ ∃ fallback ∈ plan.fallbacks,
    (turnPrivacy request).allowsFallback plan.primary.provider fallback.provider = true ∧
      fallback.provider.id ≠ plan.primary.provider.id

/-- Without one, or when the request allows fallback providers, every lease is within the policy. -/
theorem lease_policyAllows {r' : Reading} {lease : ResourceLease} {jobId : String}
    (hcondition : request.allowProviderFallback = true ∨ ¬
      ReachesOtherProvider request identity plan)
    (h : (admitTurnResources cfg r r' (.ok plan) request identity s).2 = .ok (lease, jobId))
    (hmem : target ∈ plan.primary :: plan.fallbacks) (hid : target.targetId = lease.targetId) :
    PolicyAllows request plan target := by
  obtain ⟨hvalid, s', b, selected, outcome, hselect, rfl⟩ := admitTurnResources_lease h
  have hselected : selected ∈ plan.primary :: plan.fallbacks := (selectTargetLocked_spec hselect).1
  obtain rfl : target = selected :=
    List.inj_on_of_nodup_map (validateJob_nodup hvalid) hmem hselected hid
  rcases selectTargetLocked_privacy hselect with ⟨rfl, hallows⟩ | ⟨hfallback, hallows⟩
  · exact ⟨(allows_iff_evaluate request _).1 hallows, fun hne => absurd rfl hne⟩
  · refine ⟨(allows_iff_evaluate request _).1 (allows_of_allowsFallback hallows), ?_⟩
    intro _
    refine (allowsTransition_of_allowsFallback hallows).2 ?_
    rcases hcondition with hallow | hnone
    · exact .inl hallow
    · by_contra hne
      rw [not_or] at hne
      exact hnone ⟨hvalid, target, hfallback, hallows, hne.2⟩

/-! ## A broker at rest

With ample memory and nothing running, only privacy and the utterance's binding decide which target
a job gets. -/

/-- Nothing runs, waits or is quarantined. -/
structure AtRest (s : BrokerState) : Prop where
  active : ∀ k, s.active.lookup k = none
  queued : s.queued = []
  residency : s.residency = ∅
  targetHealth : s.targetHealth = ∅
  gpuLeases : s.reservations.gpuLeases = 0
  exclusive : s.reservations.exclusiveGpuJob = none
  foreground : s.reservations.foregroundTurnJob = none

def ampleConfig : ResourceBrokerConfig where
  vramCeilingBytes := u64Max

def ampleSnapshot : BudgetSnapshot where
  monotonicMs := 0
  systemRamBudgetBytes := u64Max
  systemRamUsedBytes := 0
  additionalGameRamReserveBytes := 0
  gpuVramBudgetBytes := u64Max
  gpuVramUsedBytes := 0
  additionalGameVramReserveBytes := 0
  gpuUtilization := 0

def ampleReading : Reading where
  snapshot := .ok ampleSnapshot
  accounted := .ok ⟨0, 0⟩
  ratio used budget := used / budget

theorem ampleReading_validated : ampleReading.validated = .ok (ampleSnapshot, ⟨0, 0⟩) := by
  have hvalid : ampleSnapshot.validate = .ok ampleSnapshot := by decide +kernel
  simp [Reading.validated, ampleReading, hvalid, bind, Except.bind, pure, Except.pure]

theorem satAdd_le_max (a b : Nat) : satAdd a b ≤ u64Max := min_le_right _ _

namespace AtRest

theorem init : AtRest {} := ⟨fun _ => rfl, rfl, rfl, rfl, rfl, rfl, rfl⟩

variable (h : AtRest s)

include h

theorem of_books {s' : BrokerState} (hbooks : SameBooks s s') : AtRest s' where
  active k := (hbooks.lookup_eq_none k).2 (h.active k)
  queued := hbooks.queued.trans h.queued
  residency := hbooks.residency.trans h.residency
  targetHealth := hbooks.targetHealth.trans h.targetHealth
  gpuLeases := by rw [hbooks.reservations]; exact h.gpuLeases
  exclusive := by rw [hbooks.reservations]; exact h.exclusive
  foreground := by rw [hbooks.reservations]; exact h.foreground

theorem supersedeQueued (b : BudgetSnapshot) (job : ResourceJob) :
    supersedeQueued cfg s b job = s := by
  simp only [Broker.supersedeQueued, h.queued, List.filter_nil, List.map_nil, List.foldl_nil]
  rw [← h.queued]

theorem effectiveJobEstimate (target : ComputeTarget) :
    effectiveJobEstimate s target = some target.estimate := by
  unfold Broker.effectiveJobEstimate
  cases target.modelId with
  | none => rfl
  | some modelId => simp [h.residency]

theorem targetFits (target : ComputeTarget) :
    targetFits ampleConfig s ampleSnapshot target = true := by
  have hceiling : vramCeiling ampleConfig ampleSnapshot = u64Max := min_self _
  have hbudget : ampleSnapshot.systemRamBudgetBytes = u64Max := rfl
  simp only [Broker.targetFits, h.effectiveJobEstimate, hceiling, hbudget]
  rw [if_neg (satAdd_le_max _ _).not_gt, if_neg (satAdd_le_max _ _).not_gt,
    if_pos (satAdd_le_max _ _)]

theorem isTargetQuarantined (targetId : String) (nowMs : Nat) :
    isTargetQuarantined s targetId nowMs = false := by
  simp [Broker.isTargetQuarantined, h.targetHealth, h.residency, Table.values]

theorem residencyAvailable (job : ResourceJob) (target : ComputeTarget) :
    residencyAvailable s job target = true := by
  unfold Broker.residencyAvailable
  rw [if_neg (by simp [h.foreground]), if_neg (by simp [h.residency])]
  cases target.gpuResidency <;> simp [h.exclusive, h.gpuLeases]

theorem candidateAdmissible (job : ResourceJob) (target : ComputeTarget)
    (outcome : AdmissionOutcome) :
    candidateAdmissible ampleConfig s ampleSnapshot job true (target, outcome) =
      (((boundTarget s job).all fun bound => bound == target.targetId) &&
        if outcome == .admittedPrimary then job.privacy.allows target.provider
        else job.privacy.allowsFallback job.primary.provider target.provider) := by
  simp only [Broker.candidateAdmissible, h.isTargetQuarantined, h.targetFits, h.residencyAvailable,
    Bool.not_true, Bool.and_false, Bool.false_eq_true, if_false, Bool.or_false, Bool.not_not]
  cases boundTarget s job with
  | none => simp
  | some bound => by_cases hbound : bound = target.targetId <;> simp [hbound]

end AtRest

/-- The state of a broker behind the prologue of `submit`. -/
def observed (s : BrokerState) : BrokerState :=
  observe ampleConfig ampleReading.ratio ampleSnapshot ⟨0, 0⟩ s

theorem AtRest.observed (h : AtRest s) : AtRest (observed s) :=
  h.of_books (sameBooks_observe _ _ _ _)

/-- A turn that is submitted to a broker at rest is admitted to the target that is selected. -/
theorem AtRest.submit (h : AtRest s) {job : ResourceJob} {utterance : String}
    (hvalid : validateJob job = .ok ()) (hkind : job.kind = .interactiveTurn utterance)
    {outcome : AdmissionOutcome}
    (hselect : selectTargetLocked ampleConfig (Supervisor.observed s) ampleSnapshot job true =
      some (target, outcome)) :
    submit ampleConfig ampleReading job s =
      (admitLocked ampleConfig (Supervisor.observed s) ampleSnapshot job target outcome).map id
        .ok := by
  have hrest := h.observed
  have hknown : isKnownJob (Supervisor.observed s) job.jobId = false :=
    isKnownJob_eq_false.2 ⟨hrest.active _, by simp [hrest.queued]⟩
  have hlate : isLate job ampleSnapshot.monotonicMs = false := by
    simp [isLate, ampleSnapshot]
  have hstale : isStale ampleConfig job ampleSnapshot.monotonicMs = false := by
    simp [isStale, hkind, ResourceJobKind.capturedAtMs]
  have hdrop : dropBeforeAdmission ampleConfig (Supervisor.observed s) ampleSnapshot job =
      none := by
    simp [dropBeforeAdmission, hlate, hstale, hkind, ResourceJobKind.isVisualBurst]
  have hlocked : submitLocked ampleConfig (Supervisor.observed s) ampleSnapshot job =
      admitLocked ampleConfig (Supervisor.observed s) ampleSnapshot job target outcome := by
    simp only [submitLocked, hknown, Bool.false_eq_true, if_false, hdrop, hrest.supersedeQueued,
      hselect]
  simp only [Broker.submit, hvalid, ampleReading_validated]
  rw [show observe ampleConfig ampleReading.ratio ampleSnapshot ⟨0, 0⟩ s =
    Supervisor.observed s from rfl, hlocked]
  rfl

/-! ## An utterance bound to a fallback -/

/-- A job of the utterance whose primary is not authorized, so that it runs on its fallback. -/
def reroutedJob (fallback : ComputeTarget) (utterance : String) : ResourceJob where
  jobId := "rerouted"
  kind := .interactiveTurn utterance
  priority := .interactive
  deadlineMs := none
  primary := { fallback with
    targetId := fallback.targetId ++ "x"
    provider := { fallback.provider with
      id := fallback.provider.id ++ "x"
      location := .cloud "" } }
  fallbacks := [fallback]
  dropPolicy := .never
  privacy := ⟨.hybrid, .online, [fallback.provider.id], true, true⟩

/-- The job runs, starts its output and ends: its utterance stays bound to the fallback. -/
def bindingCalls (fallback : ComputeTarget) (utterance : String) : List Call :=
  [⟨ampleReading, .submit (reroutedJob fallback utterance)⟩,
    ⟨ampleReading, .markOutputStarted "rerouted"⟩,
    ⟨ampleReading, .finishLease "rerouted" {} false .completed⟩]

variable {fallback : ComputeTarget} {utterance : String}

theorem reroutedJob_valid : validateJob (reroutedJob fallback utterance) = .ok () := by
  have hjob : isBlankId "rerouted" = false := by decide
  have hmark : Text.isBlank ['x'] = false := by decide
  have htarget : isBlankId (fallback.targetId ++ "x") = false := by simp [isBlankId, hmark]
  simp [validateJob, reroutedJob, hjob, htarget, ResourceJob.targets]

theorem reroutedJob_selects :
    selectTargetLocked ampleConfig (observed {}) ampleSnapshot (reroutedJob fallback utterance)
      true = some (fallback, .admittedFallback) := by
  have hunbound : boundTarget (observed {}) (reroutedJob fallback utterance) = none := by
    have hbooks : SameBooks {} (observed {}) := sameBooks_observe _ _ _ _
    simp [boundTarget, reroutedJob, ResourceJobKind.utteranceId, hbooks.utteranceBindings]
  have hprimary : (reroutedJob fallback utterance).privacy.allows
      (reroutedJob fallback utterance).primary.provider = false := by
    simp [reroutedJob, BrokerPrivacyContext.allows, ProviderLocation.isNetworked]
  have hfallback : (reroutedJob fallback utterance).privacy.allowsFallback
      (reroutedJob fallback utterance).primary.provider fallback.provider = true := by
    simp [reroutedJob, BrokerPrivacyContext.allowsFallback, BrokerPrivacyContext.allows,
      ProviderLocation.isLocal, ProviderLocation.isNetworked]
  have hrest := AtRest.init.observed
  have hlist : (reroutedJob fallback utterance).fallbacks = [fallback] := rfl
  rw [selectTargetLocked, hlist, List.map_singleton, List.find?_cons, List.find?_cons,
    hrest.candidateAdmissible, hrest.candidateAdmissible, hunbound]
  simp [hprimary, hfallback]

/-- The job runs on the target, and nothing else does. -/
structure Alone (s : BrokerState) (job : ResourceJob) (target : ComputeTarget) : Prop where
  record : ∃ r, s.active.lookup job.jobId = some r ∧ r.job = job ∧ r.target = target
  others : ∀ k, k ≠ job.jobId → s.active.lookup k = none
  queued : s.queued = []
  residency : s.residency = ∅
  targetHealth : s.targetHealth = ∅
  gpuLeases : s.reservations.gpuLeases = if target.gpuResidency != .none then 1 else 0
  exclusive : s.reservations.exclusiveGpuJob =
    if target.gpuResidency == .exclusive then some job.jobId else none
  foreground : s.reservations.foregroundTurnJob =
    if job.kind.holdsForegroundTurnSlot then some job.jobId else none

theorem registeredModelForTarget_empty (h : s.residency = ∅) (target : ComputeTarget) :
    registeredModelForTarget s target = none := by
  unfold registeredModelForTarget
  cases target.modelId <;> simp [h]

theorem AtRest.admitLocked (h : AtRest s) (cfg : ResourceBrokerConfig) (b : BudgetSnapshot)
    (job : ResourceJob) (target : ComputeTarget) (outcome : AdmissionOutcome) :
    Alone (admitLocked cfg s b job target outcome).1 job target where
  record := ⟨_, admitLocked_lookup_self s b job target outcome, rfl, rfl⟩
  others k hk := by
    rw [admitLocked_active, Table.lookup_insert_eq, if_neg hk]
    exact h.active k
  queued := h.queued
  residency := by
    have hnone := registeredModelForTarget_empty h.residency target
    simp only [Broker.admitLocked, reserve, pushAdmission, pushDiagnostic, hnone, Option.map_none]
    exact h.residency
  targetHealth := h.targetHealth
  gpuLeases := by
    show (if target.gpuResidency != .none then s.reservations.gpuLeases + 1
      else s.reservations.gpuLeases) = _
    rw [h.gpuLeases]
  exclusive := by
    show (if target.gpuResidency == .exclusive then some job.jobId
      else s.reservations.exclusiveGpuJob) = _
    rw [h.exclusive]
  foreground := by
    show (if job.kind.holdsForegroundTurnSlot then some job.jobId
      else s.reservations.foregroundTurnJob) = _
    rw [h.foreground]

namespace Alone

variable {job : ResourceJob} {target : ComputeTarget}

/-- Its output binds its utterance. -/
theorem markOutputStarted (h : Alone s job target) (hkind : job.kind = .interactiveTurn utterance) :
    Alone (markOutputStarted job.jobId s).1 job target ∧
      (markOutputStarted job.jobId s).1.utteranceBindings.lookup utterance =
        some target.targetId := by
  obtain ⟨r, hr, hjob, htarget⟩ := h.record
  have hstep : (Broker.markOutputStarted job.jobId s).1 = startOutput s job.jobId r := by
    simp only [Broker.markOutputStarted, hr]
  rw [hstep]
  refine ⟨⟨?_, ?_, h.queued, h.residency, h.targetHealth, h.gpuLeases, h.exclusive,
    h.foreground⟩, ?_⟩
  · refine ⟨{ r with outputStarted := true }, ?_, hjob, htarget⟩
    show (s.active.modify job.jobId _).lookup job.jobId = _
    rw [Table.lookup_modify, if_pos rfl, hr]
    rfl
  · intro k hk
    show (s.active.modify job.jobId _).lookup k = _
    rw [Table.lookup_modify, if_neg hk]
    exact h.others k hk
  · simp only [startOutput, hjob, hkind, ResourceJobKind.utteranceId, htarget]
    rw [Table.lookup_insert_eq, if_pos rfl]

/-- When it ends the broker is at rest, and the utterance stays bound. -/
theorem finishLease (h : Alone s job target) (cfg : ResourceBrokerConfig) (r : Reading)
    (actual : ActualUsage) (measured : Bool) (status : CompletionStatus) :
    AtRest (finishLease cfg r job.jobId actual measured status s) ∧
      (finishLease cfg r job.jobId actual measured status s).utteranceBindings =
        s.utteranceBindings := by
  obtain ⟨record, hrecord, hjob, htarget⟩ := h.record
  have hnone : registeredModelForTarget { s with active := s.active.erase job.jobId } target =
      none := registeredModelForTarget_empty h.residency target
  simp only [Broker.finishLease, hrecord, pushDiagnostic, endLease, release, hjob, htarget, hnone,
    Option.map_none]
  refine ⟨⟨?_, h.queued, h.residency, ?_, ?_, ?_, ?_⟩, trivial⟩
  · intro k
    rw [Table.lookup_erase_eq]
    by_cases hk : k = job.jobId
    · rw [if_pos hk]
    · rw [if_neg hk]
      exact h.others k hk
  · show (if status = .completed then s.targetHealth.erase target.targetId
      else s.targetHealth) = ∅
    rw [h.targetHealth]
    split_ifs <;> rfl
  · show (if target.gpuResidency != .none then s.reservations.gpuLeases - 1
      else s.reservations.gpuLeases) = 0
    rw [h.gpuLeases]
    cases target.gpuResidency <;> rfl
  · show (if s.reservations.exclusiveGpuJob == some job.jobId then none
      else s.reservations.exclusiveGpuJob) = none
    rw [h.exclusive]
    cases target.gpuResidency <;> simp
  · show (if s.reservations.foregroundTurnJob == some job.jobId then none
      else s.reservations.foregroundTurnJob) = none
    rw [h.foreground]
    cases job.kind.holdsForegroundTurnSlot <;> simp

end Alone

/-- **An utterance can be bound to any target while nothing runs.** -/
theorem bindingCalls_run :
    AtRest (run ampleConfig (bindingCalls fallback utterance)) ∧
      (run ampleConfig (bindingCalls fallback utterance)).utteranceBindings.lookup utterance =
        some fallback.targetId := by
  have hkind : (reroutedJob fallback utterance).kind = .interactiveTurn utterance := rfl
  have hsubmit := AtRest.init.submit reroutedJob_valid hkind reroutedJob_selects
  have halone := AtRest.init.observed.admitLocked ampleConfig ampleSnapshot
    (reroutedJob fallback utterance) fallback .admittedFallback
  obtain ⟨houtput, hbound⟩ := halone.markOutputStarted hkind
  obtain ⟨hrest, hkept⟩ := houtput.finishLease ampleConfig ampleReading {} false .completed
  have hrun : run ampleConfig (bindingCalls fallback utterance) =
      finishLease ampleConfig ampleReading "rerouted" {} false .completed
        (markOutputStarted "rerouted"
          (submit ampleConfig ampleReading (reroutedJob fallback utterance) {}).1).1 := by
    simp only [run, runFrom, bindingCalls, List.foldl_cons, List.foldl_nil, step, respond,
      Prod.map_fst, id_eq]
  rw [hrun, hsubmit]
  refine ⟨hrest, ?_⟩
  rw [← hbound, ← hkept]
  rfl

/-- A turn whose utterance is bound to one of its fallbacks obtains a lease on it. -/
theorem admitTurnResources_bound (hvalid : validateJob (turnJob request identity plan) = .ok ())
    (hfallback : fallback ∈ plan.fallbacks)
    (hallows : (turnPrivacy request).allowsFallback plan.primary.provider fallback.provider = true)
    (hrest : AtRest s) (hbound : s.utteranceBindings.lookup identity.display =
      some fallback.targetId) :
    ∃ lease jobId, (admitTurnResources ampleConfig ampleReading ampleReading (.ok plan) request
      identity s).2 = .ok (lease, jobId) ∧ fallback.targetId = lease.targetId := by
  have hbooks : SameBooks s (observed s) := sameBooks_observe _ _ _ _
  have hbinding : boundTarget (observed s) (turnJob request identity plan) =
      some fallback.targetId := by
    simp only [boundTarget, turnJob, ResourceJobKind.utteranceId, Option.bind_some,
      hbooks.utteranceBindings, hbound]
  have hsome : (selectTargetLocked ampleConfig (observed s) ampleSnapshot
      (turnJob request identity plan) true).isSome = true := by
    refine List.find?_isSome.2 ⟨(fallback, .admittedFallback), ?_, ?_⟩
    · exact List.mem_cons_of_mem _ (List.mem_map_of_mem hfallback)
    · rw [hrest.observed.candidateAdmissible, hbinding]
      simpa [turnJob] using hallows
  obtain ⟨⟨target, outcome⟩, hselect⟩ := Option.isSome_iff_exists.1 hsome
  have hsame := (selectTargetLocked_spec hselect).2.1 _ hbinding
  have hkind : (turnJob request identity plan).kind = .interactiveTurn identity.display := rfl
  refine ⟨⟨turnJobId identity, target.targetId⟩, turnJobId identity, ?_, hsame.symm⟩
  simp only [admitTurnResources, submitTurn, hrest.submit hvalid hkind hselect]
  rfl

/-- **When admission respects the turn's provider policy.** Whatever the broker's configuration,
history and telemetry, a lease is on a target that the request's policy allows, exactly when the
request allows fallback providers or the broker cannot reach a fallback of another provider. -/
theorem admission_respects_policy_iff (request : TurnRequest) (identity : TurnIdentity)
    (plan : TurnResourcePlan) :
    (∀ (cfg : ResourceBrokerConfig) (calls : List Call) (r r' : Reading) (lease : ResourceLease)
      (jobId : String) (target : ComputeTarget), cfg.Valid →
      (admitTurnResources cfg r r' (.ok plan) request identity (run cfg calls)).2 =
        .ok (lease, jobId) →
      target ∈ plan.primary :: plan.fallbacks → target.targetId = lease.targetId →
        PolicyAllows request plan target) ↔
    (request.allowProviderFallback = true ∨ ¬ ReachesOtherProvider request identity plan) := by
  constructor
  · intro h
    by_contra hcondition
    rw [not_or, not_not] at hcondition
    obtain ⟨hdenied, hvalid, fallback, hfallback, hallows, hother⟩ := hcondition
    -- The broker has bound the turn's utterance to the fallback.
    obtain ⟨hrest, hbound⟩ := @bindingCalls_run fallback identity.display
    obtain ⟨lease, jobId, hlease, hid⟩ :=
      admitTurnResources_bound hvalid hfallback hallows hrest hbound
    have hpolicy := h ampleConfig _ _ _ _ _ fallback (by decide +kernel) hlease
      (List.mem_cons_of_mem _ hfallback) hid
    have hne : fallback ≠ plan.primary := by
      rintro rfl
      exact hother rfl
    rcases (allowsTransition_of_allowsFallback hallows).1 (hpolicy.2 hne) with hallow | hsame
    · exact hdenied hallow
    · exact hother hsame
  · intro hcondition cfg calls r r' lease jobId target _ hlease hmem hid
    exact lease_policyAllows hcondition hlease hmem hid

namespace Sample

/-- A request that forbids fallback providers. -/
def localRequest : TurnRequest where
  sessionId := "session"
  turnId := "turn"
  transcript := "hello"
  gameId := "generic"
  locale := "en-US"
  executionMode := .fullyLocal
  networkPolicy := .offline
  allowProviderFallback := false
  allowLocalToCloudFallback := false
  allowRetainingProviders := false

def firstTurn : TurnIdentity := ⟨"session", "turn", 1⟩

/-- A small model of another local provider. -/
def smallTarget : ComputeTarget :=
  { Broker.Sample.target "small" 200 0 0 .shared with
    provider := Broker.Sample.localProvider "other" }

/-- The primary does not fit the ceiling of 1000 MiB. -/
def splitPlan : TurnResourcePlan where
  primary := Broker.Sample.target "large" 5000 0 0 .shared
  fallbacks := [smallTarget]
  deadlineMs := none
  priority := .interactive
  dropPolicy := .never

end Sample

/-- The turn runs on another provider than its request allows. -/
theorem fallback_provider_against_policy :
    Broker.Sample.config.Valid ∧
      (admitTurnResources Broker.Sample.config (Broker.Sample.reading 0) (Broker.Sample.reading 0)
        (.ok Sample.splitPlan) Sample.localRequest Sample.firstTurn
        (run Broker.Sample.config [])).2 =
          .ok (⟨"turn/session/turn/1", "small"⟩, "turn/session/turn/1") ∧
      Sample.smallTarget ∈ Sample.splitPlan.primary :: Sample.splitPlan.fallbacks ∧
      Sample.smallTarget.targetId = "small" ∧
      ¬ PolicyAllows Sample.localRequest Sample.splitPlan Sample.smallTarget := by
  refine ⟨by decide +kernel, by decide +kernel, by decide +kernel, rfl, ?_⟩
  unfold PolicyAllows
  decide +kernel

end NpcRuntime.Supervisor
