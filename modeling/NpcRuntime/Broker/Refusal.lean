import NpcRuntime.Broker.Step

/-!
# Refused submissions

A submission that is rejected or dropped leaves the queue, the active jobs, the reservations, the
residency ledger, the target health and the utterance bindings as they were (`Undisturbed`), with one
exception: a job that supersedes queued ones removes them before `submit` knows that the job itself
is refused for good.
-/

namespace NpcRuntime.Broker

variable {cfg : ResourceBrokerConfig}

/-- The `Rejected*` and `Dropped*` outcomes. -/
def AdmissionOutcome.isRefusal : AdmissionOutcome → Bool
  | .droppedStale | .droppedLate | .droppedPressure | .rejectedPrivacy | .rejectedQuarantined
  | .rejectedNoCapacity | .rejectedDuplicate | .rejectedUtteranceBinding => true
  | .admittedPrimary | .admittedFallback | .queued | .cancelled => false

/-- A record after the overages have been expired. -/
def expireOverage (nowMs : Nat) (record : ActiveRecord) : ActiveRecord :=
  if overageExpired nowMs record then
    { record with cancelledByBroker := true, cancellation := true }
  else record

/-- At most pressure, degradation, telemetry, diagnostics and expiry cancellations differ. -/
structure Undisturbed (nowMs : Nat) (s s' : BrokerState) : Prop where
  queued : s'.queued = s.queued
  active : s'.active = s.active.mapVal fun _ record => expireOverage nowMs record
  reservations : s'.reservations = s.reservations
  residency : s'.residency = s.residency
  targetHealth : s'.targetHealth = s.targetHealth
  utteranceBindings : s'.utteranceBindings = s.utteranceBindings

/-- The job removes queued ones: it is neither a duplicate nor a stale frame, which are refused
before. -/
def Supersedes (cfg : ResourceBrokerConfig) (nowMs : Nat) (job : ResourceJob) (s : BrokerState) :
    Prop :=
  (∃ queued ∈ s.queued, supersededBy job queued = true) ∧ isKnownJob s job.jobId = false ∧
    isStale cfg job nowMs = false

instance (nowMs : Nat) (job : ResourceJob) (s : BrokerState) :
    Decidable (Supersedes cfg nowMs job s) := by
  unfold Supersedes
  infer_instance

/-! ## The state that is refused in -/

theorem active_foldl_pushDiagnostic {α : Type*} (f : BrokerState → α → BrokerDiagnostic)
    (l : List α) (s : BrokerState) :
    (l.foldl (fun s a => pushDiagnostic cfg (f s a) s) s).active = s.active := by
  induction l generalizing s with
  | nil => rfl
  | cons a l ih => exact ih (pushDiagnostic cfg (f s a) s)

theorem active_updatePressureLocked (ratio : Nat → Nat → ℚ) (s : BrokerState)
    (b : BudgetSnapshot) : (updatePressureLocked cfg ratio s b).active = s.active := by
  have hset : ∀ u, (setPressure cfg s b.monotonicMs u).active = s.active := by
    intro u
    unfold setPressure
    dsimp only
    split <;> rfl
  have hraise : ∀ s, (raiseToFloor cfg s b.monotonicMs).active = s.active := by
    intro s
    unfold raiseToFloor
    split <;> rfl
  have hcount : ∀ s, (countGreenSample cfg s b.monotonicMs).active = s.active := by
    intro s
    unfold countGreenSample
    split
    · dsimp only
      split <;> rfl
    · rfl
  exact ((hcount _).trans (hraise _)).trans (hset _)

/-- **Observing** expires overages, and disturbs nothing else. -/
theorem undisturbed_observe (ratio : Nat → Nat → ℚ) (b : BudgetSnapshot)
    (accounted : BrokerAccountedGpuUsage) (s : BrokerState) :
    Undisturbed b.monotonicMs s (observe cfg ratio b accounted s) := by
  have hbooks := @sameBooks_observe cfg ratio b accounted s
  refine ⟨hbooks.queued, ?_, hbooks.reservations, hbooks.residency, hbooks.targetHealth,
    hbooks.utteranceBindings⟩
  rw [observe, active_updatePressureLocked, expireTransientOveragesLocked]
  exact active_foldl_pushDiagnostic (fun _ => _) _ _

theorem Undisturbed.rejectedSubmission {nowMs : Nat} {s s' : BrokerState}
    (h : Undisturbed nowMs s s') (b : BudgetSnapshot) (job : ResourceJob)
    (outcome : AdmissionOutcome) (reason : String) :
    Undisturbed nowMs s (rejectedSubmission cfg s' b job outcome reason).1 :=
  ⟨h.queued, h.active, h.reservations, h.residency, h.targetHealth, h.utteranceBindings⟩

variable {s : BrokerState}

theorem isKnownJob_of_undisturbed {nowMs : Nat} {s' : BrokerState} (h : Undisturbed nowMs s s')
    (jobId : String) : isKnownJob s' jobId = isKnownJob s jobId := by
  unfold isKnownJob
  rw [h.queued, h.active, Table.lookup_mapVal, Option.isSome_map]

variable {b : BudgetSnapshot} {job : ResourceJob}

/-- Of the jobs that supersede, only stale frames are dropped before admission. -/
theorem dropBeforeAdmission_of_supersededBy {queued : QueuedRecord}
    (h : supersededBy job queued = true) :
    dropBeforeAdmission cfg s b job =
      if isStale cfg job b.monotonicMs then
        some (rejectedSubmission cfg s b job .droppedStale "vision frame is stale")
      else none := by
  cases hpolicy : job.dropPolicy with
  | supersede key =>
    unfold dropBeforeAdmission
    simp [hpolicy]
  | never => simp [supersededBy, hpolicy] at h
  | dropIfLate => simp [supersededBy, hpolicy] at h
  | dropIfStale maximumAgeMs => simp [supersededBy, hpolicy] at h
  | dropUnderPressure => simp [supersededBy, hpolicy] at h

theorem isStale_of_dropBeforeAdmission (h : dropBeforeAdmission cfg s b job = none) :
    isStale cfg job b.monotonicMs = false := by
  unfold dropBeforeAdmission at h
  by_contra hstale
  rw [Bool.not_eq_false] at hstale
  rw [hstale] at h
  split at h
  · cases h
  · simp at h

/-- Superseding leaves the queue as it was exactly when it removes nothing. -/
theorem supersedeQueued_queued_eq_iff :
    (supersedeQueued cfg s b job).queued = s.queued ↔
      ∀ queued ∈ s.queued, supersededBy job queued = false := by
  rw [supersedeQueued_queued, List.filter_eq_self]
  simp only [Bool.not_eq_true']

/-- A job that is refused after superseding. -/
theorem undisturbed_after_supersede_iff {nowMs : Nat} {s' : BrokerState}
    (h : Undisturbed nowMs s s') (b : BudgetSnapshot) (job : ResourceJob)
    (outcome : AdmissionOutcome) (reason : String) :
    Undisturbed nowMs s
        (rejectedSubmission cfg (supersedeQueued cfg s' b job) b job outcome reason).1 ↔
      ∀ queued ∈ s.queued, supersededBy job queued = false := by
  have hbooks : SameBooks { s' with queued := s'.queued.filter fun q => !supersededBy job q }
      (supersedeQueued cfg s' b job) :=
    sameBooks_foldl _ (fun _ _ => sameBooks_pushDiagnostic _ _) _ _
  have hactive : (supersedeQueued cfg s' b job).active = s'.active :=
    active_foldl_pushDiagnostic (fun s old => .admission (admissionDiagnostic cfg b s old
      .droppedStale none "superseded by a newer coalesced job")) _ _
  rw [← h.queued, ← @supersedeQueued_queued_eq_iff cfg _ b, h.queued]
  constructor
  · intro hundisturbed
    exact hundisturbed.queued
  · intro hqueued
    exact ⟨hqueued, hactive.trans h.active, hbooks.reservations.trans h.reservations,
      hbooks.residency.trans h.residency, hbooks.targetHealth.trans h.targetHealth,
      hbooks.utteranceBindings.trans h.utteranceBindings⟩

theorem not_refusal_of_admitLocked {target : ComputeTarget} {outcome : AdmissionOutcome}
    (h : selectTargetLocked cfg s b job true = some (target, outcome)) :
    (admitLocked cfg s b job target outcome).2.diagnostic.outcome.isRefusal = false := by
  have hmem := List.mem_of_find?_eq_some h
  rcases List.mem_cons.1 hmem with heq | hmem
  · rw [(Prod.mk.inj heq).2]
    rfl
  · obtain ⟨fallback, -, heq⟩ := List.mem_map.1 hmem
    rw [← (Prod.mk.inj heq).2]
    rfl

theorem dropBeforeAdmission_eq_some {dropped : BrokerState × Submission}
    (h : dropBeforeAdmission cfg s b job = some dropped) :
    ∃ outcome reason, dropped = rejectedSubmission cfg s b job outcome reason := by
  unfold dropBeforeAdmission at h
  split at h
  · exact ⟨_, _, (Option.some.inj h).symm⟩
  split at h
  · exact ⟨_, _, (Option.some.inj h).symm⟩
  split at h
  · exact ⟨_, _, (Option.some.inj h).symm⟩
  · cases h

/-! ## Refusals -/

/-- After superseding, a refusal disturbs nothing exactly when nothing was superseded. -/
theorem undisturbed_after_drop_iff {observed : BrokerState}
    (h : Undisturbed b.monotonicMs s observed)
    (hdrop : dropBeforeAdmission cfg observed b job = none)
    (hknown : isKnownJob observed job.jobId = false)
    (hrefused : (submitLocked cfg observed b job).2.diagnostic.outcome.isRefusal = true) :
    Undisturbed b.monotonicMs s (submitLocked cfg observed b job).1 ↔
      ∀ queued ∈ s.queued, supersededBy job queued = false := by
  have hafter := fun outcome reason =>
    @undisturbed_after_supersede_iff cfg _ _ _ h b job outcome reason
  unfold submitLocked at hrefused ⊢
  rw [if_neg (by simp [hknown]), hdrop] at hrefused ⊢
  dsimp only at hrefused ⊢
  generalize supersedeQueued cfg observed b job = superseded at hafter hrefused ⊢
  cases hselect : selectTargetLocked cfg superseded b job true with
  | some selected =>
    rw [hselect] at hrefused
    cases (not_refusal_of_admitLocked hselect).symm.trans hrefused
  | none =>
    rw [hselect] at hrefused
    cases hterminal : terminalRejection superseded b job with
    | some rejection => exact hafter rejection.1 rejection.2
    | none =>
      rw [hterminal] at hrefused
      cases hpolicy : job.dropPolicy with
      | dropUnderPressure => exact hafter ..
      | dropIfLate =>
        rw [hpolicy] at hrefused
        by_cases hlate : isLate job b.monotonicMs = true
        · rw [if_pos hlate]
          exact hafter ..
        · rw [if_neg hlate] at hrefused
          cases hrefused
      | never =>
        rw [hpolicy] at hrefused
        cases hrefused
      | dropIfStale maximumAgeMs =>
        rw [hpolicy] at hrefused
        cases hrefused
      | supersede key =>
        rw [hpolicy] at hrefused
        cases hrefused

/-- **A refused submission** disturbs nothing exactly when it supersedes nothing. -/
theorem refused_submission_undisturbed_iff (cfg : ResourceBrokerConfig) (s : BrokerState)
    (r : Reading) (job : ResourceJob) (b : BudgetSnapshot)
    (accounted : BrokerAccountedGpuUsage) (submission : Submission)
    (hreading : r.validated = .ok (b, accounted))
    (hsubmit : (submit cfg r job s).2 = .ok submission)
    (hrefused : submission.diagnostic.outcome.isRefusal = true) :
    Undisturbed b.monotonicMs s (submit cfg r job s).1 ↔
      ¬ Supersedes cfg b.monotonicMs job s := by
  unfold submit at hsubmit ⊢
  rw [hreading] at hsubmit ⊢
  cases hvalid : validateJob job with
  | error e =>
    rw [hvalid] at hsubmit
    cases hsubmit
  | ok _ =>
    rw [hvalid] at hsubmit
    dsimp only at hsubmit ⊢
    have hobserved := @undisturbed_observe cfg r.ratio b accounted s
    generalize observe cfg r.ratio b accounted s = observed at hsubmit hobserved ⊢
    obtain rfl := Except.ok.inj hsubmit
    clear hsubmit
    have hknows := isKnownJob_of_undisturbed hobserved job.jobId
    by_cases hknown : isKnownJob observed job.jobId
    · rw [submitLocked, if_pos hknown]
      refine iff_of_true (hobserved.rejectedSubmission ..) fun hsupersedes => ?_
      cases (hknows.symm.trans hknown).symm.trans hsupersedes.2.1
    rw [Bool.not_eq_true] at hknown
    cases hdrop : dropBeforeAdmission cfg observed b job with
    | some dropped =>
      obtain ⟨outcome, reason, rfl⟩ := dropBeforeAdmission_eq_some hdrop
      have hstate : submitLocked cfg observed b job =
          rejectedSubmission cfg observed b job outcome reason := by
        unfold submitLocked
        rw [if_neg (by simp [hknown]), hdrop]
      rw [hstate]
      refine iff_of_true (hobserved.rejectedSubmission ..) fun hsupersedes => ?_
      obtain ⟨⟨queued, -, hqueued⟩, -, hfresh⟩ := hsupersedes
      rw [dropBeforeAdmission_of_supersededBy hqueued, hfresh] at hdrop
      cases hdrop
    | none =>
      rw [undisturbed_after_drop_iff hobserved hdrop hknown hrefused]
      simp [Supersedes, hknows.symm.trans hknown, isStale_of_dropBeforeAdmission hdrop]

/-- A job that waits for a model of `residentMib`. -/
def coalescedJob (jobId : String) (residentMib : Nat) : ResourceJob :=
  { Sample.job jobId (.speechSynthesis "u" 0) (Sample.target "t" residentMib 5 20 .shared) with
    dropPolicy := .supersede "k" }

/-- A newer job that no target is authorized for. -/
def unauthorizedJob : ResourceJob :=
  let job := coalescedJob "b" 50
  { job with primary := { job.primary with
      provider := { job.primary.provider with location := .cloud "service" } } }

theorem exists_of_outcome {x : Except BrokerError Submission} {outcome : AdmissionOutcome}
    (h : (x.toOption.map fun submission => submission.diagnostic.outcome) = some outcome) :
    ∃ submission, x = .ok submission ∧ submission.diagnostic.outcome = outcome := by
  cases x with
  | error e => cases h
  | ok submission => exact ⟨submission, rfl, Option.some.inj h⟩

/-- A duplicate is refused before it supersedes anything. -/
theorem refused_submission_undisturbed_duplicate :
    let s := run {} [Sample.call 0 (.submit (coalescedJob "a" 50000))]
    Undisturbed 1 s (submit {} (Sample.reading 1) (coalescedJob "a" 50000) s).1 := by
  intro s
  have houtcome : ((submit {} (Sample.reading 1) (coalescedJob "a" 50000) s).2.toOption.map
      fun submission => submission.diagnostic.outcome) = some .rejectedDuplicate := by
    decide +kernel
  obtain ⟨submission, hsubmit, houtcome⟩ := exists_of_outcome houtcome
  refine (refused_submission_undisturbed_iff {} s (Sample.reading 1) (coalescedJob "a" 50000)
    (Sample.snapshot 1 (100 * mib) (2000 * mib)) ⟨0, 0⟩ submission (by decide +kernel) hsubmit
    (by rw [houtcome]; rfl)).2 ?_
  decide +kernel

/-- The newer job is refused, and the queued one is gone. -/
theorem superseded_by_refused :
    ¬ ∀ (cfg : ResourceBrokerConfig) (calls : List Call) (r : Reading) (job : ResourceJob)
        (b : BudgetSnapshot) (accounted : BrokerAccountedGpuUsage) (submission : Submission),
      r.validated = .ok (b, accounted) →
      (submit cfg r job (run cfg calls)).2 = .ok submission →
      submission.diagnostic.outcome.isRefusal = true →
      Undisturbed b.monotonicMs (run cfg calls) (submit cfg r job (run cfg calls)).1 := by
  intro h
  let calls := [Sample.call 0 (.submit (coalescedJob "a" 50000))]
  have houtcome : ((submit {} (Sample.reading 1) unauthorizedJob (run {} calls)).2.toOption.map
      fun submission => submission.diagnostic.outcome) = some .rejectedPrivacy := by
    decide +kernel
  obtain ⟨submission, hsubmit, houtcome⟩ := exists_of_outcome houtcome
  have hundisturbed := h {} calls (Sample.reading 1) unauthorizedJob
    (Sample.snapshot 1 (100 * mib) (2000 * mib)) ⟨0, 0⟩ submission (by decide +kernel) hsubmit
    (by rw [houtcome]; rfl)
  have hqueued := congrArg List.length hundisturbed.queued
  revert hqueued
  decide +kernel

end NpcRuntime.Broker
