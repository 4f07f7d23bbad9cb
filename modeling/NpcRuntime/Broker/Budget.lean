import NpcRuntime.Broker.Residency

/-!
# Admission stays within the budget

`target_fits` checks the projection of a job before `reserve` takes it; both clamp their sums, and
what the telemetry already accounts for is subtracted from what the broker holds. The check still
bounds the state it leads to, because reserving can only raise the unreported usage by the
estimate that was checked (`vramInUse_admitLocked_le`).

The bounds are on the sums as the code computes them, which clamp at `u64::MAX`; they are bounds
on the exact sums as soon as the limit itself is below `u64::MAX`.
-/

namespace NpcRuntime.Broker

variable {cfg : ResourceBrokerConfig}

/-! ## The check and the state after it -/

/-- The VRAM total that `target_fits` projects. -/
def projectedVram (s : BrokerState) (b : BudgetSnapshot) (target : ComputeTarget) : Nat :=
  satAdd (satAdd (vramInUse s b) (estimateOrDeclared s target).vramResidentBytes)
    (estimateOrDeclared s target).vramTransientBytes

variable {s : BrokerState} {b : BudgetSnapshot} {target : ComputeTarget}

theorem targetFits_bounds (h : targetFits cfg s b target = true) :
    satAdd (ramInUse s b) (estimateOrDeclared s target).ramBytes ≤ b.systemRamBudgetBytes ∧
      projectedVram s b target ≤ vramCeiling cfg b + cfg.transientVramAllowanceBytes := by
  unfold targetFits at h
  simp only [projectedVram, estimateOrDeclared]
  cases he : effectiveJobEstimate s target with
  | none => simp [he] at h
  | some estimate =>
    simp only [he] at h
    rw [Option.getD_some]
    split_ifs at h with hram hres htotal
    · exact ⟨not_lt.1 hram, htotal.trans (Nat.le_add_right _ _)⟩
    · simp only [Bool.and_eq_true, decide_eq_true_eq] at h
      refine ⟨not_lt.1 hram, ?_⟩
      have := h.1.1
      omega

/-- A new job moves its model between two states that hold memory. -/
theorem total_residentWeight_admitLocked
    (hids : ∀ m record, s.residency.lookup m = some record → record.spec.modelId = m)
    {job : ResourceJob} {outcome : AdmissionOutcome}
    (havail : residencyAvailable s job target = true) :
    (admitLocked cfg s b job target outcome).1.residency.total residentWeight =
      s.residency.total residentWeight := by
  obtain ⟨-, hres⟩ | ⟨record, hreg, hres⟩ := @admitLocked_residency cfg s b job target outcome
  · rw [hres]
  · obtain ⟨m, -, hrec, -⟩ := registeredModelForTarget_eq_some.1 hreg
    rw [hres, hids m record hrec]
    apply Table.total_mapVal
    intro k v hk
    split_ifs with hkm
    · rw [hkm, hrec] at hk
      cases hk
      have hbefore : record.holdsResidentMemory = true := by
        rcases state_of_residencyAvailable havail hreg with hs | hs <;>
          simp [ModelResidencyRecord.holdsResidentMemory, hs]
      have hafter : record.beginJob.holdsResidentMemory = true := rfl
      simp only [residentWeight]
      rw [if_pos hbefore, if_pos hafter]
      rfl
    · rfl

/-- What a clamped sum less a clamped part gains when a term is added to the sum. -/
theorem unreported_le_add (held estimate accounted : Nat) :
    min (held + estimate) u64Max - min accounted (min (held + estimate) u64Max) ≤
      min held u64Max - min accounted (min held u64Max) + estimate := by
  omega

/-- Reserving raises the usage by no more than the estimate that was checked. -/
theorem vramInUse_admitLocked_le {s : BrokerState}
    (hids : ∀ m record, s.residency.lookup m = some record → record.spec.modelId = m)
    {b : BudgetSnapshot} {job : ResourceJob} {target : ComputeTarget} {outcome : AdmissionOutcome}
    (havail : residencyAvailable s job target = true) :
    vramInUse (admitLocked cfg s b job target outcome).1 b ≤ projectedVram s b target := by
  simp only [projectedVram]
  set s' := (admitLocked cfg s b job target outcome).1 with hs'
  set e := estimateOrDeclared s target
  have haccounted : s'.telemetryAccounted = s.telemetryAccounted := rfl
  have hresident : (unreported s').residentBytes ≤
      (unreported s).residentBytes + e.vramResidentBytes := by
    have hheld : (brokerReservedGpuUsage s').residentBytes = min
        (s.reservations.vramResidentBytes + s.residency.total residentWeight + e.vramResidentBytes)
        u64Max := by
      rw [brokerReservedGpuUsage_residentBytes, hs', total_residentWeight_admitLocked hids havail]
      show min (satAdd s.reservations.vramResidentBytes e.vramResidentBytes + _) u64Max = _
      simp only [satAdd]
      omega
    show (brokerReservedGpuUsage s').residentBytes - min s'.telemetryAccounted.residentBytes
        (brokerReservedGpuUsage s').residentBytes ≤
      (brokerReservedGpuUsage s).residentBytes - min s.telemetryAccounted.residentBytes
        (brokerReservedGpuUsage s).residentBytes + e.vramResidentBytes
    rw [hheld, haccounted, brokerReservedGpuUsage_residentBytes]
    exact unreported_le_add _ _ _
  have htransient : (unreported s').transientBytes ≤
      (unreported s).transientBytes + e.vramTransientBytes := by
    show satAdd s.reservations.vramTransientBytes e.vramTransientBytes -
        min s.telemetryAccounted.transientBytes
          (satAdd s.reservations.vramTransientBytes e.vramTransientBytes) ≤
      s.reservations.vramTransientBytes - min s.telemetryAccounted.transientBytes
        s.reservations.vramTransientBytes + e.vramTransientBytes
    simp only [satAdd]
    omega
  simp only [vramInUse, satAdd]
  omega

theorem ramInUse_admitLocked_le (s : BrokerState) (b : BudgetSnapshot) (job : ResourceJob)
    (target : ComputeTarget) (outcome : AdmissionOutcome) :
    ramInUse (admitLocked cfg s b job target outcome).1 b ≤
      satAdd (ramInUse s b) (estimateOrDeclared s target).ramBytes := by
  show satAdd _ (satAdd _ _) ≤ satAdd (satAdd _ _) _
  simp only [satAdd]
  omega

/-! ## The deadline of an overshoot -/

/-- The overshoot in the diagnostic is the one of the projection that was checked. -/
theorem admittedDiagnostic_overshoot {job : ResourceJob} {outcome : AdmissionOutcome}
    (hvalid : validateJob job = .ok ()) (hmem : target ∈ job.targets) :
    (admittedDiagnostic cfg s b job target outcome).projection.transientOvershootBytes =
      projectedVram s b target - vramCeiling cfg b := by
  simp only [admittedDiagnostic, admissionDiagnostic, projection]
  simp only [Option.bind_some, find?_target hvalid hmem, Option.getD_some]
  simp only [projectedVram, ResourceEstimate.totalVram, satAdd]
  omega

/-! ## The contract -/

/-- What holds right after an admission under the snapshot `b`, `r` being the new record. -/
structure WithinBudget (cfg : ResourceBrokerConfig) (b : BudgetSnapshot) (s : BrokerState)
    (r : ActiveRecord) : Prop where
  vram : vramInUse s b ≤ vramCeiling cfg b + cfg.transientVramAllowanceBytes
  vramExact : vramCeiling cfg b + cfg.transientVramAllowanceBytes < u64Max →
    protectedGpuVramUsed b + (unreported s).residentBytes + (unreported s).transientBytes ≤
      vramCeiling cfg b + cfg.transientVramAllowanceBytes
  ram : ramInUse s b ≤ b.systemRamBudgetBytes
  ramExact : b.systemRamBudgetBytes < u64Max →
    protectedSystemRamUsed b + s.reservations.ramBytes ≤ b.systemRamBudgetBytes
  deadline : vramCeiling cfg b < vramInUse s b →
    r.transientDeadlineMs = some (satAdd b.monotonicMs cfg.transientVramGraceMs)

/-- **One admission.** -/
theorem withinBudget_admitLocked {s : BrokerState}
    (hids : ∀ m record, s.residency.lookup m = some record → record.spec.modelId = m)
    {b : BudgetSnapshot} {job : ResourceJob} {target : ComputeTarget} {outcome : AdmissionOutcome}
    (hvalid : validateJob job = .ok ())
    (hsel : selectTargetLocked cfg s b job true = some (target, outcome)) :
    WithinBudget cfg b (admitLocked cfg s b job target outcome).1
      (admittedRecord cfg s b job target outcome) := by
  obtain ⟨hmem, -, -, hfits, havail⟩ := selectTargetLocked_spec hsel
  obtain ⟨hramCheck, hvramCheck⟩ := targetFits_bounds hfits
  have hvram := @vramInUse_admitLocked_le cfg s hids b job target outcome havail
  have hram := (@ramInUse_admitLocked_le cfg s b job target outcome).trans hramCheck
  refine ⟨hvram.trans hvramCheck, ?_, hram, ?_, ?_⟩
  · intro hlt
    have hle := hvram.trans hvramCheck
    unfold vramInUse at hle
    rw [satAdd_assoc] at hle
    omega
  · intro hlt
    unfold ramInUse satAdd at hram
    omega
  · intro hover
    simp only [admittedRecord]
    rw [if_pos]
    rw [admittedDiagnostic_overshoot hvalid hmem]
    omega

/-! ## Admissions of a call -/

/-- The leases of the `poll_ready` loop, each with the state right after its admission. -/
def pollAdmissions (cfg : ResourceBrokerConfig) (b : BudgetSnapshot) :
    List QueuedRecord → BrokerState → List (ResourceLease × BrokerState)
  | [], _ => []
  | queued :: rest, s =>
    let entry := pollEntry cfg b s queued
    (entry.2.toList.map fun lease => (lease, entry.1)) ++ pollAdmissions cfg b rest entry.1

/-- The leases of a call, each with the state right after its admission. -/
def admissions (cfg : ResourceBrokerConfig) (c : Call) (s : BrokerState) :
    List (ResourceLease × BrokerState) :=
  match c.op with
  | .submit _ => (respond cfg c s).2.leases.map fun lease => (lease, (respond cfg c s).1)
  | .pollReady => match c.reading.validated with
    | .ok (b, accounted) =>
      let s := observe cfg c.reading.ratio b accounted s
      pollAdmissions cfg b (sortQueue s.queued) { s with queued := [] }
    | .error _ => []
  | _ => []

theorem pollAdmissions_fst (b : BudgetSnapshot) (pending : List QueuedRecord) (s : BrokerState) :
    (pollAdmissions cfg b pending s).map Prod.fst = (pollLoop cfg b pending s).2 := by
  induction pending generalizing s with
  | nil => rfl
  | cons q pending ih =>
    rw [pollAdmissions, pollLoop, List.map_append, ih]
    simp [Function.comp_def]

/-- The admissions of a call are exactly the leases it returns, in their order. -/
theorem admissions_fst (c : Call) (s : BrokerState) :
    (admissions cfg c s).map Prod.fst = (respond cfg c s).2.leases := by
  simp only [admissions]
  split
  · simp [Function.comp_def]
  · rename_i hop
    cases hread : c.reading.validated with
    | error e => simp [respond, hop, pollReady, hread, Response.leases]
    | ok p => simp [respond, hop, pollReady, hread, Response.leases, pollAdmissions_fst]
  · simp only [respond]
    split <;> first | rfl | simp_all

/-- Every admission of the loop is within budget. -/
theorem withinBudget_pollAdmissions (pending : List QueuedRecord)
    (hbook : BookInv (withPending s pending)) :
    ∀ p ∈ pollAdmissions cfg b pending s, ∃ r, p.2.active.lookup p.1.jobId = some r ∧
      r.target.targetId = p.1.targetId ∧ WithinBudget cfg b p.2 r := by
  induction pending generalizing s with
  | nil => exact fun p hp => by cases hp
  | cons q pending ih =>
    intro p hp
    rcases List.mem_append.1 hp with hp | hp
    · -- The entry itself: it returns a lease only after an admission.
      obtain ⟨lease, hl, rfl⟩ := List.mem_map.1 hp
      rw [Option.mem_toList] at hl
      obtain ⟨_, _, -, he⟩ | ⟨target, outcome, hsel, he⟩ | he := @pollEntry_cases cfg b s q <;>
        rw [he] at hl ⊢ <;> cases hl
      have hvalid := hbook.valid q (List.mem_append_right _ List.mem_cons_self)
      exact ⟨admittedRecord cfg s b q.job target outcome, admitLocked_lookup_self .., rfl,
        @withinBudget_admitLocked cfg s hbook.registered b q.job target outcome hvalid hsel⟩
    · exact ih (hbook.chain (pollEntry_chain hbook).1) p hp

/-- **Admission never breaks the budget.** In every reachable state, right after each admission of
a call the VRAM in use is at most the ceiling and the allowance, the RAM in use is at most the RAM
budget, and an overshoot of the ceiling carries the deadline of the grace period. -/
theorem admissions_within_budget (cfg : ResourceBrokerConfig) (calls : List Call) (c : Call)
    (b : BudgetSnapshot) (accounted : BrokerAccountedGpuUsage)
    (hread : c.reading.validated = .ok (b, accounted)) :
    (admissions cfg c (run cfg calls)).map Prod.fst = (respond cfg c (run cfg calls)).2.leases ∧
      ∀ p ∈ admissions cfg c (run cfg calls), ∃ r, p.2.active.lookup p.1.jobId = some r ∧
        r.target.targetId = p.1.targetId ∧ WithinBudget cfg b p.2 r := by
  refine ⟨admissions_fst c _, ?_⟩
  have hbook : BookInv (run cfg calls) := bookInv_run calls
  have hobserve : BookInv (observe cfg c.reading.ratio b accounted (run cfg calls)) :=
    hbook.quiet (sameBooks_observe _ b accounted _)
  intro p hp
  unfold admissions at hp
  split at hp
  · rename_i job hop
    obtain ⟨lease, hl, rfl⟩ := List.mem_map.1 hp
    simp only [respond, hop, Prod.map_snd, Prod.map_fst, id, submit, hread] at hl ⊢
    cases hvalid : validateJob job with
    | error e => simp [hvalid, Response.leases] at hl
    | ok u =>
      simp only [hvalid, Response.leases, Option.mem_toList] at hl ⊢
      obtain ⟨target, outcome, hsel, hstate, rfl⟩ := submitLocked_lease hl
      have hbook' := hobserve.chain (@schedChain_supersedeQueued cfg _ b job)
      rw [hstate]
      exact ⟨_, admitLocked_lookup_self .., rfl,
        withinBudget_admitLocked hbook'.registered hvalid hsel⟩
  · simp only [hread] at hp
    refine withinBudget_pollAdmissions _ ?_ p hp
    exact hobserve.dequeue (List.perm_insertionSort _ _).subperm
  · cases hp

/-- A job that overshoots the ceiling of 1000 MiB by 100 MiB for a second. -/
def overshootCall : Call :=
  Sample.call 7 (.submit (Sample.job "a" .embedding (Sample.target "t" 500 500 1000 .shared)))

theorem admissions_within_budget_overshootCall :
    ((admissions Sample.config overshootCall (run Sample.config [])).map fun p =>
        vramInUse p.2 (Sample.snapshot 7 (100 * mib) (2000 * mib))) = [1100 * mib] ∧
      ∀ p ∈ admissions Sample.config overshootCall (run Sample.config []),
        ∃ r, p.2.active.lookup p.1.jobId = some r ∧ r.target.targetId = p.1.targetId ∧
          WithinBudget Sample.config (Sample.snapshot 7 (100 * mib) (2000 * mib)) p.2 r :=
  ⟨by decide +kernel,
    (admissions_within_budget Sample.config [] overshootCall
      (Sample.snapshot 7 (100 * mib) (2000 * mib)) ⟨0, 0⟩ (by decide +kernel)).2⟩

end NpcRuntime.Broker
