import NpcRuntime.Broker.Slots

/-!
# The reservation ledger

`reserve` and `release` compute the amount of a job on their own, each from the residency ledger
as it finds it. The account stays balanced as long as the two agree for every active job, and
they read the ledger only through the registered specs (`releaseEstimate_congr`). Two operations
change a spec: registering a model, and recording a new measurement when it is loaded. Neither
looks at the jobs that are already running on the model.

* `LedgerInv`: every active job holds what `release` would give back, and the reservations are the
  sums of what the active jobs hold.
* `KeepsHeldAmounts`: the condition under which a call leaves those amounts alone.
* `reservations_are_sums_of_held`: the account is exact in every run whose calls meet it.
* `register_under_active_job_leaks`: without it, memory stays reserved when no lease is left.
-/

namespace NpcRuntime.Broker

variable {cfg : ResourceBrokerConfig}

/-! ## What `release` gives back -/

variable {s : BrokerState} {target : ComputeTarget} {record : ModelResidencyRecord}

theorem registeredModelForTarget_eq_some :
    registeredModelForTarget s target = some record ↔
      ∃ modelId, target.modelId = some modelId ∧ s.residency.lookup modelId = some record ∧
        record.spec.targetId = target.targetId ∧
        record.spec.gpuResidency = target.gpuResidency := by
  simp only [registeredModelForTarget]
  cases hm : target.modelId with
  | none => simp
  | some modelId => simp [Option.filter_eq_some_iff]

/-- The record an admissible target resolves to is loaded or in flight. -/
theorem state_of_residencyAvailable {job : ResourceJob}
    (havail : residencyAvailable s job target = true)
    (hreg : registeredModelForTarget s target = some record) :
    record.state = .loaded ∨ record.state = .inFlight := by
  obtain ⟨m, hm, hrec, htarget, hgpu⟩ := registeredModelForTarget_eq_some.1 hreg
  unfold residencyAvailable at havail
  split_ifs at havail with _ hmismatch
  rw [hm, Option.bind_some, hrec, Option.any_some, htarget, hgpu] at hmismatch
  simpa [or_iff_not_imp_left] using hmismatch

variable {s' : BrokerState}

/-- `release` reads the ledger only through the registered specs. -/
theorem releaseEstimate_congr (h : ∀ modelId, (s'.residency.lookup modelId).map (·.spec) =
      (s.residency.lookup modelId).map (·.spec)) (target : ComputeTarget) :
    releaseEstimate s' target = releaseEstimate s target := by
  simp only [releaseEstimate, registeredModelForTarget]
  cases hm : target.modelId with
  | none => rfl
  | some modelId =>
    have hspec := h modelId
    cases hl' : s'.residency.lookup modelId <;> cases hl : s.residency.lookup modelId <;>
      simp only [hl, hl', Option.map_some, Option.map_none, Option.some.injEq,
        reduceCtorEq] at hspec
    · simp [hl, hl']
    · simp only [hl, hl', Option.bind_some, Option.filter_some, hspec]
      split_ifs <;> simp [ledgerEstimate, hspec]

variable {modelId : String} {g : ModelResidencyRecord → ModelResidencyRecord}

/-- Rewriting records without touching their specs does not reach `release`. -/
theorem releaseEstimate_modify (hs : s'.residency = s.residency.modify modelId g)
    (hg : ∀ record, (g record).spec = record.spec) (target : ComputeTarget) :
    releaseEstimate s' target = releaseEstimate s target := by
  refine releaseEstimate_congr (fun m => ?_) target
  rw [hs, Table.lookup_modify]
  split_ifs
  · rw [Option.map_map]
    exact congrArg (fun f => Option.map f _) (funext hg)
  · rfl

variable {b : BudgetSnapshot}

/-- An admissible target is reserved at exactly what `release` would give back now. -/
theorem estimateOrDeclared_eq_releaseEstimate (h : targetFits cfg s b target = true) :
    estimateOrDeclared s target = releaseEstimate s target := by
  have hsome : effectiveJobEstimate s target ≠ none := by
    intro hnone
    simp [targetFits, hnone] at h
  simp only [estimateOrDeclared]
  simp only [effectiveJobEstimate] at hsome ⊢
  simp only [releaseEstimate, registeredModelForTarget]
  cases hm : target.modelId with
  | none => rfl
  | some modelId =>
    cases hl : s.residency.lookup modelId with
    | none => simp [hl]
    | some record =>
      simp only [hm, hl] at hsome
      by_cases hmismatch : (record.spec.targetId != target.targetId ||
          record.spec.gpuResidency != target.gpuResidency ||
          !(record.state == .loaded || record.state == .inFlight)) = true
      · rw [if_pos hmismatch] at hsome
        exact absurd rfl hsome
      · have htarget : record.spec.targetId = target.targetId ∧
            record.spec.gpuResidency = target.gpuResidency := by
          simp only [Bool.or_eq_true, not_or, bne_iff_ne, ne_eq, not_not] at hmismatch
          exact hmismatch.1
        simp only [hl]
        rw [if_neg hmismatch]
        simp [hl, Option.filter_some, htarget]

theorem releaseEstimate_admitLocked (s : BrokerState) (b : BudgetSnapshot) (job : ResourceJob)
    (target : ComputeTarget) (outcome : AdmissionOutcome) (t : ComputeTarget) :
    releaseEstimate (admitLocked cfg s b job target outcome).1 t = releaseEstimate s t := by
  obtain ⟨-, hres⟩ | ⟨record, -, hres⟩ := @admitLocked_residency cfg s b job target outcome
  · exact releaseEstimate_congr (fun _ => by rw [hres]) t
  · exact releaseEstimate_modify hres (fun _ => rfl) t

theorem releaseEstimate_endLease (s : BrokerState) (jobId : String) (active : ActiveRecord)
    (status : CompletionStatus) (t : ComputeTarget) :
    releaseEstimate (endLease s jobId active status) t = releaseEstimate s t := by
  obtain ⟨-, hres⟩ | ⟨record, -, hres⟩ := endLease_residency s jobId active status
  · exact releaseEstimate_congr (fun _ => by rw [hres]) t
  · exact releaseEstimate_modify hres (fun _ => rfl) t

/-! ## The invariant -/

/-- Every active job holds what `release` would give back, and the reservations are the sums of
what the active jobs hold, clamped as `saturating_add` clamps them. -/
structure LedgerInv (s : BrokerState) : Prop where
  held : ∀ k r, s.active.lookup k = some r → r.reserved = releaseEstimate s r.target
  ram : s.reservations.ramBytes = min (s.active.total (·.reserved.ramBytes)) u64Max
  resident : s.reservations.vramResidentBytes =
    min (s.active.total (·.reserved.vramResidentBytes)) u64Max
  transient : s.reservations.vramTransientBytes =
    min (s.active.total (·.reserved.vramTransientBytes)) u64Max

/-- The exact sums fit in 64 bits, so that no `saturating_add` clamps. -/
def NoSaturation (s : BrokerState) : Prop :=
  s.active.total (·.reserved.ramBytes) ≤ u64Max ∧
    s.active.total (·.reserved.vramResidentBytes) ≤ u64Max ∧
    s.active.total (·.reserved.vramTransientBytes) ≤ u64Max

instance (s : BrokerState) : Decidable (NoSaturation s) := by
  unfold NoSaturation; infer_instance

namespace LedgerInv

theorem init : LedgerInv {} :=
  ⟨fun k r h => by simp at h, rfl, rfl, rfl⟩

/-- The account survives a change that keeps the jobs, the reservations and what `release` would
give back for the active targets. -/
theorem of_jobs (h : LedgerInv s) (hr : s'.reservations = s.reservations) (hj : SameJobs s s') (hrel
      : ∀ k r, s.active.lookup k = some r → releaseEstimate s' r.target = releaseEstimate s
      r.target) : LedgerInv s' where
  held k r' hk := by
    obtain ⟨r, hrec, -, ht, he⟩ := hj.lookup hk
    rw [he, ht, hrel k r hrec]
    exact h.held k r hrec
  ram := by rw [hr, hj.total fun _ _ e => e.ramBytes]; exact h.ram
  resident := by rw [hr, hj.total fun _ _ e => e.vramResidentBytes]; exact h.resident
  transient := by rw [hr, hj.total fun _ _ e => e.vramTransientBytes]; exact h.transient

/-- The same when only fields other than the specs of the ledger move. -/
theorem of_specs (h : LedgerInv s) (hr : s'.reservations = s.reservations) (hj : SameJobs s s')
    (hres : s'.residency = s.residency) : LedgerInv s' :=
  h.of_jobs hr hj fun _ r _ => releaseEstimate_congr (fun _ => by rw [hres]) r.target

theorem of_modify (h : LedgerInv s) (hr : s'.reservations = s.reservations) (hj : SameJobs s s')
    (hres : s'.residency = s.residency.modify modelId g)
    (hg : ∀ record, (g record).spec = record.spec) : LedgerInv s' :=
  h.of_jobs hr hj fun _ r _ => releaseEstimate_modify hres hg r.target

/-- Admitting a job adds to the account what `release` will give back for it. -/
theorem admission (h : LedgerInv s) {job : ResourceJob} {outcome : AdmissionOutcome}
    (hnew : s.active.lookup job.jobId = none) (hfits : targetFits cfg s b target = true) :
    LedgerInv (admitLocked cfg s b job target outcome).1 := by
  have hnotin : job.jobId ∉ s.active := AList.lookup_eq_none.1 hnew
  have hrel : ∀ t, releaseEstimate (admitLocked cfg s b job target outcome).1 t =
      releaseEstimate s t := fun t => releaseEstimate_admitLocked s b job target outcome t
  have hsum : ∀ f : ResourceEstimate → Nat,
      satAdd (min (s.active.total fun r => f r.reserved) u64Max) (f (estimateOrDeclared s target)) =
        min ((admitLocked cfg s b job target outcome).1.active.total fun r => f r.reserved)
          u64Max := by
    intro f
    rw [admitLocked_active, Table.total_insert hnotin, satAdd_min_left, Nat.add_comm]
    rfl
  refine ⟨?_, ?_, ?_, ?_⟩
  · intro k r hk
    rw [hrel]
    rcases admitLocked_lookup_cases hk with ⟨-, rfl⟩ | ⟨-, hold⟩
    · exact estimateOrDeclared_eq_releaseEstimate hfits
    · exact h.held k r hold
  · rw [← hsum (·.ramBytes), ← h.ram]
    rfl
  · rw [← hsum (·.vramResidentBytes), ← h.resident]
    rfl
  · rw [← hsum (·.vramTransientBytes), ← h.transient]
    rfl

theorem sched (h : LedgerInv s) (hs : Sched cfg b s s') : LedgerInv s' := by
  cases hs with
  | quiet hb => exact h.of_specs hb.reservations (.of_books hb) hb.residency
  | dequeue => exact h.of_specs rfl (.of_eq rfl) rfl
  | enqueue => exact h.of_specs rfl (.of_eq rfl) rfl
  | admission _ hknown hsel =>
    exact h.admission (isKnownJob_eq_false.1 hknown).1 (selectTargetLocked_spec hsel).2.2.2.1

/-- A lease that ends takes out of the account exactly what its job holds. -/
theorem endLease {s : BrokerState} (h : LedgerInv s) (hsat : NoSaturation s) {jobId : String}
    {active : ActiveRecord} (hactive : s.active.lookup jobId = some active)
    (status : CompletionStatus) : LedgerInv (endLease s jobId active status) := by
  have hheld : releaseEstimate { s with active := s.active.erase jobId } active.target =
      active.reserved := (h.held jobId active hactive).symm
  have hsum : ∀ f : ResourceEstimate → Nat, (s.active.total fun r => f r.reserved) ≤ u64Max →
      min (s.active.total fun r => f r.reserved) u64Max -
          f (releaseEstimate { s with active := s.active.erase jobId } active.target) =
        min (Table.total (fun r => f r.reserved) (s.active.erase jobId)) u64Max := by
    intro f hle
    have htotal := Table.total_erase hactive fun r => f r.reserved
    rw [hheld]
    omega
  refine ⟨?_, ?_, ?_, ?_⟩
  · intro k r hk
    have hk' : (s.active.erase jobId).lookup k = some r := hk
    rw [Table.lookup_erase_eq] at hk'
    split_ifs at hk'
    rw [releaseEstimate_endLease]
    exact h.held k r hk'
  · exact (congrArg (· - _) h.ram).trans (hsum (·.ramBytes) hsat.1)
  · exact (congrArg (· - _) h.resident).trans (hsum (·.vramResidentBytes) hsat.2.1)
  · exact (congrArg (· - _) h.transient).trans (hsum (·.vramTransientBytes) hsat.2.2)

end LedgerInv

/-! ## The condition -/

/-- The registration a job of this target would resolve to. -/
def matchesSpec (spec : ModelResidencySpec) (target : ComputeTarget) : Bool :=
  target.modelId == some spec.modelId && spec.targetId == target.targetId &&
    spec.gpuResidency == target.gpuResidency

/-- The call does not change the amount `release` computes for a running job: a model that is
registered under a running job has nothing to take over from it (no declared resident memory, and
a declared workspace that covers the measured one), and a measurement recorded at load time does
not change the workspace of a job that is running on the model. -/
def KeepsHeldAmounts (cfg : ResourceBrokerConfig) (s : BrokerState) (c : Call) : Prop :=
  match c.op with
  | .registerModelResidency spec => registrationError spec s = none →
      ∀ r ∈ s.active.values, matchesSpec spec r.target = true →
        r.target.estimate.vramResidentBytes = 0 ∧
          spec.envelope.p99TransientBytes ≤ r.target.estimate.vramTransientBytes
  | .markModelLoaded modelId measured =>
      (markModelLoaded cfg c.reading modelId measured s).2.isOk = true →
      ∀ record ∈ s.residency.lookup modelId, ∀ r ∈ s.active.values,
        r.target.modelId = some modelId →
        registeredModelForTarget s r.target = some record →
        max r.target.estimate.vramTransientBytes measured.p99TransientBytes =
          max r.target.estimate.vramTransientBytes record.spec.envelope.p99TransientBytes
  | _ => True

instance (s : BrokerState) (c : Call) : Decidable (KeepsHeldAmounts cfg s c) := by
  apply @Op.casesOn (fun op => Decidable (KeepsHeldAmounts cfg s ⟨c.reading, op⟩)) c.op <;>
    intros <;> unfold KeepsHeldAmounts <;> infer_instance

/-- A registration that takes nothing over from the running jobs is not seen by `release`. -/
theorem releaseEstimate_register {spec : ModelResidencySpec}
    (hnew : s.residency.lookup spec.modelId = none) (hkeep : matchesSpec spec target = true →
      target.estimate.vramResidentBytes = 0 ∧ spec.envelope.p99TransientBytes ≤
      target.estimate.vramTransientBytes) :
    releaseEstimate { s with residency := s.residency.insert spec.modelId (coldRecord spec) }
      target =
      releaseEstimate s target := by
  simp only [releaseEstimate, registeredModelForTarget]
  cases hm : target.modelId with
  | none => rfl
  | some modelId =>
    simp only [Option.bind_some, Table.lookup_insert_eq]
    split_ifs with hid
    · subst hid
      rw [hnew]
      simp only [Option.filter_some, Option.filter_none]
      by_cases hmatch : ((coldRecord spec).spec.targetId == target.targetId &&
          (coldRecord spec).spec.gpuResidency == target.gpuResidency) = true
      · have hmatches : matchesSpec spec target = true := by
          simpa [matchesSpec, hm, coldRecord] using hmatch
        obtain ⟨hres, htrans⟩ := hkeep hmatches
        rw [if_pos hmatch]
        simp only [ledgerEstimate, coldRecord]
        rw [max_eq_left htrans, ← hres]
      · rw [if_neg hmatch]
    · rfl

/-- A measurement that leaves the workspace of the running jobs alone is not seen by `release`. -/
theorem releaseEstimate_load {measured : MeasuredGpuEnvelope} {accounted : BrokerAccountedGpuUsage}
    (hrec : s.residency.lookup modelId = some record) (hkeep : target.modelId = some modelId →
      registeredModelForTarget s target = some record → max target.estimate.vramTransientBytes
      measured.p99TransientBytes = max target.estimate.vramTransientBytes
      record.spec.envelope.p99TransientBytes) :
    releaseEstimate { s with
      telemetryAccounted := accounted
      residency := s.residency.modify modelId fun record =>
        { record with spec := { record.spec with envelope := measured }, state := .loaded } }
      target =
      releaseEstimate s target := by
  simp only [releaseEstimate]
  simp only [registeredModelForTarget] at hkeep ⊢
  cases hm : target.modelId with
  | none => rfl
  | some model =>
    simp only [Option.bind_some, Table.lookup_modify]
    split_ifs with hid
    · subst hid
      simp only [hm, Option.bind_some, hrec, Option.filter_some, Option.map_some] at hkeep ⊢
      split_ifs at hkeep ⊢
      · simp only [ledgerEstimate, hkeep trivial rfl]
      · rfl
    · rfl

theorem registrationError_fresh {spec : ModelResidencySpec} (h : registrationError spec s = none) :
    s.residency.lookup spec.modelId = none ∧
      ∀ m record, s.residency.lookup m = some record → record.spec.targetId ≠ spec.targetId := by
  unfold registrationError at h
  split at h
  · cases h
  split at h
  · cases h
  split at h
  · cases h
  split at h
  · cases h
  rename_i hused
  simp only [Bool.or_eq_true, not_or, Option.not_isSome_iff_eq_none, List.any_eq_true, not_exists,
    not_and, beq_iff_eq] at hused
  exact ⟨hused.1, fun m record hm => hused.2 record (Table.mem_values.2 ⟨m, hm⟩)⟩

/-! ## The account along runs -/

theorem LedgerInv.effect {c : Call} (h : LedgerInv s) (hsat : NoSaturation s)
    (hkeep : KeepsHeldAmounts cfg s c) (he : Effect cfg c s s') : LedgerInv s' := by
  cases he with
  | quiet hb => exact h.of_specs hb.reservations (.of_books hb) hb.residency
  | sched hs => exact inv_chain LedgerInv (fun _ _ hr hi => hi.sched hr) hs h
  | register hop hreg =>
    unfold KeepsHeldAmounts at hkeep
    rw [hop] at hkeep
    refine h.of_jobs rfl (.of_eq rfl) ?_
    intro k r hr
    exact releaseEstimate_register (registrationError_fresh hreg).1
      (hkeep hreg r (Table.mem_values.2 ⟨k, hr⟩))
  | load hop hok hrec =>
    unfold KeepsHeldAmounts at hkeep
    rw [hop] at hkeep
    refine h.of_jobs rfl (.of_eq rfl) ?_
    intro k r hr
    exact releaseEstimate_load hrec
      (hkeep (by rw [hok]; rfl) _ hrec r (Table.mem_values.2 ⟨k, hr⟩))
  | warm => exact h.of_modify rfl (.of_eq rfl) rfl fun _ => rfl
  | idle => exact h.of_modify rfl (.of_eq rfl) rfl fun _ => rfl
  | quarantine => exact h.of_modify rfl (.of_eq rfl) rfl fun _ => rfl
  | clear => exact h.of_modify rfl (.of_eq rfl) rfl fun _ => rfl
  | output => exact h.of_specs rfl (.startOutput s _ _) rfl
  | unbind => exact h.of_specs rfl (.of_eq rfl) rfl
  | oomCounted => exact h.of_specs rfl (.of_eq rfl) rfl
  | oomQuarantined =>
    obtain ⟨-, hres⟩ | ⟨modelId, -, hres⟩ := quarantineTarget_residency ..
    · exact h.of_specs rfl (.of_eq rfl) hres
    · exact h.of_modify rfl (.of_eq rfl) hres fun _ => rfl
  | @finish _ _ _ status _ _ _ hactive =>
    exact (h.endLease hsat hactive status).of_specs rfl (.of_eq rfl) rfl

/-- **The reservation account is exact.** In every run whose calls keep the held amounts, and whose
exact sums fit in 64 bits, the reservations are the sums of what `reserve` added for the active
jobs, the GPU leases are the active jobs on a GPU target, and nothing is reserved when no lease is
outstanding. -/
theorem reservations_are_sums_of_held (cfg : ResourceBrokerConfig) (calls : List Call)
    (hsat : Along (step cfg) (fun s c => NoSaturation (step cfg c s)) calls {})
    (hkeep : Along (step cfg) (KeepsHeldAmounts cfg) calls {}) :
    let s := run cfg calls
    (s.reservations.ramBytes = s.active.total (·.reserved.ramBytes) ∧
      s.reservations.vramResidentBytes = s.active.total (·.reserved.vramResidentBytes) ∧
      s.reservations.vramTransientBytes = s.active.total (·.reserved.vramTransientBytes) ∧
      s.reservations.gpuLeases = s.active.values.countP (·.target.gpuResidency != .none)) ∧
    (s.active.values = [] →
      s.reservations.ramBytes = 0 ∧ s.reservations.vramResidentBytes = 0 ∧
        s.reservations.vramTransientBytes = 0 ∧ s.reservations.gpuLeases = 0) := by
  have hinv : BookInv (run cfg calls) ∧ NoSaturation (run cfg calls) ∧
      LedgerInv (run cfg calls) := by
    refine Along.inv (fun s => BookInv s ∧ NoSaturation s ∧ LedgerInv s) (fun s c hi hc => ?_)
      ⟨.init, by decide, .init⟩ (hsat.and hkeep)
    exact ⟨bookInv_step s c hi.1, hc.1, hi.2.2.effect hi.2.1 hc.2 (effect_of_step hi.1 c)⟩
  obtain ⟨-, ⟨hram, hres, htrans⟩, h⟩ := hinv
  have hleases : (run cfg calls).reservations.gpuLeases =
      (run cfg calls).active.values.countP (·.target.gpuResidency != .none) :=
    (slotInv_run calls).leases.trans (Table.total_eq_countP _ _)
  have hsums : _ ∧ _ ∧ _ ∧ _ := ⟨h.ram.trans (min_eq_left hram),
    h.resident.trans (min_eq_left hres),
    h.transient.trans (min_eq_left htrans), hleases⟩
  refine ⟨hsums, ?_⟩
  intro hempty
  simpa [Table.total, hempty] using hsums

/-- A job runs on a registered model and finishes. -/
def ledgerRun : List Call :=
  [Sample.call 0 (.registerModelResidency (Sample.residencySpec "m" 100 10)),
    Sample.call 1 (.beginModelWarming "m"),
    Sample.call 2 (.markModelLoaded "m" (Sample.envelope 120 20)),
    Sample.call 3 (.submit (Sample.job "a" .embedding (Sample.target "m" 100 10 20 .shared))),
    Sample.call 4 (.submit (Sample.job "b" .embedding (Sample.target "t" 50 5 20 .shared))),
    Sample.call 5 (Sample.finish "a" .completed)]

theorem reservations_are_sums_of_held_ledgerRun :
    (run {} ledgerRun).reservations.vramResidentBytes = 50 * mib ∧
      (run {} ledgerRun).reservations.vramResidentBytes =
        (run {} ledgerRun).active.total (·.reserved.vramResidentBytes) :=
  ⟨by decide +kernel,
    (reservations_are_sums_of_held {} ledgerRun (by decide +kernel) (by decide +kernel)).1.2.1⟩

/-- A model is registered while a job already runs on its target, and the job then finishes. -/
def registerUnderJobRun : List Call :=
  [Sample.call 0 (.submit (Sample.job "a" .embedding (Sample.target "m" 100 0 0 .shared))),
    Sample.call 1 (.registerModelResidency (Sample.residencySpec "m" 100 10)),
    Sample.call 2 (Sample.finish "a" .completed)]

/-- The job held 100 MiB of resident memory; `release` finds the new registration and gives back
none of it. -/
theorem register_under_active_job_leaks :
    Along (step {}) (fun s c => NoSaturation (step {} c s)) registerUnderJobRun {} ∧
      (run {} registerUnderJobRun).active.values = [] ∧
      (run {} registerUnderJobRun).reservations.vramResidentBytes = 100 * mib := by
  decide +kernel

end NpcRuntime.Broker
