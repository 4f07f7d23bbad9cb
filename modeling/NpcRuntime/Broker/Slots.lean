import NpcRuntime.Broker.Step

/-!
# Foreground and GPU slots

The broker remembers its slots as single job IDs and a counter: `foreground_turn_job`,
`exclusive_gpu_job` and `gpu_leases`. They are exact: the counter is the number of active jobs on
a GPU target, and an active job that needs a slot is the one the slot names. Mutual exclusion
follows, since admission only ever looks at the slots.
-/

namespace NpcRuntime.Broker

variable {cfg : ResourceBrokerConfig}

/-- One for a job on a GPU target. -/
def gpuWeight (r : ActiveRecord) : Nat := if r.target.gpuResidency != .none then 1 else 0

/-- The slots name the jobs that hold them. -/
structure SlotInv (s : BrokerState) : Prop where
  leases : s.reservations.gpuLeases = s.active.total gpuWeight
  exclusive : ∀ k r, s.active.lookup k = some r → r.target.gpuResidency = .exclusive →
    s.reservations.exclusiveGpuJob = some k ∧ s.active.total gpuWeight = 1
  foreground : ∀ k r, s.active.lookup k = some r → r.job.kind.holdsForegroundTurnSlot = true →
    s.reservations.foregroundTurnJob = some k

namespace SlotInv

theorem init : SlotInv {} :=
  ⟨rfl, fun k r h => by simp at h, fun k r h => by simp at h⟩

variable {s s' : BrokerState}

theorem of_jobs (h : SlotInv s) (hr : s'.reservations = s.reservations) (hj : SameJobs s s') :
    SlotInv s' := by
  have htotal : s'.active.total gpuWeight = s.active.total gpuWeight :=
    hj.total fun _ t _ => if t.gpuResidency != .none then 1 else 0
  refine ⟨by rw [hr, htotal]; exact h.leases, ?_, ?_⟩
  · intro k r' hk hx
    obtain ⟨r, hrec, -, ht, -⟩ := hj.lookup hk
    rw [hr, htotal]
    exact h.exclusive k r hrec (ht ▸ hx)
  · intro k r' hk hx
    obtain ⟨r, hrec, hjob, -, -⟩ := hj.lookup hk
    rw [hr]
    exact h.foreground k r hrec (hjob ▸ hx)

variable {job : ResourceJob} {target : ComputeTarget}

/-- What an admission finds: the foreground slot free if the job takes it, no exclusive job if the
target is on the GPU, and nobody on the GPU if the target is exclusive. -/
theorem free_of_residencyAvailable (havail : residencyAvailable s job target = true) :
    (job.kind.holdsForegroundTurnSlot = true → s.reservations.foregroundTurnJob = none) ∧
      (target.gpuResidency = .shared → s.reservations.exclusiveGpuJob = none) ∧
      (target.gpuResidency = .exclusive → s.reservations.gpuLeases = 0) := by
  unfold residencyAvailable at havail
  split_ifs at havail with hfg hrec
  refine ⟨?_, ?_, ?_⟩
  · intro hholds
    rw [hholds, Bool.true_and, Bool.not_eq_true, Option.isSome_eq_false_iff] at hfg
    exact Option.isNone_iff_eq_none.1 hfg
  · intro hshared
    rw [hshared] at havail
    exact Option.isNone_iff_eq_none.1 havail
  · intro hexclusive
    rw [hexclusive] at havail
    exact beq_iff_eq.1 havail

/-- Next to an active exclusive job nothing is admitted on the GPU. -/
theorem gpuResidency_none (h : SlotInv s) (havail : residencyAvailable s job target = true)
    {k : String} {r : ActiveRecord} (hr : s.active.lookup k = some r)
    (hx : r.target.gpuResidency = .exclusive) : target.gpuResidency = .none := by
  obtain ⟨hslot, hone⟩ := h.exclusive k r hr hx
  obtain ⟨-, hshared, hexclusive⟩ := free_of_residencyAvailable havail
  cases hg : target.gpuResidency with
  | none => rfl
  | shared =>
    rw [hshared hg] at hslot
    cases hslot
  | exclusive =>
    have hzero := hexclusive hg
    rw [h.leases] at hzero
    omega

/-- An admission finds the slots it takes free. -/
theorem admission (h : SlotInv s) {b : BudgetSnapshot} {outcome : AdmissionOutcome}
    (hnew : s.active.lookup job.jobId = none) (havail : residencyAvailable s job target = true) :
    SlotInv (admitLocked cfg s b job target outcome).1 := by
  set record := admittedRecord cfg s b job target outcome
  have hweight : gpuWeight record = if target.gpuResidency != .none then 1 else 0 := rfl
  have htotal : (admitLocked cfg s b job target outcome).1.active.total gpuWeight =
      gpuWeight record + s.active.total gpuWeight := by
    rw [admitLocked_active, Table.total_insert (AList.lookup_eq_none.1 hnew)]
  obtain ⟨hfree, -, hexclusive⟩ := free_of_residencyAvailable havail
  refine ⟨?_, ?_, ?_⟩
  · rw [htotal, hweight]
    show (if target.gpuResidency != .none then s.reservations.gpuLeases + 1
      else s.reservations.gpuLeases) = _ + s.active.total gpuWeight
    rw [h.leases]
    split_ifs <;> omega
  · intro k r hk hx
    rw [htotal, hweight]
    show (if target.gpuResidency == .exclusive then some job.jobId
      else s.reservations.exclusiveGpuJob) = some k ∧ _
    rcases admitLocked_lookup_cases hk with ⟨rfl, rfl⟩ | ⟨-, hold⟩
    · -- The new job is exclusive: nobody was on the GPU.
      have hx' : target.gpuResidency = .exclusive := hx
      have hzero := hexclusive hx'
      rw [h.leases] at hzero
      rw [hx', hzero]
      exact ⟨rfl, rfl⟩
    · -- An exclusive job was active: the new job is not on the GPU.
      obtain ⟨hslot, hone⟩ := h.exclusive k r hold hx
      rw [h.gpuResidency_none havail hold hx, hone]
      exact ⟨hslot, rfl⟩
  · intro k r hk hx
    show (if job.kind.holdsForegroundTurnSlot then some job.jobId
      else s.reservations.foregroundTurnJob) = some k
    rcases admitLocked_lookup_cases hk with ⟨rfl, rfl⟩ | ⟨-, hold⟩
    · rw [if_pos (show job.kind.holdsForegroundTurnSlot = true from hx)]
    · have hslot := h.foreground k r hold hx
      rw [if_neg]
      · exact hslot
      · intro hholds
        rw [hfree hholds] at hslot
        cases hslot

theorem sched {b : BudgetSnapshot} (h : SlotInv s) (hs : Sched cfg b s s') : SlotInv s' := by
  cases hs with
  | quiet hb => exact h.of_jobs hb.reservations (.of_books hb)
  | dequeue => exact h.of_jobs rfl (.of_eq rfl)
  | enqueue => exact h.of_jobs rfl (.of_eq rfl)
  | admission _ hknown hsel =>
    exact h.admission (isKnownJob_eq_false.1 hknown).1 (selectTargetLocked_spec hsel).2.2.2.2

/-- A lease that ends gives back its own slots and no others. -/
theorem endLease {s : BrokerState} (h : SlotInv s) {jobId : String} {active : ActiveRecord}
    (hkey : active.job.jobId = jobId) (hactive : s.active.lookup jobId = some active)
    (status : CompletionStatus) : SlotInv (endLease s jobId active status) := by
  have htotal := Table.total_erase hactive gpuWeight
  have hlookup : ∀ k r, (Broker.endLease s jobId active status).active.lookup k = some r →
      k ≠ jobId ∧ s.active.lookup k = some r := by
    intro k r hk
    have hk' : (s.active.erase jobId).lookup k = some r := hk
    rw [Table.lookup_erase_eq] at hk'
    split_ifs at hk' with hkj
    exact ⟨hkj, hk'⟩
  refine ⟨?_, ?_, ?_⟩
  · show (if active.target.gpuResidency != .none then s.reservations.gpuLeases - 1
      else s.reservations.gpuLeases) = Table.total gpuWeight (s.active.erase jobId)
    rw [h.leases, htotal,
      show gpuWeight active = if active.target.gpuResidency != .none then 1 else 0 from rfl]
    split_ifs <;> omega
  · intro k r hk hx
    obtain ⟨hne, hold⟩ := hlookup k r hk
    obtain ⟨hslot, hone⟩ := h.exclusive k r hold hx
    refine ⟨?_, ?_⟩
    · show (if s.reservations.exclusiveGpuJob == some active.job.jobId then none
        else s.reservations.exclusiveGpuJob) = some k
      rw [hslot, hkey, if_neg (by simpa using hne)]
    · have hk' : (s.active.erase jobId).lookup k = some r := hk
      have hle := Table.le_total hk' gpuWeight
      have hw : gpuWeight r = 1 := by simp [gpuWeight, hx]
      show Table.total gpuWeight (s.active.erase jobId) = 1
      omega
  · intro k r hk hx
    obtain ⟨hne, hold⟩ := hlookup k r hk
    show (if s.reservations.foregroundTurnJob == some active.job.jobId then none
      else s.reservations.foregroundTurnJob) = some k
    rw [h.foreground k r hold hx, hkey, if_neg (by simpa using hne)]

theorem effect {c : Call} (h : SlotInv s) (hq : BookInv s) (he : Effect cfg c s s') :
    SlotInv s' := by
  cases he with
  | quiet hb => exact h.of_jobs hb.reservations (.of_books hb)
  | sched hs => exact inv_chain SlotInv (fun _ _ hr hi => hi.sched hr) hs h
  | output _ hrec => exact h.of_jobs rfl (.startOutput s _ _)
  | @finish _ _ _ status _ _ _ hactive =>
    exact (h.endLease (hq.keyed _ _ hactive) hactive status).of_jobs rfl (.of_eq rfl)
  | register | warm | load | idle | quarantine | clear | unbind | oomCounted | oomQuarantined =>
    exact h.of_jobs rfl (.of_eq rfl)

end SlotInv

/-- **The slots are exact along every run.** -/
theorem slotInv_run (calls : List Call) : SlotInv (run cfg calls) :=
  (inv_runFrom (fun s => BookInv s ∧ SlotInv s)
    (fun s c h => ⟨bookInv_step s c h.1, h.2.effect h.1 (effect_of_step h.1 c)⟩)
    ⟨.init, .init⟩ calls).2

/-- **Mutual exclusion.** In every reachable state at most one active job holds the foreground
turn, and an active job on an exclusive GPU target is the only active job on the GPU. -/
theorem foreground_and_exclusive_gpu_alone (cfg : ResourceBrokerConfig) (calls : List Call) :
    (∀ j₁ j₂ r₁ r₂, (run cfg calls).active.lookup j₁ = some r₁ →
      (run cfg calls).active.lookup j₂ = some r₂ →
      r₁.job.kind.holdsForegroundTurnSlot = true → r₂.job.kind.holdsForegroundTurnSlot = true →
      j₁ = j₂) ∧
    (∀ j₁ j₂ r₁ r₂, (run cfg calls).active.lookup j₁ = some r₁ →
      (run cfg calls).active.lookup j₂ = some r₂ →
      r₁.target.gpuResidency = .exclusive → r₂.target.gpuResidency ≠ .none → j₁ = j₂) := by
  have h : SlotInv (run cfg calls) := slotInv_run calls
  refine ⟨?_, ?_⟩
  · intro j₁ j₂ r₁ r₂ h₁ h₂ hf₁ hf₂
    exact Option.some.inj ((h.foreground j₁ r₁ h₁ hf₁).symm.trans (h.foreground j₂ r₂ h₂ hf₂))
  · intro j₁ j₂ r₁ r₂ h₁ h₂ hx hg
    by_contra hne
    -- Two jobs on the GPU would make the count two.
    have hone := (h.exclusive j₁ r₁ h₁ hx).2
    have htotal := Table.total_erase h₁ gpuWeight
    have h₂' : ((run cfg calls).active.erase j₁).lookup j₂ = some r₂ := by
      rw [Table.lookup_erase_eq, if_neg (Ne.symm hne)]
      exact h₂
    have hle := Table.le_total h₂' gpuWeight
    have hw₁ : gpuWeight r₁ = 1 := by simp [gpuWeight, hx]
    have hw₂ : gpuWeight r₂ = 1 := by simp [gpuWeight, hg]
    omega

/-- A foreground turn on an exclusive target, then a job on a shared target. -/
def exclusiveRun : List Call :=
  let exclusive := Sample.target "x" 10 0 0 .exclusive
  [Sample.call 0 (.submit (Sample.job "turn" (.interactiveTurn "u") exclusive)),
    Sample.call 1 (.submit (Sample.job "embed" .embedding (Sample.target "t" 10 0 0 .shared)))]

theorem foreground_and_exclusive_gpu_alone_exclusiveRun :
    ∃ r, (run {} exclusiveRun).active.lookup "turn" = some r ∧ r.target.gpuResidency = .exclusive ∧
      r.job.kind.holdsForegroundTurnSlot = true ∧
      ∀ j₂ r₂, (run {} exclusiveRun).active.lookup j₂ = some r₂ →
        r₂.job.kind.holdsForegroundTurnSlot = true ∨ r₂.target.gpuResidency ≠ .none →
          "turn" = j₂ := by
  have hturn : ((run {} exclusiveRun).active.lookup "turn").any (fun r =>
      r.target.gpuResidency == .exclusive && r.job.kind.holdsForegroundTurnSlot) = true := by
    decide +kernel
  obtain ⟨r, hr, hslots⟩ := (Option.any_eq_true _ _).1 hturn
  rw [Bool.and_eq_true, beq_iff_eq] at hslots
  have halone := foreground_and_exclusive_gpu_alone {} exclusiveRun
  refine ⟨r, hr, hslots.1, hslots.2, ?_⟩
  intro j₂ r₂ h₂ hslot
  rcases hslot with hfg | hgpu
  · exact halone.1 "turn" j₂ r r₂ hr h₂ hslots.2 hfg
  · exact halone.2 "turn" j₂ r r₂ hr h₂ hslots.1 hgpu

end NpcRuntime.Broker
