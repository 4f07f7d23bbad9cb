import NpcRuntime.Broker.Ledger

/-!
# The residency state machine

A registered model counts the jobs that run on it and is in flight while there are any. Eight
operations move its state; `transition_idle_model` (eviction) checks the count and the admission
path checks the state, but two operations reset a record without looking at the running jobs:

* `clear_model_quarantine` turns a quarantined record cold even while jobs still run on it;
* `register_model_residency` starts a record at zero even when jobs already run on its target.

`ResidencyInv` is the invariant, `LeavesRunningModels` says that a call is neither of the two on a
model in use, and `clear_under_running_job` is the run that loses the resident memory of a model
in use.
-/

namespace NpcRuntime.Broker

variable {cfg : ResourceBrokerConfig}

/-! ## Resident memory -/

/-- What a record adds to the resident usage. -/
def residentWeight (record : ModelResidencyRecord) : Nat :=
  if record.holdsResidentMemory then record.spec.envelope.residentBytes else 0

/-- The resident usage is the clamped exact sum over the ledger. -/
theorem brokerReservedGpuUsage_residentBytes (s : BrokerState) :
    (brokerReservedGpuUsage s).residentBytes =
      min (s.reservations.vramResidentBytes + s.residency.total residentWeight) u64Max := by
  have hsum : ((s.residency.values.filter (·.holdsResidentMemory)).map
      (·.spec.envelope.residentBytes)).sum = s.residency.total residentWeight := by
    simp only [Table.total]
    induction s.residency.values with
    | nil => rfl
    | cons record records ih =>
      rw [List.filter_cons, List.map_cons, List.sum_cons, ← ih]
      simp only [residentWeight]
      split_ifs
      · rw [List.map_cons, List.sum_cons]
      · rw [Nat.zero_add]
  show satAdd _ (satSum _) = _
  rw [satSum_eq, hsum]
  simp only [satAdd]
  omega

variable {s : BrokerState} {record : ModelResidencyRecord}

/-- A record that holds memory is counted on top of the rest of the ledger. -/
theorem residentBytes_erase {modelId : String} (hrec : s.residency.lookup modelId = some record)
    (hholds : record.holdsResidentMemory = true) :
    (brokerReservedGpuUsage s).residentBytes = satAdd record.spec.envelope.residentBytes
      (brokerReservedGpuUsage { s with residency := s.residency.erase modelId }).residentBytes := by
  have htotal := Table.total_erase hrec residentWeight
  have hweight : residentWeight record = record.spec.envelope.residentBytes := if_pos hholds
  rw [brokerReservedGpuUsage_residentBytes, brokerReservedGpuUsage_residentBytes, htotal, hweight]
  simp only [satAdd]
  omega

/-! ## The invariant -/

/-- One for an active job whose target resolves to the registration. -/
def runsOn (spec : ModelResidencySpec) (r : ActiveRecord) : Nat :=
  if matchesSpec spec r.target then 1 else 0

/-- Every record counts the jobs that run on it, and is in flight or quarantined while there are
any. -/
structure ResidencyInv (s : BrokerState) : Prop where
  counted : ∀ m record, s.residency.lookup m = some record →
    record.activeJobs = s.active.total (runsOn record.spec)
  running : ∀ m record, s.residency.lookup m = some record → 0 < record.activeJobs →
    record.state = .inFlight ∨ record.state = .quarantined

variable {s' : BrokerState}

theorem SameJobs.total_runsOn (h : SameJobs s s') (spec : ModelResidencySpec) :
    s'.active.total (runsOn spec) = s.active.total (runsOn spec) :=
  h.total fun _ t _ => if matchesSpec spec t then 1 else 0

variable {target : ComputeTarget}

theorem matchesSpec_iff {spec : ModelResidencySpec} :
    matchesSpec spec target = true ↔ target.modelId = some spec.modelId ∧
      spec.targetId = target.targetId ∧ spec.gpuResidency = target.gpuResidency := by
  simp [matchesSpec, and_assoc]

namespace ResidencyInv

theorem init : ResidencyInv {} :=
  ⟨fun m r h => by simp at h, fun m r h => by simp at h⟩

variable {m : String}

/-- A target resolves to a record exactly when it matches the record's registration. -/
theorem resolves_iff (hbook : BookInv s) (hrec : s.residency.lookup m = some record)
    (target : ComputeTarget) :
    registeredModelForTarget s target = some record ↔ matchesSpec record.spec target = true := by
  rw [registeredModelForTarget_eq_some, matchesSpec_iff, hbook.registered m record hrec]
  constructor
  · rintro ⟨m', hm', hrec', htarget⟩
    have hkey := hbook.registered m' record hrec'
    rw [hbook.registered m record hrec] at hkey
    exact ⟨by rw [hm', hkey], htarget⟩
  · rintro ⟨hm, htarget⟩
    exact ⟨m, hm, hrec, htarget⟩

theorem of_jobs (h : ResidencyInv s) (hj : SameJobs s s') (hres : s'.residency = s.residency) :
    ResidencyInv s' where
  counted m record hm := by
    rw [hj.total_runsOn]
    exact h.counted m record (hres ▸ hm)
  running m record hm := h.running m record (hres ▸ hm)

variable {g : ModelResidencyRecord → ModelResidencyRecord}

/-- One record is rewritten and keeps its registration, its count, and the state rule. -/
theorem of_modify (h : ResidencyInv s) (hj : SameJobs s s')
    (hres : s'.residency = s.residency.modify m g)
    (hspec : ∀ record target, matchesSpec (g record).spec target = matchesSpec record.spec target)
    (hjobs : ∀ record, (g record).activeJobs = record.activeJobs) (hstate : ∀ record,
      s.residency.lookup m = some record → 0 < record.activeJobs → (g record).state = .inFlight ∨
      (g record).state = .quarantined) : ResidencyInv s' := by
  have hlookup : ∀ k record', s'.residency.lookup k = some record' →
      (k = m ∧ ∃ record, s.residency.lookup m = some record ∧ record' = g record) ∨
        s.residency.lookup k = some record' := by
    intro k record' hk
    rw [hres, Table.lookup_modify] at hk
    split_ifs at hk with hkm
    · subst hkm
      obtain ⟨record, hrec, rfl⟩ := Option.map_eq_some_iff.1 hk
      exact .inl ⟨rfl, record, hrec, rfl⟩
    · exact .inr hk
  refine ⟨fun k record' hk => ?_, fun k record' hk hpos => ?_⟩ <;>
    rcases hlookup k record' hk with ⟨rfl, record, hrec, rfl⟩ | hold
  · rw [hjobs, hj.total_runsOn, h.counted k record hrec]
    exact Table.total_congr fun _ r _ => by unfold runsOn; rw [hspec]
  · rw [hj.total_runsOn]
    exact h.counted k record' hold
  · rw [hjobs] at hpos
    exact hstate record hrec hpos
  · exact h.running k record' hold hpos

/-- A record without jobs may move to any state. -/
theorem of_idle (h : ResidencyInv s) (hj : SameJobs s s')
    (hres : s'.residency = s.residency.modify m g)
    (hspec : ∀ record target, matchesSpec (g record).spec target = matchesSpec record.spec target)
    (hjobs : ∀ record, (g record).activeJobs = record.activeJobs)
    (hrec : s.residency.lookup m = some record) (hidle : record.activeJobs = 0) :
    ResidencyInv s' := by
  apply h.of_modify hj hres hspec hjobs
  intro other hother hpos
  cases hrec.symm.trans hother
  omega

/-- Outside the two running states a record has no jobs. -/
theorem idle (h : ResidencyInv s) (hrec : s.residency.lookup m = some record)
    (hflight : record.state ≠ .inFlight) (hquarantined : record.state ≠ .quarantined) :
    record.activeJobs = 0 := by
  by_contra hne
  exact (h.running m record hrec (Nat.pos_of_ne_zero hne)).elim hflight hquarantined

/-- A job enters or leaves on `target`: the record the target resolves to, if there is one, is
rewritten to the new count, and no other record can tell. -/
theorem of_target (h : ResidencyInv s) (hbook : BookInv s) (hother : ∀ spec, matchesSpec spec
      target = false → s'.active.total (runsOn spec) = s.active.total (runsOn spec)) (hres :
      (registeredModelForTarget s target = none ∧ s'.residency = s.residency) ∨ ∃ record,
      registeredModelForTarget s target = some record ∧ s'.residency = s.residency.modify
      record.spec.modelId g) (hspec : ∀ record, (g record).spec = record.spec) (hg : ∀ m record,
      s.residency.lookup m = some record → matchesSpec record.spec target = true → (g
      record).activeJobs = s'.active.total (runsOn record.spec) ∧ (0 < (g record).activeJobs → (g
      record).state = .inFlight ∨ (g record).state = .quarantined)) : ResidencyInv s' := by
  have hlookup : ∀ m record', s'.residency.lookup m = some record' →
      (∃ record, s.residency.lookup m = some record ∧ matchesSpec record.spec target = true ∧
        record' = g record) ∨
      (s.residency.lookup m = some record' ∧ matchesSpec record'.spec target = false) := by
    intro m record' hm
    rcases hres with ⟨hreg, hres⟩ | ⟨record₀, hreg, hres⟩
    · rw [hres] at hm
      refine .inr ⟨hm, ?_⟩
      rw [← Bool.not_eq_true, ← resolves_iff hbook hm, hreg]
      simp
    · obtain ⟨m₀, -, hrec₀, -⟩ := registeredModelForTarget_eq_some.1 hreg
      have hkey₀ : record₀.spec.modelId = m₀ := hbook.registered m₀ record₀ hrec₀
      rw [hres, Table.lookup_modify, hkey₀] at hm
      split_ifs at hm with hmm
      · subst hmm
        rw [hrec₀] at hm
        exact .inl ⟨record₀, hrec₀, (resolves_iff hbook hrec₀ target).1 hreg,
          (Option.some.inj hm).symm⟩
      · refine .inr ⟨hm, ?_⟩
        rw [← Bool.not_eq_true, ← resolves_iff hbook hm, hreg]
        rintro heq
        cases heq
        exact hmm ((hbook.registered m _ hm).symm.trans hkey₀)
  refine ⟨fun m record' hm => ?_, fun m record' hm hpos => ?_⟩ <;>
    rcases hlookup m record' hm with ⟨record, hrec, hmatch, rfl⟩ | ⟨hold, hmatch⟩
  · rw [(hg m record hrec hmatch).1, hspec]
  · rw [hother _ hmatch]
    exact h.counted m record' hold
  · exact (hg m record hrec hmatch).2 hpos
  · exact h.running m record' hold hpos

/-- The record a new job runs on counts it. -/
theorem admission (h : ResidencyInv s) (hbook : BookInv s) {b : BudgetSnapshot} {job : ResourceJob}
    {outcome : AdmissionOutcome} (hnew : s.active.lookup job.jobId = none) :
    ResidencyInv (admitLocked cfg s b job target outcome).1 := by
  have htotal : ∀ spec, (admitLocked cfg s b job target outcome).1.active.total (runsOn spec) =
      (if matchesSpec spec target then 1 else 0) + s.active.total (runsOn spec) := by
    intro spec
    rw [admitLocked_active, Table.total_insert (AList.lookup_eq_none.1 hnew)]
    rfl
  refine h.of_target hbook (?_) (admitLocked_residency s b job target outcome)
    (fun _ => rfl) fun m record hrec hmatch => ⟨?_, fun _ => .inl rfl⟩
  · intro spec hmatch
    rw [htotal, hmatch]
    simp
  · show record.activeJobs + 1 = _
    rw [htotal, hmatch, h.counted m record hrec, if_pos rfl, Nat.add_comm]

/-- The record an ending job ran on stops counting it. -/
theorem endLease {s : BrokerState} (h : ResidencyInv s) (hbook : BookInv s) {jobId : String}
    {active : ActiveRecord} (hactive : s.active.lookup jobId = some active)
    (status : CompletionStatus) :
    ResidencyInv (endLease s jobId active status) := by
  have htotal : ∀ spec, s.active.total (runsOn spec) =
      (if matchesSpec spec active.target then 1 else 0) +
      (Broker.endLease s jobId active status).active.total (runsOn spec) :=
    fun spec => Table.total_erase hactive (runsOn spec)
  refine h.of_target hbook (?_) (endLease_residency s jobId active status)
    (fun _ => rfl) ?_
  · intro spec hmatch
    rw [htotal, hmatch]
    simp
  · intro m record hrec hmatch
    have hcount := h.counted m record hrec
    rw [htotal, hmatch, if_pos rfl] at hcount
    have hjobs : record.endJob.activeJobs = record.activeJobs - 1 := rfl
    refine ⟨by omega, fun hpos => ?_⟩
    -- Other jobs still run on the model: its state does not move.
    have hstate : record.endJob.state = record.state := by
      have hne : (record.activeJobs - 1 == 0) = false := by
        rw [beq_eq_false_iff_ne]
        omega
      simp [ModelResidencyRecord.endJob, hne]
    rw [hstate]
    exact h.running m record hrec (by omega)

theorem sched {b : BudgetSnapshot} (h : ResidencyInv s) (hbook : BookInv s)
    (hs : Sched cfg b s s') : ResidencyInv s' := by
  cases hs with
  | quiet hb => exact h.of_jobs (.of_books hb) hb.residency
  | dequeue => exact h.of_jobs (.of_eq rfl) rfl
  | enqueue => exact h.of_jobs (.of_eq rfl) rfl
  | admission _ hknown _ => exact h.admission hbook (isKnownJob_eq_false.1 hknown).1

/-- A model that no job runs on is registered. -/
theorem register (h : ResidencyInv s) {spec : ModelResidencySpec}
    (hidle : ∀ r ∈ s.active.values, matchesSpec spec r.target = false) :
    ResidencyInv { s with residency := s.residency.insert spec.modelId (coldRecord spec) } := by
  have hlookup : ∀ m record, (s.residency.insert spec.modelId (coldRecord spec)).lookup m =
      some record →
        m = spec.modelId ∧ record = coldRecord spec ∨ s.residency.lookup m = some record := by
    intro m record hm
    rw [Table.lookup_insert_eq] at hm
    split_ifs at hm with hmm
    · exact .inl ⟨hmm, (Option.some.inj hm).symm⟩
    · exact .inr hm
  refine ⟨fun m record hm => ?_, fun m record hm hpos => ?_⟩ <;>
    rcases hlookup m record hm with ⟨rfl, rfl⟩ | hold
  · refine (Table.total_eq_zero.2 fun k r hr => ?_).symm
    exact if_neg (by simp [coldRecord, hidle r (Table.mem_values.2 ⟨k, hr⟩)])
  · exact h.counted m record hold
  · cases hpos
  · exact h.running m record hold hpos

end ResidencyInv

/-! ## The condition -/

/-- The call does not reset a model in use: an accepted registration finds no running job on its
target, and an accepted clearing of a quarantine finds the model without jobs. -/
def LeavesRunningModels (s : BrokerState) (c : Call) : Prop :=
  match c.op with
  | .registerModelResidency spec => registrationError spec s = none →
      ∀ r ∈ s.active.values, matchesSpec spec r.target = false
  | .clearModelQuarantine modelId => (clearModelQuarantine c.reading modelId s).2.isOk = true →
      ∀ record ∈ s.residency.lookup modelId, record.activeJobs = 0
  | _ => True

instance (s : BrokerState) (c : Call) : Decidable (LeavesRunningModels s c) := by
  apply @Op.casesOn (fun op => Decidable (LeavesRunningModels s ⟨c.reading, op⟩)) c.op <;>
    intros <;> unfold LeavesRunningModels <;> infer_instance

theorem ResidencyInv.effect {c : Call} (h : ResidencyInv s) (hbook : BookInv s)
    (hcond : LeavesRunningModels s c) (he : Effect cfg c s s') : ResidencyInv s' := by
  cases he with
  | quiet hb => exact h.of_jobs (.of_books hb) hb.residency
  | sched hs =>
    exact (inv_chain (fun s => BookInv s ∧ ResidencyInv s)
      (fun _ _ hr hi => ⟨hi.1.sched hr, hi.2.sched hi.1 hr⟩) hs ⟨hbook, h⟩).2
  | register hop hreg =>
    unfold LeavesRunningModels at hcond
    rw [hop] at hcond
    exact h.register (hcond hreg)
  | warm hrec hstate =>
    have hidle := h.idle hrec (by simp [hstate]) (by simp [hstate])
    exact h.of_idle (.of_eq rfl) rfl (fun _ _ => rfl) (fun _ => rfl) hrec hidle
  | load _ _ hrec hstate =>
    have hidle := h.idle hrec (by simp [hstate]) (by simp [hstate])
    exact h.of_idle (.of_eq rfl) rfl (fun _ _ => rfl) (fun _ => rfl) hrec hidle
  | idle hrec hidle =>
    exact h.of_idle (.of_eq rfl) rfl (fun _ _ => rfl) (fun _ => rfl) hrec hidle
  | quarantine =>
    exact h.of_modify (.of_eq rfl) rfl (fun _ _ => rfl) (fun _ => rfl) fun _ _ _ => .inr rfl
  | clear hop hok _ hrec =>
    unfold LeavesRunningModels at hcond
    rw [hop] at hcond
    have hidle := hcond (by rw [hok]; rfl) _ hrec
    exact h.of_idle (.of_eq rfl) rfl (fun _ _ => rfl) (fun _ => rfl) hrec hidle
  | oomQuarantined =>
    obtain ⟨-, hres⟩ | ⟨modelId, -, hres⟩ := quarantineTarget_residency ..
    · exact h.of_jobs (.of_eq rfl) hres
    · exact h.of_modify (.of_eq rfl) hres (fun _ _ => rfl) (fun _ => rfl)
        fun _ _ _ => .inr rfl
  | output => exact h.of_jobs (.startOutput s _ _) rfl
  | unbind => exact h.of_jobs (.of_eq rfl) rfl
  | oomCounted => exact h.of_jobs (.of_eq rfl) rfl
  | @finish _ _ _ status _ _ _ hactive =>
    exact (h.endLease hbook hactive status).of_jobs (.of_eq rfl) rfl

/-- **Residency counts the running jobs.** In every run that resets no model in use, every record
counts exactly the active jobs that resolve to it, is in flight or quarantined while there are
any, idle in every other state, and its memory stays accounted while a job runs on it. -/
theorem residency_counts_running_jobs (cfg : ResourceBrokerConfig) (calls : List Call)
    (hcond : Along (step cfg) LeavesRunningModels calls {}) :
    let s := run cfg calls
    ∀ m record, s.residency.lookup m = some record →
      record.activeJobs =
        s.active.values.countP (fun r => registeredModelForTarget s r.target == some record) ∧
      (0 < record.activeJobs → record.state = .inFlight ∨ record.state = .quarantined) ∧
      (record.state = .cold ∨ record.state = .warming ∨ record.state = .loaded ∨
        record.state = .evicting → record.activeJobs = 0) ∧
      ((∃ k r, s.active.lookup k = some r ∧ registeredModelForTarget s r.target = some record) →
        (brokerReservedGpuUsage s).residentBytes = satAdd record.spec.envelope.residentBytes
          (brokerReservedGpuUsage { s with residency := s.residency.erase m }).residentBytes) := by
  have hinv : BookInv (run cfg calls) ∧ ResidencyInv (run cfg calls) :=
    Along.inv (fun s => BookInv s ∧ ResidencyInv s)
      (fun s c hi hc => ⟨bookInv_step s c hi.1, hi.2.effect hi.1 hc (effect_of_step hi.1 c)⟩)
      ⟨.init, .init⟩ hcond
  obtain ⟨hbook, h⟩ := hinv
  intro s m record hrec
  refine ⟨?_, h.running m record hrec, ?_, ?_⟩
  · rw [h.counted m record hrec]
    refine (Table.total_eq_countP s.active fun r => matchesSpec record.spec r.target).trans ?_
    refine List.countP_congr fun r _ => ?_
    rw [beq_iff_eq, ResidencyInv.resolves_iff hbook hrec]
  · intro hstate
    by_contra hne
    rcases h.running m record hrec (Nat.pos_of_ne_zero hne) with hr | hr <;>
      simp [hr] at hstate
  · rintro ⟨k, r, hr, hreg⟩
    have hone : 1 ≤ record.activeJobs := by
      rw [h.counted m record hrec]
      have hle := Table.le_total hr (runsOn record.spec)
      rwa [runsOn, if_pos ((ResidencyInv.resolves_iff hbook hrec _).1 hreg)] at hle
    apply residentBytes_erase hrec
    rcases h.running m record hrec hone with hs | hs <;>
      simp [ModelResidencyRecord.holdsResidentMemory, hs, Nat.lt_of_lt_of_le Nat.zero_lt_one hone]

/-- A model is quarantined by two memory failures while its job runs, and cleared once the job has
ended and the quarantine has elapsed. -/
def clearIdleRun : List Call :=
  [Sample.call 0 (.registerModelResidency (Sample.residencySpec "m" 200 40)),
    Sample.call 0 (.beginModelWarming "m"),
    Sample.call 0 (.markModelLoaded "m" (Sample.envelope 200 40)),
    Sample.call 0 (.submit (Sample.job "a" .embedding (Sample.target "m" 200 10 20 .shared))),
    Sample.call 0 (.reportOom "a"), Sample.call 0 (.reportOom "a"),
    Sample.call 1 (Sample.finish "a" .outOfMemory), Sample.call 1000 (.clearModelQuarantine "m")]

theorem residency_counts_running_jobs_clearIdleRun :
    (run Sample.config clearIdleRun).residency.lookup "m" =
        some (coldRecord (Sample.residencySpec "m" 200 40)) ∧
      (coldRecord (Sample.residencySpec "m" 200 40)).activeJobs =
        (run Sample.config clearIdleRun).active.values.countP (fun r =>
          registeredModelForTarget (run Sample.config clearIdleRun) r.target ==
            some (coldRecord (Sample.residencySpec "m" 200 40))) := by
  have hrec : (run Sample.config clearIdleRun).residency.lookup "m" =
      some (coldRecord (Sample.residencySpec "m" 200 40)) := by decide +kernel
  exact ⟨hrec, (residency_counts_running_jobs Sample.config clearIdleRun (by decide +kernel) "m" _
    hrec).1⟩

/-- The same run with the lease still outstanding when the quarantine is cleared. -/
def clearUnderJobRun : List Call :=
  [Sample.call 0 (.registerModelResidency (Sample.residencySpec "m" 200 40)),
    Sample.call 0 (.beginModelWarming "m"),
    Sample.call 0 (.markModelLoaded "m" (Sample.envelope 200 40)),
    Sample.call 0 (.submit (Sample.job "a" .embedding (Sample.target "m" 200 10 20 .shared))),
    Sample.call 0 (.reportOom "a"), Sample.call 0 (.reportOom "a"),
    Sample.call 1000 (.clearModelQuarantine "m")]

/-- The model is cold with a job still running on it, and its memory is no longer accounted. -/
theorem clear_under_running_job :
    ((run Sample.config clearUnderJobRun).residency.lookup "m").map
        (fun record => (record.state, record.activeJobs)) = some (.cold, 1) ∧
      ((run Sample.config clearUnderJobRun).active.lookup "a").isSome = true ∧
      (brokerReservedGpuUsage (run Sample.config clearUnderJobRun)).residentBytes = 0 := by
  decide +kernel

end NpcRuntime.Broker
