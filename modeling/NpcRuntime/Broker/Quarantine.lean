import NpcRuntime.Broker.Ledger

/-!
# Out-of-memory quarantine

`report_oom` quarantines a target in two places: the health entry of the target, and the residency
record of the job's model. Admission refuses the target while one of them holds. They are erased
by different operations:

* a job that completes on the target removes the health entry, quarantine included, and a job
  admitted before the quarantine may still complete;
* `clear_model_quarantine` removes the residency part, once its time has passed;
* `quarantine_model_residency` overwrites the time of the residency part.

`QuarantineHolds s t u` says that one of the two still covers the target `t` until `u`. It survives
every call but the completion of a job on `t` that no residency record backs up.
-/

namespace NpcRuntime.Broker

variable {cfg : ResourceBrokerConfig}

/-- The health entry quarantines the target at least until `untilMs`. -/
def healthHolds (s : BrokerState) (targetId : String) (untilMs : Nat) : Bool :=
  (s.targetHealth.lookup targetId).any fun health => decide (untilMs ≤ health.quarantineUntilMs)

/-- The residency record quarantines the target at least until `untilMs`. -/
def recordHolds (targetId : String) (untilMs : Nat) (record : ModelResidencyRecord) : Bool :=
  record.spec.targetId == targetId && record.state == .quarantined &&
    record.quarantineUntilMs.any fun u => decide (untilMs ≤ u)

def residencyHolds (s : BrokerState) (targetId : String) (untilMs : Nat) : Bool :=
  s.residency.values.any (recordHolds targetId untilMs)

def QuarantineHolds (s : BrokerState) (targetId : String) (untilMs : Nat) : Prop :=
  healthHolds s targetId untilMs = true ∨ residencyHolds s targetId untilMs = true

variable {record : ModelResidencyRecord} {targetId : String} {untilMs : Nat}

theorem recordHolds_iff :
    recordHolds targetId untilMs record = true ↔ record.spec.targetId = targetId ∧
      record.state = .quarantined ∧ ∃ u, record.quarantineUntilMs = some u ∧ untilMs ≤ u := by
  simp [recordHolds, and_assoc, Option.any_eq_true]

variable {s : BrokerState}

theorem residencyHolds_iff :
    residencyHolds s targetId untilMs = true ↔
      ∃ m record, s.residency.lookup m = some record ∧
        recordHolds targetId untilMs record = true := by
  simp only [residencyHolds, List.any_eq_true, Table.mem_values]
  constructor
  · rintro ⟨record, ⟨m, hm⟩, hr⟩
    exact ⟨m, record, hm, hr⟩
  · rintro ⟨m, record, hm, hr⟩
    exact ⟨record, ⟨m, hm⟩, hr⟩

variable {s : BrokerState}

/-- Before its time a quarantine that holds is seen by admission. -/
theorem QuarantineHolds.isTargetQuarantined (h : QuarantineHolds s targetId untilMs) {nowMs : Nat}
    (hnow : nowMs < untilMs) : isTargetQuarantined s targetId nowMs = true := by
  simp only [Broker.isTargetQuarantined]
  rw [Bool.or_eq_true]
  rcases h with h | h
  · left
    obtain ⟨health, hl, hle⟩ := Option.any_eq_true _ _ |>.1 h
    rw [hl]
    simpa using lt_of_lt_of_le hnow (of_decide_eq_true hle)
  · right
    obtain ⟨m, record, hm, hr⟩ := residencyHolds_iff.1 h
    obtain ⟨htarget, hstate, u, hu, hle⟩ := recordHolds_iff.1 hr
    refine List.any_eq_true.2 ⟨record, Table.mem_values.2 ⟨m, hm⟩, ?_⟩
    simp [htarget, hstate, hu, lt_of_lt_of_le hnow hle]

theorem healthHolds_quarantineTarget (s : BrokerState) (target : ComputeTarget)
    (untilMs nowMs : Nat) :
    healthHolds (quarantineTarget cfg s target untilMs nowMs) target.targetId untilMs = true := by
  simp only [healthHolds]
  show ((s.targetHealth.insert target.targetId _).lookup target.targetId).any _ = true
  rw [Table.lookup_insert_eq, if_pos rfl]
  simp

/-! ## Moves of the residency table -/

variable {s' : BrokerState} {m : String} {g : ModelResidencyRecord → ModelResidencyRecord}

theorem residencyHolds_modify (hres : s'.residency = s.residency.modify m g)
    (hg : ∀ record, s.residency.lookup m = some
      record → recordHolds targetId untilMs record = true → recordHolds targetId untilMs (g
      record) = true) (h : residencyHolds s targetId untilMs = true) :
    residencyHolds s' targetId untilMs = true := by
  obtain ⟨k, record, hk, hr⟩ := residencyHolds_iff.1 h
  refine residencyHolds_iff.2 ⟨k, ?_⟩
  rw [hres, Table.lookup_modify]
  split_ifs with hkm
  · subst hkm
    exact ⟨g record, by rw [hk]; rfl, hg record hk hr⟩
  · exact ⟨record, hk, hr⟩

namespace QuarantineHolds

variable {targetId : String} {untilMs : Nat} (h : QuarantineHolds s targetId untilMs)

include h

theorem of_eq (hhealth : s'.targetHealth = s.targetHealth) (hres : s'.residency = s.residency) :
    QuarantineHolds s' targetId untilMs := by
  simp only [QuarantineHolds, healthHolds, residencyHolds] at *
  rw [hhealth, hres]
  exact h

theorem of_modify (hhealth : s'.targetHealth = s.targetHealth)
    (hres : s'.residency = s.residency.modify m g) (hg
      : ∀ record, s.residency.lookup m = some record → recordHolds targetId untilMs record = true
      → recordHolds targetId untilMs (g record) = true) : QuarantineHolds s' targetId untilMs := by
  refine h.imp (fun hh => ?_) (residencyHolds_modify hres hg)
  simp only [healthHolds] at *
  rw [hhealth]
  exact hh

/-- Admissions run on loaded models and leave quarantined records alone. -/
theorem sched {b : BudgetSnapshot} (hbook : BookInv s) (hs : Sched cfg b s s') :
    QuarantineHolds s' targetId untilMs := by
  cases hs with
  | quiet hb => exact h.of_eq hb.targetHealth hb.residency
  | dequeue => exact h.of_eq rfl rfl
  | enqueue => exact h.of_eq rfl rfl
  | @admission job target outcome _ _ hsel =>
    obtain ⟨-, hres⟩ | ⟨record₀, hreg, hres⟩ := @admitLocked_residency cfg s b job target outcome
    · exact h.of_eq rfl hres
    · obtain ⟨m, -, hrec₀, -⟩ := registeredModelForTarget_eq_some.1 hreg
      rw [hbook.registered m record₀ hrec₀] at hres
      refine h.of_modify rfl hres ?_
      intro record hrec hr
      cases hrec₀.symm.trans hrec
      have hstate := (recordHolds_iff.1 hr).2.1
      have havail := (selectTargetLocked_spec hsel).2.2.2.2
      rcases state_of_residencyAvailable havail hreg with hs | hs <;> simp [hs] at hstate

theorem chain {b : BudgetSnapshot} (hbook : BookInv s) (hs : SchedChain cfg b s s') :
    QuarantineHolds s' targetId untilMs :=
  (inv_chain (fun s => BookInv s ∧ QuarantineHolds s targetId untilMs)
    (fun _ _ hr hi => ⟨hi.1.sched hr, hi.2.sched hi.1 hr⟩) hs ⟨hbook, h⟩).2

end QuarantineHolds

/-! ## The condition -/

/-- The clock of the call's telemetry, if it answers, shows at least `nowMs`. -/
def clockAtLeast (nowMs : Nat) (c : Call) : Bool :=
  match c.reading.snapshot with
  | .ok b => decide (nowMs ≤ b.monotonicMs)
  | .error _ => true

/-- Up to `untilMs` the clock does not go backwards from one call to a later one. -/
def clockOrdered (untilMs : Nat) (c c' : Call) : Bool :=
  match c.reading.snapshot with
  | .ok b => clockAtLeast (min b.monotonicMs untilMs) c'
  | .error _ => true

/-- The clock of the call's telemetry shows that `untilMs` has come. -/
def clockReached (untilMs : Nat) (c : Call) : Bool :=
  match c.reading.snapshot with
  | .ok b => decide (untilMs ≤ b.monotonicMs)
  | .error _ => false

/-- The calls before the first one whose clock shows that `untilMs` has come. -/
def callsBefore (untilMs : Nat) (calls : List Call) : List Call :=
  calls.takeWhile fun c => !clockReached untilMs c

theorem clockReached_iff {c : Call} :
    clockReached untilMs c = true ↔
      ∃ b, c.reading.snapshot = .ok b ∧ untilMs ≤ b.monotonicMs := by
  unfold clockReached
  split <;> simp_all

/-- The call does not take away the last of the two quarantines of the target before its time: a
job completes on the target only while a residency record holds the quarantine, and the record is
not given an earlier time once the health entry is gone. -/
def KeepsQuarantine (targetId : String) (untilMs : Nat) (s : BrokerState) (c : Call) : Prop :=
  match c.op with
  | .finishLease jobId _ _ status => status = .completed → ∀ r ∈ s.active.lookup jobId,
      r.target.targetId = targetId → residencyHolds s targetId untilMs = true
  | .quarantineModelResidency modelId newUntilMs => ∀ record ∈ s.residency.lookup modelId,
      record.spec.targetId = targetId → newUntilMs < untilMs → healthHolds s targetId untilMs = true
  | _ => True

instance (targetId : String) (untilMs : Nat) (s : BrokerState) (c : Call) :
    Decidable (KeepsQuarantine targetId untilMs s c) := by
  apply @Op.casesOn (fun op => Decidable (KeepsQuarantine targetId untilMs s ⟨c.reading, op⟩))
    c.op <;>
    intros <;> unfold KeepsQuarantine <;> infer_instance

/-! ## One call -/

namespace QuarantineHolds

variable {targetId : String} {untilMs : Nat}

section

variable (h : QuarantineHolds s targetId untilMs)

include h

/-- The end of a lease: the residency part never moves, and the health entry only when the job has
completed. -/
theorem endLease {jobId : String} {active : ActiveRecord} {status : CompletionStatus}
    (hcond : status = .completed → active.target.targetId = targetId →
      residencyHolds s targetId untilMs = true) :
    QuarantineHolds (endLease s jobId active status) targetId untilMs := by
  have hres : residencyHolds s targetId untilMs = true →
      residencyHolds (Broker.endLease s jobId active status) targetId untilMs = true := by
    obtain ⟨-, hres⟩ | ⟨record₀, -, hres⟩ := endLease_residency s jobId active status
    · simp only [residencyHolds]
      rw [hres]
      exact id
    · apply residencyHolds_modify hres
      intro record _ hr
      obtain ⟨htarget, hstate, hu⟩ := recordHolds_iff.1 hr
      exact recordHolds_iff.2 ⟨htarget, by simp [ModelResidencyRecord.endJob, hstate], hu⟩
  rcases h with h | h
  · by_cases hdone : status = .completed ∧ active.target.targetId = targetId
    · exact .inr (hres (hcond hdone.1 hdone.2))
    · left
      have hkeep : (Broker.endLease s jobId active status).targetHealth.lookup targetId =
          s.targetHealth.lookup targetId := by
        show (if status = .completed then s.targetHealth.erase active.target.targetId
          else s.targetHealth).lookup targetId = _
        split_ifs with hstatus
        · rw [Table.lookup_erase_eq, if_neg fun heq => hdone ⟨hstatus, heq.symm⟩]
        · rfl
      simp only [healthHolds] at *
      rw [hkeep]
      exact h
  · exact .inr (hres h)

/-- Another out-of-memory report on any target, not earlier than the first. -/
theorem oomQuarantined {target : ComputeTarget} {newUntilMs nowMs : Nat}
    (hle : untilMs ≤ newUntilMs) :
    QuarantineHolds (quarantineTarget cfg s target newUntilMs nowMs) targetId untilMs := by
  have hres : residencyHolds s targetId untilMs = true →
      residencyHolds (quarantineTarget cfg s target newUntilMs nowMs) targetId untilMs = true := by
    obtain ⟨-, hres⟩ | ⟨m, -, hres⟩ := @quarantineTarget_residency cfg s target newUntilMs nowMs
    · simp only [residencyHolds]
      rw [hres]
      exact id
    · apply residencyHolds_modify hres
      intro record _ hr
      exact recordHolds_iff.2 ⟨(recordHolds_iff.1 hr).1, rfl, newUntilMs, rfl, hle⟩
  refine h.imp (fun hh => ?_) hres
  simp only [healthHolds] at *
  show ((s.targetHealth.insert target.targetId _).lookup targetId).any _ = true
  rw [Table.lookup_insert_eq]
  split_ifs
  · simpa using hle
  · exact hh

/-- A registration is under a new model ID. -/
theorem register {spec : ModelResidencySpec} (hreg : registrationError spec s = none) :
    QuarantineHolds { s with residency := s.residency.insert spec.modelId (coldRecord spec) }
      targetId untilMs := by
  apply h.imp id
  intro hr
  obtain ⟨m, record, hm, hrec⟩ := residencyHolds_iff.1 hr
  refine residencyHolds_iff.2 ⟨m, record, ?_, hrec⟩
  rw [Table.lookup_insert_eq, if_neg]
  · exact hm
  · rintro rfl
    rw [(registrationError_fresh hreg).1] at hm
    cases hm

/-- Counting a failure leaves the quarantine time of the entry alone. -/
theorem countOom (failed : String) (accounted : BrokerAccountedGpuUsage) :
    QuarantineHolds { s with
      telemetryAccounted := accounted
      targetHealth := s.targetHealth.insert failed (countOom s failed) } targetId untilMs := by
  refine h.imp ?_ id
  intro hh
  simp only [healthHolds] at *
  rw [Table.lookup_insert_eq]
  split_ifs with heq
  · subst heq
    obtain ⟨health, hl, hle⟩ := Option.any_eq_true _ _ |>.1 hh
    simpa [Broker.countOom, healthOf, hl] using hle
  · exact hh

/-- A record that is not quarantined does not concern the quarantine. -/
theorem of_other (hhealth : s'.targetHealth = s.targetHealth)
    (hres : s'.residency = s.residency.modify m g) (hrec : s.residency.lookup m = some record)
    (hr : recordHolds targetId untilMs record = false) : QuarantineHolds s' targetId untilMs := by
  apply h.of_modify hhealth hres
  intro other hother hholds
  cases hrec.symm.trans hother
  rw [hr] at hholds
  cases hholds

end

theorem recordHolds_eq_false (h : record.state ≠ .quarantined) :
    recordHolds targetId untilMs record = false :=
  Bool.eq_false_iff.2 fun hr => h (recordHolds_iff.1 hr).2.1

/-- A call keeps the quarantine, or its clock shows that the time is over. -/
theorem effect {c : Call} {startMs : Nat}
    (h : QuarantineHolds s targetId (satAdd startMs cfg.quarantineMs)) (hbook : BookInv s)
    (hcond : KeepsQuarantine targetId (satAdd startMs cfg.quarantineMs) s c)
    (hclock : clockAtLeast startMs c = true) (he : Effect cfg c s s') :
    QuarantineHolds s' targetId (satAdd startMs cfg.quarantineMs) ∨
      clockReached (satAdd startMs cfg.quarantineMs) c = true := by
  unfold KeepsQuarantine at hcond
  cases he with
  | quiet hb => exact .inl (h.of_eq hb.targetHealth hb.residency)
  | sched hs => exact .inl (h.chain hbook hs)
  | register _ hreg => exact .inl (h.register hreg)
  | warm hrec hstate =>
    exact .inl (h.of_other rfl rfl hrec (recordHolds_eq_false (by simp [hstate])))
  | load _ _ hrec hstate =>
    exact .inl (h.of_other rfl rfl hrec (recordHolds_eq_false (by simp [hstate])))
  | idle hrec _ hstate =>
    refine .inl (h.of_other rfl rfl hrec (recordHolds_eq_false ?_))
    rcases hstate with ⟨hs, -⟩ | ⟨hs, -⟩ <;> simp [hs]
  | @quarantine m newUntilMs hop =>
    rw [hop] at hcond
    by_cases hhealth : healthHolds s targetId (satAdd startMs cfg.quarantineMs) = true
    · exact .inl (.inl hhealth)
    · refine .inl (h.of_modify rfl rfl ?_)
      intro record hrec hr
      have htarget := (recordHolds_iff.1 hr).1
      refine recordHolds_iff.2 ⟨htarget, rfl, newUntilMs, rfl, ?_⟩
      by_contra hlt
      exact hhealth (hcond record hrec htarget (not_le.1 hlt))
  | @clear m record b hop _ hb hrec helapsed =>
    by_cases hr : recordHolds targetId (satAdd startMs cfg.quarantineMs) record = true
    · -- The record is cleared only once its time, which covers ours, has passed.
      right
      obtain ⟨-, -, u, hu, hle⟩ := recordHolds_iff.1 hr
      refine clockReached_iff.2 ⟨b, hb, ?_⟩
      simp only [quarantineElapsed, hu, Option.any_some, Bool.and_eq_true, Bool.not_eq_true',
        decide_eq_false_iff_not, not_lt] at helapsed
      exact hle.trans helapsed.2
    · exact .inl (h.of_other rfl rfl hrec (Bool.eq_false_iff.2 hr))
  | output => exact .inl (h.of_eq rfl rfl)
  | unbind => exact .inl (h.of_eq rfl rfl)
  | oomCounted => exact .inl (h.countOom _ _)
  | @oomQuarantined _ _ b accounted _ hread =>
    have hstart : startMs ≤ b.monotonicMs := by
      simpa [clockAtLeast, Reading.validated_snapshot hread] using hclock
    have h' : QuarantineHolds { s with telemetryAccounted := accounted } targetId
        (satAdd startMs cfg.quarantineMs) := h.of_eq rfl rfl
    exact .inl (h'.oomQuarantined (satAdd_mono hstart le_rfl))
  | finish hop hactive =>
    rw [hop] at hcond
    exact .inl ((h.endLease fun hstatus htarget => hcond hstatus _ hactive htarget).of_eq rfl rfl)

end QuarantineHolds

/-- The report that reaches the limit quarantines the target. -/
theorem healthHolds_reportOom {reading : Reading} {jobId : String} {active : ActiveRecord}
    {b : BudgetSnapshot} {accounted : BrokerAccountedGpuUsage}
    (hactive : s.active.lookup jobId = some active) (hread : reading.validated = .ok (b, accounted))
    (hlimit : cfg.oomFailuresBeforeQuarantine ≤
      (countOom s active.target.targetId).oomFailures) :
    healthHolds (step cfg ⟨reading, .reportOom jobId⟩ s) active.target.targetId
      (satAdd b.monotonicMs cfg.quarantineMs) = true := by
  have hstep : (step cfg ⟨reading, .reportOom jobId⟩ s).targetHealth =
      (quarantineTarget cfg { s with telemetryAccounted := accounted } active.target
        (satAdd b.monotonicMs cfg.quarantineMs) b.monotonicMs).targetHealth := by
    have hlimit' : ¬ (countOom { s with telemetryAccounted := accounted }
        active.target.targetId).oomFailures < cfg.oomFailuresBeforeQuarantine := not_lt.2 hlimit
    simp only [step, respond, reportOom, hread, hactive, Prod.map_fst, id, if_neg hlimit']
    split
    · rfl
    · split <;> rfl
  have hholds : healthHolds (quarantineTarget cfg { s with telemetryAccounted := accounted }
      active.target (satAdd b.monotonicMs cfg.quarantineMs) b.monotonicMs) active.target.targetId
      (satAdd b.monotonicMs cfg.quarantineMs) = true := healthHolds_quarantineTarget ..
  simp only [healthHolds] at *
  rw [hstep]
  exact hholds

/-! ## Runs -/

/-- The call admits nothing on the target before `untilMs`. -/
def HonoursQuarantine (cfg : ResourceBrokerConfig) (targetId : String) (untilMs : Nat)
    (s : BrokerState) (c : Call) : Prop :=
  ∀ b, c.reading.snapshot = .ok b → b.monotonicMs < untilMs →
    ∀ lease ∈ (respond cfg c s).2.leases, lease.targetId ≠ targetId

theorem QuarantineHolds.honoured (h : QuarantineHolds s targetId untilMs) (hbook : BookInv s)
    (c : Call) : HonoursQuarantine cfg targetId untilMs s c := by
  intro b hb hnow lease hl heq
  obtain ⟨b', accounted, hread, hadm⟩ := respond_leases hbook hl
  cases hb.symm.trans (Reading.validated_snapshot hread)
  obtain ⟨s₁, r, hchain, -, htarget, outcome, hsel⟩ := hadm.lookup
  have hfree := (selectTargetLocked_spec hsel).2.2.1
  rw [htarget, heq, (h.chain hbook hchain).isTargetQuarantined hnow] at hfree
  cases hfree

/-- Once the clock has shown `untilMs`, no later call shows an earlier time. -/
theorem clockAtLeast_of_reached {c c' : Call} (h : clockOrdered untilMs c c' = true)
    (hc : clockReached untilMs c = true) : clockAtLeast untilMs c' = true := by
  obtain ⟨b, hb, hle⟩ := clockReached_iff.1 hc
  simpa [clockOrdered, hb, min_eq_right hle] using h

theorem honoured_of_clockAtLeast {c : Call} (h : clockAtLeast untilMs c = true) :
    HonoursQuarantine cfg targetId untilMs s c := by
  intro b hb hnow
  simp only [clockAtLeast, hb, decide_eq_true_eq] at h
  exact absurd hnow (not_lt.2 h)

/-- After `untilMs` there is nothing left to honour. -/
theorem run_past (calls : List Call) (s : BrokerState)
    (h : ∀ c ∈ calls, clockAtLeast untilMs c = true) :
    Along (step cfg) (HonoursQuarantine cfg targetId untilMs) calls s := by
  induction calls generalizing s with
  | nil => trivial
  | cons c calls ih =>
    exact ⟨honoured_of_clockAtLeast (h c List.mem_cons_self),
      ih _ fun c hc => h c (List.mem_cons_of_mem _ hc)⟩

/-- A run that starts in quarantine honours it: the quarantine holds until the clock is past it. -/
theorem quarantine_run {startMs : Nat} (calls : List Call) (s : BrokerState) (hbook : BookInv s)
    (h : QuarantineHolds s targetId (satAdd startMs cfg.quarantineMs))
    (hstart : ∀ c ∈ calls, clockAtLeast startMs c = true)
    (hclock : calls.Pairwise fun c c' => clockOrdered (satAdd startMs cfg.quarantineMs) c c' = true)
    (hcond : Along (step cfg) (KeepsQuarantine targetId (satAdd startMs cfg.quarantineMs))
      (callsBefore (satAdd startMs cfg.quarantineMs) calls) s) :
    Along (step cfg) (HonoursQuarantine cfg targetId (satAdd startMs cfg.quarantineMs))
      calls s := by
  induction calls generalizing s with
  | nil => trivial
  | cons c calls ih =>
    obtain ⟨hnext, hclock⟩ := List.pairwise_cons.1 hclock
    by_cases hc : clockReached (satAdd startMs cfg.quarantineMs) c = true
    · exact ⟨h.honoured hbook c,
        run_past calls _ fun c' hc' => clockAtLeast_of_reached (hnext c' hc') hc⟩
    · rw [callsBefore, List.takeWhile_cons_of_pos (by simp [hc])] at hcond
      have hkeep := (h.effect hbook hcond.1 (hstart c List.mem_cons_self)
        (effect_of_step hbook c)).resolve_right hc
      exact ⟨h.honoured hbook c, ih _ (bookInv_step _ _ hbook) hkeep
        (fun c hc => hstart c (List.mem_cons_of_mem _ hc)) hclock hcond.2⟩

/-- **A quarantine is honoured until its time.** After `report_oom` has quarantined a target, in
every run whose clock, until it shows that time, does not go backwards and whose calls until then
keep the quarantine, no call with an earlier snapshot admits a job on the target. -/
theorem oom_quarantine_is_honoured (cfg : ResourceBrokerConfig) (before calls : List Call)
    (reading : Reading) (jobId : String) (active : ActiveRecord) (b : BudgetSnapshot)
    (accounted : BrokerAccountedGpuUsage)
    (hactive : (run cfg before).active.lookup jobId = some active)
    (hread : reading.validated = .ok (b, accounted))
    (hlimit : cfg.oomFailuresBeforeQuarantine ≤
      (countOom (run cfg before) active.target.targetId).oomFailures)
    (hclock : (⟨reading, .reportOom jobId⟩ :: calls).Pairwise fun c c' =>
      clockOrdered (satAdd b.monotonicMs cfg.quarantineMs) c c' = true)
    (hcond : Along (step cfg)
      (KeepsQuarantine active.target.targetId (satAdd b.monotonicMs cfg.quarantineMs))
      (callsBefore (satAdd b.monotonicMs cfg.quarantineMs) calls)
      (step cfg ⟨reading, .reportOom jobId⟩ (run cfg before))) :
    Along (step cfg)
      (HonoursQuarantine cfg active.target.targetId (satAdd b.monotonicMs cfg.quarantineMs)) calls
      (step cfg ⟨reading, .reportOom jobId⟩ (run cfg before)) := by
  obtain ⟨hfirst, hclock⟩ := List.pairwise_cons.1 hclock
  rcases le_total (satAdd b.monotonicMs cfg.quarantineMs) b.monotonicMs with hover | hlt
  · -- The time saturates at or before the report itself.
    exact run_past calls _ fun c hc => clockAtLeast_of_reached (hfirst c hc)
      (clockReached_iff.2 ⟨b, Reading.validated_snapshot hread, hover⟩)
  · refine quarantine_run calls _ (bookInv_step _ _ (bookInv_run before))
      (.inl (healthHolds_reportOom hactive hread hlimit)) ?_ hclock hcond
    intro c hc
    have hord := hfirst c hc
    simpa [clockOrdered, Reading.validated_snapshot hread, min_eq_left hlt] using hord

/-- Two jobs share a registered model; one of them runs out of memory. -/
def beforeOomRun : List Call :=
  [Sample.call 0 (.registerModelResidency (Sample.residencySpec "m" 200 40)),
    Sample.call 0 (.beginModelWarming "m"),
    Sample.call 0 (.markModelLoaded "m" (Sample.envelope 200 40)),
    Sample.call 0 (.submit (Sample.job "a" .embedding (Sample.target "m" 200 10 20 .shared))),
    Sample.call 0 (.submit (Sample.job "b" .embedding (Sample.target "m" 200 10 20 .shared))),
    Sample.call 1 (.reportOom "a")]

/-- The other job completes, and a third one waits until the time, runs and completes; by then the
clock may go back. -/
def afterOomRun : List Call :=
  [Sample.call 3 (Sample.finish "b" .completed),
    Sample.call 4 (.submit (Sample.job "c" .embedding (Sample.target "m" 200 10 20 .shared))),
    Sample.call 1002 (.clearModelQuarantine "m"), Sample.call 1003 .pollReady,
    Sample.call 1005 (Sample.finish "c" .completed), Sample.call 1004 .pollReady]

theorem oom_quarantine_is_honoured_afterOomRun :
    Along (step Sample.config) (HonoursQuarantine Sample.config "m" (satAdd 2 1000)) afterOomRun
      (step Sample.config (Sample.call 2 (.reportOom "a")) (run Sample.config beforeOomRun)) :=
  oom_quarantine_is_honoured Sample.config beforeOomRun afterOomRun (Sample.reading 2) "a"
    { job := Sample.job "a" .embedding (Sample.target "m" 200 10 20 .shared)
      target := Sample.target "m" 200 10 20 .shared
      cancellation := false
      outputStarted := false
      cancelledByBroker := false
      transientDeadlineMs := none
      reserved := ledgerEstimate (Sample.target "m" 200 10 20 .shared)
        (coldRecord (Sample.residencySpec "m" 200 40)) }
    (Sample.snapshot 2 (100 * mib) (2000 * mib)) ⟨0, 0⟩ (by decide +kernel) (by decide +kernel)
    (by decide +kernel) (by decide +kernel) (by decide +kernel)

/-- Two jobs run on an unregistered target; memory runs out twice under one of them, and the other
completes. -/
def completionRun : List Call :=
  [Sample.call 0 (.submit (Sample.job "a" .embedding (Sample.target "t" 50 5 20 .shared))),
    Sample.call 0 (.submit (Sample.job "b" .embedding (Sample.target "t" 50 5 20 .shared))),
    Sample.call 1 (.reportOom "a"), Sample.call 2 (.reportOom "a"),
    Sample.call 3 (Sample.finish "b" .completed)]

/-- The target is quarantined until 60002, and a job is admitted on it at 4. -/
theorem completion_lifts_quarantine :
    BrokerDiagnostic.targetQuarantined 2 "t" 60002 2 ∈ (run {} completionRun).emitted ∧
      (respond {} (Sample.call 4 (.submit (Sample.job "c" .embedding
        (Sample.target "t" 50 5 20 .shared))))
        (run {} completionRun)).2.leases = [⟨"c", "t"⟩] := by
  decide +kernel

end NpcRuntime.Broker
