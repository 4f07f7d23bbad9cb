import NpcRuntime.Broker.Step

/-!
# Utterance bindings

Once output has started, an utterance belongs to one target: `mark_output_started` records the
binding and `finish_utterance` ends it. Three code paths have to respect it.

* Admission does, always: `select_target_locked` skips every target but the bound one.
* `mark_output_started` itself does not look at the binding it overwrites. It keeps the binding
  only when the job that starts its output runs on the bound target.
* `report_oom` looks at the output flag of its own job and not at the binding. It keeps to the
  bound target only when every fallback listed before it is closed already: forbidden by the job's
  privacy, the target that failed, in quarantine, or too large.

`KeepsBinding` is the condition on a call, `HonoursBinding` what the call then does.
-/

namespace NpcRuntime.Broker

variable {cfg : ResourceBrokerConfig}

/-- The record is a job of the utterance. -/
def speaksFor (utterance : String) (r : ActiveRecord) : Bool :=
  r.job.kind.utteranceId == some utterance

/-- The job runs on a registered model: an out-of-memory report quarantines the model's record too,
and what the record holds becomes free. -/
def onRegisteredModel (s : BrokerState) (r : ActiveRecord) : Bool :=
  (r.target.modelId.bind fun modelId => s.residency.lookup modelId).isSome

/-- The state before a report on `r` leaves the fallback open for it. Under a registered model only
the health entry closes it for sure, since the report makes room. -/
def openFallback (cfg : ResourceBrokerConfig) (s : BrokerState) (b : BudgetSnapshot)
    (r : ActiveRecord) (fallback : ComputeTarget) : Bool :=
  if fallback.targetId = r.target.targetId then
    decide (satAdd b.monotonicMs cfg.quarantineMs ≤ b.monotonicMs)
  else if onRegisteredModel s r then
    r.job.privacy.allowsFallback r.job.primary.provider fallback.provider &&
      !(s.targetHealth.lookup fallback.targetId).any fun health =>
        decide (b.monotonicMs < health.quarantineUntilMs)
  else fallbackEligible cfg s b r.job fallback

/-- The fallback that a report on `r` names before all later ones. -/
def sureFallback (cfg : ResourceBrokerConfig) (s : BrokerState) (b : BudgetSnapshot)
    (r : ActiveRecord) (fallback : ComputeTarget) : Bool :=
  decide (fallback.targetId ≠ r.target.targetId) && !onRegisteredModel s r &&
    fallbackEligible cfg s b r.job fallback

/-- Every fallback listed before one on `bound` that is `sure` is on `bound` or not `open`. -/
def noOpenBefore (sure isOpen : ComputeTarget → Bool) (bound : String)
    (fallbacks : List ComputeTarget) : Bool :=
  (fallbacks.takeWhile fun f => !(f.targetId == bound && sure f)).all fun f =>
    f.targetId == bound || !isOpen f

/-- The call does not run into one of the two paths that ignore the binding of `utterance` to
`bound`, and does not end the utterance. -/
def KeepsBinding (cfg : ResourceBrokerConfig) (utterance bound : String) (s : BrokerState)
    (c : Call) : Prop :=
  match c.op with
  | .finishUtterance utteranceId => utteranceId ≠ utterance
  | .markOutputStarted jobId => ∀ r ∈ s.active.lookup jobId, speaksFor utterance r = true →
      r.target.targetId = bound
  | .reportOom jobId => ∀ r ∈ s.active.lookup jobId, speaksFor utterance r = true →
      r.outputStarted = false → r.job.kind.holdsForegroundTurnSlot = false →
      ∀ p ∈ c.reading.validated.toOption,
        cfg.oomFailuresBeforeQuarantine ≤ (countOom s r.target.targetId).oomFailures →
        noOpenBefore (sureFallback cfg { s with telemetryAccounted := p.2 } p.1 r)
          (openFallback cfg { s with telemetryAccounted := p.2 } p.1 r) bound
          r.job.fallbacks = true
  | _ => True

instance (utterance bound : String) (s : BrokerState) (c : Call) :
    Decidable (KeepsBinding cfg utterance bound s c) := by
  apply @Op.casesOn (fun op => Decidable (KeepsBinding cfg utterance bound s ⟨c.reading, op⟩))
    c.op <;>
    intros <;> unfold KeepsBinding <;> infer_instance

/-- What the binding of `utterance` to `bound` promises of one call: the binding stays, every lease
of the call for a job of the utterance is on the bound target, and no recovery of such a job names
another one. -/
structure HonoursBinding (cfg : ResourceBrokerConfig) (utterance bound : String) (s : BrokerState)
    (c : Call) : Prop where
  kept : (step cfg c s).utteranceBindings.lookup utterance = some bound
  leases : ∀ lease ∈ (respond cfg c s).2.leases, ∃ r,
    (step cfg c s).active.lookup lease.jobId = some r ∧ r.target.targetId = lease.targetId ∧
      (r.job.kind.utteranceId = some utterance → lease.targetId = bound)
  recovery : ∀ jobId r targetId, c.op = .reportOom jobId → s.active.lookup jobId = some r →
    r.job.kind.utteranceId = some utterance →
    (respond cfg c s).2 = .recovery (.ok (.retryFallback targetId)) → targetId = bound

/-! ## One call -/

variable {utterance bound : String} {c : Call} {s : BrokerState}

theorem binding_effect {s' : BrokerState} (h : s.utteranceBindings.lookup utterance = some bound)
    (hcond : KeepsBinding cfg utterance bound s c) (he : Effect cfg c s s') :
    s'.utteranceBindings.lookup utterance = some bound := by
  unfold KeepsBinding at hcond
  cases he with
  | quiet hb => rw [hb.utteranceBindings]; exact h
  | sched hs => rw [hs.utteranceBindings]; exact h
  | @output jobId record hop hrec =>
    rw [hop] at hcond
    simp only [startOutput]
    split
    · rename_i utteranceId hu
      rw [Table.lookup_insert_eq]
      split_ifs with heq
      · subst heq
        rw [hcond record hrec (by simp [speaksFor, hu])]
      · exact h
    · exact h
  | unbind hop =>
    rw [hop] at hcond
    show (s.utteranceBindings.erase _).lookup utterance = some bound
    rw [Table.lookup_erase_eq, if_neg (Ne.symm hcond)]
    exact h
  | register | warm | load | idle | quarantine | clear | oomCounted | oomQuarantined | finish =>
    exact h

/-- A lease of a bound utterance is on the bound target. -/
theorem binding_leases (hq : BookInv s) (h : s.utteranceBindings.lookup utterance = some bound)
    {lease : ResourceLease} (hl : lease ∈ (respond cfg c s).2.leases) :
    ∃ r, (step cfg c s).active.lookup lease.jobId = some r ∧ r.target.targetId = lease.targetId ∧
      (r.job.kind.utteranceId = some utterance → lease.targetId = bound) := by
  obtain ⟨b, accounted, -, hadm⟩ := respond_leases hq hl
  obtain ⟨s₁, r, hchain, hr, htarget, outcome, hsel⟩ := hadm.lookup
  refine ⟨r, hr, htarget, ?_⟩
  intro hu
  rw [← htarget]
  apply (selectTargetLocked_spec hsel).2.1 bound
  rw [boundTarget, hu, Option.bind_some, hchain.utteranceBindings]
  exact h

/-! ## The fallback of a report -/

variable {b : BudgetSnapshot} {r : ActiveRecord} {fallback : ComputeTarget} {untilMs : Nat}

/-- A report of a job without a registered model changes nothing for other targets. -/
theorem fallbackEligible_quarantineTarget (hne : fallback.targetId ≠ r.target.targetId)
    (hmodel : onRegisteredModel s r = false) (job : ResourceJob) (nowMs : Nat) :
    fallbackEligible cfg (quarantineTarget cfg s r.target untilMs nowMs) b job fallback =
      fallbackEligible cfg s b job fallback := by
  have hres : (quarantineTarget cfg s r.target untilMs nowMs).residency = s.residency := by
    obtain ⟨-, hres⟩ | ⟨m, hm, hres⟩ := @quarantineTarget_residency cfg s r.target untilMs nowMs
    · exact hres
    · rw [hres, Table.modify_of_lookup_eq_none]
      simpa [onRegisteredModel, hm] using hmodel
  have hfits : targetFits cfg (quarantineTarget cfg s r.target untilMs nowMs) b fallback =
      targetFits cfg s b fallback := by
    unfold targetFits effectiveJobEstimate ramInUse vramInUse unreported brokerReservedGpuUsage
    rw [hres]
    rfl
  have hhealth : (quarantineTarget cfg s r.target untilMs nowMs).targetHealth.lookup
      fallback.targetId = s.targetHealth.lookup fallback.targetId := by
    show (s.targetHealth.insert r.target.targetId _).lookup fallback.targetId = _
    rw [Table.lookup_insert_eq, if_neg hne]
  unfold fallbackEligible isTargetQuarantined
  rw [hfits, hres, hhealth]

theorem fallbackEligible_of_sure (h : sureFallback cfg s b r fallback = true) (nowMs : Nat) :
    fallbackEligible cfg (quarantineTarget cfg s r.target untilMs nowMs) b r.job fallback =
      true := by
  simp only [sureFallback, Bool.and_eq_true, decide_eq_true_eq, Bool.not_eq_true'] at h
  rw [fallbackEligible_quarantineTarget h.1.1 h.1.2]
  exact h.2

/-- What a report may name was open before it. -/
theorem openFallback_of_eligible (h : fallbackEligible cfg (quarantineTarget cfg s r.target
      (satAdd b.monotonicMs cfg.quarantineMs) b.monotonicMs) b r.job fallback = true) :
    openFallback cfg s b r fallback = true := by
  have hallowed : r.job.privacy.allowsFallback r.job.primary.provider fallback.provider = true := by
    simp only [fallbackEligible, Bool.and_eq_true] at h
    exact h.1.1
  have hfree : ((quarantineTarget cfg s r.target (satAdd b.monotonicMs cfg.quarantineMs)
      b.monotonicMs).targetHealth.lookup fallback.targetId).any
        (fun health => decide (b.monotonicMs < health.quarantineUntilMs)) = false := by
    simp only [fallbackEligible, isTargetQuarantined, Bool.and_eq_true, Bool.not_eq_true',
      Bool.or_eq_false_iff] at h
    exact h.1.2.1
  rw [show (quarantineTarget cfg s r.target (satAdd b.monotonicMs cfg.quarantineMs)
      b.monotonicMs).targetHealth.lookup fallback.targetId =
        (s.targetHealth.insert r.target.targetId _).lookup fallback.targetId from rfl,
    Table.lookup_insert_eq] at hfree
  unfold openFallback
  split_ifs with hfailed hmodel
  · -- The failed target is open only where its quarantine ends as it begins.
    rw [if_pos hfailed] at hfree
    simpa using hfree
  · rw [if_neg hfailed] at hfree
    rw [hallowed, hfree]
    rfl
  · rw [fallbackEligible_quarantineTarget hfailed (Bool.eq_false_iff.2 hmodel)] at h
    exact h

theorem find?_targetId_of_noOpenBefore {sure isOpen eligible : ComputeTarget → Bool}
    (hsure : ∀ f, sure f = true → eligible f = true)
    (hopen : ∀ f, eligible f = true → isOpen f = true) {fallbacks : List ComputeTarget}
    (h : noOpenBefore sure isOpen bound fallbacks = true)
    (hf : fallbacks.find? eligible = some fallback) : fallback.targetId = bound := by
  unfold noOpenBefore at h
  induction fallbacks with
  | nil => cases hf
  | cons f fs ih =>
    rw [List.takeWhile_cons] at h
    rw [List.find?_cons] at hf
    cases he : eligible f with
    | false =>
      have hunsure : sure f = false := Bool.eq_false_iff.2 fun hs => by simp [hsure f hs] at he
      rw [hunsure, Bool.and_false, Bool.not_false, if_pos rfl, List.all_cons,
        Bool.and_eq_true] at h
      exact ih h.2 (by simpa [he] using hf)
    | true =>
      rw [he] at hf
      cases hf
      by_contra hne
      simp [hne, hopen fallback he] at h

theorem binding_recovery (hcond : KeepsBinding cfg utterance bound s c) {jobId targetId : String}
    {r : ActiveRecord} (hop : c.op = .reportOom jobId) (hr : s.active.lookup jobId = some r)
    (hu : r.job.kind.utteranceId = some utterance)
    (hresp : (respond cfg c s).2 = .recovery (.ok (.retryFallback targetId))) :
    targetId = bound := by
  unfold KeepsBinding at hcond
  rw [hop] at hcond
  simp only [respond, hop, Prod.map_snd, Response.recovery.injEq] at hresp
  unfold reportOom at hresp
  split at hresp
  · cases hresp
  rename_i b accounted hread
  simp only [hr] at hresp
  split at hresp
  · cases hresp
  rename_i hcount
  split at hresp
  · cases hresp
  rename_i hflags
  rw [Bool.or_eq_true, not_or, Bool.not_eq_true, Bool.not_eq_true] at hflags
  have hfirst := hcond r hr (by simp [speaksFor, hu]) hflags.1 hflags.2 (b, accounted)
    (by rw [hread]; rfl) (not_lt.1 hcount)
  split at hresp
  · rename_i fallback hfind
    cases hresp
    exact find?_targetId_of_noOpenBefore (fun _ hs => fallbackEligible_of_sure hs _)
      (fun _ he => openFallback_of_eligible he) hfirst hfind
  · cases hresp

/-! ## Runs -/

/-- **An utterance stays with its target.** After `mark_output_started` has bound an utterance, in
every run whose calls neither end it nor reach one of the two paths that ignore bindings, every
call honours the binding. -/
theorem utterance_binding_is_honoured (cfg : ResourceBrokerConfig) (before calls : List Call)
    (reading : Reading) (jobId utterance : String) (record : ActiveRecord)
    (hactive : (run cfg before).active.lookup jobId = some record)
    (hutterance : record.job.kind.utteranceId = some utterance)
    (hcond : Along (step cfg) (KeepsBinding cfg utterance record.target.targetId) calls
      (step cfg ⟨reading, .markOutputStarted jobId⟩ (run cfg before))) :
    let s := step cfg ⟨reading, .markOutputStarted jobId⟩ (run cfg before)
    s.utteranceBindings.lookup utterance = some record.target.targetId ∧
      Along (step cfg) (HonoursBinding cfg utterance record.target.targetId) calls s := by
  set s := step cfg ⟨reading, .markOutputStarted jobId⟩ (run cfg before) with hs
  have hbound : s.utteranceBindings.lookup utterance = some record.target.targetId := by
    have hstart : s = startOutput (run cfg before) jobId record := by
      simp only [hs, step, respond, markOutputStarted, hactive, Prod.map_fst, id]
    rw [hstart, startOutput, hutterance, Table.lookup_insert_eq, if_pos rfl]
  refine ⟨hbound, ?_⟩
  refine Along.mono_inv (fun s => BookInv s ∧
      s.utteranceBindings.lookup utterance = some record.target.targetId)
    (?_) (?_) ⟨bookInv_step _ _ (bookInv_run before), hbound⟩ hcond
  · intro s c hi hc
    exact ⟨bookInv_step s c hi.1, binding_effect hi.2 hc (effect_of_step hi.1 c)⟩
  · intro s c hi hc
    exact ⟨binding_effect hi.2 hc (effect_of_step hi.1 c), fun _ hl => binding_leases hi.1 hi.2 hl,
      fun _ _ _ hop hr hu hresp => binding_recovery hc hop hr hu hresp⟩

/-- A sentence of the utterance `u`, with a preferred target and fallbacks. -/
def speechJob (jobId : String) (sentence : Nat) (targets : String × List String) : ResourceJob :=
  let target := fun id => Sample.target id 50 5 20 .shared
  { Sample.job jobId (.speechSynthesis "u" sentence) (target targets.1) with
    fallbacks := targets.2.map target }

/-- A later sentence prefers `t2`, memory runs out twice on `t1`, another utterance ends. -/
def boundRun : List Call :=
  [Sample.call 2 (.submit (speechJob "b" 1 ("t2", ["t1"]))), Sample.call 3 (.reportOom "a"),
    Sample.call 4 (.reportOom "a"), Sample.call 5 (.finishUtterance "v"), Sample.call 6 .pollReady]

theorem utterance_binding_is_honoured_boundRun :
    (respond {} (Sample.call 2 (.submit (speechJob "b" 1 ("t2", ["t1"]))))
      (run {} [Sample.call 0 (.submit (speechJob "a" 0 ("t1", []))),
        Sample.call 1 (.markOutputStarted "a")])).2.leases = [⟨"b", "t1"⟩] ∧
    Along (step {}) (HonoursBinding {} "u" "t1") boundRun
      (run {} [Sample.call 0 (.submit (speechJob "a" 0 ("t1", []))),
        Sample.call 1 (.markOutputStarted "a")]) :=
  ⟨by decide +kernel,
    (utterance_binding_is_honoured {}
      [Sample.call 0 (.submit (speechJob "a" 0 ("t1", [])))] boundRun
      (Sample.reading 1) "a" "u"
      { job := speechJob "a" 0 ("t1", [])
        target := Sample.target "t1" 50 5 20 .shared
        cancellation := false
        outputStarted := false
        cancelledByBroker := false
        transientDeadlineMs := none
        reserved := (Sample.target "t1" 50 5 20 .shared).estimate }
      (by decide +kernel) rfl (by decide +kernel)).2⟩

/-- Two sentences of `u` run on `t1` and `t2`; the first output binds `u` to `t1`. -/
def twoTargetsRun : List Call :=
  [Sample.call 0 (.submit (speechJob "a" 0 ("t1", []))),
    Sample.call 0 (.submit (speechJob "b" 1 ("t2", ["t3"]))),
    Sample.call 1 (.markOutputStarted "a")]

/-- The second output binds the utterance again, and an out-of-memory report of the second job
names a third target. -/
theorem second_output_rebinds_utterance :
    (run {} twoTargetsRun).utteranceBindings.lookup "u" = some "t1" ∧
      (run {} (twoTargetsRun ++ [Sample.call 2 (.markOutputStarted "b")])).utteranceBindings.lookup
        "u" = some "t2" ∧
      (reportOom {} (Sample.reading 3) "b"
        (run {} (twoTargetsRun ++ [Sample.call 2 (.reportOom "b")]))).2.toOption =
          some (.retryFallback "t3") := by
  decide +kernel

end NpcRuntime.Broker
