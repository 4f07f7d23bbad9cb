import NpcRuntime.Broker.Step

/-!
# Degradation and recovery

A pressure sample is taken at the start of every `submit`, `poll_ready` and `refresh_pressure`. It
raises the degradation count to the floor of the pressure level, or counts a green sample and,
after `recovery_green_samples` of them, lowers the count by one. A submission that has to wait
raises the count by one, outside of any sample.

The green-sample counter starts again when the pressure is not green and when the count is
lowered, but `escalate_degradation_locked` leaves it alone: green samples taken before an
escalation are spent on the recovery from it.

* `PressureEvent` and `pressureTrace` are the history of samples and escalations of a run.
* `countFloor_run`: the count stays between the floor and the number of degradation steps.
* `degradation_recovers_slowly`: drops are single, and each follows a full window of green samples
  when every escalation finds the counter at zero.
-/

namespace NpcRuntime.Broker

variable {cfg : ResourceBrokerConfig}

/-! ## What leaves the pressure alone -/

/-- Pressure level, green samples and degradation count are the same. -/
structure SamePressure (s s' : BrokerState) : Prop where
  pressure : s'.pressure = s.pressure
  greenSamples : s'.greenSamples = s.greenSamples
  degradationCount : s'.degradationCount = s.degradationCount

variable {s : BrokerState}

namespace SamePressure

theorem refl (s : BrokerState) : SamePressure s s := ⟨rfl, rfl, rfl⟩

theorem trans {s' s'' : BrokerState} (h : SamePressure s s') (h' : SamePressure s' s'') :
    SamePressure s s'' :=
  ⟨h'.pressure.trans h.pressure, h'.greenSamples.trans h.greenSamples,
    h'.degradationCount.trans h.degradationCount⟩

theorem pushDiagnostic (d : BrokerDiagnostic) (s : BrokerState) :
    SamePressure s (pushDiagnostic cfg d s) := ⟨rfl, rfl, rfl⟩

theorem foldl {α : Type*} (f : BrokerState → α → BrokerState) (hf : ∀ s a, SamePressure s (f s a))
    (as : List α) (s : BrokerState) : SamePressure s (as.foldl f s) := by
  induction as generalizing s with
  | nil => exact .refl s
  | cons a as ih => exact (hf s a).trans (ih (f s a))

theorem expireTransientOveragesLocked (s : BrokerState) (nowMs : Nat) :
    SamePressure s (expireTransientOveragesLocked cfg s nowMs) := by
  refine SamePressure.trans ?_ (foldl _ (fun s a => pushDiagnostic _ s) _ _)
  exact ⟨rfl, rfl, rfl⟩

theorem supersedeQueued (s : BrokerState) (b : BudgetSnapshot) (job : ResourceJob) :
    SamePressure s (supersedeQueued cfg s b job) := by
  refine SamePressure.trans ?_ (foldl _ (fun s a => pushDiagnostic _ s) _ _)
  exact ⟨rfl, rfl, rfl⟩

theorem pollLoop (b : BudgetSnapshot) (pending : List QueuedRecord) (s : BrokerState) :
    SamePressure s (pollLoop cfg b pending s).1 := by
  induction pending generalizing s with
  | nil => exact .refl s
  | cons q pending ih =>
    have hentry : SamePressure s (pollEntry cfg b s q).1 := by
      obtain ⟨_, _, -, he⟩ | ⟨_, _, -, he⟩ | he := @pollEntry_cases cfg b s q <;> rw [he] <;>
        exact ⟨rfl, rfl, rfl⟩
    exact hentry.trans (ih _)

theorem registerModelResidency (spec : ModelResidencySpec) (s : BrokerState) :
    SamePressure s (registerModelResidency spec s).1 := by
  simp only [Broker.registerModelResidency]
  split <;> exact ⟨rfl, rfl, rfl⟩

theorem beginModelWarming (r : Reading) (modelId : String) (s : BrokerState) :
    SamePressure s (beginModelWarming cfg r modelId s).1 := by
  unfold Broker.beginModelWarming
  split
  · exact .refl s
  split
  · exact .refl s
  dsimp only
  split_ifs <;> exact ⟨rfl, rfl, rfl⟩

theorem markModelLoaded (r : Reading) (modelId : String) (measured : MeasuredGpuEnvelope)
    (s : BrokerState) : SamePressure s (markModelLoaded cfg r modelId measured s).1 := by
  unfold Broker.markModelLoaded
  split
  · exact .refl s
  · exact .refl s
  dsimp only
  split
  · exact ⟨rfl, rfl, rfl⟩
  split_ifs <;> exact ⟨rfl, rfl, rfl⟩

theorem transitionIdleModel (modelId : String) (fromState toState : ModelResidencyState)
    (s : BrokerState) : SamePressure s (transitionIdleModel modelId fromState toState s).1 := by
  simp only [Broker.transitionIdleModel]
  split
  · exact .refl s
  split_ifs <;> exact ⟨rfl, rfl, rfl⟩

theorem quarantineModelResidency (modelId : String) (untilMs : Nat) (s : BrokerState) :
    SamePressure s (quarantineModelResidency modelId untilMs s).1 := by
  simp only [Broker.quarantineModelResidency]
  split <;> exact ⟨rfl, rfl, rfl⟩

theorem clearModelQuarantine (r : Reading) (modelId : String) (s : BrokerState) :
    SamePressure s (clearModelQuarantine r modelId s).1 := by
  simp only [Broker.clearModelQuarantine]
  split
  · exact .refl s
  split
  · exact .refl s
  split_ifs <;> exact ⟨rfl, rfl, rfl⟩

theorem cancel (r : Reading) (jobId reason : String) (s : BrokerState) :
    SamePressure s (cancel cfg r jobId reason s).1 := by
  simp only [Broker.cancel]
  split
  · exact .refl s
  split
  · exact ⟨rfl, rfl, rfl⟩
  split <;> exact ⟨rfl, rfl, rfl⟩

theorem markOutputStarted (jobId : String) (s : BrokerState) :
    SamePressure s (markOutputStarted jobId s).1 := by
  simp only [Broker.markOutputStarted]
  split <;> exact ⟨rfl, rfl, rfl⟩

theorem reportOom (r : Reading) (jobId : String) (s : BrokerState) :
    SamePressure s (reportOom cfg r jobId s).1 := by
  unfold Broker.reportOom
  split
  · exact .refl s
  dsimp only
  split
  · exact ⟨rfl, rfl, rfl⟩
  split
  · exact ⟨rfl, rfl, rfl⟩
  split
  · exact ⟨rfl, rfl, rfl⟩
  split <;> exact ⟨rfl, rfl, rfl⟩

theorem finishLease (r : Reading) (jobId : String) (actual : ActualUsage) (measured : Bool)
    (status : CompletionStatus) (s : BrokerState) :
    SamePressure s (finishLease cfg r jobId actual measured status s) := by
  simp only [Broker.finishLease]
  split <;> exact ⟨rfl, rfl, rfl⟩

end SamePressure

/-! ## One sample -/

/-- What a pressure sample does. -/
theorem updatePressureLocked_cases (ratio : Nat → Nat → ℚ) (s : BrokerState) (b : BudgetSnapshot) :
    let s' := updatePressureLocked cfg ratio s b
    (s'.pressure ≠ .green ∧ s'.greenSamples = 0 ∧
        s'.degradationCount = max s.degradationCount (pressureFloor s'.pressure)) ∨
      (s'.pressure = .green ∧ s'.greenSamples = 0 ∧ 0 < s.degradationCount ∧
        s'.degradationCount = s.degradationCount - 1 ∧
        cfg.recoveryGreenSamples ≤ (s.greenSamples + 1) % 2 ^ 32) ∨
      (s'.pressure = .green ∧ s'.greenSamples = (s.greenSamples + 1) % 2 ^ 32 ∧
        s'.degradationCount = s.degradationCount) := by
  intro s'
  set s₁ := setPressure cfg s b.monotonicMs (utilization cfg ratio s b) with hs₁
  set s₂ := raiseToFloor cfg s₁ b.monotonicMs with hs₂
  have h₁ : s₁.greenSamples = s.greenSamples ∧ s₁.degradationCount = s.degradationCount := by
    rw [hs₁]
    simp only [setPressure]
    split <;> exact ⟨rfl, rfl⟩
  have h₂ : s₂.pressure = s₁.pressure ∧ s₂.greenSamples = s₁.greenSamples ∧
      s₂.degradationCount = max s₁.degradationCount (pressureFloor s₁.pressure) := by
    rw [hs₂]
    simp only [raiseToFloor]
    split
    · rename_i hlt
      exact ⟨rfl, rfl, (max_eq_right hlt.le).symm⟩
    · rename_i hge
      exact ⟨rfl, rfl, (max_eq_left (not_lt.1 hge)).symm⟩
  have h₃ : s' = countGreenSample cfg s₂ b.monotonicMs := rfl
  have hcount : s₂.degradationCount = max s.degradationCount (pressureFloor s₂.pressure) := by
    rw [h₂.2.2, h₂.1, h₁.2]
  have hgreen : s₂.greenSamples = s.greenSamples := h₂.2.1.trans h₁.1
  rw [h₃]
  simp only [countGreenSample]
  split
  · rename_i hp
    have hsame : s₂.degradationCount = s.degradationCount := by
      rw [hcount, hp]
      exact max_eq_left (Nat.zero_le _)
    right
    split
    · rename_i hdrop
      rw [hgreen, hsame] at hdrop
      exact .inl ⟨hp, rfl, hdrop.2, by rw [← hsame]; rfl, hdrop.1⟩
    · exact .inr ⟨hp, by rw [← hgreen], hsame⟩
  · rename_i hp
    exact .inl ⟨hp, rfl, hcount⟩

/-! ## Calls -/

/-- The state right after the pressure sample of a call, if the call takes one. -/
def sampled (cfg : ResourceBrokerConfig) (c : Call) (s : BrokerState) : Option BrokerState :=
  match c.reading.validated with
  | .error _ => none
  | .ok (b, accounted) =>
    match c.op with
    | .submit job => match validateJob job with
      | .ok () => some (observe cfg c.reading.ratio b accounted s)
      | .error _ => none
    | .pollReady | .refreshPressure => some (observe cfg c.reading.ratio b accounted s)
    | _ => none

/-- One more step of degradation, as long as there is one. -/
def escalated (count : Nat) : Nat := if count < degradationOrder.length then count + 1 else count

theorem enqueueLocked_pressure (s : BrokerState) (b : BudgetSnapshot) (job : ResourceJob) :
    (enqueueLocked cfg s b job).1.pressure = s.pressure ∧
      (enqueueLocked cfg s b job).1.greenSamples = s.greenSamples ∧
      (enqueueLocked cfg s b job).1.degradationCount = escalated s.degradationCount := by
  simp only [enqueueLocked, escalateDegradationLocked, escalated]
  split <;> exact ⟨rfl, rfl, rfl⟩

/-- A submission moves the pressure only by waiting, and then only the count, by one. -/
theorem submitLocked_pressure (s : BrokerState) (b : BudgetSnapshot) (job : ResourceJob) :
    (submitLocked cfg s b job).1.pressure = s.pressure ∧
      (submitLocked cfg s b job).1.greenSamples = s.greenSamples ∧
      (submitLocked cfg s b job).1.degradationCount =
        if mustWait cfg s b job then escalated s.degradationCount else s.degradationCount := by
  have hsup : SamePressure s (supersedeQueued cfg s b job) := .supersedeQueued s b job
  have hdone : ∀ {s'}, mustWait cfg s b job = false → SamePressure s s' →
      s'.pressure = s.pressure ∧ s'.greenSamples = s.greenSamples ∧ s'.degradationCount =
        if mustWait cfg s b job then escalated s.degradationCount else s.degradationCount :=
    fun hw h => ⟨h.pressure, h.greenSamples, by rw [hw]; exact h.degradationCount⟩
  obtain ⟨hw, s₁, _, _, hs₁, he⟩ | ⟨hw, -, _, _, -, he⟩ | ⟨hw, -, he⟩ :=
    @submitLocked_cases cfg s b job <;> rw [he]
  · rcases hs₁ with rfl | rfl
    · exact hdone hw (.pushDiagnostic _ _)
    · exact hdone hw (hsup.trans (.pushDiagnostic _ _))
  · exact hdone hw (hsup.trans ⟨rfl, rfl, rfl⟩)
  · obtain ⟨h₁, h₂, h₃⟩ := @enqueueLocked_pressure cfg (supersedeQueued cfg s b job) b job
    rw [hw, if_pos rfl, h₁, h₂, h₃, hsup.pressure, hsup.greenSamples, hsup.degradationCount]
    exact ⟨rfl, rfl, rfl⟩

variable {c : Call}

/-- A call that takes no sample leaves the pressure alone. -/
theorem samePressure_of_not_sampled (h : sampled cfg c s = none) :
    SamePressure s (step cfg c s) := by
  simp only [step, respond]
  unfold sampled at h
  split <;> rename_i hop <;> simp only [hop] at h
  · rename_i job
    simp only [Prod.map_fst, id, submit]
    cases hv : validateJob job <;> cases hr : c.reading.validated
    · exact .refl s
    · exact .refl s
    · exact .refl s
    · simp [hr, hv] at h
  · simp only [Prod.map_fst, id, pollReady]
    cases hr : c.reading.validated
    · exact .refl s
    · simp [hr] at h
  · simp only [Prod.map_fst, id, refreshPressure]
    cases hr : c.reading.validated
    · exact .refl s
    · simp [hr] at h
  · exact .registerModelResidency _ s
  · exact .beginModelWarming _ _ s
  · exact .markModelLoaded _ _ _ s
  · exact .transitionIdleModel _ _ _ s
  · exact .transitionIdleModel _ _ _ s
  · exact .quarantineModelResidency _ _ s
  · exact .clearModelQuarantine _ _ s
  · exact .cancel _ _ _ s
  · exact .markOutputStarted _ s
  · exact ⟨rfl, rfl, rfl⟩
  · exact .reportOom _ _ s
  · exact .finishLease _ _ _ _ _ s
  · exact ⟨rfl, rfl, rfl⟩

/-- Whether the call is a submission that has to wait in the state after its sample. -/
def waits (cfg : ResourceBrokerConfig) (c : Call) (s₁ : BrokerState) : Bool :=
  match c.op, c.reading.validated with
  | .submit job, .ok (b, _) => mustWait cfg s₁ b job
  | _, _ => false

variable {s₁ : BrokerState}

/-- What the sample of a call does. -/
theorem sampled_cases (h : sampled cfg c s = some s₁) :
    (s₁.pressure ≠ .green ∧ s₁.greenSamples = 0 ∧
        s₁.degradationCount = max s.degradationCount (pressureFloor s₁.pressure)) ∨
      (s₁.pressure = .green ∧ s₁.greenSamples = 0 ∧ 0 < s.degradationCount ∧
        s₁.degradationCount = s.degradationCount - 1 ∧
        cfg.recoveryGreenSamples ≤ (s.greenSamples + 1) % 2 ^ 32) ∨
      (s₁.pressure = .green ∧ s₁.greenSamples = (s.greenSamples + 1) % 2 ^ 32 ∧
        s₁.degradationCount = s.degradationCount) := by
  obtain ⟨b, accounted, rfl⟩ : ∃ b accounted, s₁ = observe cfg c.reading.ratio b accounted s := by
    unfold sampled at h
    split at h
    · cases h
    split at h
    · split at h
      · exact ⟨_, _, (Option.some.inj h).symm⟩
      · cases h
    · exact ⟨_, _, (Option.some.inj h).symm⟩
    · exact ⟨_, _, (Option.some.inj h).symm⟩
    · cases h
  have haccounted : SamePressure s { s with telemetryAccounted := accounted } := ⟨rfl, rfl, rfl⟩
  have hquiet : SamePressure s (expireTransientOveragesLocked cfg
      { s with telemetryAccounted := accounted } b.monotonicMs) :=
    haccounted.trans (.expireTransientOveragesLocked _ _)
  have hcases := @updatePressureLocked_cases cfg c.reading.ratio (expireTransientOveragesLocked cfg
    { s with telemetryAccounted := accounted } b.monotonicMs) b
  rw [hquiet.greenSamples, hquiet.degradationCount] at hcases
  exact hcases

/-- What a call does after its sample. -/
theorem step_of_sampled (h : sampled cfg c s = some s₁) :
    (step cfg c s).pressure = s₁.pressure ∧ (step cfg c s).greenSamples = s₁.greenSamples ∧
      (step cfg c s).degradationCount =
        if waits cfg c s₁ then escalated s₁.degradationCount else s₁.degradationCount := by
  unfold sampled at h
  split at h
  · cases h
  rename_i b accounted hread
  split at h <;> rename_i hop
  · rename_i job
    split at h
    · rename_i hvalid
      cases h
      have hstep : step cfg c s =
          (submitLocked cfg (observe cfg c.reading.ratio b accounted s) b job).1 := by
        simp only [step, respond, hop, Prod.map_fst, id, submit, hvalid, hread]
      have hwaits : waits cfg c (observe cfg c.reading.ratio b accounted s) =
          mustWait cfg (observe cfg c.reading.ratio b accounted s) b job := by
        simp only [waits, hop, hread]
      rw [hstep, hwaits]
      exact submitLocked_pressure _ b job
    · cases h
  · cases h
    have htaken : SamePressure (observe cfg c.reading.ratio b accounted s)
        { observe cfg c.reading.ratio b accounted s with queued := [] } := ⟨rfl, rfl, rfl⟩
    have hpoll : SamePressure (observe cfg c.reading.ratio b accounted s) (step cfg c s) := by
      simp only [step, respond, hop, Prod.map_fst, id, pollReady, hread]
      exact htaken.trans (.pollLoop b _ _)
    exact ⟨hpoll.pressure, hpoll.greenSamples, by simp [waits, hop, hpoll.degradationCount]⟩
  · cases h
    have hstep : step cfg c s = observe cfg c.reading.ratio b accounted s := by
      simp only [step, respond, hop, Prod.map_fst, id, refreshPressure, hread]
    rw [hstep]
    exact ⟨rfl, rfl, by simp [waits, hop]⟩
  · cases h

/-! ## The floor and the ceiling -/

/-- The count is between the floor of the pressure level and the number of steps. -/
def CountInv (s : BrokerState) : Prop :=
  pressureFloor s.pressure ≤ s.degradationCount ∧ s.degradationCount ≤ degradationOrder.length

theorem pressureFloor_le (level : PressureLevel) :
    pressureFloor level ≤ degradationOrder.length := by
  cases level <;> decide

theorem escalated_bounds (count : Nat) : count ≤ escalated count ∧ escalated count ≤ count + 1 := by
  simp only [escalated]
  split <;> omega

theorem escalated_le {count : Nat} (h : count ≤ degradationOrder.length) :
    escalated count ≤ degradationOrder.length := by
  simp only [escalated]
  split <;> omega

theorem countInv_sampled (hs : CountInv s) (h : sampled cfg c s = some s₁) : CountInv s₁ := by
  obtain ⟨-, hcap⟩ := hs
  rcases sampled_cases h with ⟨-, -, hcount⟩ | ⟨hp, -, -, hcount, -⟩ | ⟨hp, -, hcount⟩
  · have hfloor := pressureFloor_le s₁.pressure
    simp only [CountInv]
    omega
  · refine ⟨by rw [hp]; exact Nat.zero_le _, by omega⟩
  · refine ⟨by rw [hp]; exact Nat.zero_le _, by omega⟩

theorem countInv_step (s : BrokerState) (c : Call) (hs : CountInv s) : CountInv (step cfg c s) := by
  cases h : sampled cfg c s with
  | none =>
    have hsame := samePressure_of_not_sampled h
    simp only [CountInv]
    rw [hsame.pressure, hsame.degradationCount]
    exact hs
  | some s₁ =>
    obtain ⟨hp, -, hcount⟩ := step_of_sampled h
    obtain ⟨hfloor, hcap⟩ := countInv_sampled hs h
    have hbounds := escalated_bounds s₁.degradationCount
    have hle := escalated_le hcap
    simp only [CountInv]
    rw [hp, hcount]
    split_ifs
    · exact ⟨hfloor.trans hbounds.1, hle⟩
    · exact ⟨hfloor, hcap⟩

/-! ## The history of a run -/

/-- A sample with the level it ends in, or an escalation, with the count before and after. -/
inductive PressureEvent where
  | sample (level : PressureLevel) (before after : Nat)
  | escalation (before after : Nat)
deriving DecidableEq

/-- A green sample that does not raise the count. -/
def PressureEvent.isGreen : PressureEvent → Bool
  | .sample .green before after => decide (after ≤ before)
  | _ => false

/-- A sample that lowers the count. -/
def PressureEvent.isDrop : PressureEvent → Bool
  | .sample _ before after => decide (after < before)
  | .escalation _ _ => false

def pressureEvents (cfg : ResourceBrokerConfig) (c : Call) (s : BrokerState) : List PressureEvent :=
  match sampled cfg c s with
  | none => []
  | some s₁ =>
    .sample s₁.pressure s.degradationCount s₁.degradationCount ::
      if s₁.degradationCount < (step cfg c s).degradationCount then
        [.escalation s₁.degradationCount (step cfg c s).degradationCount]
      else []

/-- The samples and escalations of a run, in their order. -/
def pressureTrace (cfg : ResourceBrokerConfig) : List Call → BrokerState → List PressureEvent
  | [], _ => []
  | c :: calls, s => pressureEvents cfg c s ++ pressureTrace cfg calls (step cfg c s)

/-- The events at the end of a history that are green samples without a raise. -/
def greenWindow (history : List PressureEvent) : List PressureEvent :=
  history.rtakeWhile PressureEvent.isGreen

/-- Every drop among `events`, which follow `history`, closes a window of `n` green samples. -/
def DropsRecovered (n : Nat) : List PressureEvent → List PressureEvent → Prop
  | _, [] => True
  | history, e :: events =>
    (e.isDrop = true → n ≤ (greenWindow (history ++ [e])).length) ∧
      DropsRecovered n (history ++ [e]) events

variable {history : List PressureEvent}

theorem DropsRecovered.append {n : Nat} {events events' : List PressureEvent}
    (h : DropsRecovered n history events) (h' : DropsRecovered n (history ++ events) events') :
    DropsRecovered n history (events ++ events') := by
  induction events generalizing history with
  | nil => simpa using h'
  | cons e events ih => exact ⟨h.1, ih h.2 (by simpa using h')⟩

/-- A drop of a recovered history follows `n` green samples with no raise among them. -/
theorem DropsRecovered.window {n : Nat} {events : List PressureEvent}
    (h : DropsRecovered n history events) {pre post : List PressureEvent} {e : PressureEvent}
    (hsplit : events = pre ++ e :: post) (hdrop : e.isDrop = true) :
    ∃ older recent, history ++ pre ++ [e] = older ++ recent ∧ n ≤ recent.length ∧
      ∀ x ∈ recent, x.isGreen = true := by
  induction pre generalizing history events with
  | nil =>
    subst hsplit
    obtain ⟨older, holder⟩ := List.rtakeWhile_suffix PressureEvent.isGreen (history ++ [e])
    refine ⟨older, greenWindow (history ++ [e]), ?_, h.1 hdrop, ?_⟩
    · rw [List.append_nil]
      exact holder.symm
    · intro x hx
      exact List.mem_rtakeWhile_imp hx
  | cons a pre ih =>
    subst hsplit
    simpa using ih h.2 rfl

/-! ## Recovery -/

/-- An escalation finds no green samples counted: a submission that has to wait, and raises the
count, does so in a state whose green-sample counter is zero. A window of one sample needs no
such care. -/
def EscalatesFresh (cfg : ResourceBrokerConfig) (s : BrokerState) (c : Call) : Prop :=
  1 < cfg.recoveryGreenSamples → ∀ s₁ ∈ sampled cfg c s, waits cfg c s₁ = true →
    s₁.degradationCount < degradationOrder.length → s₁.greenSamples = 0

instance (s : BrokerState) (c : Call) : Decidable (EscalatesFresh cfg s c) := by
  unfold EscalatesFresh; infer_instance

/-- The counter never shows more green samples than the history ends in. -/
def WindowInv (cfg : ResourceBrokerConfig) (history : List PressureEvent) (s : BrokerState) :
    Prop :=
  1 < cfg.recoveryGreenSamples → s.greenSamples ≤ (greenWindow history).length

theorem greenWindow_green {e : PressureEvent} (h : e.isGreen = true) :
    (greenWindow (history ++ [e])).length = (greenWindow history).length + 1 := by
  rw [greenWindow, List.rtakeWhile_concat_pos _ _ _ h, List.length_append]
  rfl

/-- The sample of a call keeps the window, and a drop closes a full one. -/
theorem window_sample (hw : WindowInv cfg history s) (h : sampled cfg c s = some s₁) :
    let e := PressureEvent.sample s₁.pressure s.degradationCount s₁.degradationCount
    WindowInv cfg (history ++ [e]) s₁ ∧
      (e.isDrop = true → cfg.recoveryGreenSamples ≤ (greenWindow (history ++ [e])).length) := by
  intro e
  rcases sampled_cases h with ⟨hp, hg, hcount⟩ | ⟨hp, hg, hpos, hcount, hfull⟩ | ⟨hp, hg, hcount⟩
  · refine ⟨fun _ => by rw [hg]; exact Nat.zero_le _, ?_⟩
    intro hdrop
    have hlt : s₁.degradationCount < s.degradationCount := of_decide_eq_true hdrop
    omega
  · have hgreen : e.isGreen = true := by
      simp only [e, hp, PressureEvent.isGreen, decide_eq_true_eq]
      omega
    refine ⟨fun _ => by rw [hg]; exact Nat.zero_le _, ?_⟩
    intro _
    rw [greenWindow_green hgreen]
    have hmod := Nat.mod_le (s.greenSamples + 1) (2 ^ 32)
    by_cases hone : 1 < cfg.recoveryGreenSamples
    · have := hw hone
      omega
    · omega
  · have hgreen : e.isGreen = true := by
      simp only [e, hp, PressureEvent.isGreen, decide_eq_true_eq]
      omega
    refine ⟨?_, ?_⟩
    · intro hone
      rw [greenWindow_green hgreen, hg]
      have := hw hone
      omega
    · intro hdrop
      have hlt : s₁.degradationCount < s.degradationCount := of_decide_eq_true hdrop
      omega

/-- One call: the window stays honest, and the drops of the call are recoveries. -/
theorem window_step (hw : WindowInv cfg history s) (hfresh : EscalatesFresh cfg s c) :
    WindowInv cfg (history ++ pressureEvents cfg c s) (step cfg c s) ∧
      DropsRecovered cfg.recoveryGreenSamples history (pressureEvents cfg c s) := by
  simp only [pressureEvents]
  cases h : sampled cfg c s with
  | none =>
    refine ⟨fun hone => ?_, trivial⟩
    rw [(samePressure_of_not_sampled h).greenSamples, List.append_nil]
    exact hw hone
  | some s₁ =>
    obtain ⟨hw₁, hdrop⟩ := window_sample hw h
    obtain ⟨-, hgreen, hcount⟩ := step_of_sampled h
    dsimp only
    split
    · rename_i hlt
      -- The call escalates: the window restarts, and so has the counter.
      refine ⟨fun hone => ?_, hdrop, ⟨fun he => (Bool.false_ne_true he).elim, trivial⟩⟩
      have hwaits : waits cfg c s₁ = true := by
        by_contra hne
        rw [if_neg hne] at hcount
        omega
      have hroom : s₁.degradationCount < degradationOrder.length := by
        by_contra hge
        rw [if_pos hwaits, escalated, if_neg hge] at hcount
        omega
      rw [hgreen, hfresh hone s₁ h hwaits hroom]
      exact Nat.zero_le _
    · refine ⟨fun hone => ?_, hdrop, trivial⟩
      rw [hgreen]
      exact hw₁ hone

theorem window_run {calls : List Call} (hw : WindowInv cfg history s)
    (hfresh : Along (step cfg) (EscalatesFresh cfg) calls s) :
    DropsRecovered cfg.recoveryGreenSamples history (pressureTrace cfg calls s) := by
  induction calls generalizing s history with
  | nil => trivial
  | cons c calls ih =>
    obtain ⟨hw', hevents⟩ := window_step hw hfresh.1
    exact hevents.append (ih hw' hfresh.2)

/-- The count moves only by samples, which lower it by at most one, and by escalations. -/
def CountMoves (cfg : ResourceBrokerConfig) (s : BrokerState) (c : Call) : Prop :=
  (sampled cfg c s = none → (step cfg c s).degradationCount = s.degradationCount) ∧
    ∀ s₁, sampled cfg c s = some s₁ → s.degradationCount ≤ s₁.degradationCount + 1 ∧
      s₁.degradationCount ≤ (step cfg c s).degradationCount ∧
      (step cfg c s).degradationCount ≤ s₁.degradationCount + 1

theorem countMoves (s : BrokerState) (c : Call) : CountMoves cfg s c := by
  refine ⟨fun h => (samePressure_of_not_sampled h).degradationCount, ?_⟩
  intro s₁ h
  obtain ⟨-, -, hcount⟩ := step_of_sampled h
  have hbounds := escalated_bounds s₁.degradationCount
  refine ⟨?_, ?_, ?_⟩
  · rcases sampled_cases h with ⟨-, -, hs⟩ | ⟨-, -, -, hs, -⟩ | ⟨-, -, hs⟩ <;> omega
  · split_ifs at hcount <;> omega
  · split_ifs at hcount <;> omega

/-- **Degradation recovers slowly.** Along every run the count stays between the floor of the
pressure level and seven and a sample lowers it by at most one; and when every escalation finds no
green samples counted, every drop closes `recovery_green_samples` green samples in a row, taken
after the last raise of the count. -/
theorem degradation_recovers_slowly (cfg : ResourceBrokerConfig) (calls : List Call) :
    (pressureFloor (run cfg calls).pressure ≤ (run cfg calls).degradationCount ∧
      (run cfg calls).degradationCount ≤ 7) ∧
    (∀ c, CountMoves cfg (run cfg calls) c) ∧
    (Along (step cfg) (EscalatesFresh cfg) calls {} →
      ∀ pre e post, pressureTrace cfg calls {} = pre ++ e :: post → e.isDrop = true →
        ∃ older recent, pre ++ [e] = older ++ recent ∧
          cfg.recoveryGreenSamples ≤ recent.length ∧ ∀ x ∈ recent, x.isGreen = true) := by
  refine ⟨inv_runFrom CountInv countInv_step ⟨by decide, by decide⟩ calls,
    fun c => countMoves _ c, ?_⟩
  intro hfresh pre e post hsplit hdrop
  have hw : WindowInv cfg [] {} := fun _ => Nat.zero_le _
  simpa using (window_run hw hfresh).window hsplit hdrop

/-- A job has to wait under amber pressure; three green samples later the count drops. -/
def recoveryRun : List Call :=
  [Sample.call 0 (.submit (Sample.job "x" .embedding (Sample.target "x" 10 0 0 .exclusive))),
    ⟨Sample.reading 1 (800 * mib), .submit (Sample.job "y" .embedding
      (Sample.target "y" 10 0 0 .shared))⟩,
    Sample.call 2 .refreshPressure, Sample.call 3 .refreshPressure, Sample.call 4 .refreshPressure]

theorem degradation_recovers_slowly_recoveryRun :
    ∃ older recent, [PressureEvent.sample .green 0 0, .sample .amber 0 1, .escalation 1 2,
        .sample .green 2 2, .sample .green 2 2] ++ [.sample .green 2 1] = older ++ recent ∧
      3 ≤ recent.length ∧ ∀ x ∈ recent, x.isGreen = true :=
  (degradation_recovers_slowly Sample.config recoveryRun).2.2 (by decide +kernel) _ _ []
    (by decide +kernel) (by decide)

/-- A job waits under green pressure, after three green samples. -/
def hastyRun : List Call :=
  [Sample.call 0 (.submit (Sample.job "x" .embedding (Sample.target "x" 10 0 0 .exclusive))),
    Sample.call 1 .refreshPressure, Sample.call 2 .refreshPressure,
    Sample.call 3 (.submit (Sample.job "y" .embedding (Sample.target "y" 10 0 0 .shared))),
    Sample.call 4 .refreshPressure]

/-- One green sample after the escalation the count is lowered again, where the window is three. -/
theorem escalation_recovers_at_once :
    ({} : ResourceBrokerConfig).recoveryGreenSamples = 3 ∧
      pressureTrace {} hastyRun {} =
        [.sample .green 0 0, .sample .green 0 0, .sample .green 0 0, .sample .green 0 0,
          .escalation 0 1, .sample .green 1 0] := by
  decide +kernel

end NpcRuntime.Broker
