import NpcRuntime.Lib.Machine

/-!
# The circuit breaker of a provider

`CircuitBreaker` of `runtime-core/src/circuit_breaker.rs`. The breaker hands out permits. A run of
failures opens it; when it has been open long enough it turns half-open and hands out a few permits
as probes, whose successes close it again.

Every method holds the mutex for its whole state change, so a list of actions is an interleaving of
the callers. `Breaker` keeps, beside the state of the code, the half-open periods begun so far and
every permit issued, with the period it belongs to.

A permit carries no period. One that was issued before the current half-open period is counted like
a probe of this period when it is completed (`stale_permit_frees_a_probe`), and the counters are
right exactly in the runs where that does not happen (`epochs_kept_iff`).
-/

namespace NpcRuntime.Circuit

/-- The assertions of `CircuitBreaker::new` are fields. Durations are in nanoseconds. -/
structure CircuitBreakerConfig where
  failureThreshold : Nat := 3
  recoverySuccessThreshold : Nat := 2
  openDuration : Nat := 30000000000
  halfOpenMaxInFlight : Nat := 1
  failureThreshold_pos : 0 < failureThreshold := by decide
  recoverySuccessThreshold_pos : 0 < recoverySuccessThreshold := by decide
  halfOpenMaxInFlight_pos : 0 < halfOpenMaxInFlight := by decide

structure CircuitOpen where
  retryAfter : Nat
deriving DecidableEq

inductive CircuitState where
  | closed (consecutiveFailures : Nat)
  | opened (openedAt : Nat)
  | halfOpen (inFlight successes : Nat)
deriving DecidableEq

namespace CircuitState

def isOpened : CircuitState → Bool
  | .opened _ => true
  | _ => false

def isHalfOpen : CircuitState → Bool
  | .halfOpen _ _ => true
  | _ => false

end CircuitState

variable (cfg : CircuitBreakerConfig)

/-! ## The methods -/

/-- The first block of `try_acquire_at`: an open circuit turns half-open when its time is over. -/
def expireOpen (now : Nat) : CircuitState → Except CircuitOpen CircuitState
  | .opened openedAt =>
    if cfg.openDuration ≤ now - openedAt then .ok (.halfOpen 0 0)
    else .error ⟨cfg.openDuration - (now - openedAt)⟩
  | state => .ok state

/-- The second block: a half-open circuit hands out its probes. -/
def takeProbe : CircuitState → Except CircuitOpen CircuitState
  | .halfOpen inFlight successes =>
    if cfg.halfOpenMaxInFlight ≤ inFlight then .error ⟨cfg.openDuration⟩
    else .ok (.halfOpen (inFlight + 1) successes)
  | state => .ok state

def tryAcquireAt (now : Nat) (state : CircuitState) : Except CircuitOpen Unit × CircuitState :=
  match expireOpen cfg now state with
  | .error refusal => (.error refusal, state)
  | .ok state =>
    match takeProbe cfg state with
    | .error refusal => (.error refusal, state)
    | .ok state => (.ok (), state)

def recordSuccess : CircuitState → CircuitState
  | .closed _ => .closed 0
  | .halfOpen inFlight successes =>
    if cfg.recoverySuccessThreshold ≤ successes + 1 then .closed 0
    else .halfOpen (inFlight - 1) (successes + 1)
  | .opened openedAt => .opened openedAt

def recordFailure (now : Nat) : CircuitState → CircuitState
  | .closed consecutiveFailures =>
    if cfg.failureThreshold ≤ consecutiveFailures + 1 then .opened now
    else .closed (consecutiveFailures + 1)
  | .halfOpen _ _ => .opened now
  | .opened openedAt => .opened openedAt

/-- `CircuitPermit::drop` of a permit that has reported nothing. -/
def dropPermit : CircuitState → CircuitState
  | .halfOpen inFlight successes => .halfOpen (inFlight - 1) successes
  | state => state

/-! ## The breaker and its permits -/

inductive Completion where
  | outstanding
  | succeeded
  | failed
  | dropped
deriving DecidableEq

/-- A permit, with the half-open period it was acquired in. -/
structure CircuitPermit where
  period : Option Nat
  completion : Completion := .outstanding
deriving DecidableEq

structure Breaker where
  state : CircuitState := .closed 0
  /-- The half-open periods that have begun. -/
  period : Nat := 0
  permits : List CircuitPermit := []
deriving DecidableEq

inductive Action where
  | tryAcquire (now : Nat)
  | success (id : Nat)
  | failure (id : Nat) (now : Nat)
  | drop (id : Nat)
deriving DecidableEq

namespace Breaker

def acquire (now : Nat) (b : Breaker) : Breaker :=
  let (result, state) := tryAcquireAt cfg now b.state
  let period := if b.state.isOpened && state.isHalfOpen then b.period + 1 else b.period
  let permit : CircuitPermit := { period := if state.isHalfOpen then some period else none }
  { state, period,
    permits := match result with
      | .ok () => b.permits ++ [permit]
      | .error _ => b.permits }

/-- A permit is completed once: `success` and `failure` take it by value, and what they leave to
`drop` does nothing. -/
def complete (b : Breaker) (id : Nat) (completion : Completion)
    (record : CircuitState → CircuitState) : Breaker :=
  match b.permits[id]? with
  | some ⟨period, .outstanding⟩ =>
    { b with state := record b.state, permits := b.permits.set id ⟨period, completion⟩ }
  | _ => b

/-- The permits acquired in `period` that are in the given state. -/
def count (b : Breaker) (period : Nat) (completion : Completion) : Nat :=
  b.permits.countP fun permit => permit == ⟨some period, completion⟩

end Breaker

def step : Action → Breaker → Breaker
  | .tryAcquire now, b => b.acquire cfg now
  | .success id, b => b.complete id .succeeded (recordSuccess cfg)
  | .failure id now, b => b.complete id .failed (recordFailure cfg now)
  | .drop id, b => b.complete id .dropped dropPermit

def run (actions : List Action) : Breaker := runFrom (step cfg) actions {}

/-! ## What an action does -/

variable {cfg}

variable {b : Breaker}

namespace Breaker

theorem acquire_cases (now : Nat) (b : Breaker) :
    b.acquire cfg now = b ∨
    (∃ failures, b.state = .closed failures ∧
      b.acquire cfg now = { b with permits := b.permits ++ [⟨none, .outstanding⟩] }) ∨
    (∃ inFlight successes, b.state = .halfOpen inFlight successes ∧
      inFlight < cfg.halfOpenMaxInFlight ∧
      b.acquire cfg now = { b with
        state := .halfOpen (inFlight + 1) successes
        permits := b.permits ++ [⟨some b.period, .outstanding⟩] }) ∨
    (∃ openedAt, b.state = .opened openedAt ∧
      b.acquire cfg now =
        ⟨.halfOpen 1 0, b.period + 1, b.permits ++ [⟨some (b.period + 1), .outstanding⟩]⟩) := by
  obtain ⟨state, period, permits⟩ := b
  have hmax := cfg.halfOpenMaxInFlight_pos
  cases state with
  | closed failures => exact .inr (.inl ⟨failures, rfl, rfl⟩)
  | opened openedAt =>
    by_cases htime : cfg.openDuration ≤ now - openedAt
    · refine .inr (.inr (.inr ⟨openedAt, rfl, ?_⟩))
      simp [acquire, tryAcquireAt, expireOpen, takeProbe, htime, Nat.not_le.2 hmax,
        CircuitState.isOpened, CircuitState.isHalfOpen]
    · left
      simp [acquire, tryAcquireAt, expireOpen, htime, CircuitState.isHalfOpen]
  | halfOpen inFlight successes =>
    by_cases hfree : cfg.halfOpenMaxInFlight ≤ inFlight
    · left
      simp [acquire, tryAcquireAt, expireOpen, takeProbe, hfree, CircuitState.isOpened]
    · refine .inr (.inr (.inl ⟨inFlight, successes, rfl, Nat.lt_of_not_le hfree, ?_⟩))
      simp [acquire, tryAcquireAt, expireOpen, takeProbe, hfree, CircuitState.isOpened,
        CircuitState.isHalfOpen]

theorem complete_cases (b : Breaker) (id : Nat) (completion : Completion)
    (record : CircuitState → CircuitState) :
    ((∀ issued, b.permits[id]? ≠ some ⟨issued, .outstanding⟩) ∧
      b.complete id completion record = b) ∨
    ∃ issued, b.permits[id]? = some ⟨issued, .outstanding⟩ ∧
      b.complete id completion record =
        { b with state := record b.state, permits := b.permits.set id ⟨issued, completion⟩ } := by
  unfold complete
  split
  next issued h => exact .inr ⟨issued, h, rfl⟩
  next h => exact .inl ⟨h, rfl⟩

/-! ## Counting permits -/

theorem count_append (b : Breaker) (state : CircuitState) (current period : Nat)
    (permit : CircuitPermit) (completion : Completion) :
    count ⟨state, current, b.permits ++ [permit]⟩ period completion =
      b.count period completion + if permit = ⟨some period, completion⟩ then 1 else 0 := by
  simp [count]

theorem count_set {id : Nat} {issued : Option Nat}
    (h : b.permits[id]? = some ⟨issued, .outstanding⟩) (state : CircuitState) (current period : Nat)
    (completion completion' : Completion) :
    count ⟨state, current, b.permits.set id ⟨issued, completion'⟩⟩ period completion +
        (if issued = some period ∧ completion = .outstanding then 1 else 0) =
      b.count period completion +
        if issued = some period ∧ completion = completion' then 1 else 0 := by
  obtain ⟨hid, hpermit⟩ := List.getElem?_eq_some_iff.1 h
  have hle := List.boole_getElem_le_countP (p := fun p => p == ⟨some period, completion⟩) hid
  simp only [count, List.countP_set hid, hpermit, beq_iff_eq, CircuitPermit.mk.injEq,
    eq_comm (a := completion)] at hle ⊢
  omega

end Breaker

/-! ## The counters -/

/-- The counters of a state stay below their thresholds, which the code keeps in the same type. -/
def CircuitState.Bounded (cfg : CircuitBreakerConfig) : CircuitState → Prop
  | .closed consecutiveFailures => consecutiveFailures < cfg.failureThreshold
  | .opened _ => True
  | .halfOpen inFlight successes =>
    inFlight ≤ cfg.halfOpenMaxInFlight ∧ successes < cfg.recoverySuccessThreshold

/-- What holds in every run, whoever completes the permits. -/
structure Sound (cfg : CircuitBreakerConfig) (b : Breaker) : Prop where
  bounded : b.state.Bounded cfg
  begun : b.state.isHalfOpen = true → 0 < b.period
  past : ∀ permit ∈ b.permits, ∀ period, permit.period = some period → period ≤ b.period

namespace Sound

theorem init : Sound cfg {} :=
  ⟨cfg.failureThreshold_pos, (by decide), (by simp)⟩

/-- A period that has not begun has no permits. -/
theorem count_next (h : Sound cfg b) (completion : Completion) :
    b.count (b.period + 1) completion = 0 := by
  refine List.countP_eq_zero.2 ?_
  intro permit hpermit heq
  have hle := h.past permit hpermit (b.period + 1) (by rw [beq_iff_eq.1 heq])
  omega

theorem complete (h : Sound cfg b) (id : Nat) (completion : Completion)
    {record : CircuitState → CircuitState}
    (hrecord : ∀ state, state.Bounded cfg → (record state).Bounded cfg)
    (hhalf : ∀ state, (record state).isHalfOpen = true → state.isHalfOpen = true) :
    Sound cfg (b.complete id completion record) := by
  obtain ⟨-, heq⟩ | ⟨issued, hissued, heq⟩ := b.complete_cases id completion record
  · rw [heq]
    exact h
  · rw [heq]
    refine ⟨hrecord _ h.bounded, fun hopen => h.begun (hhalf _ hopen), ?_⟩
    intro permit hpermit period hperiod
    rcases List.mem_or_eq_of_mem_set hpermit with hold | rfl
    · exact h.past permit hold period hperiod
    · exact h.past _ (List.mem_of_getElem? hissued) period hperiod

theorem past_append (h : Sound cfg b) {permit : CircuitPermit} {current : Nat}
    (hle : b.period ≤ current) (hnew : ∀ period, permit.period = some period → period ≤ current) :
    ∀ p ∈ b.permits ++ [permit], ∀ period, p.period = some period → period ≤ current := by
  intro p hp period hperiod
  rcases List.mem_append.1 hp with hold | hlast
  · exact Nat.le_trans (h.past p hold period hperiod) hle
  · rw [List.mem_singleton.1 hlast] at hperiod
    exact hnew period hperiod

theorem acquire (h : Sound cfg b) (now : Nat) : Sound cfg (b.acquire cfg now) := by
  have hbounded := h.bounded
  obtain heq | ⟨failures, -, heq⟩ | ⟨inFlight, successes, hstate, hfree, heq⟩ |
    ⟨openedAt, -, heq⟩ := @Breaker.acquire_cases cfg now b <;> rw [heq]
  · exact h
  · exact ⟨h.bounded, h.begun, h.past_append (Nat.le_refl _) (by simp)⟩
  · rw [hstate] at hbounded
    exact ⟨⟨hfree, hbounded.2⟩, fun _ => h.begun (by rw [hstate]; rfl),
      h.past_append (Nat.le_refl _) (by simp)⟩
  · exact ⟨⟨cfg.halfOpenMaxInFlight_pos, cfg.recoverySuccessThreshold_pos⟩,
      fun _ => Nat.succ_pos _, h.past_append (Nat.le_succ _) (by simp)⟩

theorem step {b : Breaker} (h : Sound cfg b) (action : Action) : Sound cfg (step cfg action b) := by
  cases action with
  | tryAcquire now => exact h.acquire now
  | success id =>
    refine h.complete id .succeeded ?_ ?_
    · intro state hstate
      cases state with
      | closed failures => exact cfg.failureThreshold_pos
      | opened openedAt => trivial
      | halfOpen inFlight successes =>
        simp only [recordSuccess]
        split
        · exact cfg.failureThreshold_pos
        · exact ⟨Nat.le_trans (Nat.sub_le _ _) hstate.1, Nat.lt_of_not_le ‹_›⟩
    · intro state
      cases state <;> simp [recordSuccess, CircuitState.isHalfOpen]
  | failure id now =>
    refine h.complete id .failed ?_ ?_
    · intro state hstate
      cases state with
      | closed failures =>
        simp only [recordFailure]
        split
        · trivial
        · exact Nat.lt_of_not_le ‹_›
      | opened openedAt => trivial
      | halfOpen inFlight successes => trivial
    · intro state
      cases state with
      | closed failures =>
        simp only [recordFailure]
        split <;> simp [CircuitState.isHalfOpen]
      | opened openedAt => simp [recordFailure]
      | halfOpen inFlight successes => simp [CircuitState.isHalfOpen]
  | drop id =>
    refine h.complete id .dropped ?_ ?_
    · intro state hstate
      cases state with
      | closed failures => exact hstate
      | opened openedAt => trivial
      | halfOpen inFlight successes => exact ⟨Nat.le_trans (Nat.sub_le _ _) hstate.1, hstate.2⟩
    · intro state
      cases state <;> simp [dropPermit, CircuitState.isHalfOpen]

end Sound

/-! ## Epochs -/

/-- The counters of a half-open state count the permits of the current period, and a circuit that
has closed again has closed on the successes of its last period. -/
def EpochsKept (cfg : CircuitBreakerConfig) (b : Breaker) : Prop :=
  match b.state with
  | .halfOpen inFlight successes =>
    inFlight = b.count b.period .outstanding ∧ inFlight ≤ cfg.halfOpenMaxInFlight ∧
      successes = b.count b.period .succeeded
  | .closed _ => b.period = 0 ∨ cfg.recoverySuccessThreshold ≤ b.count b.period .succeeded
  | .opened _ => True

/-- In a half-open state only permits of the current period report success, and only these are
dropped while a probe is counted as in flight. -/
def OwnProbe (b : Breaker) : Action → Prop
  | .success id => ∀ inFlight successes issued, b.state = .halfOpen inFlight successes →
      b.permits[id]? = some ⟨issued, .outstanding⟩ → issued = some b.period
  | .drop id => ∀ inFlight successes issued, b.state = .halfOpen (inFlight + 1) successes →
      b.permits[id]? = some ⟨issued, .outstanding⟩ → issued = some b.period
  | .tryAcquire _ | .failure _ _ => True

theorem epochsKept_acquire (hs : Sound cfg b) (h : EpochsKept cfg b) (now : Nat) :
    EpochsKept cfg (b.acquire cfg now) := by
  unfold EpochsKept at h
  obtain heq | ⟨failures, hstate, heq⟩ | ⟨inFlight, successes, hstate, hfree, heq⟩ |
    ⟨openedAt, hstate, heq⟩ := @Breaker.acquire_cases cfg now b
  · rw [heq]
    exact h
  · rw [hstate] at h
    rw [heq, EpochsKept, hstate]
    simpa [Breaker.count_append] using h
  · rw [hstate] at h
    obtain ⟨hflight, -, hsuccess⟩ := h
    rw [heq]
    refine ⟨?_, hfree, ?_⟩
    · simp [Breaker.count_append, hflight]
    · simp [Breaker.count_append, hsuccess]
  · rw [heq]
    refine ⟨?_, cfg.halfOpenMaxInFlight_pos, ?_⟩
    · simp [Breaker.count_append, hs.count_next]
    · simp [Breaker.count_append, hs.count_next]

/-- Completing a permit outside a half-open state keeps the epochs. -/
theorem epochsKept_complete (h : EpochsKept cfg b) (hstate : b.state.isHalfOpen = false) (id : Nat)
    (completion : Completion) {record : CircuitState → CircuitState}
    (hclosed : ∀ failures, (record (.closed failures)).isHalfOpen = false)
    (hopened : ∀ openedAt, record (.opened openedAt) = .opened openedAt) :
    EpochsKept cfg (b.complete id completion record) := by
  obtain ⟨-, heq⟩ | ⟨issued, hissued, heq⟩ := b.complete_cases id completion record
  · rw [heq]
    exact h
  rw [heq]
  have hsucceeded := Breaker.count_set hissued (record b.state) b.period b.period .succeeded
    completion
  simp only [reduceCtorEq, and_false, if_false, Nat.add_zero] at hsucceeded
  unfold EpochsKept at h ⊢
  cases hb : b.state with
  | closed failures =>
    rw [hb] at h hsucceeded
    have hnot := hclosed failures
    simp only
    split
    · simp_all [CircuitState.isHalfOpen]
    · refine h.imp_right ?_
      intro hle
      omega
    · trivial
  | opened openedAt => simp only [hopened]
  | halfOpen inFlight successes =>
    rw [hb] at hstate
    cases hstate

/-- A report of success keeps the epochs exactly if it comes from a probe of the current period. -/
theorem epochsKept_success (hs : Sound cfg b) (h : EpochsKept cfg b) (id : Nat) :
    EpochsKept cfg (b.complete id .succeeded (recordSuccess cfg)) ↔ OwnProbe b (.success id) := by
  by_cases hhalf : b.state.isHalfOpen = true
  · obtain ⟨hnone, heq⟩ | ⟨issued, hissued, heq⟩ :=
      b.complete_cases id .succeeded (recordSuccess cfg)
    · rw [heq]
      exact iff_of_true h fun _ _ issued _ hissued => absurd hissued (hnone issued)
    have hperiod := hs.begun hhalf
    have hbounded := hs.bounded
    cases hb : b.state with
    | closed failures => rw [hb] at hhalf; cases hhalf
    | opened openedAt => rw [hb] at hhalf; cases hhalf
    | halfOpen inFlight successes =>
      have hown : OwnProbe b (.success id) ↔ issued = some b.period := by
        refine ⟨fun howns => howns _ _ _ hb hissued, ?_⟩
        intro howns _ _ issued' _ hissued'
        rw [hissued] at hissued'
        cases hissued'
        exact howns
      rw [EpochsKept, hb] at h
      rw [hb] at hbounded
      obtain ⟨hflight, -, hsuccesses⟩ := h
      obtain ⟨hmax, hbelow⟩ := hbounded
      have hset := fun state completion => Breaker.count_set hissued state b.period b.period
        completion .succeeded
      rw [hown, heq, hb, recordSuccess]
      split
      · -- This success closes the circuit: it is the last one needed.
        have hsuc := hset (.closed 0) .succeeded
        simp only [EpochsKept]
        by_cases howns : issued = some b.period <;> simp [howns] at hsuc ⊢ <;> omega
      · have hout := hset (.halfOpen (inFlight - 1) (successes + 1)) .outstanding
        have hsuc := hset (.halfOpen (inFlight - 1) (successes + 1)) .succeeded
        simp only [EpochsKept]
        by_cases howns : issued = some b.period <;> simp [howns] at hout hsuc ⊢ <;> omega
  · refine iff_of_true (epochsKept_complete h (by simpa using hhalf) id .succeeded ?_ ?_) ?_
    · intro failures
      rfl
    · intro openedAt
      rfl
    · intro inFlight successes _ hb
      rw [hb] at hhalf
      exact absurd rfl hhalf

/-- A dropped permit keeps the epochs exactly if it is a probe of the current period, or none is
counted as in flight. -/
theorem epochsKept_drop (h : EpochsKept cfg b) (id : Nat) :
    EpochsKept cfg (b.complete id .dropped dropPermit) ↔ OwnProbe b (.drop id) := by
  by_cases hhalf : b.state.isHalfOpen = true
  · obtain ⟨hnone, heq⟩ | ⟨issued, hissued, heq⟩ := b.complete_cases id .dropped dropPermit
    · rw [heq]
      exact iff_of_true h fun _ _ issued _ hissued => absurd hissued (hnone issued)
    cases hb : b.state with
    | closed failures => rw [hb] at hhalf; cases hhalf
    | opened openedAt => rw [hb] at hhalf; cases hhalf
    | halfOpen inFlight successes =>
      have hown : OwnProbe b (.drop id) ↔ (0 < inFlight → issued = some b.period) := by
        constructor
        · intro howns hpos
          exact howns (inFlight - 1) successes issued (by rw [hb]; congr 1; omega) hissued
        · intro howns inFlight' _ issued' hb' hissued'
          rw [hb] at hb'
          rw [hissued] at hissued'
          cases hissued'
          cases hb'
          exact howns (Nat.succ_pos _)
      rw [EpochsKept, hb] at h
      obtain ⟨hflight, hmax, hsuccesses⟩ := h
      have hset := fun completion => Breaker.count_set hissued (.halfOpen (inFlight - 1) successes)
        b.period b.period completion .dropped
      have hout := hset .outstanding
      have hsuc := hset .succeeded
      rw [hown, heq, hb, dropPermit]
      simp only [EpochsKept]
      by_cases howns : issued = some b.period <;> simp [howns] at hout hsuc ⊢ <;> omega
  · refine iff_of_true (epochsKept_complete h (by simpa using hhalf) id .dropped ?_ ?_) ?_
    · intro failures
      rfl
    · intro openedAt
      rfl
    · intro inFlight successes _ hb
      rw [hb] at hhalf
      exact absurd rfl hhalf

theorem epochsKept_failure (h : EpochsKept cfg b) (id now : Nat) :
    EpochsKept cfg (b.complete id .failed (recordFailure cfg now)) := by
  by_cases hhalf : b.state.isHalfOpen = true
  · -- Any failure opens a half-open circuit.
    obtain ⟨-, heq⟩ | ⟨issued, -, heq⟩ := b.complete_cases id .failed (recordFailure cfg now)
    · rw [heq]
      exact h
    rw [heq]
    cases hb : b.state with
    | closed failures => rw [hb] at hhalf; cases hhalf
    | opened openedAt => trivial
    | halfOpen inFlight successes => trivial
  · refine epochsKept_complete h (by simpa using hhalf) id .failed ?_ ?_
    · intro failures
      simp only [recordFailure]
      split <;> rfl
    · intro openedAt
      rfl

theorem epochsKept_step_iff (hs : Sound cfg b) (h : EpochsKept cfg b) (action : Action) :
    EpochsKept cfg (step cfg action b) ↔ OwnProbe b action := by
  cases action with
  | tryAcquire now => exact iff_of_true (epochsKept_acquire hs h now) trivial
  | success id => exact epochsKept_success hs h id
  | failure id now => exact iff_of_true (epochsKept_failure h id now) trivial
  | drop id => exact epochsKept_drop h id

/-- **Circuit breaker epochs.** In every state of a run the counters of a half-open circuit count
the probes of its own period, and it has closed only on their successes, exactly if in every
half-open state of the run the permits that succeed, or are dropped while a probe is in flight, are
permits of the current period. -/
theorem epochs_kept_iff (cfg : CircuitBreakerConfig) (actions : List Action) :
    (∀ pre, pre <+: actions → EpochsKept cfg (run cfg pre)) ↔
      Along (step cfg) OwnProbe actions {} :=
  along_iff_prefixes (Sound cfg) (EpochsKept cfg) (fun _ action hs => hs.step action)
    (fun _ action hs h => epochsKept_step_iff hs h action) Sound.init (.inl rfl)

/-- The time an action reads. -/
def Action.time : Action → Option Nat
  | .tryAcquire now | .failure _ now => some now
  | .success _ | .drop _ => none

/-- Three permits are out when two failures open the circuit; when its time is over a fourth permit
is its probe. The third is dropped, the probe is no longer counted, and a second one is handed
out. -/
theorem stale_permit_frees_a_probe :
    ¬ ∀ (cfg : CircuitBreakerConfig) (actions : List Action),
      (actions.filterMap Action.time).Pairwise (· ≤ ·) → EpochsKept cfg (run cfg actions) := by
  intro h
  have hbad := h { failureThreshold := 2, recoverySuccessThreshold := 1, openDuration := 10 }
    [.tryAcquire 1, .tryAcquire 1, .tryAcquire 1, .failure 0 2, .failure 1 2, .tryAcquire 12,
      .drop 2, .tryAcquire 12] (by decide)
  obtain ⟨hflight, -⟩ := hbad
  exact absurd hflight (by decide)

end NpcRuntime.Circuit
