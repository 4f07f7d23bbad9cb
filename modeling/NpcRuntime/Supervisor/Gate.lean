import NpcRuntime.Supervisor.Admission

/-!
# Supervisor: the start gate

`TurnSupervisor::start_turn`, `barge_in` and `shutdown` of `runtime-core/src/supervisor.rs` as a
machine. Any number of calls are under way, each in its `Phase`; an action moves one of them over
one critical section of `start_gate`, `current` or the broker, or over one atomic access, so that a
list of actions is an interleaving. The tasks that run the turns are here their last two steps: they
return their lease and clear `current`. How a turn ends, what the planner answers and what the
telemetry reads are up to the environment, as are the calls of other users of the broker.

`start_turn` reads `shutting_down` before it takes the gate, so a call that has read it may take the
gate behind a shutdown and start its turn (`turn_starts_after_shutdown`). Unless that happens, no
turn is current once a shutdown has returned (`no_turn_after_shutdown`).
-/

namespace NpcRuntime.Supervisor

open Broker

structure ActiveTurn where
  identity : TurnIdentity
  resourceJobId : Option String
deriving DecidableEq

/-- The calls of the supervisor. -/
inductive Caller where
  | startTurn (request : TurnRequest)
  | bargeIn (reason : String)
  | shutdown
deriving DecidableEq

/-- The reason a call gives when it cancels a turn. -/
def Caller.reason : Caller → String
  | .startTurn _ => "superseded by a newer foreground turn"
  | .bargeIn reason => reason
  | .shutdown => "runtime shutdown"

inductive CallResult where
  | started (identity : TurnIdentity)
  | refused (error : StartTurnError)
  | barged (identity : Option TurnIdentity)
  | shutDown
deriving DecidableEq

/-- Where a call stands. -/
inductive Phase where
  | called (caller : Caller)
  /-- Behind the load or store of `shutting_down`. -/
  | waiting (caller : Caller)
  /-- Behind the lock of `start_gate`. -/
  | locked (caller : Caller)
  /-- `barge_in_locked` has taken `current`. -/
  | taken (caller : Caller) (active : Option ActiveTurn)
  /-- `barge_in_locked` has cancelled what it took. -/
  | cleared (caller : Caller) (active : Option ActiveTurn)
  /-- The turn of a `start_turn` call has its lease. -/
  | admitted (request : TurnRequest) (identity : TurnIdentity) (lease : Option ResourceLease)
  /-- Its submission returned no lease. -/
  | withdrawing (request : TurnRequest) (identity : TurnIdentity) (error : StartTurnError)
  | refusing (request : TurnRequest) (error : StartTurnError)
  /-- Its turn is current, and the task that runs it is spawned. -/
  | installed (request : TurnRequest) (identity : TurnIdentity)
  | returned (caller : Caller) (result : CallResult)
deriving DecidableEq

namespace Phase

def caller : Phase → Caller
  | .called caller | .waiting caller | .locked caller | .taken caller _ | .cleared caller _ |
    .returned caller _ => caller
  | .admitted request _ _ | .withdrawing request _ _ | .refusing request _ |
    .installed request _ => .startTurn request

/-- The call holds `start_gate`. -/
def holdsGate : Phase → Bool
  | .called _ | .waiting _ | .returned _ _ => false
  | _ => true

def hasReturned : Phase → Bool
  | .returned _ _ => true
  | _ => false

/-- A shutdown that has gone through the gate. -/
def passedShutdown (p : Phase) : Bool := p.caller == .shutdown && (p.holdsGate || p.hasReturned)

/-- A shutdown that has taken `current`. -/
def shutdownTook (p : Phase) : Bool :=
  p.passedShutdown && p != .locked .shutdown

/-- A `start_turn` call inside the gate. -/
def startsInside (p : Phase) : Bool :=
  p.holdsGate && match p.caller with
    | .startTurn _ => true
    | _ => false

/-- The lease that a `start_turn` call has not handed to a task yet. -/
def lease : Phase → Option ResourceLease
  | .admitted _ _ lease => lease
  | _ => none

end Phase

/-- The task that runs a turn: it holds the turn's lease until it ends. -/
structure TurnTask where
  identity : TurnIdentity
  lease : Option ResourceLease
  ended : Bool := false
deriving DecidableEq

/-- A `TurnSupervisor` and its calls. `broker` is the broker of its resource admission, if it has
one. -/
structure State where
  shuttingDown : Bool := false
  gate : Option Nat := none
  current : Option ActiveTurn := none
  generations : Nat := 0
  broker : Option BrokerState := none
  calls : List Phase := []
  tasks : List TurnTask := []

inductive Action where
  | call (caller : Caller)
  | flag (id : Nat)
  | lock (id : Nat)
  | take (id : Nat)
  | cancel (id : Nat) (r : Reading)
  | submit (id : Nat) (r : Reading) (plan : Except BrokerError TurnResourcePlan)
  | withdraw (id : Nat) (r : Reading)
  | install (id : Nat)
  | leave (id : Nat)
  | taskEnds (generation : Nat) (r : Reading) (status : CompletionStatus)
  | taskClears (generation : Nat)
  | broker (call : Call)

namespace State

def setPhase (s : State) (id : Nat) (phase : Phase) : State :=
  { s with calls := s.calls.set id phase }

/-- The leases that the supervisor's calls and tasks hold. -/
def held (s : State) : List ResourceLease :=
  s.tasks.filterMap (·.lease) ++ s.calls.filterMap (·.lease)

/-- The broker call would finish a lease of the supervisor, which only its holder can do. -/
def finishesHeld (s : State) (call : Call) : Bool :=
  match call.op with
  | .finishLease jobId _ _ _ => s.held.any (·.jobId == jobId)
  | _ => false

end State

section Step

variable (cfg : ResourceBrokerConfig)

/-- The load of `start_turn` or the store of `shutdown`. -/
def passFlag (s : State) (id : Nat) (caller : Caller) : State :=
  match caller with
  | .startTurn request =>
    match request.validate with
    | .error error => s.setPhase id (.returned caller (.refused (.invalidRequest error)))
    | .ok () =>
      if s.shuttingDown then s.setPhase id (.returned caller (.refused .shuttingDown))
      else s.setPhase id (.waiting caller)
  | .bargeIn _ => s.setPhase id (.waiting caller)
  | .shutdown => { s with shuttingDown := true }.setPhase id (.waiting caller)

/-- `barge_in_locked` cancels the job of the turn it took. -/
def cancelTaken (r : Reading) (reason : String) (active : Option ActiveTurn)
    (broker : Option BrokerState) : Option BrokerState :=
  match active.bind (·.resourceJobId) with
  | some jobId => broker.map fun b => (Broker.cancel cfg r jobId reason b).1
  | none => broker

/-- `start_turn` behind the cancellation: a new generation, and its admission. -/
def submitCall (s : State) (id : Nat) (request : TurnRequest) (r : Reading)
    (plan : Except BrokerError TurnResourcePlan) : State :=
  let generation := s.generations + 1
  let identity : TurnIdentity := ⟨request.sessionId, request.turnId, generation⟩
  match s.broker with
  | none => { s with generations := generation }.setPhase id (.admitted request identity none)
  | some b =>
    match submitTurn cfg r plan request identity b with
    | (b, .error error) =>
      { s with generations := generation, broker := some b }.setPhase id (.refusing request error)
    | (b, .ok submission) =>
      { s with generations := generation, broker := some b }.setPhase id
        (match submission.lease with
          | some lease => .admitted request identity (some lease)
          | none => .withdrawing request identity (notAdmitted submission))

/-- The task of a turn completes its lease. -/
def endTask (s : State) (generation : Nat) (r : Reading) (status : CompletionStatus) : State :=
  let runs (task : TurnTask) : Bool := task.identity.cancellationGeneration == generation
  { s with
    tasks := s.tasks.map fun task =>
      if runs task then { task with lease := none, ended := true } else task
    broker := s.broker.map fun b => ((s.tasks.filter runs).filterMap (·.lease)).foldl
      (fun b lease => finishLease cfg r lease.jobId {} false status b) b }

/-- `clear_if_current`, by a task that has ended. -/
def clearIfCurrent (s : State) (generation : Nat) : State :=
  if (s.tasks.any fun task => task.identity.cancellationGeneration == generation && task.ended) &&
      s.current.any (·.identity.cancellationGeneration == generation) then
    { s with current := none }
  else s

/-- One action; one that is not possible in the state changes nothing. -/
def step (action : Action) (s : State) : State :=
  match action with
  | .call caller => { s with calls := s.calls ++ [.called caller] }
  | .flag id =>
    match s.calls[id]? with
    | some (.called caller) => passFlag s id caller
    | _ => s
  | .lock id =>
    match s.calls[id]?, s.gate with
    | some (.waiting caller), none => { s with gate := some id }.setPhase id (.locked caller)
    | _, _ => s
  | .take id =>
    match s.calls[id]? with
    | some (.locked caller) => { s with current := none }.setPhase id (.taken caller s.current)
    | _ => s
  | .cancel id r =>
    match s.calls[id]? with
    | some (.taken caller active) =>
      { s with broker := cancelTaken cfg r caller.reason active s.broker }.setPhase id
        (.cleared caller active)
    | _ => s
  | .submit id r plan =>
    match s.calls[id]? with
    | some (.cleared (.startTurn request) _) => submitCall cfg s id request r plan
    | _ => s
  | .withdraw id r =>
    match s.calls[id]? with
    | some (.withdrawing request identity error) =>
      { s with broker := s.broker.map (withdrawTurn cfg r identity) }.setPhase id
        (.refusing request error)
    | _ => s
  | .install id =>
    match s.calls[id]? with
    | some (.admitted request identity lease) =>
      { s with
        current := some ⟨identity, lease.map ResourceLease.jobId⟩
        tasks := s.tasks ++ [TurnTask.mk identity lease false] }.setPhase id
          (.installed request identity)
    | _ => s
  | .leave id =>
    match s.calls[id]? with
    | some (.installed request identity) =>
      { s with gate := none }.setPhase id (.returned (.startTurn request) (.started identity))
    | some (.refusing request error) =>
      { s with gate := none }.setPhase id (.returned (.startTurn request) (.refused error))
    | some (.cleared (.bargeIn reason) active) =>
      { s with gate := none }.setPhase id
        (.returned (.bargeIn reason) (.barged (active.map ActiveTurn.identity)))
    | some (.cleared .shutdown _) =>
      { s with gate := none }.setPhase id (.returned .shutdown .shutDown)
    | _ => s
  | .taskEnds generation r status => endTask cfg s generation r status
  | .taskClears generation => clearIfCurrent s generation
  | .broker call =>
    if s.finishesHeld call then s else { s with broker := s.broker.map (Broker.step cfg call) }

end Step

/-! ## What an action does to the gate -/

/-- The moves of the calls, the gate and `current`. -/
inductive Moves (action : Action) (s : State) : State → Prop
  | aside {s' : State} : s'.calls = s.calls → s'.gate = s.gate →
      (s'.current = s.current ∨ s'.current = none) → Moves action s s'
  | call {s' : State} (caller : Caller) : s'.calls = s.calls ++ [.called caller] →
      s'.gate = s.gate → s'.current = s.current → Moves action s s'
  | outside {s' : State} (id : Nat) (p p' : Phase) : s.calls[id]? = some p →
      s'.calls = s.calls.set id p' → s'.gate = s.gate → s'.current = s.current →
      p.hasReturned = false → p'.holdsGate = false → p'.passedShutdown = false →
      Moves action s s'
  | lock {s' : State} (id : Nat) (caller : Caller) : action = .lock id →
      s.calls[id]? = some (.waiting caller) →
      s'.calls = s.calls.set id (.locked caller) → s.gate = none → s'.gate = some id →
      s'.current = s.current → Moves action s s'
  | inside {s' : State} (id : Nat) (p p' : Phase) : s.calls[id]? = some p →
      s'.calls = s.calls.set id p' → s'.gate = s.gate → p.holdsGate = true →
      p'.holdsGate = true → p'.caller = p.caller →
      (s'.current = none ∨ p.startsInside = true ∨
        (s'.current = s.current ∧ p ≠ .locked .shutdown)) → Moves action s s'
  | leave {s' : State} (id : Nat) (p p' : Phase) : s.calls[id]? = some p →
      s'.calls = s.calls.set id p' → s'.gate = none → s'.current = s.current →
      p.holdsGate = true → p ≠ .locked .shutdown → p'.hasReturned = true →
      p'.caller = p.caller → Moves action s s'

variable {cfg : ResourceBrokerConfig} {action : Action} {s s' : State}

theorem passFlag_moves {id : Nat} {caller : Caller} (h : s.calls[id]? = some (.called caller)) :
    Moves action s (passFlag s id caller) := by
  unfold passFlag
  cases caller with
  | startTurn request =>
    dsimp only
    split
    · exact .outside id _ _ h rfl rfl rfl rfl rfl rfl
    · split_ifs
      · exact .outside id _ _ h rfl rfl rfl rfl rfl rfl
      · exact .outside id _ _ h rfl rfl rfl rfl rfl rfl
  | bargeIn reason => exact .outside id _ _ h rfl rfl rfl rfl rfl rfl
  | shutdown => exact .outside id _ _ h rfl rfl rfl rfl rfl rfl

theorem submitCall_moves {id : Nat} {request : TurnRequest} {active : Option ActiveTurn}
    (r : Reading) (plan : Except BrokerError TurnResourcePlan)
    (h : s.calls[id]? = some (.cleared (.startTurn request) active)) :
    Moves action s (submitCall cfg s id request r plan) := by
  unfold submitCall
  dsimp only
  split
  · exact .inside id _ _ h rfl rfl rfl rfl rfl (.inr (.inl rfl))
  · split
    · exact .inside id _ _ h rfl rfl rfl rfl rfl (.inr (.inl rfl))
    · split <;> exact .inside id _ _ h rfl rfl rfl rfl rfl (.inr (.inl rfl))

/-- **Every action is one of the moves.** -/
theorem step_moves (action : Action) (s : State) : Moves action s (step cfg action s) := by
  cases action with
  | call caller => exact .call caller rfl rfl rfl
  | flag id =>
    unfold step
    dsimp only
    split
    · rename_i caller hcall
      exact passFlag_moves hcall
    · exact .aside rfl rfl (.inl rfl)
  | lock id =>
    unfold step
    dsimp only
    split
    · rename_i caller hcall hgate
      exact .lock id caller rfl hcall rfl hgate rfl rfl
    · exact .aside rfl rfl (.inl rfl)
  | take id =>
    unfold step
    dsimp only
    split
    · rename_i caller hcall
      exact .inside id _ _ hcall rfl rfl rfl rfl rfl (.inl rfl)
    · exact .aside rfl rfl (.inl rfl)
  | cancel id r =>
    unfold step
    dsimp only
    split
    · rename_i caller active hcall
      exact .inside id _ _ hcall rfl rfl rfl rfl rfl (.inr (.inr ⟨rfl, by simp⟩))
    · exact .aside rfl rfl (.inl rfl)
  | submit id r plan =>
    unfold step
    dsimp only
    split
    · rename_i request active hcall
      exact submitCall_moves r plan hcall
    · exact .aside rfl rfl (.inl rfl)
  | withdraw id r =>
    unfold step
    dsimp only
    split
    · rename_i request identity error hcall
      exact .inside id _ _ hcall rfl rfl rfl rfl rfl (.inr (.inl rfl))
    · exact .aside rfl rfl (.inl rfl)
  | install id =>
    unfold step
    dsimp only
    split
    · rename_i request identity lease hcall
      exact .inside id _ _ hcall rfl rfl rfl rfl rfl (.inr (.inl rfl))
    · exact .aside rfl rfl (.inl rfl)
  | leave id =>
    unfold step
    dsimp only
    split
    · rename_i request identity hcall
      exact .leave id _ _ hcall rfl rfl rfl rfl (by simp) rfl rfl
    · rename_i request error hcall
      exact .leave id _ _ hcall rfl rfl rfl rfl (by simp) rfl rfl
    · rename_i reason active hcall
      exact .leave id _ _ hcall rfl rfl rfl rfl (by simp) rfl rfl
    · rename_i active hcall
      exact .leave id _ _ hcall rfl rfl rfl rfl (by simp) rfl rfl
    · exact .aside rfl rfl (.inl rfl)
  | taskEnds generation r status => exact .aside rfl rfl (.inl rfl)
  | taskClears generation =>
    unfold step clearIfCurrent
    dsimp only
    split_ifs
    · exact .aside rfl rfl (.inr rfl)
    · exact .aside rfl rfl (.inl rfl)
  | broker call =>
    unfold step
    dsimp only
    split_ifs <;> exact .aside rfl rfl (.inl rfl)

/-! ## Shutting down -/

/-- A `start_turn` call takes the gate behind a shutdown. -/
def startsBehindShutdown (s : State) (action : Action) : Bool :=
  match action with
  | .lock id =>
    match s.calls[id]? with
    | some (.waiting (.startTurn _)) => s.calls.any (·.passedShutdown)
    | _ => false
  | _ => false

/-- One call at a time holds the gate; behind a shutdown no turn is being started; and once a
shutdown has taken `current`, there is none. -/
structure GateInv (s : State) : Prop where
  holder : ∀ id p, s.calls[id]? = some p → p.holdsGate = true → s.gate = some id
  quiet : (∃ p ∈ s.calls, p.passedShutdown = true) → ∀ p ∈ s.calls, p.startsInside = false
  gone : (∃ p ∈ s.calls, p.shutdownTook = true) → s.current = none

theorem Phase.passedShutdown_of_took {p : Phase} (h : p.shutdownTook = true) :
    p.passedShutdown = true := by
  exact (Bool.and_eq_true_iff.1 h).1

theorem Phase.startsInside_holdsGate {p : Phase} (h : p.startsInside = true) :
    p.holdsGate = true := by
  exact (Bool.and_eq_true_iff.1 h).1

variable {q : Phase}

/-- The phases of the calls when one of them moves. -/
theorem phase_set {id j : Nat} {p' : Phase} {calls : List Phase}
    (h : (calls.set id p')[j]? = some q) : (j = id ∧ q = p') ∨ (j ≠ id ∧ calls[j]? = some q) := by
  rw [List.getElem?_set] at h
  split_ifs at h with hid hlength
  · cases h
    exact .inl ⟨hid.symm, rfl⟩
  · exact .inr ⟨fun hj => hid hj.symm, h⟩

theorem mem_calls_set {id : Nat} {p' : Phase} (hcalls : s'.calls = s.calls.set id p') :
    ∀ q ∈ s'.calls, q ∈ s.calls ∨ q = p' := by
  intro q hq
  rw [hcalls] at hq
  exact List.mem_or_eq_of_mem_set hq

namespace GateInv

theorem init (broker : Option BrokerState) : GateInv { broker } :=
  ⟨by simp, by simp, by simp⟩

theorem aside (h : GateInv s) (hcalls : s'.calls = s.calls) (hgate : s'.gate = s.gate)
    (hcurrent : s'.current = s.current ∨ s'.current = none) : GateInv s' := by
  refine ⟨?_, ?_, ?_⟩
  · rw [hcalls, hgate]
    exact h.holder
  · rw [hcalls]
    exact h.quiet
  · rw [hcalls]
    intro htook
    rcases hcurrent with hsame | hnone
    · rw [hsame]
      exact h.gone htook
    · exact hnone

theorem call (h : GateInv s) {caller : Caller} (hcalls : s'.calls = s.calls ++ [.called caller])
    (hgate : s'.gate = s.gate) (hcurrent : s'.current = s.current) : GateInv s' := by
  have hmem : ∀ p ∈ s'.calls, p ∈ s.calls ∨ p = .called caller := by
    rw [hcalls]
    simp
  refine ⟨?_, ?_, ?_⟩
  · intro id p hp hholds
    rw [hcalls, List.getElem?_append] at hp
    split_ifs at hp
    · rw [hgate]
      exact h.holder id p hp hholds
    · obtain rfl : p = .called caller := by
        have := List.mem_of_getElem? hp
        simpa using this
      cases hholds
  · rintro ⟨q, hq, hpassed⟩ p hp
    have hold : q ∈ s.calls := by
      rcases hmem q hq with hold | rfl
      · exact hold
      · simp [Phase.passedShutdown, Phase.holdsGate, Phase.hasReturned] at hpassed
    rcases hmem p hp with hp | rfl
    · exact h.quiet ⟨q, hold, hpassed⟩ p hp
    · rfl
  · rintro ⟨q, hq, htook⟩
    have hpassed := Phase.passedShutdown_of_took htook
    rw [hcurrent]
    rcases hmem q hq with hold | rfl
    · exact h.gone ⟨q, hold, htook⟩
    · simp [Phase.passedShutdown, Phase.holdsGate, Phase.hasReturned] at hpassed

section Move

variable {id : Nat} {p p' : Phase} (h : GateInv s) (hp : s.calls[id]? = some p)
  (hcalls : s'.calls = s.calls.set id p')

include h hcalls

theorem outside (hgate : s'.gate = s.gate) (hcurrent : s'.current = s.current)
    (hfree : p'.holdsGate = false) (hpassed : p'.passedShutdown = false) : GateInv s' := by
  have hmem := mem_calls_set hcalls
  have hold : ∀ q ∈ s'.calls, q.passedShutdown = true → q ∈ s.calls := by
    intro q hq hshut
    rcases hmem q hq with hold | rfl
    · exact hold
    · rw [hpassed] at hshut
      cases hshut
  refine ⟨?_, ?_, ?_⟩
  · intro j q hq hholds
    rw [hcalls] at hq
    rw [hgate]
    rcases phase_set hq with ⟨-, rfl⟩ | ⟨-, hq⟩
    · rw [hfree] at hholds
      cases hholds
    · exact h.holder j q hq hholds
  · rintro ⟨q, hq, hshut⟩ q' hq'
    rcases hmem q' hq' with hq' | rfl
    · exact h.quiet ⟨q, hold q hq hshut, hshut⟩ q' hq'
    · simp [Phase.startsInside, hfree]
  · rintro ⟨q, hq, htook⟩
    rw [hcurrent]
    exact h.gone ⟨q, hold q hq (Phase.passedShutdown_of_took htook), htook⟩

omit hcalls in
/-- While the gate is free nobody is inside. -/
theorem startsInside_of_free (hgate : s.gate = none) (hq : q ∈ s.calls) :
    q.startsInside = false := by
  rw [← Bool.not_eq_true]
  intro hinside
  obtain ⟨j, hj⟩ := List.mem_iff_getElem?.1 hq
  have hheld := h.holder j q hj (Phase.startsInside_holdsGate hinside)
  rw [hgate] at hheld
  cases hheld

/-- The gate is taken, and not for a new turn behind a shutdown. -/
theorem lock {caller : Caller} (hlocked : p' = .locked caller) (hfree : s.gate = none)
    (hgate : s'.gate = some id) (hcurrent : s'.current = s.current)
    (hbefore : ∀ request, caller = .startTurn request →
      ∀ q ∈ s.calls, q.passedShutdown = false) : GateInv s' := by
  subst hlocked
  have hmem := mem_calls_set hcalls
  refine ⟨?_, ?_, ?_⟩
  · intro j q hq hholds
    rw [hcalls] at hq
    rcases phase_set hq with ⟨rfl, -⟩ | ⟨-, hq⟩
    · exact hgate
    · have hheld := h.holder j q hq hholds
      rw [hfree] at hheld
      cases hheld
  · rintro ⟨q, hq, hshut⟩ q' hq'
    rcases hmem q' hq' with hq' | rfl
    · exact h.startsInside_of_free hfree hq'
    · cases caller with
      | startTurn request =>
        rcases hmem q hq with hq | rfl
        · rw [hbefore request rfl q hq] at hshut
          cases hshut
        · cases hshut
      | bargeIn reason => rfl
      | shutdown => rfl
  · rintro ⟨q, hq, htook⟩
    rw [hcurrent]
    rcases hmem q hq with hq | rfl
    · exact h.gone ⟨q, hq, htook⟩
    · cases caller <;> cases htook

include hp

/-- A call moves on inside the gate. -/
theorem inside (hgate : s'.gate = s.gate) (hholds : p.holdsGate = true)
    (hholds' : p'.holdsGate = true) (hcaller : p'.caller = p.caller)
    (hcurrent : s'.current = none ∨ p.startsInside = true ∨
      (s'.current = s.current ∧ p ≠ .locked .shutdown)) : GateInv s' := by
  have hmem := mem_calls_set hcalls
  have hpmem := List.mem_of_getElem? hp
  have hsame : p'.passedShutdown = p.passedShutdown := by
    simp [Phase.passedShutdown, hcaller, hholds, hholds']
  have hold : (∃ q ∈ s'.calls, q.passedShutdown = true) →
      ∃ q ∈ s.calls, q.passedShutdown = true := by
    rintro ⟨q, hq, hshut⟩
    rcases hmem q hq with hq | rfl
    · exact ⟨q, hq, hshut⟩
    · exact ⟨p, hpmem, hsame ▸ hshut⟩
  refine ⟨?_, ?_, ?_⟩
  · intro j q hq hq'
    rw [hcalls] at hq
    rw [hgate]
    rcases phase_set hq with ⟨rfl, -⟩ | ⟨-, hq⟩
    · exact h.holder j p hp hholds
    · exact h.holder j q hq hq'
  · intro hshut q hq
    rcases hmem q hq with hq | rfl
    · exact h.quiet (hold hshut) q hq
    · have hbefore := h.quiet (hold hshut) p hpmem
      simpa [Phase.startsInside, hcaller, hholds, hholds'] using hbefore
  · rintro ⟨q, hq, htook⟩
    have hshut := hold ⟨q, hq, Phase.passedShutdown_of_took htook⟩
    rcases hcurrent with hnone | hstarts | ⟨hkept, hne⟩
    · exact hnone
    · rw [h.quiet hshut p hpmem] at hstarts
      cases hstarts
    · rw [hkept]
      rcases hmem q hq with hq | rfl
      · exact h.gone ⟨q, hq, htook⟩
      · refine h.gone ⟨p, hpmem, ?_⟩
        have hpassed := Phase.passedShutdown_of_took htook
        rw [hsame] at hpassed
        simp [Phase.shutdownTook, hpassed, hne]

/-- A call returns and opens the gate. -/
theorem leave (hcurrent : s'.current = s.current) (hholds : p.holdsGate = true)
    (hne : p ≠ .locked .shutdown) (hreturned : p'.hasReturned = true)
    (hcaller : p'.caller = p.caller) : GateInv s' := by
  have hmem := mem_calls_set hcalls
  have hpmem := List.mem_of_getElem? hp
  have hfree : p'.holdsGate = false := by
    cases p' <;> first | rfl | cases hreturned
  have hsame : p'.passedShutdown = p.passedShutdown := by
    simp [Phase.passedShutdown, hcaller, hholds, hreturned]
  have hmine := h.holder id p hp hholds
  refine ⟨?_, ?_, ?_⟩
  · intro j q hq hq'
    rw [hcalls] at hq
    rcases phase_set hq with ⟨-, rfl⟩ | ⟨hj, hq⟩
    · rw [hfree] at hq'
      cases hq'
    · have hother := h.holder j q hq hq'
      rw [hmine] at hother
      exact absurd (Option.some.inj hother).symm hj
  · rintro ⟨q, hq, hshut⟩ q' hq'
    have hold : ∃ q ∈ s.calls, q.passedShutdown = true := by
      rcases hmem q hq with hq | rfl
      · exact ⟨q, hq, hshut⟩
      · exact ⟨p, hpmem, hsame ▸ hshut⟩
    rcases hmem q' hq' with hq' | rfl
    · exact h.quiet hold q' hq'
    · simp [Phase.startsInside, hfree]
  · rintro ⟨q, hq, htook⟩
    rw [hcurrent]
    rcases hmem q hq with hq | rfl
    · exact h.gone ⟨q, hq, htook⟩
    · refine h.gone ⟨p, hpmem, ?_⟩
      have hpassed := Phase.passedShutdown_of_took htook
      rw [hsame] at hpassed
      simp [Phase.shutdownTook, hpassed, hne]

end Move

/-- **Every action keeps the gate**, unless it starts a turn behind a shutdown. -/
theorem step (h : GateInv s) (haction : startsBehindShutdown s action = false) :
    GateInv (Supervisor.step cfg action s) := by
  have hmoves : Moves action s (Supervisor.step cfg action s) := step_moves action s
  cases hmoves with
  | aside hcalls hgate hcurrent => exact h.aside hcalls hgate hcurrent
  | call caller hcalls hgate hcurrent => exact h.call hcalls hgate hcurrent
  | outside id p p' _ hcalls hgate hcurrent _ hfree hpassed =>
    exact h.outside hcalls hgate hcurrent hfree hpassed
  | lock id caller hlock hp hcalls hfree hgate hcurrent =>
    refine h.lock hcalls rfl hfree hgate hcurrent ?_
    rintro request rfl q hq
    simp only [startsBehindShutdown, hlock, hp] at haction
    simpa using List.any_eq_false.1 haction q hq
  | inside id p p' hp hcalls hgate hholds hholds' hcaller hcurrent =>
    exact h.inside hp hcalls hgate hholds hholds' hcaller hcurrent
  | leave id p p' hp hcalls _ hcurrent hholds hne hreturned hcaller =>
    exact h.leave hp hcalls hcurrent hholds hne hreturned hcaller

end GateInv

/-- A call that has returned has returned for good. -/
theorem Moves.keeps_returned (h : Moves action s s') (hq : q ∈ s.calls)
    (hreturned : q.hasReturned = true) : q ∈ s'.calls := by
  have hset : ∀ id p p', s.calls[id]? = some p → p.hasReturned = false →
      q ∈ s.calls.set id p' := by
    intro id p p' hp hnot
    obtain ⟨j, hj⟩ := List.mem_iff_getElem?.1 hq
    have hne : id ≠ j := by
      rintro rfl
      rw [hp] at hj
      cases hj
      rw [hreturned] at hnot
      cases hnot
    refine List.mem_iff_getElem?.2 ⟨j, ?_⟩
    rw [List.getElem?_set_ne hne]
    exact hj
  have hinside : ∀ p : Phase, p.holdsGate = true → p.hasReturned = false := by
    intro p hholds
    cases p <;> first | rfl | cases hholds
  cases h with
  | aside hcalls _ _ =>
    rw [hcalls]
    exact hq
  | call caller hcalls _ _ =>
    rw [hcalls]
    exact List.mem_append_left _ hq
  | outside id p p' hp hcalls _ _ hnot _ _ =>
    rw [hcalls]
    exact hset id p p' hp hnot
  | lock id caller _ hp hcalls _ _ _ =>
    rw [hcalls]
    exact hset id _ _ hp rfl
  | inside id p p' hp hcalls _ hholds _ _ _ =>
    rw [hcalls]
    exact hset id p p' hp (hinside p hholds)
  | leave id p p' hp hcalls _ _ hholds _ _ _ =>
    rw [hcalls]
    exact hset id p p' hp (hinside p hholds)

/-- A shutdown call has returned. -/
def shutdownReturned (s : State) : Prop :=
  ∃ p ∈ s.calls, p.caller = .shutdown ∧ p.hasReturned = true

theorem shutdownReturned_run (h : shutdownReturned s) (actions : List Action) :
    shutdownReturned (runFrom (step cfg) actions s) := by
  refine inv_runFrom shutdownReturned ?_ h actions
  rintro s action ⟨p, hp, hcaller, hreturned⟩
  exact ⟨p, (step_moves action s).keeps_returned hp hreturned, hcaller, hreturned⟩

/-- **No turn after shutdown.** In every interleaving in which no `start_turn` call takes the gate
behind a shutdown, once a shutdown has returned no turn is current, then or at any later time. -/
theorem no_turn_after_shutdown {broker : Option BrokerState} {actions later : List Action}
    (hbehind : Along (step cfg) (fun s action => startsBehindShutdown s action = false)
      (actions ++ later) { broker })
    (hreturned : shutdownReturned (runFrom (step cfg) actions { broker })) :
    (runFrom (step cfg) (actions ++ later) { broker }).current = none := by
  have hinv : GateInv (runFrom (step cfg) (actions ++ later) { broker }) :=
    Along.inv GateInv (fun s action hinv haction => hinv.step haction) (.init broker) hbehind
  have hlater : shutdownReturned (runFrom (step cfg) (actions ++ later) { broker }) := by
    have hsplit : runFrom (step cfg) (actions ++ later) { broker } =
        runFrom (step cfg) later (runFrom (step cfg) actions { broker }) := List.foldl_append
    rw [hsplit]
    exact shutdownReturned_run hreturned later
  obtain ⟨p, hp, hcaller, hdone⟩ := hlater
  refine hinv.gone ⟨p, hp, ?_⟩
  have hne : p ≠ .locked .shutdown := by
    rintro rfl
    cases hdone
  simp [Phase.shutdownTook, Phase.passedShutdown, hcaller, hdone, hne]

namespace Sample

/-- `start_turn` has read the flag; a shutdown runs from its call to its return. -/
def overtakenByShutdown : List Action :=
  [.call (.startTurn localRequest), .flag 0, .call .shutdown, .flag 1, .lock 1, .take 1,
    .cancel 1 ampleReading, .leave 1]

/-- Then `start_turn` goes on. -/
def goesOn : List Action :=
  [.lock 0, .take 0, .cancel 0 ampleReading, .submit 0 ampleReading (.ok splitPlan), .install 0,
    .leave 0]

/-- A turn is started from its call to its return. -/
def startsTurn : List Action := [.call (.startTurn localRequest), .flag 0] ++ goesOn

/-- A shutdown follows. -/
def thenShutdown : List Action :=
  [.call .shutdown, .flag 1, .lock 1, .take 1, .cancel 1 ampleReading, .leave 1]

end Sample

instance : DecidablePred shutdownReturned := fun _ => inferInstanceAs (Decidable (∃ _ ∈ _, _))

/-- A shutdown has returned, and a turn becomes the current one. -/
theorem turn_starts_after_shutdown :
    shutdownReturned (runFrom (step ampleConfig) Sample.overtakenByShutdown {}) ∧
      (runFrom (step ampleConfig) (Sample.overtakenByShutdown ++ Sample.goesOn) {}).current =
        some ⟨Sample.firstTurn, none⟩ := by
  decide +kernel

theorem no_turn_after_shutdown_of_one_turn :
    (runFrom (step ampleConfig) Sample.startsTurn { broker := some {} }).current =
        some ⟨Sample.firstTurn, some "turn/session/turn/1"⟩ ∧
      (runFrom (step ampleConfig) (Sample.startsTurn ++ Sample.thenShutdown ++
        [.call (.bargeIn ""), .flag 2]) { broker := some {} }).current = none :=
  ⟨by decide +kernel, @no_turn_after_shutdown ampleConfig (some {}) _ _ (by decide +kernel)
    (by decide +kernel)⟩

end NpcRuntime.Supervisor
