import NpcRuntime.Broker.Slots
import NpcRuntime.Supervisor.Gate

/-!
# Supervisor: handing over the foreground slot

`start_turn` cancels the turn that is running and submits its own job at once. A cancelled turn
keeps its lease until its task ends, and the lease keeps the broker's foreground slot, so the new
turn is admitted only if the old task has been faster (`barge_in_hands_over_iff`).

The leases of the supervisor are tracked through the machine of the start gate. There is at most one
of them, and it is an active job of the broker that holds the foreground slot (`LeaseInv`).
-/

namespace NpcRuntime.Supervisor

open Broker

variable {cfg : ResourceBrokerConfig} {action : Action} {s s' : State}

/-! ## Where leases go -/

theorem filterMap_cons_eq {α β : Type*} (f : α → Option β) (a : α) (l : List α) :
    (a :: l).filterMap f = (f a).toList ++ l.filterMap f := by
  cases h : f a <;> simp [h]

/-- An entry of a list is replaced: its image is exchanged. -/
theorem filterMap_set_perm {α β : Type*} (f : α → Option β) {a b : α} {l : List α} {i : Nat}
    (h : l[i]? = some b) :
    ((l.set i a).filterMap f ++ (f b).toList).Perm (l.filterMap f ++ (f a).toList) := by
  induction l generalizing i with
  | nil => cases h
  | cons x l ih =>
    cases i with
    | zero =>
      cases h
      rw [List.set_cons_zero, filterMap_cons_eq, filterMap_cons_eq, List.append_assoc,
        List.append_assoc]
      refine List.perm_append_comm.trans ?_
      rw [List.append_assoc]
      exact List.perm_append_comm_assoc _ _ _
    | succ i =>
      rw [List.set_cons_succ, filterMap_cons_eq, filterMap_cons_eq, List.append_assoc,
        List.append_assoc]
      exact (ih h).append_left _

section Move

variable {id : Nat} {p p' : Phase} (h : s.calls[id]? = some p)
  (hcalls : s'.calls = s.calls.set id p')

include h hcalls

/-- A call moves on: its lease is exchanged. -/
theorem held_move (htasks : s'.tasks = s.tasks) :
    (s'.held ++ p.lease.toList).Perm (s.held ++ p'.lease.toList) := by
  simp only [State.held, hcalls, htasks, List.append_assoc]
  exact (filterMap_set_perm Phase.lease h).append_left _

/-- A call without a lease moves on without one. -/
theorem held_move_none (htasks : s'.tasks = s.tasks) (hp : p.lease = none) (hp' : p'.lease = none) :
    s'.held.Perm s.held := by
  have hperm := held_move h hcalls htasks
  rw [hp, hp'] at hperm
  simpa using hperm

/-- A call obtains a lease. -/
theorem held_granted {lease : ResourceLease} (htasks : s'.tasks = s.tasks) (hp : p.lease = none)
    (hp' : p'.lease = some lease) : s'.held.Perm (lease :: s.held) := by
  have hperm := held_move h hcalls htasks
  rw [hp, hp', Option.toList_none, List.append_nil] at hperm
  exact hperm.trans List.perm_append_comm

/-- A call hands its lease to a task. -/
theorem held_install {task : TurnTask} (htasks : s'.tasks = s.tasks ++ [task])
    (hp : p.lease = task.lease) (hp' : p'.lease = none) : s'.held.Perm s.held := by
  have hperm := @filterMap_set_perm _ _ Phase.lease p' p s.calls id h
  rw [hp, hp', Option.toList_none, List.append_nil] at hperm
  simp only [State.held, hcalls, htasks, List.filterMap_append, List.append_assoc]
  refine List.Perm.append_left _ (List.Perm.trans ?_ hperm)
  rw [filterMap_cons_eq, List.filterMap_nil, List.append_nil]
  exact List.perm_append_comm

end Move

/-- What an action does to the leases of the supervisor and to the broker. -/
inductive Flow (cfg : ResourceBrokerConfig) (s : State) : State → Prop
  | quiet {s' : State} : s'.held.Perm s.held → s'.broker = s.broker → Flow cfg s s'
  | call {s' : State} (call : Call) : s.finishesHeld call = false → s'.held.Perm s.held →
      s'.broker = s.broker.map (Broker.step cfg call) → Flow cfg s s'
  | admission {s' : State} {b : BrokerState} {r : Reading} {job : ResourceJob}
      {submission : Submission} {lease : ResourceLease} : s.broker = some b →
      job.kind.holdsForegroundTurnSlot = true → (submit cfg r job b).2 = .ok submission →
      submission.lease = some lease → s'.held.Perm (lease :: s.held) →
      s'.broker = some (submit cfg r job b).1 → Flow cfg s s'
  | ended (generation : Nat) (r : Reading) (status : CompletionStatus) :
      Flow cfg s (endTask cfg s generation r status)

theorem finishesHeld_eq_false {call : Call}
    (h : ∀ jobId actual measured status, call.op ≠ .finishLease jobId actual measured status) :
    s.finishesHeld call = false := by
  unfold State.finishesHeld
  split
  · rename_i jobId actual measured status hop
    exact absurd hop (h jobId actual measured status)
  · rfl

/-- `submit` as a call of the broker. -/
theorem step_submit_call (r : Reading) (job : ResourceJob) (b : BrokerState) :
    Broker.step cfg ⟨r, .submit job⟩ b = (submit cfg r job b).1 := by
  simp only [Broker.step, respond, Prod.map_fst, id_eq]

theorem submitCall_flow {id : Nat} {request : TurnRequest} {active : Option ActiveTurn}
    (r : Reading) (plan : Except BrokerError TurnResourcePlan)
    (h : s.calls[id]? = some (.cleared (.startTurn request) active)) :
    Flow cfg s (submitCall cfg s id request r plan) := by
  unfold submitCall
  dsimp only
  split
  · exact .quiet (held_move_none h rfl rfl rfl rfl) rfl
  rename_i b hb
  set identity : TurnIdentity := ⟨request.sessionId, request.turnId, s.generations + 1⟩
  split <;> rename_i b' result hsubmit
  · cases plan with
    | error error =>
      cases hsubmit
      exact .quiet (held_move_none h rfl rfl rfl rfl) hb.symm
    | ok plan =>
      rw [submitTurn_plan, Prod.mk.injEq] at hsubmit
      refine .call ⟨r, .submit (turnJob request identity plan)⟩ (finishesHeld_eq_false (by simp))
        (held_move_none h rfl rfl rfl rfl) ?_
      rw [hb, Option.map_some, step_submit_call]
      exact congrArg some hsubmit.1.symm
  · cases plan with
    | error error => cases hsubmit
    | ok plan =>
      have hreturned := submitTurn_ok (congrArg Prod.snd hsubmit)
      rw [submitTurn_plan, Prod.mk.injEq] at hsubmit
      split
      · rename_i lease hlease
        exact .admission hb rfl hreturned hlease (held_granted h rfl rfl rfl rfl)
          (congrArg some hsubmit.1.symm)
      · refine .call ⟨r, .submit (turnJob request identity plan)⟩ (finishesHeld_eq_false (by simp))
          (held_move_none h rfl rfl rfl rfl) ?_
        rw [hb, Option.map_some, step_submit_call]
        exact congrArg some hsubmit.1.symm

/-- **Every action is one of these.** -/
theorem step_flow (action : Action) (s : State) : Flow cfg s (step cfg action s) := by
  cases action with
  | call caller => exact .quiet (by simp [step, State.held, Phase.lease]) rfl
  | flag id =>
    unfold step passFlag
    dsimp only
    split
    · rename_i caller hcall
      split
      · split
        · exact .quiet (held_move_none hcall rfl rfl rfl rfl) rfl
        · split_ifs <;> exact .quiet (held_move_none hcall rfl rfl rfl rfl) rfl
      · exact .quiet (held_move_none hcall rfl rfl rfl rfl) rfl
      · exact .quiet (held_move_none hcall rfl rfl rfl rfl) rfl
    · exact .quiet (.refl _) rfl
  | lock id =>
    unfold step
    dsimp only
    split
    · rename_i caller hcall _
      exact .quiet (held_move_none hcall rfl rfl rfl rfl) rfl
    · exact .quiet (.refl _) rfl
  | take id =>
    unfold step
    dsimp only
    split
    · rename_i caller hcall
      exact .quiet (held_move_none hcall rfl rfl rfl rfl) rfl
    · exact .quiet (.refl _) rfl
  | cancel id r =>
    unfold step cancelTaken
    dsimp only
    split
    · rename_i caller active hcall
      split
      · rename_i jobId _
        exact .call ⟨r, .cancel jobId caller.reason⟩ (finishesHeld_eq_false (by simp))
          (held_move_none hcall rfl rfl rfl rfl) rfl
      · exact .quiet (held_move_none hcall rfl rfl rfl rfl) rfl
    · exact .quiet (.refl _) rfl
  | submit id r plan =>
    unfold step
    dsimp only
    split
    · rename_i request active hcall
      exact submitCall_flow r plan hcall
    · exact .quiet (.refl _) rfl
  | withdraw id r =>
    unfold step
    dsimp only
    split
    · rename_i request identity error hcall
      exact .call ⟨r, .cancel (turnJobId identity) "turn start requires immediate admission"⟩
        (finishesHeld_eq_false (by simp)) (held_move_none hcall rfl rfl rfl rfl) rfl
    · exact .quiet (.refl _) rfl
  | install id =>
    unfold step
    dsimp only
    split
    · rename_i request identity lease hcall
      exact .quiet (held_install hcall rfl rfl rfl rfl) rfl
    · exact .quiet (.refl _) rfl
  | leave id =>
    unfold step
    dsimp only
    split <;> first
      | exact .quiet (.refl _) rfl
      | rename_i hcall; exact .quiet (held_move_none hcall rfl rfl rfl rfl) rfl
  | taskEnds generation r status => exact .ended generation r status
  | taskClears generation =>
    unfold step clearIfCurrent
    dsimp only
    split_ifs <;> exact .quiet (.refl _) rfl
  | broker call =>
    unfold step
    dsimp only
    split_ifs with hheld
    · exact .quiet (.refl _) rfl
    · exact .call call (by simpa using hheld) (.refl _) rfl

/-! ## The lease of the running turn -/

/-- The job is active and holds the foreground slot. -/
def HoldsSlot (b : BrokerState) (jobId : String) : Prop :=
  ∃ record, b.active.lookup jobId = some record ∧ record.job.kind.holdsForegroundTurnSlot = true

/-- The books of the broker are in order. -/
structure InOrder (b : BrokerState) : Prop where
  books : BookInv b
  slots : SlotInv b

variable {b : BrokerState}

theorem InOrder.step (h : InOrder b) (call : Call) : InOrder (Broker.step cfg call b) :=
  ⟨bookInv_step b call h.books, h.slots.effect h.books (effect_of_step h.books call)⟩

variable {job : ResourceJob}

/-- A turn is not admitted while another job holds the slot. -/
theorem InOrder.no_lease (h : InOrder b) {jobId : String} (hslot : HoldsSlot b jobId) {r : Reading}
    {submission : Submission} (hkind : job.kind.holdsForegroundTurnSlot = true)
    (hsubmit : (submit cfg r job b).2 = .ok submission) : submission.lease = none := by
  cases hlease : submission.lease with
  | none => rfl
  | some lease =>
    obtain ⟨-, snapshot, b₁, target, outcome, hchain, hselect, -, -⟩ := submit_lease hsubmit hlease
    obtain ⟨record, hrecord, hholds⟩ := hslot
    -- The job is still active where the target is selected.
    obtain ⟨record', hrecord', hsame⟩ := hchain.lookup hrecord
    have hslots : SlotInv b₁ := inv_chain SlotInv (fun _ _ hr hi => hi.sched hr) hchain h.slots
    have htaken := hslots.foreground jobId record' hrecord' (by rw [hsame.job]; exact hholds)
    have hfree := (SlotInv.free_of_residencyAvailable
      (selectTargetLocked_spec hselect).2.2.2.2).1 hkind
    rw [htaken] at hfree
    cases hfree

/-- The supervisor has at most one lease, and its job holds the foreground slot. -/
structure LeaseInv (s : State) : Prop where
  alone : s.held.length ≤ 1
  slot : ∃ b, s.broker = some b ∧ InOrder b ∧ ∀ lease ∈ s.held, HoldsSlot b lease.jobId

/-- The leases of the tasks that run the turn of a generation. -/
def State.leasesOf (s : State) (generation : Nat) : List ResourceLease :=
  (s.tasks.filter fun task => task.identity.cancellationGeneration == generation).filterMap
    (·.lease)

/-- A task that ends gives its lease away. -/
theorem held_endTask (generation : Nat) (r : Reading) (status : CompletionStatus) :
    s.held.Perm (s.leasesOf generation ++ (endTask cfg s generation r status).held) := by
  have hkept : (endTask cfg s generation r status).tasks.filterMap (·.lease) =
      (s.tasks.filter fun task => !(task.identity.cancellationGeneration == generation)).filterMap
        (·.lease) := by
    simp only [endTask, List.filterMap_map, List.filterMap_filter]
    congr 1
    funext task
    by_cases hruns : task.identity.cancellationGeneration = generation <;> simp [hruns]
  have hsplit := (List.filter_append_perm
    (fun task : TurnTask => task.identity.cancellationGeneration == generation) s.tasks).filterMap
      (·.lease)
  rw [List.filterMap_append] at hsplit
  have hcalls : (endTask cfg s generation r status).calls = s.calls := rfl
  rw [State.held, State.held, hkept, hcalls, ← List.append_assoc]
  exact (hsplit.append_right _).symm

theorem InOrder.finishLeases (h : InOrder b) (r : Reading) (status : CompletionStatus)
    (leases : List ResourceLease) :
    InOrder (leases.foldl (fun b lease => finishLease cfg r lease.jobId {} false status b) b) :=
  inv_runFrom InOrder
    (fun _ lease h => h.step ⟨r, .finishLease (lease : ResourceLease).jobId {} false status⟩)
    h leases

namespace LeaseInv

theorem init : LeaseInv { broker := some {} } :=
  ⟨by simp [State.held], {}, rfl, ⟨.init, .init⟩, by simp [State.held]⟩

theorem quiet (h : LeaseInv s) (hheld : s'.held.Perm s.held) (hbroker : s'.broker = s.broker) :
    LeaseInv s' := by
  obtain ⟨b, hb, horder, hslot⟩ := h.slot
  refine ⟨hheld.length_eq ▸ h.alone, b, hbroker.trans hb, horder, ?_⟩
  intro lease hlease
  exact hslot lease (hheld.mem_iff.1 hlease)

theorem call (h : LeaseInv s) {call : Call} (hcall : s.finishesHeld call = false)
    (hheld : s'.held.Perm s.held) (hbroker : s'.broker = s.broker.map (Broker.step cfg call)) :
    LeaseInv s' := by
  obtain ⟨b, hb, horder, hslot⟩ := h.slot
  refine ⟨hheld.length_eq ▸ h.alone, Broker.step cfg call b, by rw [hbroker, hb]; rfl,
    horder.step call, ?_⟩
  intro lease hlease
  have hmem := hheld.mem_iff.1 hlease
  obtain ⟨record, hrecord, hholds⟩ := hslot lease hmem
  have hop : ∀ actual measured status,
      call.op ≠ .finishLease lease.jobId actual measured status := by
    intro actual measured status hop
    simp only [State.finishesHeld, hop, List.any_eq_false, beq_iff_eq] at hcall
    exact hcall lease hmem rfl
  obtain ⟨record', hrecord', hjob⟩ :=
    (@effect_of_step cfg b horder.books call).keeps_active hrecord hop
  exact ⟨record', hrecord', by rw [hjob]; exact hholds⟩

theorem admission (h : LeaseInv s) {r : Reading} {submission : Submission} {lease : ResourceLease}
    (hb : s.broker = some b) (hkind : job.kind.holdsForegroundTurnSlot = true)
    (hsubmit : (submit cfg r job b).2 = .ok submission) (hlease : submission.lease = some lease)
    (hheld : s'.held.Perm (lease :: s.held)) (hbroker : s'.broker = some (submit cfg r job b).1) :
    LeaseInv s' := by
  obtain ⟨b', hb', horder, hslot⟩ := h.slot
  obtain rfl : b = b' := Option.some.inj (hb.symm.trans hb')
  -- Nobody held a lease, or the slot would not have been free.
  have hnone : s.held = [] := by
    rw [List.eq_nil_iff_forall_not_mem]
    intro other hother
    have hrefused := horder.no_lease (hslot other hother) hkind hsubmit
    rw [hlease] at hrefused
    cases hrefused
  rw [hnone] at hheld
  have horder' : InOrder (submit cfg r job b).1 := by
    rw [← step_submit_call]
    exact horder.step ⟨r, .submit job⟩
  refine ⟨by simp [hheld.length_eq], _, hbroker, horder', ?_⟩
  intro granted hgranted
  obtain rfl : granted = lease := by simpa using hheld.mem_iff.1 hgranted
  obtain ⟨-, snapshot, b₁, target, outcome, -, -, hstate, rfl⟩ := submit_lease hsubmit hlease
  rw [hstate]
  exact ⟨_, admitLocked_lookup_self b₁ snapshot job target outcome, hkind⟩

theorem ended (h : LeaseInv s) (generation : Nat) (r : Reading) (status : CompletionStatus) :
    LeaseInv (endTask cfg s generation r status) := by
  obtain ⟨b, hb, horder, hslot⟩ := h.slot
  have hheld := @held_endTask cfg s generation r status
  have hlength := hheld.length_eq
  rw [List.length_append] at hlength
  have halone := h.alone
  have hbroker : (endTask cfg s generation r status).broker =
      some ((s.leasesOf generation).foldl
        (fun b lease => finishLease cfg r lease.jobId {} false status b) b) := by
    simp only [endTask, hb, Option.map_some]
    rfl
  refine ⟨by omega, _, hbroker, horder.finishLeases r status _, ?_⟩
  intro lease hlease
  -- The lease that is left is the only one, so none has been given away.
  have hpos := List.length_pos_of_mem hlease
  have hnone : s.leasesOf generation = [] := List.length_eq_zero_iff.1 (by omega)
  rw [hnone] at hheld ⊢
  exact hslot lease (hheld.mem_iff.2 hlease)

/-- **Every action keeps the lease in its slot.** -/
theorem step (h : LeaseInv s) (action : Action) : LeaseInv (Supervisor.step cfg action s) := by
  have hflow : Flow cfg s (Supervisor.step cfg action s) := step_flow action s
  generalize Supervisor.step cfg action s = s' at hflow ⊢
  cases hflow with
  | quiet hheld hbroker => exact h.quiet hheld hbroker
  | call call hcall hheld hbroker => exact h.call hcall hheld hbroker
  | admission hb hkind hsubmit hlease hheld hbroker =>
    exact h.admission hb hkind hsubmit hlease hheld hbroker
  | ended generation r status => exact h.ended generation r status

theorem run (actions : List Action) :
    LeaseInv (runFrom (Supervisor.step cfg) actions { broker := some {} }) :=
  inv_runFrom LeaseInv (fun _ action h => h.step action) .init actions

end LeaseInv

/-! ## Starting a turn -/

/-- The turn of a `start_turn` call is admitted, or current, or reported as started. -/
def Phase.hasStarted : Phase → Bool
  | .admitted _ _ _ | .installed _ _ | .returned _ (.started _) => true
  | _ => false

/-- The call has started its turn. -/
def State.hasStarted (s : State) (id : Nat) : Bool := s.calls[id]?.any (·.hasStarted)

theorem hasStarted_move {id j : Nat} {p p' : Phase} (h : s.hasStarted id = true)
    (hp : s.calls[j]? = some p) (hcalls : s'.calls = s.calls.set j p')
    (hnext : p.hasStarted = true → p'.hasStarted = true) : s'.hasStarted id = true := by
  unfold State.hasStarted at h ⊢
  rw [hcalls, List.getElem?_set]
  split_ifs with hid hlength
  · subst hid
    rw [hp] at h
    exact hnext h
  · exact absurd (List.getElem?_eq_some_iff.1 hp).1 hlength
  · exact h

/-- A started turn stays started. -/
theorem hasStarted_step {id : Nat} (h : s.hasStarted id = true) (action : Action) :
    (step cfg action s).hasStarted id = true := by
  cases action with
  | call caller =>
    obtain ⟨p, hp, hstarted⟩ := (Option.any_eq_true _ _).1 h
    refine (Option.any_eq_true _ _).2 ⟨p, ?_, hstarted⟩
    exact List.getElem?_append_left (List.getElem?_eq_some_iff.1 hp).1 ▸ hp
  | flag j =>
    unfold step passFlag
    dsimp only
    split
    · rename_i caller hcall
      split
      · split
        · exact hasStarted_move h hcall rfl (by simp [Phase.hasStarted])
        · split_ifs <;> exact hasStarted_move h hcall rfl (by simp [Phase.hasStarted])
      · exact hasStarted_move h hcall rfl (by simp [Phase.hasStarted])
      · exact hasStarted_move h hcall rfl (by simp [Phase.hasStarted])
    · exact h
  | submit j r plan =>
    unfold step submitCall
    dsimp only
    split
    · rename_i request active hcall
      split
      · exact hasStarted_move h hcall rfl (by simp [Phase.hasStarted])
      · split <;> exact hasStarted_move h hcall rfl (by simp [Phase.hasStarted])
    · exact h
  | lock j | take j | cancel j r | withdraw j r | install j | leave j =>
    unfold step
    dsimp only
    split <;> first
      | exact h
      | rename_i hcall; exact hasStarted_move h hcall rfl (by simp [Phase.hasStarted])
      | rename_i hcall _; exact hasStarted_move h hcall rfl (by simp [Phase.hasStarted])
  | taskEnds generation r status => exact h
  | taskClears generation =>
    unfold step clearIfCurrent
    dsimp only
    split_ifs <;> exact h
  | broker call =>
    unfold step
    dsimp only
    split_ifs <;> exact h

theorem hasStarted_run {id : Nat} (h : s.hasStarted id = true) (actions : List Action) :
    (runFrom (step cfg) actions s).hasStarted id = true :=
  inv_runFrom (fun s : State => s.hasStarted id = true)
    (fun _ action h => hasStarted_step h action) h actions

/-- The identity of the turn that is started next. -/
def State.nextIdentity (s : State) (request : TurnRequest) : TurnIdentity :=
  ⟨request.sessionId, request.turnId, s.generations + 1⟩

section Submit

variable {b : BrokerState} {id : Nat} {request : TurnRequest} {active : Option ActiveTurn}
  {r : Reading} {plan : Except BrokerError TurnResourcePlan} (hb : s.broker = some b)
  (hcall : s.calls[id]? = some (.cleared (.startTurn request) active))

include hb hcall

/-- The phase of a call whose job the broker has taken in. -/
theorem submitCall_phase {p : TurnResourcePlan} {submission : Submission}
    (hsubmit : (submit cfg r (turnJob request (s.nextIdentity request) p) b).2 = .ok submission) :
    (submitCall cfg s id request r (.ok p)).calls[id]? = some
      (match submission.lease with
        | some lease => .admitted request (s.nextIdentity request) (some lease)
        | none => .withdrawing request (s.nextIdentity request) (notAdmitted submission)) := by
  have hlength := (List.getElem?_eq_some_iff.1 hcall).1
  have hturn : submitTurn cfg r (.ok p) request (s.nextIdentity request) b =
      ((submit cfg r (turnJob request (s.nextIdentity request) p) b).1, .ok submission) := by
    rw [submitTurn_plan, hsubmit]
    rfl
  unfold State.nextIdentity at hturn ⊢
  simp only [submitCall, hb, hturn, State.setPhase]
  exact List.getElem?_set_self hlength

/-- A call that starts its turn has been given a lease. -/
theorem submitCall_hasStarted
    (h : (submitCall cfg s id request r plan).hasStarted id = true) :
    ∃ p submission lease, plan = .ok p ∧
      (submit cfg r (turnJob request (s.nextIdentity request) p) b).2 = .ok submission ∧
      submission.lease = some lease := by
  have hlength := (List.getElem?_eq_some_iff.1 hcall).1
  have hrefusing : ∀ {s' : State} {error : StartTurnError},
      s'.calls = s.calls.set id (.refusing request error) → s'.hasStarted id = false := by
    intro s' error hcalls
    rw [State.hasStarted, hcalls, List.getElem?_set_self hlength]
    rfl
  cases plan with
  | error error =>
    simp only [submitCall, hb, submitTurn] at h
    rw [hrefusing rfl] at h
    cases h
  | ok p =>
    cases hsubmit : (submit cfg r (turnJob request (s.nextIdentity request) p) b).2 with
    | error error =>
      have hturn : submitTurn cfg r (.ok p) request (s.nextIdentity request) b =
          ((submit cfg r (turnJob request (s.nextIdentity request) p) b).1,
            .error (.resourceBroker error)) := by
        rw [submitTurn_plan, hsubmit]
        rfl
      unfold State.nextIdentity at hturn
      simp only [submitCall, hb, hturn] at h
      rw [hrefusing rfl] at h
      cases h
    | ok submission =>
      have hphase := submitCall_phase hb hcall hsubmit
      rw [State.hasStarted, hphase] at h
      cases hlease : submission.lease with
      | none =>
        rw [hlease] at h
        cases h
      | some lease => exact ⟨p, submission, lease, rfl, hsubmit, hlease⟩

end Submit

/-- Whether the broker takes a job in does not depend on its state. -/
theorem submit_ok_of_ok {r : Reading} {b b' : BrokerState} {submission : Submission}
    (h : (submit cfg r job b).2 = .ok submission) :
    ∃ submission', (submit cfg r job b').2 = .ok submission' := by
  simp only [submit] at h ⊢
  split at h
  · cases h
  · cases h
  · exact ⟨_, rfl⟩

/-- The task of the turn has not returned its lease. -/
def State.holdsLease (s : State) (active : ActiveTurn) : Bool :=
  !(s.leasesOf active.identity.cancellationGeneration).isEmpty

section Handover

variable {id : Nat} {request : TurnRequest} {active : ActiveTurn} {r r' : Reading}
  {plan : Except BrokerError TurnResourcePlan} {status : CompletionStatus}
  (hcall : s.calls[id]? = some (.cleared (.startTurn request) (some active)))
  (hadmits : (runFrom (step cfg) [.taskEnds active.identity.cancellationGeneration r' status,
    .submit id r plan] s).hasStarted id = true)

include hcall

theorem step_submit : step cfg (.submit id r plan) s = submitCall cfg s id request r plan := by
  simp only [step, hcall]

variable {b : BrokerState} (hb : s.broker = some b)

include hadmits hb

/-- With the lease returned the broker would admit the new turn. -/
theorem admitted_behind : ∃ p submission lease, plan = .ok p ∧
    (submit cfg r (turnJob request (s.nextIdentity request) p)
      ((s.leasesOf active.identity.cancellationGeneration).foldl
        (fun b lease => finishLease cfg r' lease.jobId {} false status b) b)).2 = .ok submission ∧
    submission.lease = some lease := by
  have hbroker : (endTask cfg s active.identity.cancellationGeneration r' status).broker =
      some ((s.leasesOf active.identity.cancellationGeneration).foldl
        (fun b lease => finishLease cfg r' lease.jobId {} false status b) b) := by
    simp only [endTask, hb, Option.map_some]
    rfl
  have hended : (endTask cfg s active.identity.cancellationGeneration r' status).calls[id]? =
      some (.cleared (.startTurn request) (some active)) := hcall
  have hstarted : (submitCall cfg (endTask cfg s active.identity.cancellationGeneration r' status)
      id request r plan).hasStarted id = true := by
    rw [← step_submit hended]
    exact hadmits
  have hlease := submitCall_hasStarted hbroker hended hstarted
  exact hlease

/-- Once the old turn has returned its lease, the new one starts. -/
theorem starts_of_returned (h : s.holdsLease active = false) :
    (step cfg (.submit id r plan) s).hasStarted id = true := by
  obtain ⟨p, submission, lease, rfl, hsubmit, hlease⟩ := admitted_behind hcall hadmits hb
  have hnone : s.leasesOf active.identity.cancellationGeneration = [] := by
    simpa [State.holdsLease] using h
  rw [hnone] at hsubmit
  rw [step_submit hcall, State.hasStarted, submitCall_phase hb hcall hsubmit, hlease]
  rfl

/-- Before that it is refused. -/
theorem refused_of_held (hinv : LeaseInv s) (h : s.holdsLease active = true) :
    ∃ outcome reason, (step cfg (.submit id r plan) s).calls[id]? =
      some (.withdrawing request (s.nextIdentity request)
        (.resourceNotAdmitted outcome reason)) := by
  obtain ⟨p, _, _, rfl, hbehind, -⟩ := admitted_behind hcall hadmits hb
  obtain ⟨b', hb', horder, hslot⟩ := hinv.slot
  obtain rfl : b = b' := Option.some.inj (hb.symm.trans hb')
  obtain ⟨submission, hsubmit⟩ := @submit_ok_of_ok _ _ _ _ b _ hbehind
  -- The lease of the old turn is in the slot.
  have hne : s.leasesOf active.identity.cancellationGeneration ≠ [] := by
    simpa [State.holdsLease] using h
  obtain ⟨lease, hmem⟩ := List.exists_mem_of_ne_nil _ hne
  have hheld : lease ∈ s.held :=
    (@held_endTask cfg s _ r' status).mem_iff.2 (List.mem_append_left _ hmem)
  have hnone := horder.no_lease (hslot lease hheld) rfl hsubmit
  refine ⟨submission.diagnostic.outcome, submission.diagnostic.reason, ?_⟩
  rw [step_submit hcall, submitCall_phase hb hcall hsubmit, hnone]
  rfl

end Handover

/-- A call that withdraws its job returns the error. -/
theorem withdrawing_returns {id : Nat} {request : TurnRequest} {identity : TurnIdentity}
    {error : StartTurnError} (h : s.calls[id]? = some (.withdrawing request identity error))
    (r : Reading) : (runFrom (step cfg) [.withdraw id r, .leave id] s).calls[id]? =
      some (.returned (.startTurn request) (.refused error)) := by
  have hlength := (List.getElem?_eq_some_iff.1 h).1
  have hset : ∀ p : Phase, (s.calls.set id p)[id]? = some p :=
    fun _ => List.getElem?_set_self hlength
  simp only [runFrom, List.foldl_cons, List.foldl_nil, step, h, State.setPhase, hset, List.set_set]

/-- **Handing over the slot.** In every interleaving, let a `start_turn` call have cancelled the
turn that was current, and let its job be one that the broker would admit if that turn's lease were
returned. The call starts its turn exactly when the lease has been returned by then; otherwise it
ends with `ResourceNotAdmitted`. -/
theorem barge_in_hands_over_iff {actions : List Action} {id : Nat} {request : TurnRequest}
    {active : ActiveTurn} {r r' : Reading} {plan : Except BrokerError TurnResourcePlan}
    {status : CompletionStatus}
    (hcall : (runFrom (step cfg) actions { broker := some {} }).calls[id]? =
      some (.cleared (.startTurn request) (some active)))
    (hadmits : (runFrom (step cfg) (actions ++
      [.taskEnds active.identity.cancellationGeneration r' status, .submit id r plan])
        { broker := some {} }).hasStarted id = true) :
    ((∀ later, (runFrom (step cfg) (actions ++ .submit id r plan :: later)
        { broker := some {} }).hasStarted id = true) ↔
      (runFrom (step cfg) actions { broker := some {} }).holdsLease active = false) ∧
    ((runFrom (step cfg) actions { broker := some {} }).holdsLease active = true →
      ∃ outcome reason, (runFrom (step cfg) (actions ++
        [.submit id r plan, .withdraw id r, .leave id]) { broker := some {} }).calls[id]? =
          some (.returned (.startTurn request)
            (.refused (.resourceNotAdmitted outcome reason)))) := by
  have hinv : LeaseInv (runFrom (step cfg) actions { broker := some {} }) := LeaseInv.run actions
  have hrun : ∀ later, runFrom (step cfg) (actions ++ later) { broker := some {} } =
      runFrom (step cfg) later (runFrom (step cfg) actions { broker := some {} }) :=
    fun _ => List.foldl_append
  rw [hrun] at hadmits
  simp only [hrun]
  generalize runFrom (step cfg) actions { broker := some {} } = s at *
  obtain ⟨b, hb, -, -⟩ := hinv.slot
  refine ⟨⟨?_, ?_⟩, ?_⟩
  · intro hstarts
    rw [← Bool.not_eq_true]
    intro hheld
    obtain ⟨outcome, reason, hphase⟩ := refused_of_held hcall hadmits hb hinv hheld
    have hstarted := hstarts []
    simp only [runFrom, List.foldl_cons, List.foldl_nil, State.hasStarted, hphase] at hstarted
    cases hstarted
  · intro hreturned later
    exact hasStarted_run (starts_of_returned hcall hadmits hb hreturned) later
  · intro hheld
    obtain ⟨outcome, reason, hphase⟩ := refused_of_held hcall hadmits hb hinv hheld
    exact ⟨outcome, reason, withdrawing_returns hphase r⟩

namespace Sample

/-- A turn that is running is interrupted by a second one. -/
def interrupts : List Action :=
  startsTurn ++ [.call (.startTurn localRequest), .flag 1, .lock 1, .take 1, .cancel 1 ampleReading]

/-- The turn that is running. -/
def runningTurn : ActiveTurn := ⟨firstTurn, some "turn/session/turn/1"⟩

end Sample

/-- The new turn would be admitted, and it is refused since the old one is still winding down. -/
theorem new_turn_refused_for_cancelled_lease :
    (runFrom (step ampleConfig) Sample.interrupts { broker := some {} }).calls[1]? =
        some (.cleared (.startTurn Sample.localRequest) (some Sample.runningTurn)) ∧
      (runFrom (step ampleConfig) Sample.interrupts { broker := some {} }).holdsLease
        Sample.runningTurn = true ∧
      (runFrom (step ampleConfig) (Sample.interrupts ++ [.taskEnds 1 ampleReading .cancelled,
        .submit 1 ampleReading (.ok Sample.splitPlan)]) { broker := some {} }).hasStarted 1 =
          true ∧
      (runFrom (step ampleConfig) (Sample.interrupts ++ [.submit 1 ampleReading
        (.ok Sample.splitPlan), .withdraw 1 ampleReading, .leave 1])
          { broker := some {} }).calls[1]? = some (.returned (.startTurn Sample.localRequest)
            (.refused (.resourceNotAdmitted .queued
              "waiting for resource, foreground, or residency lease"))) := by
  decide +kernel

theorem barge_in_hands_over_iff_of_two_turns :
    (∀ later, (runFrom (step ampleConfig) (Sample.interrupts ++
        .taskEnds 1 ampleReading .cancelled :: .submit 1 ampleReading (.ok Sample.splitPlan) ::
          later) { broker := some {} }).hasStarted 1 = true) ∧
      ¬ ∀ later, (runFrom (step ampleConfig) (Sample.interrupts ++
        .submit 1 ampleReading (.ok Sample.splitPlan) :: later)
          { broker := some {} }).hasStarted 1 = true := by
  refine ⟨?_, ?_⟩
  · intro later
    have hiff := (@barge_in_hands_over_iff ampleConfig
      (Sample.interrupts ++ [.taskEnds 1 ampleReading .cancelled]) 1 Sample.localRequest
      Sample.runningTurn ampleReading ampleReading (.ok Sample.splitPlan) .cancelled
      (by decide +kernel) (by decide +kernel)).1
    have hstarts := hiff.2 (by decide +kernel) later
    rwa [List.append_assoc] at hstarts
  · have hiff := (@barge_in_hands_over_iff ampleConfig Sample.interrupts 1 Sample.localRequest
      Sample.runningTurn ampleReading ampleReading (.ok Sample.splitPlan) .cancelled
      (by decide +kernel) (by decide +kernel)).1
    intro hstarts
    have hreturned := hiff.1 hstarts
    revert hreturned
    decide +kernel

end NpcRuntime.Supervisor
