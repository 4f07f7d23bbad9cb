import NpcRuntime.Broker.Step

/-!
# The queue

`poll_ready` takes the queue out of the state, sorts it and walks it, admitting, dropping or
re-queueing one record after the other while the reservations change under it. Whatever it does,
the job IDs of the leases it returns, of the drops it reports and of the queue it leaves behind
are a permutation of the job IDs it found (`poll_partition`). Since those are distinct, every job
is in exactly one of the three.

Jobs without a deadline are sorted as if their deadline were `u64::MAX`.
-/

namespace NpcRuntime.Broker

variable {cfg : ResourceBrokerConfig}

/-! ## The order of the queue -/

/-- `p` is served before `q`: higher priority first, then the earlier deadline (`u64::MAX` where
there is none), then the earlier submission. -/
def ServedBefore (p q : QueuedRecord) : Prop :=
  q.job.priority.rank < p.job.priority.rank ∨
    p.job.priority.rank = q.job.priority.rank ∧
      (p.job.deadlineMs.getD u64Max < q.job.deadlineMs.getD u64Max ∨
        p.job.deadlineMs.getD u64Max = q.job.deadlineMs.getD u64Max ∧ p.sequence ≤ q.sequence)

/-- One key of a lexicographic comparison. -/
theorem compare_then_ne_gt (a b : Nat) (o : Ordering) :
    (compare a b).then o ≠ .gt ↔ a < b ∨ a = b ∧ o ≠ .gt := by
  rcases Nat.lt_trichotomy a b with h | h | h
  · simp [Nat.compare_eq_lt.2 h, h]
  · simp [h]
  · simp [Nat.compare_eq_gt.2 h, h.ne', h.le]

theorem queueOrder_ne_gt {p q : QueuedRecord} : queueOrder p q ≠ .gt ↔ ServedBefore p q := by
  simp only [queueOrder, ServedBefore]
  rw [compare_then_ne_gt, compare_then_ne_gt, Nat.compare_ne_gt, eq_comm (a := q.job.priority.rank)]

theorem ServedBefore.trans {p q r : QueuedRecord} (h : ServedBefore p q) (h' : ServedBefore q r) :
    ServedBefore p r := by
  simp only [ServedBefore] at *
  omega

theorem ServedBefore.total (p q : QueuedRecord) : ServedBefore p q ∨ ServedBefore q p := by
  simp only [ServedBefore]
  omega

theorem sortQueue_pairwise (queued : List QueuedRecord) :
    (sortQueue queued).Pairwise ServedBefore := by
  have htotal : Std.Total fun p q : QueuedRecord => queueOrder p q ≠ .gt :=
    ⟨fun p q => by rw [queueOrder_ne_gt, queueOrder_ne_gt]; exact ServedBefore.total p q⟩
  have htrans : IsTrans QueuedRecord fun p q => queueOrder p q ≠ .gt :=
    ⟨fun p q r => by simp only [queueOrder_ne_gt]; exact ServedBefore.trans⟩
  exact (List.pairwise_insertionSort _ queued).imp queueOrder_ne_gt.1

/-! ## Drops in the diagnostics -/

/-- The job a diagnostic reports as dropped late or stale. -/
def droppedJob : BrokerDiagnostic → Option String
  | .admission d =>
    if d.outcome = .droppedLate ∨ d.outcome = .droppedStale then some d.jobId else none
  | _ => none

/-- `s'` has logged `new` after what `s` had logged. -/
def Logged (s : BrokerState) (new : List BrokerDiagnostic) (s' : BrokerState) : Prop :=
  s'.emitted = s.emitted ++ new

variable {s s' : BrokerState}

theorem Logged.trans {s'' : BrokerState} {new new' : List BrokerDiagnostic} (h : Logged s new s')
    (h' : Logged s' new' s'') : Logged s (new ++ new') s'' := by
  simp only [Logged] at *
  rw [h', h, List.append_assoc]

/-- The change logs no drop. -/
def LogsNoDrop (s s' : BrokerState) : Prop := ∃ new, Logged s new s' ∧ new.filterMap droppedJob = []

namespace LogsNoDrop

theorem of_eq (h : s'.emitted = s.emitted) : LogsNoDrop s s' :=
  ⟨[], by unfold Logged; rw [h, List.append_nil], rfl⟩

theorem trans {s'' : BrokerState} (h : LogsNoDrop s s') (h' : LogsNoDrop s' s'') :
    LogsNoDrop s s'' := by
  obtain ⟨new, hlog, hnone⟩ := h
  obtain ⟨new', hlog', hnone'⟩ := h'
  exact ⟨new ++ new', hlog.trans hlog', by rw [List.filterMap_append, hnone, hnone']; rfl⟩

theorem push {d : BrokerDiagnostic} (hd : droppedJob d = none) (h : s'.emitted = s.emitted ++ [d]) :
    LogsNoDrop s s' :=
  ⟨[d], h, by rw [List.filterMap_cons_none hd]; rfl⟩

theorem setPressure (s : BrokerState) (nowMs : Nat) (u : ℚ) :
    LogsNoDrop s (setPressure cfg s nowMs u) := by
  simp only [Broker.setPressure]
  split
  · exact push rfl rfl
  · exact of_eq rfl

theorem raiseToFloor (s : BrokerState) (nowMs : Nat) : LogsNoDrop s (raiseToFloor cfg s nowMs) := by
  simp only [Broker.raiseToFloor]
  split
  · exact push rfl rfl
  · exact of_eq rfl

theorem countGreenSample (s : BrokerState) (nowMs : Nat) :
    LogsNoDrop s (countGreenSample cfg s nowMs) := by
  simp only [Broker.countGreenSample]
  split
  · split
    · exact push rfl rfl
    · exact of_eq rfl
  · exact of_eq rfl

theorem foldl {α : Type*} (f : BrokerState → α → BrokerState) (hf : ∀ s a, LogsNoDrop s (f s a))
    (as : List α) (s : BrokerState) : LogsNoDrop s (as.foldl f s) := by
  induction as generalizing s with
  | nil => exact of_eq rfl
  | cons a as ih => exact (hf s a).trans (ih (f s a))

theorem observe (ratio : Nat → Nat → ℚ) (b : BudgetSnapshot) (accounted : BrokerAccountedGpuUsage)
    (s : BrokerState) : LogsNoDrop s (observe cfg ratio b accounted s) := by
  have hexpire : ∀ s nowMs, LogsNoDrop s (expireTransientOveragesLocked cfg s nowMs) := by
    intro s nowMs
    have hcancelled : ∀ active, LogsNoDrop s { s with active := active } := fun _ => of_eq rfl
    exact (hcancelled _).trans (foldl _ (fun s a => push rfl rfl) _ _)
  have haccounted : LogsNoDrop s { s with telemetryAccounted := accounted } := of_eq rfl
  exact (haccounted.trans (hexpire _ _)).trans
    (((setPressure _ _ _).trans (raiseToFloor _ _)).trans (countGreenSample _ _))

end LogsNoDrop

/-! ## The poll loop splits the queue -/

theorem selectTargetLocked_outcome {b : BudgetSnapshot} {job : ResourceJob} {allowFallback : Bool}
    {target : ComputeTarget} {outcome : AdmissionOutcome}
    (h : selectTargetLocked cfg s b job allowFallback = some (target, outcome)) :
    outcome = .admittedPrimary ∨ outcome = .admittedFallback := by
  rcases List.mem_cons.1 (List.mem_of_find?_eq_some h) with heq | hmem
  · exact .inl (Prod.mk.inj heq).2
  · obtain ⟨t, -, heq⟩ := List.mem_map.1 hmem
    exact .inr (Prod.mk.inj heq).2.symm

/-- What the loop does with the records it is given: it logs `new`, keeps `kept`, and the job IDs
of its leases, of its drops and of what it keeps are those of the records. -/
theorem pollLoop_partition (b : BudgetSnapshot) (pending : List QueuedRecord) (s : BrokerState) :
    ∃ new kept, Logged s new (pollLoop cfg b pending s).1 ∧
      (pollLoop cfg b pending s).1.queued = s.queued ++ kept ∧ kept.Sublist pending ∧
      (((pollLoop cfg b pending s).2.map (·.jobId)) ++ new.filterMap droppedJob ++
        kept.map (·.job.jobId)).Perm (pending.map (·.job.jobId)) := by
  induction pending generalizing s with
  | nil => exact ⟨[], [], by simp [Logged, pollLoop], by simp [pollLoop], .slnil, .refl _⟩
  | cons q pending ih =>
    obtain ⟨new, kept, hlog, hqueued, hsub, hperm⟩ := ih (pollEntry cfg b s q).1
    rw [pollLoop]
    obtain ⟨outcome, reason, hdrop, he⟩ | ⟨target, outcome, hsel, he⟩ | he :=
      @pollEntry_cases cfg b s q <;> rw [he] at hlog hqueued hperm ⊢
    · -- Dropped: the drop is the first entry of the log.
      have hfirst : Logged s [.admission (admissionDiagnostic cfg b s q.job outcome none reason)]
          (pushAdmission cfg (admissionDiagnostic cfg b s q.job outcome none reason) s) := rfl
      refine ⟨_, kept, hfirst.trans hlog, hqueued, hsub.cons q, ?_⟩
      have hjob : droppedJob (.admission (admissionDiagnostic cfg b s q.job outcome none reason)) =
          some q.job.jobId := if_pos hdrop
      rw [List.singleton_append, List.filterMap_cons_some hjob, List.append_assoc, List.cons_append,
        List.map_cons]
      refine List.perm_middle.trans (List.Perm.cons _ ?_)
      rw [← List.append_assoc]
      exact hperm
    · -- Admitted: the log starts with an admission, which is no drop.
      have hfirst : Logged s [.admission (admittedDiagnostic cfg s b q.job target outcome)]
          (admitLocked cfg s b q.job target outcome).1 := rfl
      refine ⟨_, kept, hfirst.trans hlog, hqueued, hsub.cons q, ?_⟩
      have hnodrop :
          droppedJob (.admission (admittedDiagnostic cfg s b q.job target outcome)) = none := by
        rcases selectTargetLocked_outcome hsel with ho | ho <;> subst ho <;> rfl
      rw [List.singleton_append, List.filterMap_cons_none hnodrop]
      exact List.Perm.cons _ hperm
    · -- Kept: the record goes back to the queue before everything that follows it.
      refine ⟨new, q :: kept, hlog, ?_, hsub.cons_cons q, ?_⟩
      · rw [hqueued, List.append_assoc]
        rfl
      · rw [List.map_cons, List.map_cons]
        exact List.perm_middle.trans (List.Perm.cons _ hperm)

/-- The leases of the loop come from a part of the records, in their order. -/
theorem pollLoop_leases (b : BudgetSnapshot) (pending : List QueuedRecord) (s : BrokerState) :
    ∃ served : List QueuedRecord, served.Sublist pending ∧
      (pollLoop cfg b pending s).2.map (·.jobId) = served.map (·.job.jobId) := by
  induction pending generalizing s with
  | nil => exact ⟨[], .slnil, rfl⟩
  | cons q pending ih =>
    obtain ⟨served, hsub, hids⟩ := ih (pollEntry cfg b s q).1
    rw [pollLoop]
    obtain ⟨_, _, -, he⟩ | ⟨target, _, -, he⟩ | he := @pollEntry_cases cfg b s q <;>
      rw [he] at hids ⊢
    · exact ⟨served, hsub.cons q, hids⟩
    · exact ⟨q :: served, hsub.cons_cons q, congrArg (q.job.jobId :: ·) hids⟩
    · exact ⟨served, hsub.cons q, hids⟩

/-! ## Polling -/

/-- The leases a poll returns. -/
def pollLeases (cfg : ResourceBrokerConfig) (r : Reading) (s : BrokerState) : List ResourceLease :=
  (respond cfg ⟨r, .pollReady⟩ s).2.leases

/-- The jobs a poll reports as dropped. -/
def pollDrops (cfg : ResourceBrokerConfig) (r : Reading) (s : BrokerState) : List String :=
  ((pollReady cfg r s).1.emitted.drop s.emitted.length).filterMap droppedJob

/-- **A poll splits the queue.** -/
theorem poll_partition (r : Reading) (s : BrokerState) :
    (pollReady cfg r s).1.queued.Subperm s.queued ∧
      ((pollLeases cfg r s).map (·.jobId) ++ pollDrops cfg r s ++
        (pollReady cfg r s).1.queued.map (·.job.jobId)).Perm (s.queued.map (·.job.jobId)) := by
  simp only [pollLeases, pollDrops]
  simp only [respond, Prod.map_snd]
  cases hr : r.validated with
  | error e =>
    exact ⟨by simp [pollReady, hr, List.Subperm.refl], by simp [pollReady, hr, Response.leases]⟩
  | ok p =>
    obtain ⟨b, accounted⟩ := p
    set s₁ := observe cfg r.ratio b accounted s with hs₁
    obtain ⟨new₀, hlog₀, hnone⟩ : LogsNoDrop s s₁ := .observe r.ratio b accounted s
    have hqueued₁ : s₁.queued = s.queued := (sameBooks_observe r.ratio b accounted s).queued
    obtain ⟨new, kept, hlog, hqueued, hsub, hperm⟩ :=
      @pollLoop_partition cfg b (sortQueue s₁.queued) { s₁ with queued := [] }
    have hsort : (sortQueue s₁.queued).Perm s.queued :=
      hqueued₁ ▸ List.perm_insertionSort _ _
    have hall : Logged s (new₀ ++ new)
        (pollLoop cfg b (sortQueue s₁.queued) { s₁ with queued := [] }).1 :=
      @Logged.trans s { s₁ with queued := [] } _ _ _ hlog₀ hlog
    have hlist : (pollReady cfg r s).1 =
        (pollLoop cfg b (sortQueue s₁.queued) { s₁ with queued := [] }).1 := by
      simp only [pollReady, hr, ← hs₁]
    have hleases : (Response.polled (pollReady cfg r s).2).leases =
        (pollLoop cfg b (sortQueue s₁.queued) { s₁ with queued := [] }).2 := by
      simp only [pollReady, hr, ← hs₁, Response.leases]
    rw [hlist, hleases, hqueued, hall, List.drop_left, List.filterMap_append, hnone]
    exact ⟨hsub.subperm.trans hsort.subperm, hperm.trans (hsort.map _)⟩

/-- The leases of a poll come in the order of the queue. -/
theorem poll_leases_ordered (r : Reading) (s : BrokerState) :
    ∃ served : List QueuedRecord, (∀ q ∈ served, q ∈ s.queued) ∧
      (pollLeases cfg r s).map (·.jobId) = served.map (·.job.jobId) ∧
        served.Pairwise ServedBefore := by
  simp only [pollLeases]
  simp only [respond, Prod.map_snd]
  cases hr : r.validated with
  | error e => exact ⟨[], by simp, by simp [pollReady, hr, Response.leases], .nil⟩
  | ok p =>
    obtain ⟨b, accounted⟩ := p
    have hqueued := (@sameBooks_observe cfg r.ratio b accounted s).queued
    obtain ⟨served, hsub, hids⟩ := @pollLoop_leases cfg b
      (sortQueue (observe cfg r.ratio b accounted s).queued)
      { observe cfg r.ratio b accounted s with queued := [] }
    refine ⟨served, ?_, ?_, (sortQueue_pairwise _).sublist hsub⟩
    · intro q hq
      rw [← hqueued]
      exact (List.perm_insertionSort _ _).subset (hsub.subset hq)
    · simp only [pollReady, hr, Response.leases]
      exact hids

/-- Exactly one of three. -/
def ExactlyOne (p q r : Prop) : Prop := p ∧ ¬ q ∧ ¬ r ∨ ¬ p ∧ q ∧ ¬ r ∨ ¬ p ∧ ¬ q ∧ r

/-- A member of a list that three lists split without repetition is in exactly one of them. -/
theorem exactlyOne_of_perm {α : Type*} {as bs cs l : List α} (hperm : (as ++ bs ++ cs).Perm l)
    (hnodup : l.Nodup) {x : α} (hx : x ∈ l) : ExactlyOne (x ∈ as) (x ∈ bs) (x ∈ cs) := by
  have hmem := hperm.mem_iff.2 hx
  have hsplit := hperm.nodup_iff.2 hnodup
  rw [List.nodup_append, List.nodup_append] at hsplit
  obtain ⟨⟨-, -, hab⟩, -, habc⟩ := hsplit
  rw [List.mem_append, List.mem_append] at hmem
  simp only [ExactlyOne]
  rcases hmem with (ha | hb) | hc
  · exact .inl ⟨ha, fun hb => hab x ha x hb rfl, fun hc =>
      habc x (List.mem_append_left _ ha) x hc rfl⟩
  · exact .inr (.inl ⟨fun ha => hab x ha x hb rfl, hb, fun hc =>
      habc x (List.mem_append_right _ hb) x hc rfl⟩)
  · exact .inr (.inr ⟨fun ha => habc x (List.mem_append_left _ ha) x hc rfl,
      fun hb => habc x (List.mem_append_right _ hb) x hc rfl, hc⟩)

/-- **No job is lost or duplicated.** In every reachable state the queued job IDs are distinct and
not active, and a supersede key is queued once; and a poll puts every queued job into exactly one
of its leases, its reported drops and the queue it leaves, which hold nothing else, with the leases
in the order of `ServedBefore`. -/
theorem queue_keeps_every_job_once (cfg : ResourceBrokerConfig) (calls : List Call) :
    let s := run cfg calls
    (s.queued.map (·.job.jobId)).Nodup ∧
    (∀ q ∈ s.queued, s.active.lookup q.job.jobId = none) ∧
    (∀ key, ∀ p ∈ s.queued, ∀ q ∈ s.queued, p.job.dropPolicy = .supersede key →
      q.job.dropPolicy = .supersede key → p = q) ∧
    ∀ r : Reading,
      (∀ q ∈ s.queued, ExactlyOne (q.job.jobId ∈ (pollLeases cfg r s).map (·.jobId))
        (q.job.jobId ∈ pollDrops cfg r s)
        (q.job.jobId ∈ (pollReady cfg r s).1.queued.map (·.job.jobId))) ∧
      ((pollLeases cfg r s).map (·.jobId) ++ pollDrops cfg r s ++
        (pollReady cfg r s).1.queued.map (·.job.jobId)).Perm (s.queued.map (·.job.jobId)) ∧
      (pollReady cfg r s).1.queued.Subperm s.queued ∧
      ∃ served : List QueuedRecord, (∀ q ∈ served, q ∈ s.queued) ∧
        (pollLeases cfg r s).map (·.jobId) = served.map (·.job.jobId) ∧
        served.Pairwise ServedBefore := by
  have h : BookInv (run cfg calls) := bookInv_run calls
  intro s
  refine ⟨h.nodup, h.disjoint, ?_, ?_⟩
  · intro key p hp q hq hkp hkq
    by_contra hne
    have hsymm : Std.Symm fun p q : QueuedRecord => supersededBy p.job q = false :=
      ⟨fun _ _ hpq => supersededBy_symm hpq⟩
    have hpq := h.coalesced.forall hp hq hne
    rw [supersededBy_iff.2 ⟨key, hkp, hkq⟩] at hpq
    cases hpq
  · intro r
    obtain ⟨hsub, hperm⟩ := @poll_partition cfg r s
    exact ⟨fun q hq => exactlyOne_of_perm hperm h.nodup (List.mem_map_of_mem hq), hperm, hsub,
      poll_leases_ordered r s⟩

/-- Two jobs wait behind an exclusive one: the first without a deadline, the second with the last
deadline there is. -/
def noDeadlineRun : List Call :=
  let target := Sample.target "t" 10 0 0 .shared
  [Sample.call 0 (.submit (Sample.job "x" .embedding (Sample.target "x" 10 0 0 .exclusive))),
    Sample.call 1 (.submit { Sample.job "none" .embedding target with deadlineMs := none }),
    Sample.call 2 (.submit { Sample.job "last" .embedding target with deadlineMs := some u64Max }),
    Sample.call 3 (Sample.finish "x" .completed)]

theorem queue_keeps_every_job_once_noDeadlineRun :
    (run {} noDeadlineRun).queued ≠ [] ∧
      ∀ q ∈ (run {} noDeadlineRun).queued,
        (run {} noDeadlineRun).active.lookup q.job.jobId = none :=
  ⟨by decide +kernel, (queue_keeps_every_job_once {} noDeadlineRun).2.1⟩

/-- The job without a deadline is served first, not last. -/
theorem no_deadline_is_not_last :
    (run {} noDeadlineRun).queued.map (fun q => (q.job.jobId, q.job.priority, q.job.deadlineMs)) =
        [("none", .interactive, none), ("last", .interactive, some u64Max)] ∧
      pollLeases {} (Sample.reading 4) (run {} noDeadlineRun) = [⟨"none", "t"⟩, ⟨"last", "t"⟩] := by
  decide +kernel

end NpcRuntime.Broker
