import NpcRuntime.Packs.Queueing

/-!
# Where queued work goes

Every accepted item is pending or has left once: popped, or named in a returned cancellation. The
log of a run keeps the two lists next to the scheduler, and each call is one step of the account
with what it loses on the side (`workStep_account`).

Two calls lose work. A pop drops all that has expired, of every kind, and returns none of it
(`expired_work_dropped`). A submit at the last sequence number fails behind its cancellations.
Runs without these, and only these, account for everything (`scheduler_accounts_iff`).
-/

namespace NpcRuntime.Packs

open Text WorkSchedulerV1

/-- What a call takes into the queue, and what its answer says has left. A refusal names the item
itself, which was never queued. -/
def workReport (call : WorkCall) (s : WorkSchedulerV1) : List Text × List Text :=
  match call with
  | .submit item now =>
    match (s.submit item now).1 with
    | .ok result => (if result.accepted then [item.workId] else [],
        (result.cancellations.map WorkCancellationV1.workId).filter fun id => id != item.workId)
    | .error _ => ([], [])
  | .advanceVisualClock generationId frameId now =>
    match (s.advanceVisualClock generationId frameId now).1 with
    | .ok cancellations => ([], cancellations.map WorkCancellationV1.workId)
    | .error _ => ([], [])
  | .popNext now => ([], (s.popNext now).1.toList.map WorkItemV1.workId)
  | .popNextKind kind now => ([], (s.popNextKind kind now).1.toList.map WorkItemV1.workId)
  | .cancelKind workId kind reason =>
    ([], (s.cancelKind workId kind reason).1.toList.map WorkCancellationV1.workId)
  | .cancelAllKind kind reason =>
    ([], (s.cancelAllKind kind reason).1.map WorkCancellationV1.workId)
  | .cancelAll reason => ([], (s.cancelAll reason).1.map WorkCancellationV1.workId)
  | .applyPressure level now => ([], (s.applyPressure level now).1.map WorkCancellationV1.workId)

/-- A scheduler with the ids it has accepted and those reported to have left. -/
structure WorkLog where
  scheduler : WorkSchedulerV1
  accepted : List Text := []
  left : List Text := []

def logStep (call : WorkCall) (log : WorkLog) : WorkLog :=
  { scheduler := workStep call log.scheduler
    accepted := log.accepted ++ (workReport call log.scheduler).1
    left := log.left ++ (workReport call log.scheduler).2 }

def pendingIds (s : WorkSchedulerV1) : List Text := s.pending.map ScheduledWorkV1.workId

/-- Every accepted item is pending or has left, once. -/
def Accounted (log : WorkLog) : Prop :=
  log.accepted.Perm (log.left ++ pendingIds log.scheduler)

/-- A call for one kind leaves the pending work of the others. -/
def OtherKindsKept (s : WorkSchedulerV1) (call : WorkCall) : Prop :=
  match call with
  | .popNextKind kind _ | .cancelKind _ kind _ =>
    (workStep call s).pending.filter (fun work => work.item.kind != kind) =
      s.pending.filter fun work => work.item.kind != kind
  | _ => True

/-- No pop meets expired work, and no submit makes room at the last sequence number. -/
def NothingLost (s : WorkSchedulerV1) (call : WorkCall) : Prop :=
  match call with
  | .popNext now | .popNextKind _ now =>
    ∀ work ∈ s.pending, now < work.item.deadlineMonotonicMillis
  | .submit item now => u64Max ≤ s.sequence → Fresh s item now → ¬MakesWay s item
  | _ => True

section Steps

variable {s : WorkSchedulerV1}

/-- A call's account: what it loses goes neither to the caller nor back to the queue. -/
def Loses (s : WorkSchedulerV1) (call : WorkCall) (lost : List Text) : Prop :=
  ((workReport call s).1 ++ pendingIds s).Perm
    ((workReport call s).2 ++ (lost ++ pendingIds (workStep call s)))

theorem submit_account (h : SchedulerInv s) (item : WorkItemV1) (now : Nat) :
    ∃ lost, Loses s (.submit item now) lost ∧
      (lost = [] ↔ NothingLost s (.submit item now)) := by
  simp only [Loses, workReport, workStep, NothingLost]
  rcases submit_cases h item now with
    ⟨error, hcase, hstale⟩ | ⟨reason, hcase, hstale⟩ | ⟨hcase, hfresh, hkept⟩ |
      ⟨kept, cancellations, hfresh, hroom, hcase⟩
  · rw [hcase]
    exact ⟨[], .refl _, iff_of_true rfl fun _ hfresh => absurd hfresh hstale⟩
  · rw [hcase]
    exact ⟨[], by simp, iff_of_true rfl fun _ hfresh => absurd hfresh hstale⟩
  · rw [hcase]
    exact ⟨[], by simp [pendingIds], iff_of_true rfl fun _ _ => hkept⟩
  · rcases enqueue_cases { s.moveClock item.visual with pending := kept } item cancellations with
      ⟨hsequence, henqueue⟩ | ⟨hsequence, henqueue⟩
    · rw [hcase, henqueue]
      have hothers : (cancellations.map WorkCancellationV1.workId).filter
          (fun id => id != item.workId) = cancellations.map WorkCancellationV1.workId := by
        rw [List.filter_eq_self]
        intro id hid
        rw [bne_iff_ne]
        rintro rfl
        exact hfresh.unknown (hroom.reported.mem_iff.2 (List.mem_append_left _ hid))
      refine ⟨[], ?_, iff_of_true rfl ?_⟩
      · have hinsert := (List.perm_orderedInsert
          (fun a b : ScheduledWorkV1 => a.workId ≤ b.workId)
          ⟨(s.moveClock item.visual).sequence + 1, item⟩ kept).map ScheduledWorkV1.workId
        simp only [if_true, hothers, List.nil_append, List.singleton_append, pendingIds]
        exact ((hroom.reported.cons item.workId).trans List.perm_middle.symm).trans
          (hinsert.symm.append_left _)
      · rw [show s.sequence = (s.moveClock item.visual).sequence from
          (moveClock_sequence s _).symm]
        intro hlast
        have hroomLeft : (s.moveClock item.visual).sequence + 1 ≤ u64Max := hsequence
        omega
    · rw [hcase, henqueue]
      refine ⟨cancellations.map WorkCancellationV1.workId, ?_, ?_⟩
      · simpa [pendingIds] using hroom.reported
      · have hlast : u64Max ≤ s.sequence := by
          rw [← moveClock_sequence s item.visual]
          exact hsequence
        have hnil := hroom.cancelled
        simp only [List.map_eq_nil_iff]
        constructor
        · intro hnone _ _
          exact fun hway => hnil.2 hway hnone
        · intro hkept
          by_contra hsome
          exact hkept hlast hfresh (hnil.1 hsome)

theorem take_reported (hids : (pendingIds s).Nodup) {next : Option ScheduledWorkV1}
    (hnext : ∀ work, next = some work → work ∈ s.pending) :
    (pendingIds s).Perm
      ((s.take next).1.toList.map WorkItemV1.workId ++ pendingIds (s.take next).2) := by
  cases next with
  | none => exact .refl _
  | some work => exact (remove_perm hids (hnext work rfl)).map ScheduledWorkV1.workId

/-- A pop drops what has expired and takes the next entry of the rest. -/
theorem pop_reported (h : SchedulerInv s) (now : Nat) {next : Option ScheduledWorkV1}
    (hnext : ∀ work, next = some work → work ∈ (s.dropExpired now).pending) :
    ∃ lost, (pendingIds s).Perm (((s.dropExpired now).take next).1.toList.map WorkItemV1.workId ++
        (lost ++ pendingIds ((s.dropExpired now).take next).2)) ∧
      (lost = [] ↔ ∀ work ∈ s.pending, now < work.item.deadlineMonotonicMillis) := by
  refine ⟨(s.pending.filter fun work =>
    !decide (now < work.item.deadlineMonotonicMillis)).map ScheduledWorkV1.workId, ?_, ?_⟩
  · have hlive := h.shrinks (shrinks_filter s fun work =>
      decide (now < work.item.deadlineMonotonicMillis))
    have htaken := take_reported (s := s.dropExpired now) hlive.ids hnext
    have hsplit := (List.filter_append_perm
      (fun work => decide (now < work.item.deadlineMonotonicMillis)) s.pending).symm.map
        ScheduledWorkV1.workId
    rw [List.map_append] at hsplit
    calc (pendingIds s).Perm (pendingIds (s.dropExpired now) ++ _) := hsplit
      List.Perm _ (_ ++ pendingIds (s.dropExpired now)) := List.perm_append_comm
      List.Perm _ (_ ++ (_ ++ pendingIds ((s.dropExpired now).take next).2)) :=
        htaken.append_left _
      List.Perm _ _ := List.perm_append_comm_assoc _ _ _
  · simp

/-- **One call's account.** -/
theorem workStep_account (h : SchedulerInv s) (call : WorkCall) :
    ∃ lost, Loses s call lost ∧ (lost = [] ↔ NothingLost s call) := by
  cases call with
  | submit item now => exact submit_account h item now
  | popNext now =>
    exact pop_reported h now fun work hwork => List.mem_reverse.1 (List.argmax_mem hwork)
  | popNextKind kind now =>
    exact pop_reported h now fun work hwork => List.mem_of_mem_filter (List.argmin_mem hwork)
  | advanceVisualClock generationId frameId now =>
    refine ⟨[], ?_, iff_of_true rfl trivial⟩
    simp only [Loses, workReport, workStep, WorkSchedulerV1.advanceVisualClock]
    split_ifs
    · exact .refl _
    · exact sweep_reported _ _
  | cancelKind workId kind reason =>
    refine ⟨[], ?_, iff_of_true rfl trivial⟩
    simp only [Loses, workReport, workStep, WorkSchedulerV1.cancelKind]
    split_ifs with hfound
    · simp only [List.any_eq_true, Bool.and_eq_true, beq_iff_eq] at hfound
      obtain ⟨work, hwork, rfl, -⟩ := hfound
      exact (remove_perm h.ids hwork).map ScheduledWorkV1.workId
    · exact .refl _
  | cancelAllKind kind reason =>
    exact ⟨[], sweep_reported _ _, iff_of_true rfl trivial⟩
  | cancelAll reason =>
    exact ⟨[], sweep_reported _ _, iff_of_true rfl trivial⟩
  | applyPressure level now =>
    exact ⟨[], sweep_reported _ _, iff_of_true rfl trivial⟩

theorem accounted_logStep {log : WorkLog} (h : SchedulerInv log.scheduler) (hlog : Accounted log)
    (call : WorkCall) : Accounted (logStep call log) ↔ NothingLost log.scheduler call := by
  obtain ⟨lost, hloses, hlost⟩ := workStep_account h call
  rw [← hlost]
  exact account_step hlog hloses

/-! ## The other kinds -/

theorem remove_otherKinds (h : SchedulerInv s) {work : ScheduledWorkV1} (hwork : work ∈ s.pending) :
    (s.remove work.workId).pending.filter (fun other => other.item.kind != work.item.kind) =
      s.pending.filter fun other => other.item.kind != work.item.kind := by
  rw [remove, List.filter_filter]
  refine List.filter_congr ?_
  intro other hother
  by_cases hid : other.workId = work.workId
  · obtain rfl := List.inj_on_of_nodup_map h.ids hother hwork hid
    simp
  · simp [hid]

theorem otherKindsKept (h : SchedulerInv s) {call : WorkCall} (hlost : NothingLost s call) :
    OtherKindsKept s call := by
  cases call with
  | popNextKind kind now =>
    have hlive : s.dropExpired now = s := by
      rw [dropExpired, List.filter_eq_self.2 fun work hwork => decide_eq_true (hlost work hwork)]
    simp only [OtherKindsKept, workStep, WorkSchedulerV1.popNextKind, hlive]
    cases hnext : (s.pending.filter fun work => decide (work.item.kind = kind)).argmin
        ScheduledWorkV1.sequence with
    | none => rfl
    | some work =>
      obtain ⟨hwork, hkind⟩ := List.mem_filter.1 (List.argmin_mem hnext)
      obtain rfl := of_decide_eq_true hkind
      exact remove_otherKinds h hwork
  | cancelKind workId kind reason =>
    simp only [OtherKindsKept, workStep, WorkSchedulerV1.cancelKind]
    split_ifs with hfound
    · simp only [List.any_eq_true, Bool.and_eq_true, beq_iff_eq, decide_eq_true_eq] at hfound
      obtain ⟨work, hwork, rfl, rfl⟩ := hfound
      exact remove_otherKinds h hwork
    · rfl
  | _ => trivial

end Steps

/-- **The scheduler's account.** The whole run accounts for its work, and no call for one kind
touches another, exactly when no call of the run loses work. -/
theorem scheduler_accounts_iff {policy : WorkQueuePolicyV1} {s : WorkSchedulerV1}
    (h : WorkSchedulerV1.withPolicy policy = .ok s) (calls : List WorkCall) :
    ((∀ pre, pre <+: calls → Accounted (runFrom logStep pre ⟨s, [], []⟩)) ∧
        Along logStep (fun log call => OtherKindsKept log.scheduler call) calls ⟨s, [], []⟩) ↔
      Along logStep (fun log call => NothingLost log.scheduler call) calls ⟨s, [], []⟩ := by
  have hinv : SchedulerInv (WorkLog.scheduler ⟨s, [], []⟩) := schedulerInv_withPolicy h
  have hempty : s.pending = [] := by
    simp only [WorkSchedulerV1.withPolicy, bind_eq_ok, pure_eq_ok] at h
    obtain ⟨_, -, rfl⟩ := h
    rfl
  have hstart : Accounted ⟨s, [], []⟩ := by simp [Accounted, pendingIds, hempty]
  have haccounts : (∀ pre, pre <+: calls → Accounted (runFrom logStep pre ⟨s, [], []⟩)) ↔
      Along logStep (fun log call => NothingLost log.scheduler call) calls ⟨s, [], []⟩ :=
    along_iff_prefixes (fun log => SchedulerInv log.scheduler) Accounted
      (fun log call hs => hs.step call)
      (fun log call hs hlog => accounted_logStep hs hlog call) hinv hstart
  constructor
  · intro hkept
    exact haccounts.1 hkept.1
  · intro hlost
    refine ⟨haccounts.2 hlost, ?_⟩
    exact hlost.mono_inv (fun log : WorkLog => SchedulerInv log.scheduler)
      (fun log call hs _ => hs.step call) (fun log call hs hnone => otherKindsKept hs hnone) hinv

/-- A lip sync item is queued and popped in time. -/
theorem scheduler_accounts_one_item :
    Accounted (runFrom logStep
      [.submit ⟨"lip-sync-1".toList, .lipSync, 1, 10, some ⟨1, 1⟩⟩ 5, .popNext 6]
      ⟨{ policy := { maximumPending := 2 } }, [], []⟩) :=
  ((@scheduler_accounts_iff { maximumPending := 2 } _ rfl
    [.submit ⟨"lip-sync-1".toList, .lipSync, 1, 10, some ⟨1, 1⟩⟩ 5, .popNext 6]).2
      ⟨fun hlast => absurd hlast (by decide), by unfold NothingLost; decide, trivial⟩).1 _
    (List.prefix_refl _)

/-- The time a call is made at, where it says. -/
def WorkCall.now : WorkCall → Option Nat
  | .submit _ now | .advanceVisualClock _ _ now | .popNext now | .popNextKind _ now
  | .applyPressure _ now => some now
  | .cancelKind .. | .cancelAllKind .. | .cancelAll _ => none

/-- Speech to recognize expires, and a pop of lip sync work drops it without a word. -/
theorem expired_work_dropped :
    ¬ ∀ (policy : WorkQueuePolicyV1) (s : WorkSchedulerV1) (calls : List WorkCall),
      WorkSchedulerV1.withPolicy policy = .ok s → (calls.filterMap WorkCall.now).Pairwise (· ≤ ·) →
        Accounted (runFrom logStep calls ⟨s, [], []⟩) := by
  intro h
  let speech : WorkItemV1 := ⟨"speech-1".toList, .speechRecognition, 1, 10, none⟩
  have haccounted := h { maximumPending := 4 } { policy := { maximumPending := 4 } }
    [.submit speech 5, .popNextKind .lipSync 12] rfl (by decide)
  have hlog : runFrom logStep [.submit speech 5, .popNextKind .lipSync 12]
      ⟨{ policy := { maximumPending := 4 } }, [], []⟩ =
      ⟨{ policy := { maximumPending := 4 }, sequence := 1 }, [speech.workId], []⟩ := by rfl
  rw [hlog] at haccounted
  exact absurd haccounted.length_eq (by decide)

end NpcRuntime.Packs
