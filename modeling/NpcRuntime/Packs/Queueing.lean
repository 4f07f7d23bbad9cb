import NpcRuntime.Packs.Scheduler

/-!
# The pending work is bounded and current

The invariant of the work scheduler. Every call but `submit` only takes entries out, after moving
the clock at most (`Shrinks`). A submit that gets as far as the queue sweeps out what is stale
under the moved clock and what has the item's visual kind, so that there is room for one
(`submit_cases`).
-/

namespace NpcRuntime.Packs

open Text

/-- The clock of `s` is not behind the clock of `t`, generation before frame. -/
def ClockLe (t s : WorkSchedulerV1) : Prop :=
  t.visualGenerationId < s.visualGenerationId ∨
    (t.visualGenerationId = s.visualGenerationId ∧ t.visualFrameId ≤ s.visualFrameId)

namespace WorkSchedulerV1

/-- The current capture. -/
def address (s : WorkSchedulerV1) : VisualWorkAddressV1 := ⟨s.visualGenerationId, s.visualFrameId⟩

/-- `s'` is `s` without some of its entries. -/
def Shrinks (s s' : WorkSchedulerV1) : Prop :=
  ∃ pending, pending.Sublist s.pending ∧ s' = { s with pending }

variable {s : WorkSchedulerV1} {item : WorkItemV1} {now : Nat}

theorem shrinks_filter (s : WorkSchedulerV1) (p : ScheduledWorkV1 → Bool) :
    s.Shrinks { s with pending := s.pending.filter p } :=
  ⟨_, List.filter_sublist, rfl⟩

theorem Shrinks.refl (s : WorkSchedulerV1) : s.Shrinks s := ⟨s.pending, List.Sublist.refl _, rfl⟩

theorem Shrinks.trans {s t u : WorkSchedulerV1} (h : s.Shrinks t) (h' : t.Shrinks u) :
    s.Shrinks u := by
  obtain ⟨pending, hsub, rfl⟩ := h
  obtain ⟨pending', hsub', rfl⟩ := h'
  exact ⟨pending', hsub'.trans hsub, rfl⟩

theorem shrinks_take (s : WorkSchedulerV1) (next : Option ScheduledWorkV1) :
    s.Shrinks (s.take next).2 := by
  cases next with
  | none => exact .refl s
  | some work => exact shrinks_filter s _

theorem shrinks_popNext (s : WorkSchedulerV1) (now : Nat) : s.Shrinks (s.popNext now).2 :=
  (shrinks_filter s _).trans (shrinks_take _ _)

theorem shrinks_popNextKind (s : WorkSchedulerV1) (kind : WorkKindV1) (now : Nat) :
    s.Shrinks (s.popNextKind kind now).2 :=
  (shrinks_filter s _).trans (shrinks_take _ _)

theorem shrinks_cancelKind (s : WorkSchedulerV1) (workId : Text) (kind : WorkKindV1)
    (reason : CancellationReasonV1) : s.Shrinks (s.cancelKind workId kind reason).2 := by
  unfold cancelKind
  split
  · exact shrinks_filter s _
  · exact .refl s

/-! ## The clock -/

theorem stale_some_eq_none {visual : VisualWorkAddressV1} :
    s.stale (some visual) = none ↔ s.visualGenerationId < visual.generationId ∨
      (s.visualGenerationId = visual.generationId ∧ s.visualFrameId ≤ visual.frameId) := by
  unfold stale
  dsimp only
  split_ifs with hgeneration hframe
  · simp only [false_iff]
    omega
  · simp only [false_iff]
    omega
  · simp only [true_iff]
    omega

theorem clockLe_moveClock (h : s.stale item.visual = none) :
    ClockLe s (s.moveClock item.visual) := by
  cases hvisual : item.visual with
  | none => exact .inr ⟨rfl, le_rfl⟩
  | some visual =>
    rw [hvisual] at h
    exact stale_some_eq_none.1 h

@[simp] theorem moveClock_pending (s : WorkSchedulerV1) (visual : Option VisualWorkAddressV1) :
    (s.moveClock visual).pending = s.pending := by
  cases visual <;> rfl

@[simp] theorem moveClock_policy (s : WorkSchedulerV1) (visual : Option VisualWorkAddressV1) :
    (s.moveClock visual).policy = s.policy := by
  cases visual <;> rfl

@[simp] theorem moveClock_sequence (s : WorkSchedulerV1) (visual : Option VisualWorkAddressV1) :
    (s.moveClock visual).sequence = s.sequence := by
  cases visual <;> rfl

theorem moveClock_address {visual : VisualWorkAddressV1} :
    (s.moveClock (some visual)).address = visual := rfl

end WorkSchedulerV1

/-! ## The invariant -/

/-- The entry belongs to the current capture, if it belongs to one at all. -/
structure Current (address : VisualWorkAddressV1) (item : WorkItemV1) : Prop where
  kind : item.kind.isVisual = item.visual.isSome
  address : ∀ visual, item.visual = some visual → visual = address

structure SchedulerInv (s : WorkSchedulerV1) : Prop where
  capacity : 0 < s.policy.maximumPending
  bounded : s.pending.length ≤ s.policy.maximumPending
  ids : (s.pending.map ScheduledWorkV1.workId).Nodup
  numbered : ∀ work ∈ s.pending, work.sequence ≤ s.sequence
  current : ∀ work ∈ s.pending, Current s.address work.item
  single : s.pending.Pairwise fun a b => a.item.kind.isVisual = true → a.item.kind ≠ b.item.kind

namespace SchedulerInv

open WorkSchedulerV1

variable {s s' : WorkSchedulerV1} {item : WorkItemV1} {now : Nat}

theorem shrinks (h : SchedulerInv s) (hs : s.Shrinks s') : SchedulerInv s' := by
  obtain ⟨pending, hsub, rfl⟩ := hs
  exact ⟨h.capacity, hsub.length_le.trans h.bounded, (hsub.map _).nodup h.ids,
    fun work hwork => h.numbered work (hsub.subset hwork),
    fun work hwork => h.current work (hsub.subset hwork), h.single.sublist hsub⟩

/-- The clock moves on, and what is stale under it has left. -/
theorem advance (h : SchedulerInv s) {t : WorkSchedulerV1} (hclock : ClockLe s t)
    (hpolicy : t.policy = s.policy) (hsequence : t.sequence = s.sequence)
    (hsub : t.pending.Sublist s.pending) (hfresh : ∀ work ∈ t.pending,
      t.stale work.item.visual = none) : SchedulerInv t := by
  refine ⟨hpolicy ▸ h.capacity, ?_, (hsub.map _).nodup h.ids, ?_, ?_, h.single.sublist hsub⟩
  · rw [hpolicy]
    exact hsub.length_le.trans h.bounded
  · intro work hwork
    rw [hsequence]
    exact h.numbered work (hsub.subset hwork)
  · intro work hwork
    obtain ⟨hkind, haddress⟩ := h.current work (hsub.subset hwork)
    refine ⟨hkind, ?_⟩
    intro visual hvisual
    have hnone := hfresh work hwork
    rw [hvisual, stale_some_eq_none] at hnone
    obtain rfl := haddress visual hvisual
    simp only [ClockLe, address, VisualWorkAddressV1.mk.injEq] at hclock hnone ⊢
    omega

end SchedulerInv

/-! ## Submitting -/

variable {item : WorkItemV1} {s : WorkSchedulerV1}

theorem displaced_eq_none {existing : ScheduledWorkV1} (h : s.displaced item existing = none) :
    s.stale existing.item.visual = none ∧
      (item.kind.isVisual = true → existing.item.kind ≠ item.kind) := by
  simp only [WorkSchedulerV1.displaced, Option.or_eq_none_iff] at h
  obtain ⟨hstale, -, hsuperseded⟩ := h
  refine ⟨hstale, ?_⟩
  intro hvisual hkind
  rw [if_pos ⟨hvisual, hkind ▸ hvisual, hkind⟩] at hsuperseded
  cases hsuperseded

/-- The item has passed the checks of `submit`. -/
structure Fresh (s : WorkSchedulerV1) (item : WorkItemV1) (now : Nat) : Prop where
  valid : validateWorkItem item now = .ok ()
  unknown : item.workId ∉ s.pending.map ScheduledWorkV1.workId
  current : s.stale item.visual = none

/-- Pending work has to make way for the item: it is displaced, or it is the lowest of a full
queue. -/
def MakesWay (s : WorkSchedulerV1) (item : WorkItemV1) : Prop :=
  (∃ work ∈ s.pending, (s.moveClock item.visual).displaced item work ≠ none) ∨
    (s.policy.maximumPending ≤ s.pending.length ∧
      ∃ work ∈ s.pending, work.item.kind.priority < item.kind.priority)

/-- There is room for the item: what is left pending, and what was cancelled for it. -/
structure Room (s : WorkSchedulerV1) (item : WorkItemV1) (kept : List ScheduledWorkV1)
    (cancellations : List WorkCancellationV1) : Prop where
  sublist : kept.Sublist s.pending
  room : kept.length < s.policy.maximumPending
  undisturbed : ∀ work ∈ kept, (s.moveClock item.visual).displaced item work = none
  reported : (s.pending.map ScheduledWorkV1.workId).Perm
    (cancellations.map WorkCancellationV1.workId ++ kept.map ScheduledWorkV1.workId)
  cancelled : cancellations ≠ [] ↔ MakesWay s item

variable {work : ScheduledWorkV1}

namespace WorkSchedulerV1

variable {s : WorkSchedulerV1} {item : WorkItemV1} {now : Nat}

theorem sweep_reported (s : WorkSchedulerV1)
    (reason : ScheduledWorkV1 → Option CancellationReasonV1) :
    (s.pending.map ScheduledWorkV1.workId).Perm
      ((s.sweep reason).2.map WorkCancellationV1.workId ++
        (s.sweep reason).1.pending.map ScheduledWorkV1.workId) := by
  have hreported := perm_filterMap_filter
    (fun work => (reason work).map (WorkCancellationV1.mk work.workId)) WorkCancellationV1.workId
    ScheduledWorkV1.workId (by simp +contextual [eq_comm]) s.pending
  simpa only [sweep, Option.isNone_map] using hreported

theorem remove_perm (hids : (s.pending.map ScheduledWorkV1.workId).Nodup)
    (hwork : work ∈ s.pending) : s.pending.Perm (work :: (s.remove work.workId).pending) :=
  perm_cons_filter_key hids hwork

theorem lowest_eq_some (h : s.lowest = some work) :
    work ∈ s.pending ∧ ∀ other ∈ s.pending, work.item.kind.priority ≤ other.item.kind.priority := by
  refine ⟨List.argmin_mem h, ?_⟩
  intro other hother
  rcases Prod.Lex.toLex_le_toLex.1 (List.le_of_mem_argmin hother h) with hlt | heq
  · exact hlt.le
  · exact heq.1.le

variable {reason : ScheduledWorkV1 → Option CancellationReasonV1}

theorem sweep_cancellations_ne_nil :
    (s.sweep reason).2 ≠ [] ↔ ∃ work ∈ s.pending, reason work ≠ none := by
  simp [sweep, List.filterMap_eq_nil_iff]

/-- A sweep that leaves as many entries as there were finds none to take out. -/
theorem sweep_of_length_le (h : s.pending.length ≤ (s.sweep reason).1.pending.length) :
    s.sweep reason = (s, []) ∧ ∀ work ∈ s.pending, reason work = none := by
  have hkept : s.pending.filter (fun work => (reason work).isNone) = s.pending :=
    List.filter_sublist.eq_of_length_le h
  have hnone : ∀ work ∈ s.pending, reason work = none := by
    intro work hwork
    simpa using List.filter_eq_self.1 hkept work hwork
  refine ⟨Prod.ext ?_ ?_, hnone⟩
  · simp only [sweep, hkept]
  · simpa [sweep, List.filterMap_eq_nil_iff] using hnone

/-- The sweep has made room. -/
theorem room_of_swept {swept : WorkSchedulerV1} {cancellations : List WorkCancellationV1}
    (hsweep : (s.moveClock item.visual).sweep ((s.moveClock item.visual).displaced item) =
      (swept, cancellations))
    (hroom : swept.pending.length < s.policy.maximumPending) :
    Room s item swept.pending cancellations := by
  have hpending := moveClock_pending s item.visual
  have hreported := sweep_reported (s.moveClock item.visual)
    ((s.moveClock item.visual).displaced item)
  have hcancelled := @sweep_cancellations_ne_nil (s.moveClock item.visual)
    ((s.moveClock item.visual).displaced item)
  rw [hsweep, hpending] at hreported hcancelled
  have hkept : swept.pending =
      s.pending.filter fun work => ((s.moveClock item.visual).displaced item work).isNone := by
    rw [← hpending]
    exact (congrArg (fun result => result.1.pending) hsweep).symm
  refine ⟨hkept ▸ List.filter_sublist, hroom, ?_, hreported, ?_⟩
  · intro work hwork
    rw [hkept] at hwork
    simpa using (List.mem_filter.1 hwork).2
  · rw [hcancelled]
    constructor
    · exact .inl
    · rintro (hdisplaced | ⟨hfull, -⟩)
      · exact hdisplaced
      · by_contra hnone
        push Not at hnone
        rw [hkept, List.filter_eq_self.2 (fun work hwork => by simp [hnone work hwork])] at hroom
        omega

/-- A full queue in which nothing is displaced gives up its lowest entry. -/
theorem room_of_lowest (h : SchedulerInv s) {lowest : ScheduledWorkV1} (hmem : lowest ∈ s.pending)
    (hnone : ∀ work ∈ s.pending, (s.moveClock item.visual).displaced item work = none)
    (hfull : s.policy.maximumPending ≤ s.pending.length)
    (hprefer : lowest.item.kind.priority < item.kind.priority) :
    Room s item (s.remove lowest.workId).pending [⟨lowest.workId, .queueCapacity⟩] := by
  have hperm := remove_perm h.ids hmem
  refine ⟨List.filter_sublist, ?_, ?_, hperm.map _, ?_⟩
  · have hlength := hperm.length_eq
    have hbounded := h.bounded
    rw [List.length_cons] at hlength
    omega
  · intro work hwork
    exact hnone work (List.mem_of_mem_filter hwork)
  · exact iff_of_true (List.cons_ne_nil _ _) (.inr ⟨hfull, lowest, hmem, hprefer⟩)

/-- What a submit does. -/
theorem submit_cases (h : SchedulerInv s) (item : WorkItemV1) (now : Nat) :
    (∃ error, s.submit item now = (.error error, s) ∧ ¬Fresh s item now) ∨
    (∃ reason, s.submit item now = (.ok ⟨false, [⟨item.workId, reason⟩]⟩, s) ∧
      ¬Fresh s item now) ∨
    (s.submit item now =
        (.ok ⟨false, [⟨item.workId, .queueCapacity⟩]⟩, s.moveClock item.visual) ∧
      Fresh s item now ∧ ¬MakesWay s item) ∨
    ∃ kept cancellations, Fresh s item now ∧ Room s item kept cancellations ∧
      s.submit item now =
        { s.moveClock item.visual with pending := kept }.enqueue item cancellations := by
  cases hvalid : validateWorkItem item now with
  | error error =>
    refine .inl ⟨error, by simp only [submit, hvalid], ?_⟩
    intro hfresh
    rw [hfresh.valid] at hvalid
    cases hvalid
  | ok _ =>
  by_cases hunknown : item.workId ∈ s.pending.map ScheduledWorkV1.workId
  · exact .inl ⟨.duplicateWorkId, by simp only [submit, hvalid, if_pos hunknown],
      fun hfresh => hfresh.unknown hunknown⟩
  cases hstale : s.stale item.visual with
  | some reason =>
    refine .inr (.inl ⟨reason, by simp only [submit, hvalid, if_neg hunknown, hstale], ?_⟩)
    intro hfresh
    rw [hfresh.current] at hstale
    cases hstale
  | none =>
  have hfresh : Fresh s item now := ⟨hvalid, hunknown, hstale⟩
  have hpending := moveClock_pending s item.visual
  have hpolicy := moveClock_policy s item.visual
  obtain ⟨swept, cancellations, hsweep⟩ : ∃ swept cancellations,
      (s.moveClock item.visual).sweep ((s.moveClock item.visual).displaced item) =
        (swept, cancellations) := ⟨_, _, rfl⟩
  have hsubmit : s.submit item now = swept.admitItem item cancellations := by
    simp only [submit, hvalid, if_neg hunknown, hstale, hsweep]
  have hswept : swept = { s.moveClock item.visual with pending := swept.pending } := by
    obtain rfl := (congrArg Prod.fst hsweep).symm
    rfl
  by_cases hfull : s.policy.maximumPending ≤ swept.pending.length
  · -- a full queue has been swept of nothing
    have hlength : (s.moveClock item.visual).pending.length ≤ swept.pending.length := by
      rw [hpending]
      exact h.bounded.trans hfull
    obtain ⟨hsame, hnone⟩ := sweep_of_length_le (by rw [hsweep]; exact hlength)
    obtain ⟨rfl, rfl⟩ := Prod.mk.inj (hsweep.symm.trans hsame)
    rw [hpending] at hnone hfull
    cases hlowest : (s.moveClock item.visual).lowest with
    | none =>
      have hempty := List.argmin_eq_none.1 hlowest
      rw [hpending] at hempty
      rw [hempty] at hfull
      exact absurd hfull (Nat.not_le.2 h.capacity)
    | some lowest =>
      obtain ⟨hmem, hleast⟩ := lowest_eq_some hlowest
      rw [hpending] at hmem hleast
      by_cases hprefer : lowest.item.kind.priority < item.kind.priority
      · refine .inr (.inr (.inr ⟨_, _, hfresh, room_of_lowest h hmem hnone hfull hprefer, ?_⟩))
        rw [hsubmit]
        simp only [admitItem, hpolicy, hpending, if_pos hfull, hlowest, if_pos hprefer,
          List.nil_append, remove]
      · refine .inr (.inr (.inl ⟨?_, hfresh, ?_⟩))
        · rw [hsubmit]
          simp only [admitItem, hpolicy, hpending, if_pos hfull, hlowest, if_neg hprefer,
            List.nil_append]
        · rintro (⟨work, hwork, hdisplaced⟩ | ⟨-, work, hwork, hlower⟩)
          · exact hdisplaced (hnone work hwork)
          · exact hprefer (Nat.lt_of_le_of_lt (hleast work hwork) hlower)
  · refine .inr (.inr (.inr ⟨_, _, hfresh, room_of_swept hsweep (Nat.lt_of_not_le hfull), ?_⟩))
    have hsweptPolicy : swept.policy = s.policy := by
      rw [hswept]
      exact hpolicy
    rw [hsubmit, ← hswept]
    simp only [admitItem, hsweptPolicy, if_neg hfull]

theorem enqueue_cases (s : WorkSchedulerV1) (item : WorkItemV1)
    (cancellations : List WorkCancellationV1) :
    (s.sequence + 1 ≤ u64Max ∧ s.enqueue item cancellations =
      (.ok ⟨true, cancellations⟩,
        { s with
          sequence := s.sequence + 1
          pending := s.pending.orderedInsert (fun a b => a.workId ≤ b.workId)
            ⟨s.sequence + 1, item⟩ })) ∨
    (u64Max ≤ s.sequence ∧ s.enqueue item cancellations = (.error .sequenceOverflow, s)) := by
  unfold enqueue
  split_ifs with hsequence
  · exact .inl ⟨hsequence, rfl⟩
  · exact .inr ⟨by omega, rfl⟩

end WorkSchedulerV1

/-! ## Every call keeps the invariant -/

namespace SchedulerInv

open WorkSchedulerV1

variable {s : WorkSchedulerV1} {item : WorkItemV1} {now : Nat} {kept : List ScheduledWorkV1}
  {cancellations : List WorkCancellationV1} (h : SchedulerInv s)

include h

theorem room (hfresh : Fresh s item now) (hroom : Room s item kept cancellations) :
    SchedulerInv { s.moveClock item.visual with pending := kept } := by
  refine h.advance (clockLe_moveClock hfresh.current) (moveClock_policy s _)
    (moveClock_sequence s _) hroom.sublist ?_
  intro work hwork
  exact (displaced_eq_none (hroom.undisturbed work hwork)).1

theorem enqueue (hfresh : Fresh s item now) (hroom : Room s item kept cancellations) :
    SchedulerInv
      ({ s.moveClock item.visual with pending := kept }.enqueue item cancellations).2 := by
  have ht := h.room hfresh hroom
  rcases enqueue_cases { s.moveClock item.visual with pending := kept } item cancellations with
    ⟨-, henqueue⟩ | ⟨-, henqueue⟩
  swap
  · rw [henqueue]
    exact ht
  rw [henqueue]
  set new : ScheduledWorkV1 := ⟨(s.moveClock item.visual).sequence + 1, item⟩ with hnew
  have hperm : (kept.orderedInsert (fun a b => a.workId ≤ b.workId) new).Perm (new :: kept) :=
    List.perm_orderedInsert _ _ _
  refine ⟨ht.capacity, ?_, ?_, ?_, ?_, ?_⟩
  · have hlength := hperm.length_eq
    have hlt := hroom.room
    rw [List.length_cons] at hlength
    rw [hlength, moveClock_policy]
    omega
  · refine (hperm.map ScheduledWorkV1.workId).nodup_iff.2 (List.nodup_cons.2 ⟨?_, ht.ids⟩)
    intro hmem
    exact hfresh.unknown ((hroom.sublist.map _).subset hmem)
  · intro work hwork
    rcases List.mem_cons.1 (hperm.mem_iff.1 hwork) with rfl | hwork
    · exact Nat.le_refl _
    · exact Nat.le_succ_of_le (ht.numbered work hwork)
  · intro work hwork
    rcases List.mem_cons.1 (hperm.mem_iff.1 hwork) with rfl | hwork
    · refine ⟨?_, ?_⟩
      · have hvalid := hfresh.valid
        simp only [validateWorkItem, bind_eq_ok, require_eq_ok, beq_iff_eq] at hvalid
        obtain ⟨_, -, _, -, _, hkind, -⟩ := hvalid
        exact hkind
      · intro visual hvisual
        show visual = (s.moveClock item.visual).address
        rw [show item.visual = some visual from hvisual, moveClock_address]
    · exact ht.current work hwork
  · have hsymm : Std.Symm fun a b : ScheduledWorkV1 =>
        a.item.kind.isVisual = true → a.item.kind ≠ b.item.kind :=
      ⟨fun a b hab hvisual hkind => hab (hkind ▸ hvisual) hkind.symm⟩
    refine (hperm.pairwise_iff fun hab => hsymm.symm _ _ hab).2
      (List.pairwise_cons.2 ⟨?_, ht.single⟩)
    intro work hwork hvisual hkind
    exact (displaced_eq_none (hroom.undisturbed work hwork)).2 hvisual hkind.symm

theorem moveClock (hfresh : Fresh s item now) (hkept : ¬MakesWay s item) :
    SchedulerInv (s.moveClock item.visual) := by
  refine h.advance (clockLe_moveClock hfresh.current) (moveClock_policy s _)
    (moveClock_sequence s _) (moveClock_pending s _ ▸ List.Sublist.refl _) ?_
  intro work hwork
  rw [moveClock_pending] at hwork
  by_contra hstale
  refine hkept (.inl ⟨work, hwork, ?_⟩)
  intro hnone
  exact hstale (displaced_eq_none hnone).1

theorem submit (item : WorkItemV1) (now : Nat) : SchedulerInv (s.submit item now).2 := by
  rcases submit_cases h item now with
    ⟨error, hsubmit, -⟩ | ⟨reason, hsubmit, -⟩ | ⟨hsubmit, hfresh, hkept⟩ |
      ⟨kept, cancellations, hfresh, hroom, hsubmit⟩
  · rw [hsubmit]
    exact h
  · rw [hsubmit]
    exact h
  · rw [hsubmit]
    exact h.moveClock hfresh hkept
  · rw [hsubmit]
    exact h.enqueue hfresh hroom

theorem advanceVisualClock (generationId frameId now : Nat) :
    ClockLe s (s.advanceVisualClock generationId frameId now).2 ∧
      SchedulerInv (s.advanceVisualClock generationId frameId now).2 := by
  unfold WorkSchedulerV1.advanceVisualClock
  split_ifs with hback
  · exact ⟨.inr ⟨rfl, le_rfl⟩, h⟩
  · have hclock : ClockLe s { s with
        visualGenerationId := generationId, visualFrameId := frameId } := by
      simp only [ClockLe]
      omega
    refine ⟨hclock, h.advance hclock rfl rfl List.filter_sublist ?_⟩
    intro work hwork
    have hnone := (List.mem_filter.1 hwork).2
    dsimp only at hnone
    split_ifs at hnone with hexpired
    · cases hnone
    · exact Option.isNone_iff_eq_none.1 hnone

end SchedulerInv

theorem ClockLe.refl (s : WorkSchedulerV1) : ClockLe s s := .inr ⟨rfl, le_rfl⟩

theorem WorkSchedulerV1.Shrinks.clockLe {s s' : WorkSchedulerV1} (h : s.Shrinks s') :
    ClockLe s s' := by
  obtain ⟨pending, -, rfl⟩ := h
  exact .refl s

/-- The calls that only take entries out. -/
theorem shrinks_workStep (s : WorkSchedulerV1) {call : WorkCall}
    (hsubmit : ∀ item now, call ≠ .submit item now)
    (hadvance : ∀ generationId frameId now,
      call ≠ .advanceVisualClock generationId frameId now) : s.Shrinks (workStep call s) := by
  cases call with
  | submit item now => exact absurd rfl (hsubmit item now)
  | advanceVisualClock generationId frameId now =>
    exact absurd rfl (hadvance generationId frameId now)
  | popNext now => exact s.shrinks_popNext now
  | popNextKind kind now => exact s.shrinks_popNextKind kind now
  | cancelKind workId kind reason => exact s.shrinks_cancelKind workId kind reason
  | cancelAllKind kind reason => exact s.shrinks_filter _
  | cancelAll reason => exact s.shrinks_filter _
  | applyPressure level now => exact s.shrinks_filter _

/-! ## What the calls answer -/

/-- Pending work that has not expired and belongs to no older capture. -/
structure Live (s : WorkSchedulerV1) (now : Nat) (work : ScheduledWorkV1) : Prop where
  pending : work ∈ s.pending
  deadline : now < work.item.deadlineMonotonicMillis
  address : ∀ visual, work.item.visual = some visual → visual = s.address

/-- `work` goes before `other`: a higher priority, or the same and submitted earlier. -/
def Before (work other : ScheduledWorkV1) : Prop :=
  other.item.kind.priority < work.item.kind.priority ∨
    (other.item.kind.priority = work.item.kind.priority ∧ work.sequence ≤ other.sequence)

/-- What one call promises. -/
structure CallSound (s : WorkSchedulerV1) (call : WorkCall) : Prop where
  clock : ClockLe s (workStep call s)
  refused : ∀ item now cancellations, call = .submit item now →
    (s.submit item now).1 = .ok ⟨false, cancellations⟩ → (workStep call s).pending = s.pending
  youngest : ∀ item now cancellations, call = .submit item now →
    (s.submit item now).1 = .ok ⟨true, cancellations⟩ →
      ∃ work ∈ (workStep call s).pending, work.item = item ∧
        ∀ other ∈ s.pending, other.sequence < work.sequence
  popped : ∀ now item, call = .popNext now → (s.popNext now).1 = some item →
    ∃ work, Live s now work ∧ work.item = item ∧
      ∀ other ∈ s.pending, now < other.item.deadlineMonotonicMillis → Before work other
  poppedKind : ∀ kind now item, call = .popNextKind kind now →
    (s.popNextKind kind now).1 = some item →
      ∃ work, Live s now work ∧ work.item = item ∧ item.kind = kind ∧
        ∀ other ∈ s.pending, now < other.item.deadlineMonotonicMillis → other.item.kind = kind →
          Before work other

namespace SchedulerInv

open WorkSchedulerV1

variable {s : WorkSchedulerV1} {now : Nat}

theorem live (h : SchedulerInv s) (hwork : work ∈ (s.dropExpired now).pending) :
    Live s now work := by
  obtain ⟨hmem, hdeadline⟩ := List.mem_filter.1 hwork
  exact ⟨hmem, of_decide_eq_true hdeadline, (h.current work hmem).address⟩

theorem take_eq_some {next : Option ScheduledWorkV1} (h : (s.take next).1 = some item) :
    ∃ work, next = some work ∧ work.item = item := by
  cases next with
  | none => cases h
  | some work => exact ⟨work, rfl, Option.some.inj h⟩

theorem popped (h : SchedulerInv s) (hpop : (s.popNext now).1 = some item) :
    ∃ work, Live s now work ∧ work.item = item ∧
      ∀ other ∈ s.pending, now < other.item.deadlineMonotonicMillis → Before work other := by
  obtain ⟨work, hnext, hitem⟩ := take_eq_some hpop
  refine ⟨work, h.live (List.mem_reverse.1 (List.argmax_mem hnext)), hitem, ?_⟩
  intro other hother hdeadline
  have hlive : other ∈ (s.dropExpired now).pending.reverse :=
    List.mem_reverse.2 (List.mem_filter.2 ⟨hother, decide_eq_true hdeadline⟩)
  rcases Prod.Lex.toLex_le_toLex.1 (List.le_of_mem_argmax hlive hnext) with hlt | ⟨heq, hle⟩
  · exact .inl hlt
  · exact .inr ⟨heq, hle⟩

theorem poppedKind (h : SchedulerInv s) {kind : WorkKindV1}
    (hpop : (s.popNextKind kind now).1 = some item) :
    ∃ work, Live s now work ∧ work.item = item ∧ item.kind = kind ∧
      ∀ other ∈ s.pending, now < other.item.deadlineMonotonicMillis → other.item.kind = kind →
        Before work other := by
  obtain ⟨work, hnext, rfl⟩ := take_eq_some hpop
  obtain ⟨hmem, hkind⟩ := List.mem_filter.1 (List.argmin_mem hnext)
  refine ⟨work, h.live hmem, rfl, of_decide_eq_true hkind, ?_⟩
  intro other hother hdeadline hsame
  have hlive : other ∈ (s.dropExpired now).pending.filter
      (fun work => decide (work.item.kind = kind)) :=
    List.mem_filter.2 ⟨List.mem_filter.2 ⟨hother, decide_eq_true hdeadline⟩,
      decide_eq_true hsame⟩
  refine .inr ⟨?_, List.le_of_mem_argmin hlive hnext⟩
  rw [hsame, of_decide_eq_true hkind]

variable {cancellations : List WorkCancellationV1} (h : SchedulerInv s)

include h

theorem submit_refused (hsubmit : (s.submit item now).1 = .ok ⟨false, cancellations⟩) :
    (s.submit item now).2.pending = s.pending := by
  rcases submit_cases h item now with
    ⟨error, hcase, -⟩ | ⟨reason, hcase, -⟩ | ⟨hcase, -⟩ | ⟨kept, cancelled, -, -, hcase⟩
  · rw [hcase]
  · rw [hcase]
  · rw [hcase]
    exact moveClock_pending s _
  · rw [hcase] at hsubmit
    rcases enqueue_cases { s.moveClock item.visual with pending := kept } item cancelled with
      ⟨-, henqueue⟩ | ⟨-, henqueue⟩
    · rw [henqueue] at hsubmit
      simp at hsubmit
    · rw [henqueue] at hsubmit
      cases hsubmit

theorem submit_accepted (hsubmit : (s.submit item now).1 = .ok ⟨true, cancellations⟩) :
    ∃ work ∈ (s.submit item now).2.pending, work.item = item ∧
      ∀ other ∈ s.pending, other.sequence < work.sequence := by
  rcases submit_cases h item now with
    ⟨error, hcase, -⟩ | ⟨reason, hcase, -⟩ | ⟨hcase, -⟩ | ⟨kept, cancelled, -, -, hcase⟩
  · rw [hcase] at hsubmit
    cases hsubmit
  · rw [hcase] at hsubmit
    simp at hsubmit
  · rw [hcase] at hsubmit
    simp at hsubmit
  · rcases enqueue_cases { s.moveClock item.visual with pending := kept } item cancelled with
      ⟨-, henqueue⟩ | ⟨-, henqueue⟩
    · rw [hcase, henqueue]
      refine ⟨⟨(s.moveClock item.visual).sequence + 1, item⟩,
        (List.mem_orderedInsert _).2 (.inl rfl), rfl, ?_⟩
      intro other hother
      rw [moveClock_sequence]
      exact Nat.lt_succ_of_le (h.numbered other hother)
    · rw [hcase, henqueue] at hsubmit
      cases hsubmit

theorem submit_clock (item : WorkItemV1) (now : Nat) : ClockLe s (s.submit item now).2 := by
  rcases submit_cases h item now with
    ⟨error, hcase, -⟩ | ⟨reason, hcase, -⟩ | ⟨hcase, hfresh, -⟩ |
      ⟨kept, cancelled, hfresh, -, hcase⟩
  · rw [hcase]
    exact .refl s
  · rw [hcase]
    exact .refl s
  · rw [hcase]
    exact clockLe_moveClock hfresh.current
  · rw [hcase]
    rcases enqueue_cases { s.moveClock item.visual with pending := kept } item cancelled with
      ⟨-, henqueue⟩ | ⟨-, henqueue⟩
    · rw [henqueue]
      exact clockLe_moveClock hfresh.current
    · rw [henqueue]
      exact clockLe_moveClock hfresh.current

theorem clock (call : WorkCall) : ClockLe s (workStep call s) := by
  cases call with
  | submit item now => exact h.submit_clock item now
  | advanceVisualClock generationId frameId now =>
    exact (h.advanceVisualClock generationId frameId now).1
  | _ => exact (shrinks_workStep s (by simp) (by simp)).clockLe

theorem callSound (call : WorkCall) : CallSound s call := by
  refine ⟨h.clock call, ?_, ?_, ?_, ?_⟩
  · rintro item now cancellations rfl hsubmit
    exact h.submit_refused hsubmit
  · rintro item now cancellations rfl hsubmit
    exact h.submit_accepted hsubmit
  · rintro now item rfl hpop
    exact h.popped hpop
  · rintro kind now item rfl hpop
    exact h.poppedKind hpop

end SchedulerInv

theorem SchedulerInv.step (h : SchedulerInv s) (call : WorkCall) :
    SchedulerInv (workStep call s) := by
  cases call with
  | submit item now => exact h.submit item now
  | advanceVisualClock generationId frameId now =>
    exact (h.advanceVisualClock generationId frameId now).2
  | _ => exact h.shrinks (shrinks_workStep s (by simp) (by simp))

theorem schedulerInv_withPolicy {policy : WorkQueuePolicyV1}
    (h : WorkSchedulerV1.withPolicy policy = .ok s) : SchedulerInv s := by
  simp only [WorkSchedulerV1.withPolicy, WorkQueuePolicyV1.validate, bind_eq_ok, require_eq_ok,
    pure_eq_ok, Bool.and_eq_true, bne_iff_ne] at h
  obtain ⟨_, ⟨hpositive, -⟩, rfl⟩ := h
  exact ⟨Nat.pos_of_ne_zero hpositive, Nat.zero_le _, .nil, by simp, by simp, .nil⟩

/-- What the pending work of a state promises. -/
structure SchedulerSound (s : WorkSchedulerV1) : Prop where
  bounded : s.pending.length ≤ s.policy.maximumPending
  addressed : ∀ work ∈ s.pending, work.item.kind.isVisual = true →
    work.item.visual = some ⟨s.visualGenerationId, s.visualFrameId⟩
  single : ∀ kind : WorkKindV1, kind.isVisual = true →
    (s.pending.filter fun work => decide (work.item.kind = kind)).length ≤ 1

theorem SchedulerInv.sound (h : SchedulerInv s) : SchedulerSound s := by
  refine ⟨h.bounded, ?_, ?_⟩
  · intro work hwork hvisual
    obtain ⟨hkind, haddress⟩ := h.current work hwork
    rw [hkind, Option.isSome_iff_exists] at hvisual
    obtain ⟨visual, hsome⟩ := hvisual
    rw [hsome, haddress visual hsome]
    rfl
  · intro kind hvisual
    have hpairs := h.single.filter fun work => decide (work.item.kind = kind)
    have hkinds : ∀ work ∈ s.pending.filter (fun work => decide (work.item.kind = kind)),
        work.item.kind = kind := by
      intro work hwork
      exact of_decide_eq_true (List.mem_filter.1 hwork).2
    match hfiltered : s.pending.filter fun work => decide (work.item.kind = kind) with
    | [] => simp [hfiltered]
    | [_] => simp [hfiltered]
    | a :: b :: rest =>
      rw [hfiltered] at hpairs hkinds
      have ha := hkinds a (by simp)
      have hb := hkinds b (by simp)
      have hne := (List.pairwise_cons.1 hpairs).1 b (by simp) (ha ▸ hvisual)
      exact absurd (ha.trans hb.symm) hne

/-- **The scheduler's invariant.** In every state of every run the pending work is bounded, of the
current capture and one of each visual kind; no call moves the clock back, refuses with an effect
or pops expired, old or lesser work. -/
theorem scheduler_sound {policy : WorkQueuePolicyV1} {s : WorkSchedulerV1}
    (h : WorkSchedulerV1.withPolicy policy = .ok s) (calls : List WorkCall) :
    SchedulerSound (runFrom workStep calls s) ∧
      Along workStep CallSound calls s := by
  have hinv := schedulerInv_withPolicy h
  refine ⟨(inv_runFrom SchedulerInv (fun s call hs => hs.step call) hinv calls).sound, ?_⟩
  exact (along_of_forall (P := fun _ _ => True) (fun _ _ => trivial) calls s).mono_inv SchedulerInv
    (fun s call hs _ => hs.step call) (fun s call hs _ => hs.callSound call) hinv

/-- A lip sync item is queued and popped in time. -/
theorem scheduler_sound_one_item :
    SchedulerSound (runFrom workStep
        [.submit ⟨"lip-sync-1".toList, .lipSync, 1, 10, some ⟨1, 1⟩⟩ 5, .popNext 6]
        { policy := { maximumPending := 2 } }) ∧
      Along workStep CallSound
        [.submit ⟨"lip-sync-1".toList, .lipSync, 1, 10, some ⟨1, 1⟩⟩ 5, .popNext 6]
        { policy := { maximumPending := 2 } } :=
  @scheduler_sound { maximumPending := 2 } _ rfl _

end NpcRuntime.Packs
