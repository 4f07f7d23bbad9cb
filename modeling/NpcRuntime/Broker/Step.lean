import NpcRuntime.Broker.Operations

/-!
# What one call can do

Every invariant of the broker is proved from this file, never by unfolding an operation again.

* `SameBooks s s'`: the two states differ at most in pressure, diagnostics, telemetry and the
  cancellation flags of active records.
* `Sched`: the moves of the scheduler (`submit`, `poll_ready`, `cancel`): a quiet change, a record
  leaving the queue, a job entering it, an admission.
* `Effect`: what a whole call can do, one constructor for each operation that touches the books.

`poll_ready` takes the queue out of the state and rebuilds it. The moves above are stated for the
state whose queue still holds the records the loop has not reached (`withPending`), where
re-queueing a record is no move at all.
-/

namespace NpcRuntime.Broker

open Relation

variable {cfg : ResourceBrokerConfig}

/-! ## Quiet changes -/

/-- `r'` is `r` up to its cancellation flags. -/
def SameRecord (r r' : ActiveRecord) : Prop :=
  r' = { r with cancellation := r'.cancellation, cancelledByBroker := r'.cancelledByBroker }

theorem SameRecord.refl (r : ActiveRecord) : SameRecord r r := rfl

variable {r r' : ActiveRecord}

theorem SameRecord.job (h : SameRecord r r') : r'.job = r.job := by
  rw [SameRecord] at h
  rw [h]

theorem SameRecord.trans {r₁ r₂ r₃ : ActiveRecord} (h₁ : SameRecord r₁ r₂) (h₂ : SameRecord r₂ r₃) :
    SameRecord r₁ r₃ := by
  simp only [SameRecord] at *
  rw [h₂, h₁]

/-- Only pressure, diagnostics, telemetry and cancellation flags may differ. -/
structure SameBooks (s s' : BrokerState) : Prop where
  sequence : s'.sequence = s.sequence
  reservations : s'.reservations = s.reservations
  queued : s'.queued = s.queued
  targetHealth : s'.targetHealth = s.targetHealth
  residency : s'.residency = s.residency
  utteranceBindings : s'.utteranceBindings = s.utteranceBindings
  active : ∃ g : String → ActiveRecord → ActiveRecord,
    (∀ k r, SameRecord r (g k r)) ∧ s'.active = s.active.mapVal g

variable {s s' : BrokerState} {k : String}

namespace SameBooks

theorem of_active (h₁ : s'.sequence = s.sequence) (h₂ : s'.reservations = s.reservations)
    (h₃ : s'.queued = s.queued) (h₄ : s'.targetHealth = s.targetHealth)
    (h₅ : s'.residency = s.residency) (h₆ : s'.utteranceBindings = s.utteranceBindings)
    (h₇ : s'.active = s.active) : SameBooks s s' :=
  ⟨h₁, h₂, h₃, h₄, h₅, h₆, fun _ r => r, fun _ r => .refl r, by rw [Table.mapVal_id, h₇]⟩

theorem refl (s : BrokerState) : SameBooks s s := of_active rfl rfl rfl rfl rfl rfl rfl

theorem trans {s₁ s₂ s₃ : BrokerState} (h : SameBooks s₁ s₂) (h' : SameBooks s₂ s₃) :
    SameBooks s₁ s₃ := by
  obtain ⟨g, hg, ha⟩ := h.active
  obtain ⟨g', hg', ha'⟩ := h'.active
  refine ⟨h'.sequence.trans h.sequence, h'.reservations.trans h.reservations,
    h'.queued.trans h.queued, h'.targetHealth.trans h.targetHealth, h'.residency.trans h.residency,
    h'.utteranceBindings.trans h.utteranceBindings, fun k r => g' k (g k r),
    fun k r => (hg k r).trans (hg' k (g k r)), ?_⟩
  rw [ha', ha, Table.mapVal_mapVal]

variable (h : SameBooks s s')

include h

/-- The record of a job before and after a quiet change. -/
theorem lookup (hk : s'.active.lookup k = some r') :
    ∃ r, s.active.lookup k = some r ∧ SameRecord r r' := by
  obtain ⟨g, hg, ha⟩ := h.active
  rw [ha, Table.lookup_mapVal, Option.map_eq_some_iff] at hk
  obtain ⟨r, hr, rfl⟩ := hk
  exact ⟨r, hr, hg k r⟩

theorem lookup' (hk : s.active.lookup k = some r) :
    ∃ r', s'.active.lookup k = some r' ∧ SameRecord r r' := by
  obtain ⟨g, hg, ha⟩ := h.active
  exact ⟨g k r, by rw [ha, Table.lookup_mapVal, hk]; rfl, hg k r⟩

theorem lookup_eq_none (k : String) : s'.active.lookup k = none ↔ s.active.lookup k = none := by
  obtain ⟨g, -, ha⟩ := h.active
  rw [ha, Table.lookup_mapVal, Option.map_eq_none_iff]

/-- Quiet changes do not reach the queue. -/
theorem setQueued (qs : List QueuedRecord) :
    SameBooks { s with queued := qs } { s' with queued := qs } :=
  ⟨h.sequence, h.reservations, rfl, h.targetHealth, h.residency, h.utteranceBindings, h.active⟩

end SameBooks

/-- The same jobs are active, on the same targets and with the same amounts held. -/
def SameJobs (s s' : BrokerState) : Prop :=
  ∃ g : String → ActiveRecord → ActiveRecord,
    (∀ k r, (g k r).job = r.job ∧ (g k r).target = r.target ∧ (g k r).reserved = r.reserved) ∧
      s'.active = s.active.mapVal g

namespace SameJobs

theorem of_eq (h : s'.active = s.active) : SameJobs s s' :=
  ⟨fun _ r => r, fun _ _ => ⟨rfl, rfl, rfl⟩, by rw [Table.mapVal_id, h]⟩

theorem of_books (h : SameBooks s s') : SameJobs s s' := by
  obtain ⟨g, hg, ha⟩ := h.active
  exact ⟨g, fun k r => by rw [hg k r]; exact ⟨rfl, rfl, rfl⟩, ha⟩

theorem startOutput (s : BrokerState) (jobId : String) (record : ActiveRecord) :
    SameJobs s (startOutput s jobId record) := by
  refine ⟨_, fun k r => ?_, rfl⟩
  split <;> exact ⟨rfl, rfl, rfl⟩

theorem lookup (h : SameJobs s s') (hk : s'.active.lookup k = some r') :
    ∃ r, s.active.lookup k = some r ∧ r'.job = r.job ∧ r'.target = r.target ∧
      r'.reserved = r.reserved := by
  obtain ⟨g, hg, ha⟩ := h
  rw [ha, Table.lookup_mapVal, Option.map_eq_some_iff] at hk
  obtain ⟨r, hr, rfl⟩ := hk
  exact ⟨r, hr, hg k r⟩

/-- A total over jobs, targets and held amounts does not move. -/
theorem total (h : SameJobs s s') (f : ResourceJob → ComputeTarget → ResourceEstimate → Nat) :
    (s'.active.total fun r => f r.job r.target r.reserved) =
      s.active.total fun r => f r.job r.target r.reserved := by
  obtain ⟨g, hg, ha⟩ := h
  rw [ha]
  exact Table.total_mapVal fun k r _ => by rw [(hg k r).1, (hg k r).2.1, (hg k r).2.2]

end SameJobs

theorem sameBooks_pushDiagnostic (d : BrokerDiagnostic) (s : BrokerState) :
    SameBooks s (pushDiagnostic cfg d s) :=
  .of_active rfl rfl rfl rfl rfl rfl rfl

theorem sameBooks_foldl {α : Type*} (f : BrokerState → α → BrokerState)
    (hf : ∀ s a, SameBooks s (f s a)) (as : List α) (s : BrokerState) :
    SameBooks s (as.foldl f s) := by
  induction as generalizing s with
  | nil => exact .refl s
  | cons a as ih => exact (hf s a).trans (ih (f s a))

theorem sameBooks_escalateDegradationLocked (s : BrokerState) (nowMs : Nat) (reason : String) :
    SameBooks s (escalateDegradationLocked cfg s nowMs reason) := by
  simp only [escalateDegradationLocked]
  split
  · exact .of_active rfl rfl rfl rfl rfl rfl rfl
  · exact .refl s

theorem sameBooks_setPressure (s : BrokerState) (nowMs : Nat) (u : ℚ) :
    SameBooks s (setPressure cfg s nowMs u) := by
  simp only [setPressure]
  split
  · exact .of_active rfl rfl rfl rfl rfl rfl rfl
  · exact .refl s

theorem sameBooks_raiseToFloor (s : BrokerState) (nowMs : Nat) :
    SameBooks s (raiseToFloor cfg s nowMs) := by
  simp only [raiseToFloor]
  split
  · exact .of_active rfl rfl rfl rfl rfl rfl rfl
  · exact .refl s

theorem sameBooks_countGreenSample (s : BrokerState) (nowMs : Nat) :
    SameBooks s (countGreenSample cfg s nowMs) := by
  simp only [countGreenSample]
  split
  · split <;> exact .of_active rfl rfl rfl rfl rfl rfl rfl
  · exact .of_active rfl rfl rfl rfl rfl rfl rfl

theorem sameBooks_updatePressureLocked (ratio : Nat → Nat → ℚ) (s : BrokerState)
    (b : BudgetSnapshot) : SameBooks s (updatePressureLocked cfg ratio s b) :=
  ((sameBooks_setPressure s _ _).trans (sameBooks_raiseToFloor _ _)).trans
    (sameBooks_countGreenSample _ _)

theorem sameBooks_expireTransientOveragesLocked (s : BrokerState) (nowMs : Nat) :
    SameBooks s (expireTransientOveragesLocked cfg s nowMs) := by
  refine SameBooks.trans ?_
    (sameBooks_foldl _ (fun s a => sameBooks_pushDiagnostic _ s) _ _)
  refine ⟨rfl, rfl, rfl, rfl, rfl, rfl, _, fun _ r => ?_, rfl⟩
  split
  · rfl
  · exact .refl r

theorem sameBooks_observe (ratio : Nat → Nat → ℚ) (b : BudgetSnapshot)
    (accounted : BrokerAccountedGpuUsage) (s : BrokerState) :
    SameBooks s (observe cfg ratio b accounted s) := by
  have h₁ : SameBooks s { s with telemetryAccounted := accounted } :=
    .of_active rfl rfl rfl rfl rfl rfl rfl
  exact (h₁.trans (sameBooks_expireTransientOveragesLocked _ b.monotonicMs)).trans
    (sameBooks_updatePressureLocked ratio _ b)

/-! ## Scheduler moves -/

/-- One move of the scheduler under the snapshot `b`. -/
inductive Sched (cfg : ResourceBrokerConfig) (b : BudgetSnapshot) : BrokerState → BrokerState → Prop
  | quiet {s s' : BrokerState} : SameBooks s s' → Sched cfg b s s'
  | dequeue {s : BrokerState} {qs : List QueuedRecord} :
      qs.Subperm s.queued → Sched cfg b s { s with queued := qs }
  | enqueue {s : BrokerState} {job : ResourceJob} {sequence : Nat} :
      validateJob job = .ok () → isKnownJob s job.jobId = false →
      (∀ q ∈ s.queued, supersededBy job q = false) →
      Sched cfg b s { s with
        sequence := sequence
        queued := s.queued ++ [{ sequence := sequence, job := job }] }
  | admission {s : BrokerState} {job : ResourceJob} {target : ComputeTarget}
      {outcome : AdmissionOutcome} :
      validateJob job = .ok () → isKnownJob s job.jobId = false →
      selectTargetLocked cfg s b job true = some (target, outcome) →
      Sched cfg b s (admitLocked cfg s b job target outcome).1

theorem admitLocked_active (s : BrokerState) (b : BudgetSnapshot) (job : ResourceJob)
    (target : ComputeTarget) (outcome : AdmissionOutcome) :
    (admitLocked cfg s b job target outcome).1.active =
      s.active.insert job.jobId (admittedRecord cfg s b job target outcome) := rfl

theorem admitLocked_lookup_self (s : BrokerState) (b : BudgetSnapshot) (job : ResourceJob)
    (target : ComputeTarget) (outcome : AdmissionOutcome) :
    (admitLocked cfg s b job target outcome).1.active.lookup job.jobId =
      some (admittedRecord cfg s b job target outcome) := by
  rw [admitLocked_active, Table.lookup_insert_eq, if_pos rfl]

variable {b : BudgetSnapshot} {job : ResourceJob}

/-- Whoever is active after an admission is the new job or was active before. -/
theorem admitLocked_lookup_cases {target : ComputeTarget} {outcome : AdmissionOutcome}
    (hk : (admitLocked cfg s b job target outcome).1.active.lookup k = some r) :
    k = job.jobId ∧ r = admittedRecord cfg s b job target outcome ∨
      k ≠ job.jobId ∧ s.active.lookup k = some r := by
  rw [admitLocked_active, Table.lookup_insert_eq] at hk
  split_ifs at hk with hkj
  · exact .inl ⟨hkj, (Option.some.inj hk).symm⟩
  · exact .inr ⟨hkj, hk⟩

/-- Where an admission, the end of a lease and a quarantine move the residency table. -/
theorem admitLocked_residency (s : BrokerState) (b : BudgetSnapshot) (job : ResourceJob)
    (target : ComputeTarget) (outcome : AdmissionOutcome) :
    (registeredModelForTarget s target = none ∧
        (admitLocked cfg s b job target outcome).1.residency = s.residency) ∨
      ∃ record, registeredModelForTarget s target = some record ∧
        (admitLocked cfg s b job target outcome).1.residency =
          s.residency.modify record.spec.modelId (·.beginJob) := by
  cases hreg : registeredModelForTarget s target with
  | none => exact .inl ⟨rfl, by simp only [admitLocked, reserve, hreg, pushAdmission,
    pushDiagnostic,
      Option.map_none]⟩
  | some record => exact .inr ⟨record, rfl, by simp only [admitLocked, reserve, hreg, pushAdmission,
      pushDiagnostic, Option.map_some]⟩

theorem endLease_residency (s : BrokerState) (jobId : String) (active : ActiveRecord)
    (status : CompletionStatus) :
    (registeredModelForTarget s active.target = none ∧
        (endLease s jobId active status).residency = s.residency) ∨
      ∃ record, registeredModelForTarget s active.target = some record ∧
        (endLease s jobId active status).residency =
          s.residency.modify record.spec.modelId (·.endJob) := by
  have herase : registeredModelForTarget { s with active := s.active.erase jobId } active.target =
      registeredModelForTarget s active.target := rfl
  cases hreg : registeredModelForTarget s active.target with
  | none => exact .inl ⟨rfl, by simp only [endLease, release, herase, hreg, Option.map_none]⟩
  | some record =>
    exact .inr ⟨record, rfl, by simp only [endLease, release, herase, hreg, Option.map_some]⟩

theorem quarantineTarget_residency (s : BrokerState) (target : ComputeTarget)
    (untilMs nowMs : Nat) :
    (target.modelId = none ∧
        (quarantineTarget cfg s target untilMs nowMs).residency = s.residency) ∨
      ∃ modelId, target.modelId = some modelId ∧
        (quarantineTarget cfg s target untilMs nowMs).residency =
          s.residency.modify modelId (quarantineRecord untilMs) := by
  cases hm : target.modelId with
  | none => exact .inl ⟨rfl, by simp only [quarantineTarget, pushDiagnostic, hm]⟩
  | some modelId => exact .inr ⟨modelId, rfl, by simp only [quarantineTarget, pushDiagnostic, hm]⟩

/-- A chain of scheduler moves. -/
abbrev SchedChain (cfg : ResourceBrokerConfig) (b : BudgetSnapshot) :=
  ReflTransGen (Sched cfg b)

/-- The books are well formed: records stand under their own IDs, and a job is queued once, or
active, or neither. -/
structure BookInv (s : BrokerState) : Prop where
  keyed : ∀ k r, s.active.lookup k = some r → r.job.jobId = k
  registered : ∀ m record, s.residency.lookup m = some record → record.spec.modelId = m
  nodup : (s.queued.map (·.job.jobId)).Nodup
  disjoint : ∀ q ∈ s.queued, s.active.lookup q.job.jobId = none
  valid : ∀ q ∈ s.queued, validateJob q.job = .ok ()
  coalesced : s.queued.Pairwise fun p q => supersededBy p.job q = false

/-- Every record of the new residency table is one of the old table, up to fields other than its
model ID. -/
def SameModelIds (s s' : BrokerState) : Prop :=
  ∀ m record', s'.residency.lookup m = some record' →
    ∃ record, s.residency.lookup m = some record ∧ record'.spec.modelId = record.spec.modelId

theorem SameModelIds.of_eq (h : s'.residency = s.residency) :
    SameModelIds s s' := fun _ record' hm => ⟨record', h ▸ hm, rfl⟩

variable {modelId : String}

theorem SameModelIds.of_modify {g : ModelResidencyRecord → ModelResidencyRecord}
    (h : s'.residency = s.residency.modify modelId g)
    (hg : ∀ record, (g record).spec.modelId = record.spec.modelId) : SameModelIds s s' := by
  intro m record' hm
  rw [h, Table.lookup_modify] at hm
  split_ifs at hm
  · obtain ⟨record, hrec, rfl⟩ := Option.map_eq_some_iff.1 hm
    exact ⟨record, hrec, hg record⟩
  · exact ⟨record', hm, rfl⟩

variable {jobId : String}

theorem isKnownJob_eq_false :
    isKnownJob s jobId = false ↔
      s.active.lookup jobId = none ∧ ∀ q ∈ s.queued, q.job.jobId ≠ jobId := by
  simp [isKnownJob]

theorem supersededBy_iff {q : QueuedRecord} :
    supersededBy job q = true ↔
      ∃ key, job.dropPolicy = .supersede key ∧ q.job.dropPolicy = .supersede key := by
  simp only [supersededBy]
  split
  · rename_i key hkey
    rw [beq_iff_eq, hkey]
    constructor
    · exact fun hq => ⟨key, rfl, hq⟩
    · rintro ⟨key', h, hq⟩
      rw [h]
      exact hq
  · rename_i hne
    simp only [Bool.false_eq_true, false_iff, not_exists, not_and]
    exact fun key hkey => absurd hkey (hne key)

theorem supersededBy_symm {p q : QueuedRecord} (h : supersededBy p.job q = false) :
    supersededBy q.job p = false := by
  rw [← Bool.not_eq_true, supersededBy_iff] at *
  rintro ⟨key, hq, hp⟩
  exact h ⟨key, hp, hq⟩

namespace BookInv

theorem init : BookInv {} :=
  ⟨fun k r h => by simp at h, fun m r h => by simp at h, .nil, fun q hq => by simp at hq,
    fun q hq => by simp at hq, .nil⟩

/-- The invariant reads the queue, which job is active under which ID and which model is
registered under which ID. -/
theorem of_queued (h : BookInv s) (hq : s'.queued = s.queued) (hres : SameModelIds s s')
    (ha : ∀ k r', s'.active.lookup k = some r' → ∃ r, s.active.lookup k = some r ∧ r'.job = r.job) :
    BookInv s' where
  registered m record' hm := by
    obtain ⟨record, hrec, hid⟩ := hres m record' hm
    rw [hid]
    exact h.registered m record hrec
  keyed k r' hk := by
    obtain ⟨r, hr, hjob⟩ := ha k r' hk
    rw [hjob]
    exact h.keyed k r hr
  nodup := by rw [hq]; exact h.nodup
  disjoint q hmem := by
    rw [hq] at hmem
    by_contra hne
    obtain ⟨r', hr'⟩ := Option.ne_none_iff_exists'.1 hne
    obtain ⟨r, hr, -⟩ := ha _ r' hr'
    rw [h.disjoint q hmem] at hr
    cases hr
  valid q hmem := h.valid q (hq ▸ hmem)
  coalesced := by rw [hq]; exact h.coalesced

theorem quiet (h : BookInv s) (hb : SameBooks s s') : BookInv s' :=
  h.of_queued hb.queued (.of_eq hb.residency) fun k r' hk => by
    obtain ⟨r, hr, hrec⟩ := hb.lookup hk
    exact ⟨r, hr, by rw [hrec]⟩

theorem dequeue (h : BookInv s) {qs : List QueuedRecord} (hqs : qs.Subperm s.queued) :
    BookInv { s with queued := qs } := by
  obtain ⟨l, hperm, hsub⟩ := hqs
  have hmem : ∀ q ∈ qs, q ∈ s.queued := fun q hq => hsub.subset (hperm.symm.subset hq)
  exact {
    keyed := h.keyed
    registered := h.registered
    nodup := ((hperm.map _).nodup_iff).1 ((hsub.map _).nodup h.nodup)
    disjoint := fun q hq => h.disjoint q (hmem q hq)
    valid := fun q hq => h.valid q (hmem q hq)
    coalesced := (h.coalesced.sublist hsub).perm hperm fun hpq => supersededBy_symm hpq }

theorem enqueue (h : BookInv s) {sequence : Nat} (hvalid : validateJob job = .ok ())
    (hknown : isKnownJob s job.jobId = false) (hkey : ∀ q ∈ s.queued, supersededBy job q = false) :
    BookInv { s with
      sequence := sequence
      queued := s.queued ++ [{ sequence := sequence, job := job }] } := by
  obtain ⟨hactive, hqueued⟩ := isKnownJob_eq_false.1 hknown
  refine ⟨h.keyed, h.registered, ?_, ?_, ?_, ?_⟩
  · rw [List.map_append, List.nodup_append]
    refine ⟨h.nodup, by simp, ?_⟩
    intro a ha c hc
    obtain ⟨q, hq, rfl⟩ := List.mem_map.1 ha
    rw [List.map_singleton, List.mem_singleton] at hc
    rw [hc]
    exact hqueued q hq
  · intro q hq
    rcases List.mem_append.1 hq with hq | hq
    · exact h.disjoint q hq
    · rw [List.mem_singleton.1 hq]; exact hactive
  · intro q hq
    rcases List.mem_append.1 hq with hq | hq
    · exact h.valid q hq
    · rw [List.mem_singleton.1 hq]; exact hvalid
  · rw [List.pairwise_append]
    refine ⟨h.coalesced, List.pairwise_singleton _ _, ?_⟩
    intro p hp q hq
    rw [List.mem_singleton.1 hq]
    exact supersededBy_symm (p := { sequence := sequence, job := job }) (hkey p hp)

theorem admission {s : BrokerState} (h : BookInv s) {b : BudgetSnapshot} {target : ComputeTarget}
    {outcome : AdmissionOutcome} (hknown : isKnownJob s job.jobId = false) :
    BookInv (admitLocked cfg s b job target outcome).1 := by
  obtain ⟨-, hqueued⟩ := isKnownJob_eq_false.1 hknown
  have hids : SameModelIds s (admitLocked cfg s b job target outcome).1 := by
    obtain ⟨-, hres⟩ | ⟨record, -, hres⟩ := @admitLocked_residency cfg s b job target outcome
    · exact .of_eq hres
    · exact .of_modify hres fun _ => rfl
  refine ⟨?_, ?_, h.nodup, ?_, h.valid, h.coalesced⟩
  · intro k r hk
    rcases admitLocked_lookup_cases hk with ⟨rfl, rfl⟩ | ⟨-, hold⟩
    · rfl
    · exact h.keyed k r hold
  · intro m record hm
    obtain ⟨record', hrec', hid⟩ := hids m record hm
    rw [hid]
    exact h.registered m record' hrec'
  · intro q hq
    rw [admitLocked_active, Table.lookup_insert_eq, if_neg (hqueued q hq)]
    exact h.disjoint q hq

theorem sched (h : BookInv s) (hs : Sched cfg b s s') : BookInv s' := by
  cases hs with
  | quiet hb => exact h.quiet hb
  | dequeue hqs => exact h.dequeue hqs
  | enqueue hvalid hknown hkey => exact h.enqueue hvalid hknown hkey
  | admission _ hknown _ => exact h.admission hknown

theorem chain (h : BookInv s) (hs : SchedChain cfg b s s') : BookInv s' :=
  inv_chain BookInv (fun _ _ hr hi => hi.sched hr) hs h

end BookInv

/-! ## What scheduler moves leave alone -/

theorem SchedChain.utteranceBindings (h : SchedChain cfg b s s') :
    s'.utteranceBindings = s.utteranceBindings := by
  refine inv_chain (·.utteranceBindings = s.utteranceBindings) (fun _ _ hr hi => ?_) h rfl
  cases hr with
  | quiet hb => exact hb.utteranceBindings.trans hi
  | dequeue | enqueue | admission => exact hi

/-- An active record stays active under its ID. -/
theorem SchedChain.lookup (h : SchedChain cfg b s s') (hk : s.active.lookup k = some r) :
    ∃ r', s'.active.lookup k = some r' ∧ SameRecord r r' := by
  refine inv_chain (fun s' => ∃ r', s'.active.lookup k = some r' ∧ SameRecord r r')
    (fun _ _ hr hi => ?_) h ⟨r, hk, .refl r⟩
  obtain ⟨r', hk', hsame⟩ := hi
  cases hr with
  | quiet hb =>
    obtain ⟨r'', hk'', hsame'⟩ := hb.lookup' hk'
    exact ⟨r'', hk'', hsame.trans hsame'⟩
  | dequeue | enqueue => exact ⟨r', hk', hsame⟩
  | admission _ hknown _ =>
    refine ⟨r', ?_, hsame⟩
    rw [admitLocked_active, Table.lookup_insert_eq, if_neg]
    · exact hk'
    · rintro rfl
      rw [(isKnownJob_eq_false.1 hknown).1] at hk'
      cases hk'

/-! ## `submit` and `poll_ready` are chains of moves -/

theorem schedChain_quiet (h : SameBooks s s') : SchedChain cfg b s s' :=
  .single (.quiet h)

/-- Coalescing removes queued records and reports them. -/
theorem schedChain_supersedeQueued (s : BrokerState) (b : BudgetSnapshot) (job : ResourceJob) :
    SchedChain cfg b s (supersedeQueued cfg s b job) :=
  (ReflTransGen.single (.dequeue (List.filter_sublist).subperm)).trans <| schedChain_quiet <|
    sameBooks_foldl _ (fun _ _ => sameBooks_pushDiagnostic _ _) _ _

theorem supersedeQueued_queued (s : BrokerState) (b : BudgetSnapshot) (job : ResourceJob) :
    (supersedeQueued cfg s b job).queued = s.queued.filter fun q => !supersededBy job q :=
  (sameBooks_foldl _ (fun _ _ => sameBooks_pushDiagnostic _ _) _
    { s with queued := s.queued.filter fun q => !supersededBy job q }).queued

theorem isKnownJob_supersedeQueued (b : BudgetSnapshot) (h : isKnownJob s job.jobId = false) :
    isKnownJob (supersedeQueued cfg s b job) job.jobId = false := by
  obtain ⟨hactive, hqueued⟩ := isKnownJob_eq_false.1 h
  refine isKnownJob_eq_false.2 ⟨?_, ?_⟩
  · exact ((sameBooks_foldl _ (fun _ _ => sameBooks_pushDiagnostic _ _) _
      { s with queued := s.queued.filter fun q => !supersededBy job q }).lookup_eq_none _).2 hactive
  · intro q hq
    rw [supersedeQueued_queued] at hq
    exact hqueued q (List.mem_filter.1 hq).1

theorem schedChain_enqueueLocked (hvalid : validateJob job = .ok ())
    (hknown : isKnownJob s job.jobId = false) (hkey : ∀ q ∈ s.queued, supersededBy job q = false) :
    SchedChain cfg b s (enqueueLocked cfg s b job).1 := by
  have hquiet : SameBooks s (escalateDegradationLocked cfg s b.monotonicMs
      "admission could not fit current budget") := sameBooks_escalateDegradationLocked ..
  have hknown' := isKnownJob_eq_false.1 hknown
  refine (schedChain_quiet hquiet).trans ((ReflTransGen.single (.enqueue hvalid ?_ ?_)).trans
    (schedChain_quiet (sameBooks_pushDiagnostic _ _)))
  · refine isKnownJob_eq_false.2 ⟨(hquiet.lookup_eq_none _).2 hknown'.1, ?_⟩
    rw [hquiet.queued]
    exact hknown'.2
  · rw [hquiet.queued]
    exact hkey

/-- A lease handed out along a chain of moves from `s` to `s'`, with the state that admitted it. -/
def AdmittedAlong (cfg : ResourceBrokerConfig) (b : BudgetSnapshot) (s s' : BrokerState)
    (lease : ResourceLease) : Prop :=
  ∃ s₁ job target outcome, SchedChain cfg b s s₁ ∧ validateJob job = .ok () ∧
    isKnownJob s₁ job.jobId = false ∧
      selectTargetLocked cfg s₁ b job true = some (target, outcome) ∧
    lease = ⟨job.jobId, target.targetId⟩ ∧
    SchedChain cfg b (admitLocked cfg s₁ b job target outcome).1 s'

variable {lease : ResourceLease}

/-- The job of a lease is active afterwards, on the target it was admitted to. -/
theorem AdmittedAlong.lookup (h : AdmittedAlong cfg b s s' lease) :
    ∃ s₁ r, SchedChain cfg b s s₁ ∧ s'.active.lookup lease.jobId = some r ∧
      r.target.targetId = lease.targetId ∧
      ∃ outcome, selectTargetLocked cfg s₁ b r.job true = some (r.target, outcome) := by
  obtain ⟨s₁, job, target, outcome, h₁, -, -, hsel, rfl, h₂⟩ := h
  obtain ⟨r, hr, hsame⟩ := h₂.lookup (admitLocked_lookup_self s₁ b job target outcome)
  refine ⟨s₁, r, h₁, hr, by rw [hsame]; rfl, outcome, ?_⟩
  rw [hsame]
  exact hsel

theorem AdmittedAlong.head {s₁ : BrokerState} (hchain : SchedChain cfg b s s₁)
    (h : AdmittedAlong cfg b s₁ s' lease) : AdmittedAlong cfg b s s' lease := by
  obtain ⟨s₂, job, target, outcome, h₂, rest⟩ := h
  exact ⟨s₂, job, target, outcome, hchain.trans h₂, rest⟩

/-- The submission has to wait: nothing rejects or drops it and no target takes it now. -/
def mustWait (cfg : ResourceBrokerConfig) (s : BrokerState) (b : BudgetSnapshot)
    (job : ResourceJob) : Bool :=
  !isKnownJob s job.jobId && (dropBeforeAdmission cfg s b job).isNone &&
    (selectTargetLocked cfg (supersedeQueued cfg s b job) b job true).isNone &&
    (terminalRejection (supersedeQueued cfg s b job) b job).isNone &&
    job.dropPolicy != .dropUnderPressure &&
    !(job.dropPolicy == .dropIfLate && isLate job b.monotonicMs)

theorem dropBeforeAdmission_cases {dropped : BrokerState × Submission}
    (h : dropBeforeAdmission cfg s b job = some dropped) :
    ∃ outcome reason, dropped = rejectedSubmission cfg s b job outcome reason := by
  unfold dropBeforeAdmission at h
  split_ifs at h <;> cases h <;> exact ⟨_, _, rfl⟩

/-- What `submit` does with a valid job: it turns the job away, before or after it has coalesced the
queue, admits it, or lets it wait. -/
theorem submitLocked_cases (s : BrokerState) (b : BudgetSnapshot) (job : ResourceJob) :
    (mustWait cfg s b job = false ∧ ∃ s₁ outcome reason,
        (s₁ = s ∨ s₁ = supersedeQueued cfg s b job) ∧
          submitLocked cfg s b job = rejectedSubmission cfg s₁ b job outcome reason) ∨
      (mustWait cfg s b job = false ∧ isKnownJob s job.jobId = false ∧ ∃ target outcome,
        selectTargetLocked cfg (supersedeQueued cfg s b job) b job true = some (target, outcome) ∧
          submitLocked cfg s b job =
            admitLocked cfg (supersedeQueued cfg s b job) b job target outcome) ∨
      (mustWait cfg s b job = true ∧ isKnownJob s job.jobId = false ∧
        submitLocked cfg s b job = enqueueLocked cfg (supersedeQueued cfg s b job) b job) := by
  unfold submitLocked
  split
  · rename_i hknown
    exact .inl ⟨by simp [mustWait, hknown], s, _, _, .inl rfl, rfl⟩
  rename_i hknown
  rw [Bool.not_eq_true] at hknown
  split
  · rename_i dropped hdrop
    obtain ⟨outcome, reason, rfl⟩ := dropBeforeAdmission_cases hdrop
    exact .inl ⟨by simp [mustWait, hdrop], s, _, _, .inl rfl, rfl⟩
  rename_i hdrop
  dsimp only
  split
  · rename_i target outcome hsel
    exact .inr (.inl ⟨by simp [mustWait, hsel], hknown, target, outcome, hsel, rfl⟩)
  rename_i hsel
  split
  · rename_i outcome reason hterminal
    exact .inl ⟨by simp [mustWait, hterminal], _, _, _, .inr rfl, rfl⟩
  rename_i hterminal
  split
  · rename_i hpolicy
    exact .inl ⟨by simp [mustWait, hpolicy], _, _, _, .inr rfl, rfl⟩
  · rename_i hpolicy
    split
    · rename_i hlate
      exact .inl ⟨by simp [mustWait, hpolicy, hlate], _, _, _, .inr rfl, rfl⟩
    · rename_i hlate
      refine .inr (.inr ⟨?_, hknown, rfl⟩)
      simp [mustWait, hknown, hdrop, hsel, hterminal, hpolicy, hlate]
  · rename_i hpressure hlate
    refine .inr (.inr ⟨?_, hknown, rfl⟩)
    simp only [mustWait, hknown, hdrop, hsel, hterminal, Option.isNone_none, Bool.not_false,
      Bool.and_self, Bool.true_and]
    simp only [Bool.and_eq_true, bne_iff_ne, ne_eq, Bool.not_eq_true', Bool.and_eq_false_iff,
      beq_eq_false_iff_ne]
    exact ⟨hpressure, .inl hlate⟩

/-- A submission that returns a lease has just admitted its job. -/
theorem submitLocked_lease (h : (submitLocked cfg s b job).2.lease = some lease) :
    ∃ target outcome,
      selectTargetLocked cfg (supersedeQueued cfg s b job) b job true = some (target, outcome) ∧
      (submitLocked cfg s b job).1 =
        (admitLocked cfg (supersedeQueued cfg s b job) b job target outcome).1 ∧
      lease = ⟨job.jobId, target.targetId⟩ := by
  obtain ⟨-, _, _, _, -, he⟩ | ⟨-, -, target, outcome, hsel, he⟩ | ⟨-, -, he⟩ :=
    @submitLocked_cases cfg s b job <;> rw [he] at h ⊢ <;> cases h
  exact ⟨target, outcome, hsel, rfl, rfl⟩

/-- `submit` moves the state by scheduler moves, and its lease, if any, is one of them. -/
theorem submitLocked_chain (hvalid : validateJob job = .ok ()) :
    SchedChain cfg b s (submitLocked cfg s b job).1 ∧
      ∀ lease ∈ (submitLocked cfg s b job).2.lease,
        AdmittedAlong cfg b s (submitLocked cfg s b job).1 lease := by
  have hchain : SchedChain cfg b s (supersedeQueued cfg s b job) :=
    schedChain_supersedeQueued s b job
  obtain ⟨-, s₁, _, _, hs₁, he⟩ | ⟨-, hknown, target, outcome, hsel, he⟩ | ⟨-, hknown, he⟩ :=
    @submitLocked_cases cfg s b job <;> rw [he]
  · refine ⟨?_, fun lease hl => by cases hl⟩
    rcases hs₁ with rfl | rfl
    · exact schedChain_quiet (sameBooks_pushDiagnostic _ _)
    · exact hchain.trans (schedChain_quiet (sameBooks_pushDiagnostic _ _))
  · have hknown' : isKnownJob (supersedeQueued cfg s b job) job.jobId = false :=
      isKnownJob_supersedeQueued b hknown
    refine ⟨hchain.tail (.admission hvalid hknown' hsel), ?_⟩
    intro lease hl
    cases hl
    exact ⟨_, job, target, outcome, hchain, hvalid, hknown', hsel, rfl, .refl⟩
  · have hkey : ∀ q ∈ (supersedeQueued cfg s b job).queued, supersededBy job q = false := by
      intro q hq
      rw [supersedeQueued_queued] at hq
      simpa using (List.mem_filter.1 hq).2
    have hfresh : isKnownJob (supersedeQueued cfg s b job) job.jobId = false :=
      isKnownJob_supersedeQueued b hknown
    exact ⟨hchain.trans (schedChain_enqueueLocked hvalid hfresh hkey), fun lease hl => by cases hl⟩

/-- The state of the `poll_ready` loop with the records it has not reached put back. -/
def withPending (s : BrokerState) (pending : List QueuedRecord) : BrokerState :=
  { s with queued := s.queued ++ pending }

theorem withPending_nil (s : BrokerState) : withPending s [] = s := by
  simp [withPending]

theorem schedChain_dropPending (s : BrokerState) (b : BudgetSnapshot) (q : QueuedRecord)
    (pending : List QueuedRecord) :
    SchedChain cfg b (withPending s (q :: pending)) (withPending s pending) :=
  .single (.dequeue ((List.sublist_cons_self q pending).append_left s.queued).subperm)

/-- What one entry of the loop does: it drops the record and says so, admits its job, or queues it
again. -/
theorem pollEntry_cases (b : BudgetSnapshot) (s : BrokerState) (q : QueuedRecord) :
    (∃ outcome reason, (outcome = .droppedLate ∨ outcome = .droppedStale) ∧
        pollEntry cfg b s q =
          (pushAdmission cfg (admissionDiagnostic cfg b s q.job outcome none reason) s, none)) ∨
      (∃ target outcome, selectTargetLocked cfg s b q.job true = some (target, outcome) ∧
        pollEntry cfg b s q = ((admitLocked cfg s b q.job target outcome).1,
          some ⟨q.job.jobId, target.targetId⟩)) ∨
      pollEntry cfg b s q = ({ s with queued := s.queued ++ [q] }, none) := by
  simp only [pollEntry]
  split
  · exact .inl ⟨_, _, .inl rfl, rfl⟩
  split
  · exact .inl ⟨_, _, .inr rfl, rfl⟩
  split
  · rename_i target outcome hsel
    exact .inr (.inl ⟨target, outcome, hsel, rfl⟩)
  · exact .inr (.inr rfl)

/-- One entry of the loop, seen with the pending records in place. -/
theorem pollEntry_chain {s : BrokerState} {b : BudgetSnapshot} {q : QueuedRecord}
    {pending : List QueuedRecord} (h : BookInv (withPending s (q :: pending))) :
    SchedChain cfg b (withPending s (q :: pending))
        (withPending (pollEntry cfg b s q).1 pending) ∧
      ∀ lease ∈ (pollEntry cfg b s q).2,
        AdmittedAlong cfg b (withPending s (q :: pending))
          (withPending (pollEntry cfg b s q).1 pending) lease := by
  have hdrop : SchedChain cfg b (withPending s (q :: pending)) (withPending s pending) :=
    schedChain_dropPending s b q pending
  obtain ⟨outcome, reason, -, he⟩ | ⟨target, outcome, hsel, he⟩ | he :=
    @pollEntry_cases cfg b s q <;>
    rw [he]
  · refine ⟨hdrop.trans (schedChain_quiet ?_), fun lease hl => by cases hl⟩
    exact (sameBooks_pushDiagnostic _ s).setQueued _
  · have hvalid := h.valid q (List.mem_append_right _ List.mem_cons_self)
    have hknown : isKnownJob (withPending s pending) q.job.jobId = false := by
      refine isKnownJob_eq_false.2
        ⟨h.disjoint q (List.mem_append_right _ List.mem_cons_self), ?_⟩
      intro p hp
      -- The rest of the queue has other IDs.
      have hperm : (s.queued ++ q :: pending).Perm (q :: (s.queued ++ pending)) :=
        List.perm_middle
      have hcons := ((hperm.map fun q => q.job.jobId).nodup_iff).1 h.nodup
      rw [List.map_cons, List.nodup_cons] at hcons
      exact fun he => hcons.1 (he ▸ List.mem_map_of_mem hp)
    have hadmit : Sched cfg b (withPending s pending)
        (withPending (admitLocked cfg s b q.job target outcome).1 pending) :=
      .admission (s := withPending s pending) hvalid hknown hsel
    refine ⟨hdrop.tail hadmit, ?_⟩
    intro lease hl
    cases hl
    exact ⟨_, q.job, target, outcome, hdrop, hvalid, hknown, hsel, rfl, .refl⟩
  · refine ⟨?_, fun lease hl => by cases hl⟩
    have hsame : withPending s (q :: pending) =
        withPending { s with queued := s.queued ++ [q] } pending := by
      simp [withPending]
    rw [hsame]

theorem pollLoop_chain {b : BudgetSnapshot} (pending : List QueuedRecord) {s : BrokerState}
    (h : BookInv (withPending s pending)) :
    SchedChain cfg b (withPending s pending) (pollLoop cfg b pending s).1 ∧
      ∀ lease ∈ (pollLoop cfg b pending s).2,
        AdmittedAlong cfg b (withPending s pending) (pollLoop cfg b pending s).1 lease := by
  induction pending generalizing s with
  | nil =>
    rw [withPending_nil]
    exact ⟨.refl, fun lease hl => by cases hl⟩
  | cons q pending ih =>
    obtain ⟨hentry, hlease⟩ := @pollEntry_chain cfg s b q pending h
    obtain ⟨htail, hleases⟩ := ih (h.chain hentry)
    refine ⟨hentry.trans htail, ?_⟩
    intro lease hl
    rcases List.mem_append.1 hl with hl | hl
    · obtain ⟨s₁, job, target, outcome, h₁, hv, hk, hsel, he, h₂⟩ :=
        hlease lease (Option.mem_toList.1 hl)
      exact ⟨s₁, job, target, outcome, h₁, hv, hk, hsel, he, h₂.trans htail⟩
    · exact .head hentry (hleases lease hl)

/-! ## Effects of calls -/

/-- Everything a call may do to the state. -/
inductive Effect (cfg : ResourceBrokerConfig) (c : Call) (s : BrokerState) : BrokerState → Prop
  | quiet {s' : BrokerState} : SameBooks s s' → Effect cfg c s s'
  | sched {b : BudgetSnapshot} {s' : BrokerState} : SchedChain cfg b s s' → Effect cfg c s s'
  | register {spec : ModelResidencySpec} :
      c.op = .registerModelResidency spec → registrationError spec s = none →
      Effect cfg c s { s with residency := s.residency.insert spec.modelId (coldRecord spec) }
  | warm {modelId : String} {record : ModelResidencyRecord} :
      s.residency.lookup modelId = some record → record.state = .cold →
      Effect cfg c s { s with residency := s.residency.modify modelId fun record =>
        { record with state := .warming } }
  | load {modelId : String} {measured : MeasuredGpuEnvelope} {record : ModelResidencyRecord}
      {accounted : BrokerAccountedGpuUsage} :
      c.op = .markModelLoaded modelId measured →
      (markModelLoaded cfg c.reading modelId measured s).2 = .ok () →
      s.residency.lookup modelId = some record → record.state = .warming →
      Effect cfg c s { s with
        telemetryAccounted := accounted
        residency := s.residency.modify modelId fun record =>
          { record with spec := { record.spec with envelope := measured }, state := .loaded } }
  | idle {modelId : String} {record : ModelResidencyRecord} {toState : ModelResidencyState} :
      s.residency.lookup modelId = some record → record.activeJobs = 0 →
      (record.state = .loaded ∧ toState = .evicting ∨ record.state = .evicting ∧ toState = .cold) →
      Effect cfg c s { s with residency := s.residency.modify modelId fun record =>
        { record with state := toState } }
  | quarantine {modelId : String} {untilMs : Nat} :
      c.op = .quarantineModelResidency modelId untilMs →
      Effect cfg c s { s with residency := s.residency.modify modelId (quarantineRecord untilMs) }
  | clear {modelId : String} {record : ModelResidencyRecord} {b : BudgetSnapshot} :
      c.op = .clearModelQuarantine modelId →
      (clearModelQuarantine c.reading modelId s).2 = .ok () → c.reading.snapshot = .ok b →
      s.residency.lookup modelId = some record → quarantineElapsed b.monotonicMs record = true →
      Effect cfg c s { s with residency := s.residency.modify modelId fun record =>
        { record with state := .cold, quarantineUntilMs := none } }
  | output {jobId : String} {record : ActiveRecord} :
      c.op = .markOutputStarted jobId → s.active.lookup jobId = some record →
      Effect cfg c s (startOutput s jobId record)
  | unbind {utteranceId : String} : c.op = .finishUtterance utteranceId →
      Effect cfg c s (finishUtterance utteranceId s)
  | oomCounted {jobId : String} {active : ActiveRecord} {b : BudgetSnapshot}
      {accounted : BrokerAccountedGpuUsage} :
      c.op = .reportOom jobId → c.reading.validated = .ok (b, accounted) →
      s.active.lookup jobId = some active →
      Effect cfg c s { s with
        telemetryAccounted := accounted
        targetHealth := s.targetHealth.insert active.target.targetId
          (countOom s active.target.targetId) }
  | oomQuarantined {jobId : String} {active : ActiveRecord} {b : BudgetSnapshot}
      {accounted : BrokerAccountedGpuUsage} :
      c.op = .reportOom jobId → c.reading.validated = .ok (b, accounted) →
      s.active.lookup jobId = some active →
      Effect cfg c s (quarantineTarget cfg { s with telemetryAccounted := accounted } active.target
        (satAdd b.monotonicMs cfg.quarantineMs) b.monotonicMs)
  | finish {jobId : String} {actual : ActualUsage} {measured : Bool} {status : CompletionStatus}
      {active : ActiveRecord} {d : BrokerDiagnostic} :
      c.op = .finishLease jobId actual measured status → s.active.lookup jobId = some active →
      Effect cfg c s (pushDiagnostic cfg d (endLease s jobId active status))

theorem BudgetSnapshot.validate_ok {b' : BudgetSnapshot} (h : b.validate = .ok b') : b' = b := by
  unfold BudgetSnapshot.validate at h
  split_ifs at h
  cases h
  rfl

/-- A validated reading is a reading of that snapshot. -/
theorem Reading.validated_snapshot {r : Reading} {accounted : BrokerAccountedGpuUsage}
    (h : r.validated = .ok (b, accounted)) : r.snapshot = .ok b := by
  simp only [Reading.validated, bind, Except.bind, pure, Except.pure] at h
  split at h
  · cases h
  rename_i b₁ hb₁
  split at h
  · cases h
  rename_i b₂ hb₂
  split at h
  · cases h
  cases h
  rw [hb₁, BudgetSnapshot.validate_ok hb₂]

variable {c : Call}

theorem submit_effect (job : ResourceJob) : Effect cfg c s (submit cfg c.reading job s).1 := by
  simp only [submit]
  split
  · exact .quiet (.refl s)
  · exact .quiet (.refl s)
  · rename_i b accounted hvalid _
    exact .sched ((schedChain_quiet (sameBooks_observe _ b accounted s)).trans
      (submitLocked_chain hvalid).1)

/-- A `submit` that hands out a lease ends with the admission of its job. -/
theorem submit_lease {r : Reading} {submission : Submission}
    (h : (submit cfg r job s).2 = .ok submission) (hlease : submission.lease = some lease) :
    validateJob job = .ok () ∧ ∃ b s₁ target outcome, SchedChain cfg b s s₁ ∧
      selectTargetLocked cfg s₁ b job true = some (target, outcome) ∧
      (submit cfg r job s).1 = (admitLocked cfg s₁ b job target outcome).1 ∧
      lease = ⟨job.jobId, target.targetId⟩ := by
  simp only [submit] at h ⊢
  split at h
  · cases h
  · cases h
  · rename_i b accounted hvalid hread
    cases h
    obtain ⟨target, outcome, hselect, hstate, rfl⟩ := submitLocked_lease hlease
    simp only [hvalid]
    refine ⟨trivial, b, _, target, outcome, ?_, hselect, hstate, rfl⟩
    exact (schedChain_quiet (sameBooks_observe _ b accounted s)).trans
      (schedChain_supersedeQueued _ b job)

theorem pollReady_chain {r : Reading} {accounted : BrokerAccountedGpuUsage} (h : BookInv s)
    (hr : r.validated = .ok (b, accounted)) :
    SchedChain cfg b s (pollReady cfg r s).1 ∧
      ∀ leases, (pollReady cfg r s).2 = .ok leases →
        ∀ lease ∈ leases, AdmittedAlong cfg b s (pollReady cfg r s).1 lease := by
  set s₁ := observe cfg r.ratio b accounted s
  have hquiet : SchedChain cfg b s s₁ := schedChain_quiet (sameBooks_observe r.ratio b accounted s)
  have hsorted : SchedChain cfg b s₁ (withPending { s₁ with queued := [] } (sortQueue s₁.queued)) :=
    .single (.dequeue (List.perm_insertionSort _ _).subperm)
  have hchain := hquiet.trans hsorted
  obtain ⟨hloop, hleases⟩ := @pollLoop_chain cfg b _ _ (h.chain hchain)
  simp only [pollReady, hr]
  refine ⟨hchain.trans hloop, ?_⟩
  intro leases hl lease hmem
  cases hl
  exact .head hchain (hleases lease hmem)

theorem pollReady_effect (h : BookInv s) : Effect cfg c s (pollReady cfg c.reading s).1 := by
  cases hr : c.reading.validated with
  | error e =>
    rw [pollReady, hr]
    exact .quiet (.refl s)
  | ok p => exact .sched (pollReady_chain h hr).1

theorem refreshPressure_effect : Effect cfg c s (refreshPressure cfg c.reading s).1 := by
  simp only [refreshPressure]
  split
  · exact .quiet (.refl s)
  · exact .quiet (sameBooks_observe _ _ _ s)

theorem registerModelResidency_effect {spec : ModelResidencySpec}
    (hop : c.op = .registerModelResidency spec) :
    Effect cfg c s (registerModelResidency spec s).1 := by
  simp only [registerModelResidency]
  split
  · exact .quiet (.refl s)
  · exact .register hop ‹_›

theorem beginModelWarming_effect (modelId : String) :
    Effect cfg c s (beginModelWarming cfg c.reading modelId s).1 := by
  unfold beginModelWarming
  split
  · exact .quiet (.refl s)
  split
  · exact .quiet (.refl s)
  rename_i record hrec
  dsimp only
  split_ifs with hstate hfit
  · exact .quiet (.refl s)
  · exact .quiet (.refl s)
  · exact .warm hrec (not_not.1 hstate)

theorem markModelLoaded_effect {measured : MeasuredGpuEnvelope}
    (hop : c.op = .markModelLoaded modelId measured) :
    Effect cfg c s (markModelLoaded cfg c.reading modelId measured s).1 := by
  have hload := @Effect.load cfg c s modelId measured
  unfold markModelLoaded at hload ⊢
  split at hload
  · exact .quiet (.refl s)
  · exact .quiet (.refl s)
  rename_i b accounted _ _
  have haccounted : SameBooks s { s with telemetryAccounted := accounted } :=
    .of_active rfl rfl rfl rfl rfl rfl rfl
  dsimp only at hload ⊢
  split at hload
  · exact .quiet haccounted
  rename_i record hrec
  split_ifs at hload ⊢ with hstate hfit
  · exact .quiet haccounted
  · exact .quiet haccounted
  · exact hload hop rfl hrec (not_not.1 hstate)

theorem transitionIdleModel_effect (modelId : String) {fromState toState : ModelResidencyState}
    (h : fromState = .loaded ∧ toState = .evicting ∨ fromState = .evicting ∧ toState = .cold) :
    Effect cfg c s (transitionIdleModel modelId fromState toState s).1 := by
  simp only [transitionIdleModel]
  split
  · exact .quiet (.refl s)
  rename_i record hrec
  split_ifs with hstate
  · exact .quiet (.refl s)
  · push Not at hstate
    exact .idle hrec hstate.2 (by rw [hstate.1]; exact h)

theorem quarantineModelResidency_effect {untilMs : Nat}
    (hop : c.op = .quarantineModelResidency modelId untilMs) :
    Effect cfg c s (quarantineModelResidency modelId untilMs s).1 := by
  simp only [quarantineModelResidency]
  split
  · exact .quiet (.refl s)
  · exact .quarantine hop

theorem clearModelQuarantine_effect (hop : c.op = .clearModelQuarantine modelId) :
    Effect cfg c s (clearModelQuarantine c.reading modelId s).1 := by
  have hclear := @Effect.clear cfg c s modelId
  simp only [clearModelQuarantine] at hclear ⊢
  split at hclear
  · exact .quiet (.refl s)
  rename_i b hb
  split at hclear
  · exact .quiet (.refl s)
  rename_i record hrec
  split_ifs at hclear ⊢ with helapsed
  · refine hclear hop rfl (b := b) ?_ hrec helapsed
    cases hs : c.reading.snapshot with
    | error e => rw [hs] at hb; cases hb
    | ok b' =>
      rw [hs] at hb
      rw [BudgetSnapshot.validate_ok hb]
  · exact .quiet (.refl s)

theorem cancel_effect (jobId reason : String) :
    Effect cfg c s (cancel cfg c.reading jobId reason s).1 := by
  simp only [cancel]
  split
  · exact .quiet (.refl s)
  rename_i b _
  split
  · refine .sched (b := b) ((ReflTransGen.single (.dequeue ?_)).trans
      (schedChain_quiet (sameBooks_pushDiagnostic _ _)))
    exact List.eraseP_sublist.subperm
  split
  · exact .quiet (.refl s)
  · refine .quiet (SameBooks.trans ?_ (sameBooks_pushDiagnostic _ _))
    refine ⟨rfl, rfl, rfl, rfl, rfl, rfl, _, fun k r => ?_, rfl⟩
    split
    · rfl
    · exact .refl r

theorem reportOom_effect (hop : c.op = .reportOom jobId) :
    Effect cfg c s (reportOom cfg c.reading jobId s).1 := by
  unfold reportOom
  split
  · exact .quiet (.refl s)
  rename_i b accounted hr
  dsimp only
  split
  · exact .quiet (.of_active rfl rfl rfl rfl rfl rfl rfl)
  rename_i active hactive
  split
  · exact .oomCounted hop hr hactive
  · split
    · exact .oomQuarantined hop hr hactive
    · split <;> exact .oomQuarantined hop hr hactive

theorem markOutputStarted_effect (hop : c.op = .markOutputStarted jobId) :
    Effect cfg c s (markOutputStarted jobId s).1 := by
  simp only [markOutputStarted]
  split
  · exact .quiet (.refl s)
  · exact .output hop ‹_›

theorem finishLease_effect {actual : ActualUsage} {measured : Bool} {status : CompletionStatus}
    (hop : c.op = .finishLease jobId actual measured status) :
    Effect cfg c s (finishLease cfg c.reading jobId actual measured status s) := by
  simp only [finishLease]
  split
  · exact .quiet (.refl s)
  · exact .finish hop ‹_›

/-- **Every call is one of the effects.** -/
theorem effect_of_step {s : BrokerState} (h : BookInv s) (c : Call) :
    Effect cfg c s (step cfg c s) := by
  simp only [step, respond]
  split <;> rename_i hop
  · exact submit_effect _
  · exact pollReady_effect h
  · exact refreshPressure_effect
  · exact registerModelResidency_effect hop
  · exact beginModelWarming_effect _
  · exact markModelLoaded_effect hop
  · exact transitionIdleModel_effect _ (.inl ⟨rfl, rfl⟩)
  · exact transitionIdleModel_effect _ (.inr ⟨rfl, rfl⟩)
  · exact quarantineModelResidency_effect hop
  · exact clearModelQuarantine_effect hop
  · exact cancel_effect _ _
  · exact markOutputStarted_effect hop
  · exact .unbind hop
  · exact reportOom_effect hop
  · exact finishLease_effect hop
  · exact .quiet (.of_active rfl rfl rfl rfl rfl rfl rfl)

/-- An active job stays active under its ID until its lease is finished. -/
theorem Effect.keeps_active (h : Effect cfg c s s') (hk : s.active.lookup k = some r)
    (hop : ∀ actual measured status, c.op ≠ .finishLease k actual measured status) :
    ∃ r', s'.active.lookup k = some r' ∧ r'.job = r.job := by
  cases h with
  | quiet hb =>
    obtain ⟨r', hk', hsame⟩ := hb.lookup' hk
    exact ⟨r', hk', hsame.job⟩
  | sched hs =>
    obtain ⟨r', hk', hsame⟩ := hs.lookup hk
    exact ⟨r', hk', hsame.job⟩
  | output =>
    simp only [startOutput, Table.lookup_modify]
    split_ifs
    · rw [hk]
      exact ⟨_, rfl, rfl⟩
    · exact ⟨r, hk, rfl⟩
  | @finish jobId actual measured status active _ hfinish =>
    refine ⟨r, ?_, rfl⟩
    show (s.active.erase jobId).lookup k = some r
    rw [Table.lookup_erase_eq, if_neg]
    · exact hk
    · rintro rfl
      exact hop actual measured status hfinish
  | register | warm | load | idle | quarantine | clear | unbind | oomCounted | oomQuarantined =>
    exact ⟨r, hk, rfl⟩

/-! ## The books along runs -/

theorem BookInv.effect (h : BookInv s) (he : Effect cfg c s s') : BookInv s' := by
  have hsame : ∀ {s' : BrokerState}, s'.queued = s.queued → s'.active = s.active →
      SameModelIds s s' → BookInv s' :=
    fun hq ha hres => h.of_queued hq hres fun k r hk => ⟨r, ha ▸ hk, rfl⟩
  cases he with
  | quiet hb => exact h.quiet hb
  | sched hs => exact h.chain hs
  | @register spec =>
    refine ⟨h.keyed, fun m record hm => ?_, h.nodup, h.disjoint, h.valid, h.coalesced⟩
    have hm' : (s.residency.insert spec.modelId (coldRecord spec)).lookup m = some record := hm
    rw [Table.lookup_insert_eq] at hm'
    split_ifs at hm' with hid
    · cases hm'
      exact hid.symm
    · exact h.registered m record hm'
  | output =>
    refine h.of_queued rfl (.of_eq rfl) ?_
    intro k r' hk
    simp only [startOutput, Table.lookup_modify] at hk
    split_ifs at hk
    · obtain ⟨r, hr, rfl⟩ := Option.map_eq_some_iff.1 hk
      exact ⟨r, hr, rfl⟩
    · exact ⟨r', hk, rfl⟩
  | @finish jobId _ _ status active =>
    have hids : SameModelIds s (endLease s jobId active status) := by
      obtain ⟨-, hres⟩ | ⟨record, -, hres⟩ := endLease_residency s jobId active status
      · exact .of_eq hres
      · exact .of_modify hres fun _ => rfl
    refine h.of_queued rfl hids ?_
    intro k r' hk
    have hk' : (s.active.erase jobId).lookup k = some r' := hk
    rw [Table.lookup_erase_eq] at hk'
    split_ifs at hk'
    exact ⟨r', hk', rfl⟩
  | oomQuarantined =>
    obtain ⟨-, hres⟩ | ⟨modelId, -, hres⟩ := quarantineTarget_residency ..
    · exact hsame rfl rfl (.of_eq hres)
    · exact hsame rfl rfl (.of_modify hres fun _ => rfl)
  | unbind => exact hsame rfl rfl (.of_eq rfl)
  | oomCounted => exact hsame rfl rfl (.of_eq rfl)
  | warm | load | idle | quarantine | clear => exact hsame rfl rfl (.of_modify rfl fun _ => rfl)

theorem bookInv_step (s : BrokerState) (c : Call) (h : BookInv s) : BookInv (step cfg c s) :=
  h.effect (effect_of_step h c)

/-- **The books stay well formed along every run.** -/
theorem bookInv_run (calls : List Call) : BookInv (run cfg calls) :=
  inv_runFrom BookInv bookInv_step .init calls

/-- Every lease a call hands out is admitted along its scheduler moves. -/
theorem respond_leases (h : BookInv s) (hl : lease ∈ (respond cfg c s).2.leases) :
    ∃ b accounted, c.reading.validated = .ok (b, accounted) ∧
      AdmittedAlong cfg b s (step cfg c s) lease := by
  simp only [step, respond] at *
  split at hl
  · rename_i job hop
    simp only [Prod.map_snd, Prod.map_fst, id, submit] at hl ⊢
    split at hl
    · cases hl
    · cases hl
    · rename_i b accounted hvalid hr
      have hquiet : SchedChain cfg b s (observe cfg c.reading.ratio b accounted s) :=
        schedChain_quiet (sameBooks_observe _ b accounted s)
      exact ⟨b, accounted, hr,
        .head hquiet ((submitLocked_chain hvalid).2 lease (Option.mem_toList.1 hl))⟩
  · cases hr : c.reading.validated with
    | error e => simp [pollReady, hr, Response.leases] at hl
    | ok p =>
      obtain ⟨b, accounted⟩ := p
      refine ⟨b, accounted, rfl, ?_⟩
      cases hres : (pollReady cfg c.reading s).2 with
      | error e => simp [hres, Response.leases] at hl
      | ok leases =>
        rw [Prod.map_snd, hres] at hl
        exact (pollReady_chain h hr).2 leases hres lease hl
  all_goals cases hl

end NpcRuntime.Broker
