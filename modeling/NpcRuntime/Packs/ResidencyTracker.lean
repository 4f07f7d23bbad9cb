import NpcRuntime.Lib.Machine
import NpcRuntime.Packs.Governor

/-!
# The residency of models

`ResidencyTrackerV1` of `model-manager/src/resource_governor.rs`. Maintenance walks over the records
in the order of their identities and changes them one by one; it fails at the first record that was
last used after now, with what it has changed by then and without the actions.
-/

namespace NpcRuntime.Packs

inductive RuntimeResidencyStateV1 where
  | gpuWarm
  | cpuResidentGpuCold
  | cpuWarm
  | unloaded
deriving DecidableEq

structure ResidencyRecordV1 where
  identity : PackRevision
  state : RuntimeResidencyStateV1
  cpuFallbackSupported : Bool
  lastUsedMonotonicMillis : Nat
deriving DecidableEq

inductive ResidencyActionV1 where
  | dropGpuKeepCpu (identity : PackRevision)
  | unload (identity : PackRevision)
deriving DecidableEq

def ResidencyActionV1.identity : ResidencyActionV1 → PackRevision
  | .dropGpuKeepCpu identity | .unload identity => identity

/-- The records have different identities and are in their order. -/
def Ordered (records : List ResidencyRecordV1) : Prop :=
  records.Pairwise fun earlier later => earlier.identity < later.identity

structure ResidencyTrackerV1 where
  keepWarmMillis : Nat
  unloadTtlMillis : Nat
  records : List ResidencyRecordV1
  ordered : Ordered records

namespace ResidencyTrackerV1

variable {tracker : ResidencyTrackerV1}

@[ext] theorem ext {tracker' : ResidencyTrackerV1}
    (hkeep : tracker.keepWarmMillis = tracker'.keepWarmMillis)
    (httl : tracker.unloadTtlMillis = tracker'.unloadTtlMillis)
    (hrecords : tracker.records = tracker'.records) : tracker = tracker' := by
  cases tracker
  cases tracker'
  cases hkeep
  cases httl
  cases hrecords
  rfl

/-! ## Updates -/

def new (policy : ResourceGovernorPolicyV1) :
    Except ResourceAdmissionError ResidencyTrackerV1 := do
  policy.validate
  return ⟨policy.keepWarmMillis, policy.unloadTtlMillis, [], .nil⟩

/-- `records.insert`. -/
def insertRecord (record : ResidencyRecordV1) : List ResidencyRecordV1 → List ResidencyRecordV1
  | [] => [record]
  | first :: rest =>
    if first.identity < record.identity then first :: insertRecord record rest
    else if record.identity < first.identity then record :: first :: rest
    else record :: rest

variable {records : List ResidencyRecordV1}

theorem mem_insertRecord {record other : ResidencyRecordV1}
    (h : other ∈ insertRecord record records) : other = record ∨ other ∈ records := by
  induction records with
  | nil => exact .inl (List.mem_singleton.1 h)
  | cons first rest ih =>
    unfold insertRecord at h
    by_cases hlt : first.identity < record.identity
    · rw [if_pos hlt] at h
      rcases List.mem_cons.1 h with rfl | h
      · exact .inr List.mem_cons_self
      · exact (ih h).imp_right (List.mem_cons_of_mem first)
    rw [if_neg hlt] at h
    by_cases hgt : record.identity < first.identity
    · rw [if_pos hgt] at h
      exact List.mem_cons.1 h
    · rw [if_neg hgt] at h
      exact (List.mem_cons.1 h).imp_right (List.mem_cons_of_mem first)

theorem ordered_insertRecord (record : ResidencyRecordV1) (h : Ordered records) :
    Ordered (insertRecord record records) := by
  induction records with
  | nil => exact List.pairwise_singleton _ _
  | cons first rest ih =>
    obtain ⟨hfirst, hrest⟩ := List.pairwise_cons.1 h
    unfold insertRecord
    by_cases hlt : first.identity < record.identity
    · rw [if_pos hlt]
      refine List.pairwise_cons.2 ⟨fun other hother => ?_, ih hrest⟩
      rcases mem_insertRecord hother with rfl | hother
      · exact hlt
      · exact hfirst other hother
    rw [if_neg hlt]
    by_cases hgt : record.identity < first.identity
    · rw [if_pos hgt]
      refine List.pairwise_cons.2 ⟨fun other hother => ?_, h⟩
      rcases List.mem_cons.1 hother with rfl | hother
      · exact hgt
      · exact hgt.trans (hfirst other hother)
    · rw [if_neg hgt]
      have hsame : record.identity = first.identity :=
        le_antisymm (not_lt.1 hlt) (not_lt.1 hgt)
      exact List.pairwise_cons.2 ⟨fun other hother => hsame ▸ hfirst other hother, hrest⟩

/-- Changes that keep the identities keep the order. -/
theorem ordered_map (h : Ordered records) {f : ResidencyRecordV1 → ResidencyRecordV1}
    (hf : ∀ record, (f record).identity = record.identity) : Ordered (records.map f) := by
  refine List.pairwise_map.2 (h.imp ?_)
  intro earlier later hlt
  rwa [hf, hf]

def recordLoaded (identity : PackRevision) (state : RuntimeResidencyStateV1)
    (cpuFallbackSupported : Bool) (now : Nat) (tracker : ResidencyTrackerV1) :
    ResidencyTrackerV1 × Except ResourceAdmissionError Unit :=
  if now = 0 ∨ state = .unloaded then (tracker, .error .invalidResidencyUpdate)
  else
    let record : ResidencyRecordV1 := ⟨identity, state, cpuFallbackSupported, now⟩
    ({ tracker with
        records := insertRecord record tracker.records
        ordered := ordered_insertRecord record tracker.ordered }, .ok ())

def record (identity : PackRevision) (tracker : ResidencyTrackerV1) : Option ResidencyRecordV1 :=
  tracker.records.find? fun record => record.identity = identity

/-- `record.last_used_monotonic_millis = now` for the record of an identity. -/
def touchRecord (identity : PackRevision) (now : Nat) (record : ResidencyRecordV1) :
    ResidencyRecordV1 :=
  if record.identity = identity then { record with lastUsedMonotonicMillis := now } else record

theorem touchRecord_identity (identity : PackRevision) (now : Nat) (record : ResidencyRecordV1) :
    (touchRecord identity now record).identity = record.identity := by
  unfold touchRecord
  split <;> rfl

def touch (identity : PackRevision) (now : Nat) (tracker : ResidencyTrackerV1) :
    ResidencyTrackerV1 × Except ResourceAdmissionError Unit :=
  match tracker.record identity with
  | none => (tracker, .error .unknownResidency)
  | some record =>
    if now < record.lastUsedMonotonicMillis then (tracker, .error .residencyClockWentBackward)
    else
      ({ tracker with
          records := tracker.records.map (touchRecord identity now)
          ordered := ordered_map tracker.ordered (touchRecord_identity identity now) }, .ok ())

/-! ## Maintenance -/

section Maintenance

variable (keepWarmMillis unloadTtlMillis now : Nat)

/-- One record, once its idle time is known. -/
def maintainRecord (record : ResidencyRecordV1) : ResidencyRecordV1 × Option ResidencyActionV1 :=
  let idle := now - record.lastUsedMonotonicMillis
  if unloadTtlMillis ≤ idle then
    ({ record with state := .unloaded }, some (.unload record.identity))
  else if keepWarmMillis ≤ idle ∧ record.state = .gpuWarm ∧ record.cpuFallbackSupported then
    ({ record with state := .cpuResidentGpuCold }, some (.dropGpuKeepCpu record.identity))
  else (record, none)

/-- The loop over the records; what it has changed stays when it fails. -/
def maintainRecords : List ResidencyRecordV1 →
    List ResidencyRecordV1 × Except ResourceAdmissionError (List ResidencyActionV1)
  | [] => ([], .ok [])
  | record :: rest =>
    if now < record.lastUsedMonotonicMillis then
      (record :: rest, .error .residencyClockWentBackward)
    else
      let maintained := maintainRecord keepWarmMillis unloadTtlMillis now record
      let others := maintainRecords rest
      (maintained.1 :: others.1, others.2.map (maintained.2.toList ++ ·))

end Maintenance

theorem maintainRecord_identity (keep ttl now : Nat) (record : ResidencyRecordV1) :
    (maintainRecord keep ttl now record).1.identity = record.identity := by
  unfold maintainRecord
  dsimp only
  split_ifs <;> rfl

/-- The loop keeps the identities. -/
theorem maintainRecords_identities (keep ttl now : Nat) (records : List ResidencyRecordV1) :
    (maintainRecords keep ttl now records).1.map (·.identity) = records.map (·.identity) := by
  induction records with
  | nil => rfl
  | cons record rest ih =>
    unfold maintainRecords
    split
    · rfl
    · rw [List.map_cons, List.map_cons, maintainRecord_identity, ih]

theorem ordered_of_identities {records' : List ResidencyRecordV1} (h : Ordered records)
    (hsame : records'.map (·.identity) = records.map (·.identity)) : Ordered records' := by
  have hmap : (records.map (·.identity)).Pairwise (· < ·) := List.pairwise_map.2 h
  rw [← hsame] at hmap
  exact List.pairwise_map.1 hmap

def maintenanceActions (now : Nat) (tracker : ResidencyTrackerV1) :
    ResidencyTrackerV1 × Except ResourceAdmissionError (List ResidencyActionV1) :=
  let maintained := maintainRecords tracker.keepWarmMillis tracker.unloadTtlMillis now tracker.records
  have hordered := ordered_of_identities tracker.ordered
    (maintainRecords_identities tracker.keepWarmMillis tracker.unloadTtlMillis now tracker.records)
  match maintained.2 with
  | .error error => ({ tracker with records := maintained.1, ordered := hordered }, .error error)
  | .ok actions =>
    ({ tracker with
        records := maintained.1.filter fun record => record.state ≠ .unloaded
        ordered := hordered.filter _ }, .ok actions)

/-! ## What one call does -/

/-- A record that maintenance changes. -/
def Due (keep ttl now : Nat) (record : ResidencyRecordV1) : Prop :=
  ttl ≤ now - record.lastUsedMonotonicMillis ∨
    keep ≤ now - record.lastUsedMonotonicMillis ∧ record.state = .gpuWarm ∧
      record.cpuFallbackSupported = true

instance (keep ttl now : Nat) (record : ResidencyRecordV1) :
    Decidable (Due keep ttl now record) := by
  unfold Due
  infer_instance

/-- No record was last used after now, or no record before the first such one is due. -/
def Current (now : Nat) (tracker : ResidencyTrackerV1) : Prop :=
  (∀ record ∈ tracker.records, record.lastUsedMonotonicMillis ≤ now) ∨
    ∀ record ∈ tracker.records.takeWhile fun record => record.lastUsedMonotonicMillis ≤ now,
      ¬ Due tracker.keepWarmMillis tracker.unloadTtlMillis now record

instance (now : Nat) (tracker : ResidencyTrackerV1) : Decidable (Current now tracker) := by
  unfold Current
  infer_instance

/-- The actions are the changes, each once. -/
structure Maintained (before after : ResidencyTrackerV1) (actions : List ResidencyActionV1) :
    Prop where
  once : actions.Nodup
  unloaded : ∀ identity, .unload identity ∈ actions ↔
    (before.record identity).isSome ∧ after.record identity = none
  dropped : ∀ identity, .dropGpuKeepCpu identity ∈ actions ↔
    ∃ record record', before.record identity = some record ∧
      after.record identity = some record' ∧ record'.state ≠ record.state
  kept : ∀ identity record', after.record identity = some record' →
    ∃ record, before.record identity = some record ∧
      record' = { record with state := record'.state }

/-- Maintenance that fails changes nothing, and maintenance that succeeds reports its changes. -/
def MaintenanceLaw (now : Nat) (tracker : ResidencyTrackerV1) : Prop :=
  match (tracker.maintenanceActions now).2 with
  | .error _ => (tracker.maintenanceActions now).1 = tracker
  | .ok actions => Maintained tracker (tracker.maintenanceActions now).1 actions

def NoUnloaded (tracker : ResidencyTrackerV1) : Prop :=
  ∀ record ∈ tracker.records, record.state ≠ .unloaded

section OneCall

variable {keep ttl now : Nat} {record : ResidencyRecordV1}

theorem maintainRecord_of_not_due (h : ¬ Due keep ttl now record) :
    maintainRecord keep ttl now record = (record, none) := by
  obtain ⟨httl, hkeep⟩ := not_or.1 h
  rw [maintainRecord, if_neg httl, if_neg hkeep]

/-- A due record is changed. -/
theorem maintainRecord_ne (h : Due keep ttl now record) (hstate : record.state ≠ .unloaded) :
    (maintainRecord keep ttl now record).1 ≠ record := by
  intro hsame
  have hstate' := congrArg ResidencyRecordV1.state hsame
  unfold maintainRecord at hstate'
  by_cases httl : ttl ≤ now - record.lastUsedMonotonicMillis
  · rw [if_pos httl] at hstate'
    exact hstate hstate'.symm
  · obtain ⟨hkeep, hwarm, hfallback⟩ := h.resolve_left httl
    rw [if_neg httl, if_pos ⟨hkeep, hwarm, hfallback⟩, hwarm] at hstate'
    cases hstate'

/-- The loop fails at the first record that was last used after now. -/
theorem maintainRecords_of_future {records : List ResidencyRecordV1}
    (h : ∃ record ∈ records, now < record.lastUsedMonotonicMillis) :
    (maintainRecords keep ttl now records).2 = .error .residencyClockWentBackward ∧
      ((maintainRecords keep ttl now records).1 = records ↔
        ∀ record ∈ records.takeWhile fun record => record.lastUsedMonotonicMillis ≤ now,
          (maintainRecord keep ttl now record).1 = record) := by
  induction records with
  | nil => simp at h
  | cons record rest ih =>
    unfold maintainRecords
    by_cases hfuture : now < record.lastUsedMonotonicMillis
    · rw [if_pos hfuture, List.takeWhile_cons_of_neg (by simpa using hfuture)]
      exact ⟨rfl, by simp⟩
    · have hrest : ∃ record ∈ rest, now < record.lastUsedMonotonicMillis := by
        obtain ⟨other, hother, hlt⟩ := h
        rcases List.mem_cons.1 hother with rfl | hother
        · exact absurd hlt hfuture
        · exact ⟨other, hother, hlt⟩
      obtain ⟨herror, hiff⟩ := ih hrest
      rw [if_neg hfuture, List.takeWhile_cons_of_pos (by simpa using hfuture),
        List.forall_mem_cons, ← hiff]
      dsimp only
      rw [herror]
      exact ⟨rfl, List.cons.injEq _ _ _ _ ▸ Iff.rfl⟩

/-- The loop succeeds when no record was last used after now. -/
theorem maintainRecords_of_current {records : List ResidencyRecordV1}
    (h : ∀ record ∈ records, record.lastUsedMonotonicMillis ≤ now) :
    maintainRecords keep ttl now records =
      (records.map fun record => (maintainRecord keep ttl now record).1,
        .ok (records.filterMap fun record => (maintainRecord keep ttl now record).2)) := by
  induction records with
  | nil => rfl
  | cons record rest ih =>
    obtain ⟨hrecord, hrest⟩ := List.forall_mem_cons.1 h
    unfold maintainRecords
    rw [if_neg (not_lt.2 hrecord), ih hrest, List.map_cons, List.filterMap_cons]
    generalize maintainRecord keep ttl now record = maintained
    obtain ⟨record', action⟩ := maintained
    cases action <;> rfl

/-- What maintenance makes of one record. -/
theorem maintainRecord_cases (keep ttl now : Nat) (record : ResidencyRecordV1) :
    (ttl ≤ now - record.lastUsedMonotonicMillis ∧
      maintainRecord keep ttl now record =
        ({ record with state := .unloaded }, some (.unload record.identity))) ∨
    (record.state = .gpuWarm ∧ maintainRecord keep ttl now record =
      ({ record with state := .cpuResidentGpuCold }, some (.dropGpuKeepCpu record.identity))) ∨
    maintainRecord keep ttl now record = (record, none) := by
  unfold maintainRecord
  by_cases httl : ttl ≤ now - record.lastUsedMonotonicMillis
  · exact .inl ⟨httl, if_pos httl⟩
  · by_cases hkeep : keep ≤ now - record.lastUsedMonotonicMillis ∧ record.state = .gpuWarm ∧
        record.cpuFallbackSupported = true
    · exact .inr (.inl ⟨hkeep.2.1, by rw [if_neg httl, if_pos hkeep]⟩)
    · exact .inr (.inr (by rw [if_neg httl, if_neg hkeep]))

theorem action_identity {action : ResidencyActionV1}
    (h : (maintainRecord keep ttl now record).2 = some action) :
    action.identity = record.identity := by
  rcases maintainRecord_cases keep ttl now record with ⟨-, hcase⟩ | ⟨-, hcase⟩ | hcase
  · rw [hcase] at h
    cases h
    rfl
  · rw [hcase] at h
    cases h
    rfl
  · rw [hcase] at h
    cases h

theorem identities_nodup (tracker : ResidencyTrackerV1) :
    (tracker.records.map (·.identity)).Nodup :=
  List.pairwise_map.2 (tracker.ordered.imp fun hlt => hlt.ne)

theorem record_eq_some_iff {identity : PackRevision} :
    tracker.record identity = some record ↔
      record ∈ tracker.records ∧ record.identity = identity := by
  unfold ResidencyTrackerV1.record
  constructor
  · intro h
    exact ⟨List.mem_of_find?_eq_some h, by simpa using List.find?_some h⟩
  · rintro ⟨hmem, rfl⟩
    cases hfind : tracker.records.find? fun other => other.identity = record.identity with
    | none => simpa using List.find?_eq_none.1 hfind record hmem
    | some other =>
      have hsame : other.identity = record.identity := by simpa using List.find?_some hfind
      rw [List.inj_on_of_nodup_map tracker.identities_nodup (List.mem_of_find?_eq_some hfind) hmem
        hsame]

theorem record_eq_none_iff {identity : PackRevision} :
    tracker.record identity = none ↔ ∀ record ∈ tracker.records, record.identity ≠ identity := by
  simp [ResidencyTrackerV1.record]

/-- A maintained record of its identity. -/
theorem maintained_record {after : ResidencyTrackerV1} (hafter : after.records =
      (tracker.records.map fun record => (maintainRecord keep ttl now record).1).filter fun
      record => record.state ≠ .unloaded) (hrecord : record ∈ tracker.records) :
    after.record record.identity =
      if (maintainRecord keep ttl now record).1.state = .unloaded then none
      else some (maintainRecord keep ttl now record).1 := by
  have hmem : ∀ record', record' ∈ after.records ↔ ∃ other ∈ tracker.records,
      (maintainRecord keep ttl now other).1 = record' ∧ record'.state ≠ .unloaded := by
    intro record'
    rw [hafter, List.mem_filter, List.mem_map]
    simp only [decide_eq_true_eq]
    constructor
    · rintro ⟨⟨other, hother, rfl⟩, hstate⟩
      exact ⟨other, hother, rfl, hstate⟩
    · rintro ⟨other, hother, rfl, hstate⟩
      exact ⟨⟨other, hother, rfl⟩, hstate⟩
  by_cases hstate : (maintainRecord keep ttl now record).1.state = .unloaded
  · rw [if_pos hstate, record_eq_none_iff]
    intro record' hrecord' hidentity
    obtain ⟨other, hother, rfl, hkept⟩ := (hmem record').1 hrecord'
    rw [maintainRecord_identity] at hidentity
    rw [List.inj_on_of_nodup_map tracker.identities_nodup hother hrecord hidentity] at hkept
    exact hkept hstate
  · rw [if_neg hstate, record_eq_some_iff]
    exact ⟨(hmem _).2 ⟨record, hrecord, rfl, hstate⟩, maintainRecord_identity keep ttl now record⟩

/-- The actions are the changes of the records. -/
theorem maintained_of_current {after : ResidencyTrackerV1} (hnone : NoUnloaded tracker) (hafter :
      after.records = (tracker.records.map fun record => (maintainRecord keep ttl now
      record).1).filter fun record => record.state ≠ .unloaded) :
    Maintained tracker after
      (tracker.records.filterMap fun record => (maintainRecord keep ttl now record).2) := by
  have hactions : ∀ action, action ∈ tracker.records.filterMap (fun record =>
      (maintainRecord keep ttl now record).2) ↔
      ∃ record ∈ tracker.records, (maintainRecord keep ttl now record).2 = some action :=
    fun action => List.mem_filterMap
  have hback : ∀ identity record', after.record identity = some record' →
      ∃ record ∈ tracker.records, record.identity = identity ∧
        (maintainRecord keep ttl now record).1 = record' := by
    intro identity record' h
    obtain ⟨hmem, rfl⟩ := record_eq_some_iff.1 h
    rw [hafter] at hmem
    obtain ⟨record, hrecord, rfl⟩ := List.mem_map.1 (List.mem_filter.1 hmem).1
    exact ⟨record, hrecord, (maintainRecord_identity keep ttl now record).symm, rfl⟩
  refine ⟨?_, ?_, ?_, ?_⟩
  · refine List.Pairwise.filterMap _ ?_ tracker.ordered
    intro earlier later hlt action haction action' haction' hsame
    subst hsame
    exact hlt.ne ((action_identity haction).symm.trans (action_identity haction'))
  · intro identity
    rw [hactions]
    constructor
    · rintro ⟨record, hrecord, haction⟩
      have hsome : tracker.record record.identity = some record :=
        record_eq_some_iff.2 ⟨hrecord, rfl⟩
      have hrecord' := maintained_record hafter hrecord
      rcases maintainRecord_cases keep ttl now record with ⟨-, h⟩ | ⟨-, h⟩ | h
      · rw [h] at haction hrecord'
        cases haction
        exact ⟨by rw [hsome]; rfl, hrecord'⟩
      · rw [h] at haction
        cases haction
      · rw [h] at haction
        cases haction
    · rintro ⟨hsome, hgone⟩
      obtain ⟨record, hsome⟩ := Option.isSome_iff_exists.1 hsome
      obtain ⟨hrecord, rfl⟩ := record_eq_some_iff.1 hsome
      refine ⟨record, hrecord, ?_⟩
      rw [maintained_record hafter hrecord] at hgone
      rcases maintainRecord_cases keep ttl now record with ⟨-, h⟩ | ⟨-, h⟩ | h
      · rw [h]
      · rw [h] at hgone
        cases hgone
      · rw [h, if_neg (hnone record hrecord)] at hgone
        cases hgone
  · intro identity
    rw [hactions]
    constructor
    · rintro ⟨record, hrecord, haction⟩
      have hsome : tracker.record record.identity = some record :=
        record_eq_some_iff.2 ⟨hrecord, rfl⟩
      have hrecord' := maintained_record hafter hrecord
      rcases maintainRecord_cases keep ttl now record with ⟨-, h⟩ | ⟨hwarm, h⟩ | h
      · rw [h] at haction
        cases haction
      · rw [h] at haction hrecord'
        cases haction
        exact ⟨record, _, hsome, hrecord', by rw [hwarm]; simp⟩
      · rw [h] at haction
        cases haction
    · rintro ⟨record, record', hsome, hsome', hne⟩
      obtain ⟨hrecord, rfl⟩ := record_eq_some_iff.1 hsome
      refine ⟨record, hrecord, ?_⟩
      rw [maintained_record hafter hrecord] at hsome'
      rcases maintainRecord_cases keep ttl now record with ⟨-, h⟩ | ⟨-, h⟩ | h
      · rw [h] at hsome'
        cases hsome'
      · rw [h]
      · rw [h, if_neg (hnone record hrecord)] at hsome'
        cases hsome'
        exact absurd rfl hne
  · intro identity record' hsome'
    obtain ⟨record, hrecord, rfl, rfl⟩ := hback identity record' hsome'
    refine ⟨record, record_eq_some_iff.2 ⟨hrecord, rfl⟩, ?_⟩
    rcases maintainRecord_cases keep ttl now record with ⟨-, h⟩ | ⟨-, h⟩ | h
    · rw [h]
    · rw [h]
    · rw [h]

/-- **One maintenance call** is atomic exactly when the records are current. -/
theorem maintenanceLaw_iff (hnone : NoUnloaded tracker) (now : Nat) :
    MaintenanceLaw now tracker ↔ Current now tracker := by
  by_cases hcurrent : ∀ record ∈ tracker.records, record.lastUsedMonotonicMillis ≤ now
  · refine iff_of_true ?_ (.inl hcurrent)
    have hrun := @maintainRecords_of_current tracker.keepWarmMillis tracker.unloadTtlMillis now
      tracker.records hcurrent
    unfold MaintenanceLaw maintenanceActions
    simp only [hrun]
    exact maintained_of_current hnone rfl
  · have hfuture : ∃ record ∈ tracker.records, now < record.lastUsedMonotonicMillis := by
      simpa using hcurrent
    obtain ⟨herror, hsame⟩ := @maintainRecords_of_future tracker.keepWarmMillis
      tracker.unloadTtlMillis now tracker.records hfuture
    have hkept : ∀ record ∈ tracker.records,
        ((maintainRecord tracker.keepWarmMillis tracker.unloadTtlMillis now record).1 = record ↔
          ¬ Due tracker.keepWarmMillis tracker.unloadTtlMillis now record) := by
      intro record hrecord
      constructor
      · intro heq hdue
        exact maintainRecord_ne hdue (hnone record hrecord) heq
      · intro hdue
        rw [maintainRecord_of_not_due hdue]
    have hlaw : MaintenanceLaw now tracker ↔
        (maintainRecords tracker.keepWarmMillis tracker.unloadTtlMillis now
          tracker.records).1 = tracker.records := by
      unfold MaintenanceLaw maintenanceActions
      simp only [herror]
      exact ⟨congrArg records, fun h => ext rfl rfl h⟩
    rw [hlaw, hsame, Current, or_iff_right hcurrent]
    refine forall₂_congr fun record hrecord => hkept record ?_
    exact (List.takeWhile_prefix _).subset hrecord

end OneCall

/-! ## Runs -/

inductive ResidencyCall where
  | recordLoaded (identity : PackRevision) (state : RuntimeResidencyStateV1)
      (cpuFallbackSupported : Bool) (now : Nat)
  | touch (identity : PackRevision) (now : Nat)
  | maintain (now : Nat)

def step (call : ResidencyCall) (tracker : ResidencyTrackerV1) : ResidencyTrackerV1 :=
  match call with
  | .recordLoaded identity state cpuFallbackSupported now =>
    (tracker.recordLoaded identity state cpuFallbackSupported now).1
  | .touch identity now => (tracker.touch identity now).1
  | .maintain now => (tracker.maintenanceActions now).1

/-- The law of the maintenance calls. -/
def LawfulCall (tracker : ResidencyTrackerV1) : ResidencyCall → Prop
  | .maintain now => MaintenanceLaw now tracker
  | .recordLoaded .. | .touch .. => True

def CurrentCall (tracker : ResidencyTrackerV1) : ResidencyCall → Prop
  | .maintain now => Current now tracker
  | .recordLoaded .. | .touch .. => True

theorem noUnloaded_maintenanceActions (h : NoUnloaded tracker) {now : Nat}
    (hcurrent : Current now tracker) : NoUnloaded (tracker.maintenanceActions now).1 := by
  have hlaw := (maintenanceLaw_iff h now).2 hcurrent
  unfold MaintenanceLaw at hlaw
  cases hresult : (tracker.maintenanceActions now).2 with
  | error error =>
    rw [hresult] at hlaw
    rwa [hlaw]
  | ok actions =>
    intro record hrecord
    unfold maintenanceActions at hresult hrecord
    dsimp only at hresult hrecord
    split at hresult
    · cases hresult
    · next heq =>
      simp only [heq] at hrecord
      simpa using (List.mem_filter.1 hrecord).2

/-- No record is unloaded, as long as the maintenance calls find their records current. -/
theorem noUnloaded_step (call : ResidencyCall) (h : NoUnloaded tracker)
    (hcurrent : CurrentCall tracker call) : NoUnloaded (step call tracker) := by
  cases call with
  | recordLoaded identity state cpuFallbackSupported now =>
    show NoUnloaded (tracker.recordLoaded identity state cpuFallbackSupported now).1
    unfold recordLoaded
    by_cases hinvalid : now = 0 ∨ state = .unloaded
    · rwa [if_pos hinvalid]
    · rw [if_neg hinvalid]
      intro record hrecord
      rcases mem_insertRecord hrecord with rfl | hrecord
      · exact (not_or.1 hinvalid).2
      · exact h record hrecord
  | touch identity now =>
    show NoUnloaded (tracker.touch identity now).1
    unfold touch
    cases tracker.record identity with
    | none => exact h
    | some record =>
      dsimp only
      by_cases hback : now < record.lastUsedMonotonicMillis
      · rwa [if_pos hback]
      · rw [if_neg hback]
        intro record' hrecord'
        obtain ⟨other, hother, rfl⟩ := List.mem_map.1 hrecord'
        have hstate : (touchRecord identity now other).state = other.state := by
          unfold touchRecord
          split <;> rfl
        rw [hstate]
        exact h other hother
  | maintain now => exact noUnloaded_maintenanceActions h hcurrent

/-- **Maintenance is atomic** all along a run exactly when every maintenance call of the run finds the
records current. -/
theorem maintenance_atomic_iff (keepWarmMillis unloadTtlMillis : Nat)
    (calls : List ResidencyCall) :
    Along step LawfulCall calls ⟨keepWarmMillis, unloadTtlMillis, [], .nil⟩ ↔
      Along step CurrentCall calls ⟨keepWarmMillis, unloadTtlMillis, [], .nil⟩ := by
  refine along_congr NoUnloaded (fun tracker call h hcall => noUnloaded_step call h hcall) ?_ ?_
  · intro tracker call h
    cases call with
    | maintain now => exact maintenanceLaw_iff h now
    | recordLoaded identity state cpuFallbackSupported now => exact Iff.rfl
    | touch identity now => exact Iff.rfl
  · intro record hrecord
    cases hrecord

/-- The first model is unloaded and the action is lost: the second was used after now. -/
theorem maintenance_not_atomic :
    ¬ ∀ (policy : ResourceGovernorPolicyV1) (tracker : ResidencyTrackerV1)
        (calls : List ResidencyCall), new policy = .ok tracker →
      Along step LawfulCall calls tracker := by
  intro h
  have hlaw := h {} ⟨30000, 120000, [], .nil⟩
    [.recordLoaded ⟨⟨['a']⟩, ⟨['1']⟩⟩ .cpuWarm true 1,
      .recordLoaded ⟨⟨['b']⟩, ⟨['1']⟩⟩ .cpuWarm true 300000, .maintain 200000] rfl
  obtain ⟨-, -, hlaw, -⟩ := hlaw
  rw [LawfulCall, maintenanceLaw_iff (by unfold NoUnloaded; decide)] at hlaw
  revert hlaw
  decide

end ResidencyTrackerV1

end NpcRuntime.Packs
