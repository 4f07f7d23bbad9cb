import NpcRuntime.Packs.Activation
import NpcRuntime.Packs.FilesystemStorage

/-!
# The persisted active pointer

The storage on disk keeps the history of a pack a second time, in its active pointer. The two
histories move by different rules: an activation pushes on both, but a rollback takes its target
off the manager's stack and leaves it in the pointer, which also gets the revision that was active;
and a persisted rollback swaps where a rollback pops.

So the pointer refines the manager as long as there is nothing to roll back to
(`pointerRefines_iff`): exactly until an activation replaces another revision, or a storage call
fails behind its write (`pointer_refines_iff`).
-/

namespace NpcRuntime.Packs

open ModelPackManager FilesystemPackStorage

variable {δ σ : Type}

/-! ## The revisions that rollbacks visit -/

/-- The revisions behind so many persisted rollbacks. -/
def persistedVisits : Nat → Option ActivePackPointerV1 → List Revision
  | 0, _ => []
  | n + 1, pointer =>
    match pointer.bind swapped with
    | none => []
    | some next => next.activeRevision :: persistedVisits n (some next)

/-- The revisions behind so many rollbacks of the manager. -/
def managerVisits : Nat → List Revision → List Revision
  | 0, _ => []
  | n + 1, stack =>
    match stack.getLast? with
    | none => []
    | some target => target :: managerVisits n stack.dropLast

/-- Persisted rollbacks that go through, one after another. -/
inductive PersistedRollbacks (env : Disk δ) (packId : PackId) :
    FilesystemPackStorage δ → List PackRevision → Prop
  | nil (s : FilesystemPackStorage δ) : PersistedRollbacks env packId s []
  | cons {s s' : FilesystemPackStorage δ} {identity : PackRevision}
      {identities : List PackRevision} (h : rollbackPersisted env packId s = (.ok identity, s'))
      (rest : PersistedRollbacks env packId s' identities) :
      PersistedRollbacks env packId s (identity :: identities)

/-- Rollbacks of the manager that go through, one after another. -/
inductive ManagerRollbacks (S : PackStorage σ) (packId : PackId) :
    ModelPackManager σ → List PackRevision → Prop
  | nil (m : ModelPackManager σ) : ManagerRollbacks S packId m []
  | cons {m m' : ModelPackManager σ} {identity : PackRevision} {identities : List PackRevision}
      (h : m.rollback S packId = (.ok identity, m'))
      (rest : ManagerRollbacks S packId m' identities) :
      ManagerRollbacks S packId m (identity :: identities)

/-- **Persisted rollbacks visit `persistedVisits`.** -/
theorem PersistedRollbacks.visits {env : Disk δ} {packId : PackId} {s : FilesystemPackStorage δ}
    {identities : List PackRevision} (h : PersistedRollbacks env packId s identities) :
    identities = (persistedVisits identities.length (s.pointers.lookup packId)).map
      (PackRevision.mk packId) := by
  induction h with
  | nil s => rfl
  | cons h _ ih =>
    obtain ⟨next, hnext, rfl, hpointers⟩ := (rollbackPersisted_triple packId).ok rfl h
    rw [hpointers, Table.lookup_insert_eq, if_pos rfl] at ih
    simp only [List.length_cons, persistedVisits, hnext, List.map_cons]
    exact congrArg _ ih

/-- **Rollbacks visit `managerVisits`.** -/
theorem ManagerRollbacks.visits {S : PackStorage σ} {packId : PackId} {m : ModelPackManager σ}
    {identities : List PackRevision} (h : ManagerRollbacks S packId m identities) :
    identities = (managerVisits identities.length (m.rollbackStack packId)).map
      (PackRevision.mk packId) := by
  induction h with
  | nil m => rfl
  | @cons m m' identity identities h _ ih =>
    have houtcome := rollback_outcome S m packId
    rw [h] at houtcome
    cases houtcome with
    | @rolledBack current target s s' hgoes =>
      rw [stack_rolledBack, if_pos rfl] at ih
      have hstack : ({ m with storage := s' } : ModelPackManager σ).rollbackStack packId =
          m.rollbackStack packId := rfl
      rw [hstack] at ih
      simp only [List.length_cons, managerVisits, hgoes.top, List.map_cons]
      exact congrArg _ ih

/-! ## Refinement -/

namespace FilesystemPackStorage

def activeRevision (s : FilesystemPackStorage δ) (packId : PackId) : Option Revision :=
  (s.pointers.lookup packId).map ActivePackPointerV1.activeRevision

def previousRevisions (s : FilesystemPackStorage δ) (packId : PackId) : List Revision :=
  ((s.pointers.lookup packId).map ActivePackPointerV1.previousRevisions).getD []

end FilesystemPackStorage

/-- The active pointer of a pack says what the manager says. -/
structure PointerRefines (m : ModelPackManager (FilesystemPackStorage δ)) (packId : PackId) :
    Prop where
  active : m.storage.activeRevision packId = m.active.lookup packId
  previous : m.storage.previousRevisions packId = m.rollbackStack packId
  distinct : (m.storage.previousRevisions packId).Nodup
  apart : ∀ revision, m.storage.activeRevision packId = some revision →
    revision ∉ m.storage.previousRevisions packId
  /-- After a restart, persisted rollbacks visit what rollbacks would have. -/
  visits : ∀ n, persistedVisits n (m.storage.pointers.lookup packId) =
    managerVisits n (m.rollbackStack packId)

variable {pointer : ActivePackPointerV1}

/-- A second persisted rollback comes back to the revision the first one left. -/
theorem persistedVisits_two {target : Revision}
    (h : pointer.previousRevisions.getLast? = some target) :
    persistedVisits 2 (some pointer) = [target, pointer.activeRevision] := by
  simp [persistedVisits, swapped, h]

theorem persistedVisits_nil {pointer : Option ActivePackPointerV1}
    (h : (pointer.map ActivePackPointerV1.previousRevisions).getD [] = []) (n : Nat) :
    persistedVisits n pointer = [] := by
  cases n with
  | zero => rfl
  | succ n =>
    have hnext : pointer.bind swapped = none := by
      cases pointer with
      | none => rfl
      | some pointer =>
        have hprevious : pointer.previousRevisions = [] := h
        simp [swapped, hprevious]
    simp only [persistedVisits, hnext]

/-- **The pointer refines the manager where there is nothing to roll back to.** -/
theorem pointerRefines_iff {m : ModelPackManager (FilesystemPackStorage δ)} {packId : PackId} :
    PointerRefines m packId ↔
      m.storage.activeRevision packId = m.active.lookup packId ∧
        m.storage.previousRevisions packId = [] ∧ m.rollbackStack packId = [] := by
  constructor
  · intro h
    have hempty : m.storage.previousRevisions packId = [] := by
      cases hpointer : m.storage.pointers.lookup packId with
      | none => simp [previousRevisions, hpointer]
      | some pointer =>
        have hprevious : m.storage.previousRevisions packId = pointer.previousRevisions := by
          simp [previousRevisions, hpointer]
        rw [hprevious]
        cases htop : pointer.previousRevisions.getLast? with
        | none => exact List.getLast?_eq_none_iff.1 htop
        | some target =>
          -- two rollbacks of the manager stay in the stack, where the active revision is not
          have hvisits := h.visits 2
          rw [hpointer, persistedVisits_two htop, ← h.previous, hprevious] at hvisits
          simp only [managerVisits, htop] at hvisits
          have hmem : pointer.activeRevision ∈ pointer.previousRevisions := by
            split at hvisits
            · simp at hvisits
            · next second hsecond =>
              simp only [List.cons.injEq, true_and, and_true] at hvisits
              rw [hvisits]
              exact List.mem_of_mem_dropLast (List.mem_of_getLast? hsecond)
          refine absurd (hprevious ▸ hmem) (h.apart pointer.activeRevision ?_)
          simp [activeRevision, hpointer]
    exact ⟨h.active, hempty, h.previous ▸ hempty⟩
  · rintro ⟨hactive, hprevious, hstack⟩
    refine ⟨hactive, hprevious.trans hstack.symm, ?_, ?_, fun n => ?_⟩
    · rw [hprevious]
      exact List.nodup_nil
    · intro revision _
      rw [hprevious]
      exact List.not_mem_nil
    · rw [hstack, persistedVisits_nil hprevious]
      cases n <;> rfl

/-! ## Runs -/

/-- An activation of the pack that goes through replaces no other revision. -/
def ReplacesNothing (S : PackStorage σ) (packId : PackId) (m : ModelPackManager σ)
    (call : ManagerCall) : Prop :=
  ∀ identity receipt staged s s', call = .activate identity → identity.packId = packId →
    m.ActivationGoes S identity receipt staged s s' →
      ∀ current, m.active.lookup packId = some current → current = identity.revision

/-- The pointer of the pack names the same revisions. -/
def SamePointer (packId : PackId) (s s' : FilesystemPackStorage δ) : Prop :=
  s'.activeRevision packId = s.activeRevision packId ∧
    s'.previousRevisions packId = s.previousRevisions packId

/-- A call that fails in the storage has not replaced or removed the pointer of the pack: the disk has
not failed behind a write or a removal of it that went through. A pointer that is written again for
the revision it names is the same. -/
def FailsBeforeWriting (codec : ManagerCodec) (S : PackStorage (FilesystemPackStorage δ))
    (packId : PackId) (m : ModelPackManager (FilesystemPackStorage δ)) (call : ManagerCall) :
    Prop :=
  storageFailure (managerCall codec S call m).1 = true →
    SamePointer packId m.storage (managerCall codec S call m).2.storage

/-- What holds in every run. -/
structure PointerInv (packId : PackId) (m : ModelPackManager (FilesystemPackStorage δ)) :
    Prop where
  staged : ∀ identity staged, m.staged.lookup identity = some staged → staged.identity = identity
  recorded : ∀ pointer, m.storage.pointers.lookup packId = some pointer →
    m.Recorded ⟨packId, pointer.activeRevision⟩

section Steps

variable {env : Disk δ} {files : FilesystemCodec} {codec : ManagerCodec} {packId : PackId}
  {m m' : ModelPackManager (FilesystemPackStorage δ)} {s s' : FilesystemPackStorage δ}

theorem SamePointer.of_lookup (h : s'.pointers.lookup packId = s.pointers.lookup packId) :
    SamePointer packId s s' := by
  simp only [SamePointer, activeRevision, previousRevisions, h, and_self]

/-- The books of the manager stay. -/
theorem PointerRefines.same_iff (h : PointerRefines m packId)
    (hactive : m'.active.lookup packId = m.active.lookup packId)
    (hstack : m'.rollbackStack packId = m.rollbackStack packId) :
    PointerRefines m' packId ↔ SamePointer packId m.storage m'.storage := by
  obtain ⟨hbefore, hprevious, hempty⟩ := pointerRefines_iff.1 h
  rw [pointerRefines_iff, hactive, hstack, SamePointer, hbefore, hprevious]
  simp only [hempty, and_true]

/-- The pointer stays. -/
theorem PointerInv.of_lookup (h : PointerInv packId m)
    (hrecorded : ∀ identity, m.Recorded identity → m'.Recorded identity)
    (hstaged : ∀ identity staged, m'.staged.lookup identity = some staged →
      m.staged.lookup identity = some staged ∨ staged.identity = identity)
    (hpointer : m'.storage.pointers.lookup packId = m.storage.pointers.lookup packId) :
    PointerInv packId m' where
  staged := fun identity staged hlookup =>
    (hstaged identity staged hlookup).elim (h.staged identity staged) id
  recorded := fun pointer hlookup => hrecorded _ (h.recorded pointer (hpointer ▸ hlookup))

/-- A call that leaves what the manager and the storage say about the pack. -/
structure Untouched (packId : PackId) (m m' : ModelPackManager (FilesystemPackStorage δ)) :
    Prop where
  active : m'.active.lookup packId = m.active.lookup packId
  stack : m'.rollbackStack packId = m.rollbackStack packId
  pointer : m'.storage.pointers.lookup packId = m.storage.pointers.lookup packId

/-- What a call of the manager does to the pointer of the pack. -/
def PointerStep (codec : ManagerCodec) (S : PackStorage (FilesystemPackStorage δ))
    (packId : PackId) (m : ModelPackManager (FilesystemPackStorage δ)) (call : ManagerCall) :
    Prop :=
  PointerRefines (managerStep codec S call m) packId ↔
    ReplacesNothing S packId m call ∧ FailsBeforeWriting codec S packId m call

variable {call : ManagerCall} {S : PackStorage (FilesystemPackStorage δ)}

theorem Untouched.step (h : Untouched packId m (managerStep codec S call m))
    (hrefines : PointerRefines m packId) (hclean : ReplacesNothing S packId m call) :
    PointerStep codec S packId m call := by
  have hsame : SamePointer packId m.storage (managerStep codec S call m).storage :=
    .of_lookup h.pointer
  exact iff_of_true ((hrefines.same_iff h.active h.stack).2 hsame) ⟨hclean, fun _ => hsame⟩

/-- A call that fails in the storage and leaves the books of the manager. -/
theorem pointer_failing (hrefines : PointerRefines m packId)
    (hactive : (managerStep codec S call m).active.lookup packId = m.active.lookup packId)
    (hstack : (managerStep codec S call m).rollbackStack packId = m.rollbackStack packId)
    (hclean : ReplacesNothing S packId m call)
    (hfails : storageFailure (managerCall codec S call m).1 = true) :
    PointerStep codec S packId m call := by
  refine (hrefines.same_iff hactive hstack).trans ⟨fun hsame => ⟨hclean, fun _ => hsame⟩, ?_⟩
  exact fun hcondition => hcondition.2 hfails

theorem replacesNothing_of_ne {S : PackStorage σ} {m : ModelPackManager σ}
    (h : ∀ identity, call = .activate identity → identity.packId ≠ packId) :
    ReplacesNothing S packId m call :=
  fun identity _ _ _ _ hcall hpack => absurd hpack (h identity hcall)

theorem ModelPackManager.QuietCall.untouched
    (h : QuietCall (filesystemPackStorage env files) m m') :
    Untouched packId m m' where
  active := by rw [h.quiet.active]
  stack := rollbackStack_congr h.quiet.rollbacks packId
  pointer := by rw [pointers_quiet h.storage]

theorem ModelPackManager.QuietCall.pointerInv (h : QuietCall (filesystemPackStorage env files) m m')
    (hinv : PointerInv packId m) : PointerInv packId m' :=
  hinv.of_lookup h.quiet.steady.recorded h.quiet.staged h.untouched.pointer

/-! ### Removals -/

variable {pointers : Table PackId ActivePackPointerV1} {target : PackRevision}

theorem lookup_removedPointers_of_ne (h : packId ≠ target.packId) :
    (removedPointers pointers target).lookup packId = pointers.lookup packId := by
  rw [removedPointers]
  split_ifs
  · rw [Table.lookup_erase_eq, if_neg h]
  · rfl

/-- A removed revision is not active any more. -/
theorem not_active_removedPointers {revision : Revision}
    (h : (removedPointers pointers ⟨packId, revision⟩).lookup packId = some pointer) :
    pointer.activeRevision ≠ revision := by
  rintro rfl
  rw [removedPointers] at h
  split_ifs at h with hactive
  · rw [Table.lookup_erase_eq, if_pos rfl] at h
    cases h
  · simp [h] at hactive

theorem lookup_of_removedPointers
    (h : (removedPointers pointers target).lookup packId = some pointer) :
    pointers.lookup packId = some pointer := by
  rw [removedPointers] at h
  split_ifs at h
  · exact lookup_of_lookup_erase h
  · exact h

theorem PointerInv.removeRevisions (h : PointerInv packId m) (identities : List PackRevision) :
    PointerInv packId (removeRevisions (filesystemPackStorage env files) identities m).2 := by
  refine removeRevisions_rule (PointerInv packId) ?_ ?_ h
  · intro m identity _ error s h hremove
    refine ⟨h.staged, fun pointer hpointer => recorded_setState.2 (h.recorded pointer ?_)⟩
    rcases (switches_removeRevision identity).error rfl hremove with hkept | hremoved
    · exact hkept ▸ hpointer
    · exact lookup_of_removedPointers (hremoved ▸ hpointer)
  · intro m identity _ s h hremove
    have hremoved := (switches_removeRevision identity).ok rfl hremove
    refine ⟨fun other staged hstaged => h.staged other staged (lookup_of_lookup_erase hstaged),
      fun pointer hpointer => ?_⟩
    have hfound : (removedPointers m.storage.pointers identity).lookup packId = some pointer :=
      hremoved ▸ hpointer
    have hrecorded := h.recorded pointer (lookup_of_removedPointers hfound)
    show ((m.setState identity .removing).records.erase identity).lookup _ |>.isSome
    rw [Table.lookup_erase_eq, if_neg]
    · exact recorded_setState.2 hrecorded
    · rintro rfl
      exact not_active_removedPointers hfound rfl

theorem lookup_removeRevisions {identities : List PackRevision}
    (h : ∀ identity ∈ identities, packId ≠ identity.packId) :
    (removeRevisions (filesystemPackStorage env files) identities m).2.storage.pointers.lookup
      packId = m.storage.pointers.lookup packId := by
  refine removeRevisions_rule (fun m' : ModelPackManager (FilesystemPackStorage δ) =>
    m'.storage.pointers.lookup packId = m.storage.pointers.lookup packId) ?_ ?_ rfl
  · intro m' identity hmem error s hsame hremove
    rcases (switches_removeRevision identity).error rfl hremove with hkept | hremoved
    · exact (congrArg (AList.lookup packId) hkept).trans hsame
    · exact ((congrArg (AList.lookup packId) hremoved).trans
        (lookup_removedPointers_of_ne (h identity hmem))).trans hsame
  · intro m' identity hmem s hsame hremove
    have hremoved := (switches_removeRevision identity).ok rfl hremove
    exact ((congrArg (AList.lookup packId) hremoved).trans
      (lookup_removedPointers_of_ne (h identity hmem))).trans hsame

/-- A removal stops in front of its loop, or behind it. -/
theorem remove_cases (S : PackStorage σ) (m : ModelPackManager σ) (packId : PackId)
    (policy : RemovalPolicy) :
    ∃ s, QuietStorageRun S m.storage s ∧
      ((m.remove S packId policy).2 = { m with storage := s } ∨
        ∃ active rollbacks references, (m.remove S packId policy).2 =
          { (ModelPackManager.removeRevisions S (m.revisionsOf packId)
              { m with storage := s }).2 with active, rollbacks, references }) := by
  obtain ⟨s, hrun, ⟨count, -, heq⟩ | ⟨error, -, heq⟩⟩ := referenceCount_cases S m packId
  · refine ⟨s, hrun, ?_⟩
    simp only [remove, heq]
    split_ifs
    · exact .inl rfl
    · refine .inr ?_
      have hsame : ({ m with storage := s } : ModelPackManager σ).revisionsOf packId =
          m.revisionsOf packId := rfl
      rw [hsame]
      rcases ModelPackManager.removeRevisions S (m.revisionsOf packId) { m with storage := s } with
        ⟨error | _, m'⟩
      · exact ⟨_, _, _, rfl⟩
      · exact ⟨_, _, _, rfl⟩
  · refine ⟨s, hrun, .inl ?_⟩
    simp only [remove, heq]

theorem PointerInv.remove (h : PointerInv packId m) (other : PackId) (policy : RemovalPolicy) :
    PointerInv packId (m.remove (filesystemPackStorage env files) other policy).2 := by
  obtain ⟨s, hrun, heq | ⟨active, rollbacks, references, heq⟩⟩ :=
    remove_cases (filesystemPackStorage env files) m other policy
  · rw [heq]
    exact h.of_lookup (fun _ h => h) (fun _ _ => .inl) (by rw [pointers_quiet hrun])
  · rw [heq]
    have hbefore : PointerInv packId { m with storage := s } :=
      h.of_lookup (fun _ h => h) (fun _ _ => .inl) (by rw [pointers_quiet hrun])
    have hloop := @PointerInv.removeRevisions δ env files packId _ hbefore (m.revisionsOf other)
    exact ⟨hloop.staged, hloop.recorded⟩

theorem lookup_remove_of_ne {other : PackId} (h : packId ≠ other) (policy : RemovalPolicy) :
    (m.remove (filesystemPackStorage env files) other policy).2.storage.pointers.lookup packId =
      m.storage.pointers.lookup packId := by
  obtain ⟨s, hrun, heq | ⟨active, rollbacks, references, heq⟩⟩ :=
    remove_cases (filesystemPackStorage env files) m other policy
  · rw [heq, ← pointers_quiet hrun]
  · rw [heq, ← pointers_quiet hrun]
    refine @lookup_removeRevisions δ env files packId { m with storage := s } _
      fun identity hmem => ?_
    rw [(mem_revisionsOf.1 hmem).1]
    exact h

theorem untouched_remove {other : PackId} (h : packId ≠ other) (policy : RemovalPolicy) :
    Untouched packId m (m.remove (filesystemPackStorage env files) other policy).2 := by
  have hpointer := @lookup_remove_of_ne δ env files packId m other h policy
  have houtcome := remove_outcome (filesystemPackStorage env files) m other policy
  generalize m.remove (filesystemPackStorage env files) other policy = out at houtcome hpointer ⊢
  cases houtcome with
  | removed _ hremoved =>
    refine ⟨?_, ?_, hpointer⟩
    · rw [hremoved.active, Table.lookup_erase_eq, if_neg h]
    · rw [hremoved.stack, if_neg h]
  | refused => exact ⟨rfl, rfl, hpointer⟩
  | failed _ hactive hrollbacks =>
    exact ⟨by rw [hactive], rollbackStack_congr hrollbacks packId, hpointer⟩

/-- A removal of the pack takes its pointer with it. -/
theorem pointer_removal (h : PointerInv packId m) (hrefines : PointerRefines m packId)
    (other : PackId) (policy : RemovalPolicy) :
    PointerStep codec (filesystemPackStorage env files) packId m (.remove other policy) := by
  have hclean : ReplacesNothing (filesystemPackStorage env files) packId m
      (.remove other policy) := replacesNothing_of_ne (by simp)
  by_cases hpack : packId = other
  · subst hpack
    have hinv := @PointerInv.remove δ env files packId m h packId policy
    have houtcome := remove_outcome (filesystemPackStorage env files) m packId policy
    generalize hout : m.remove (filesystemPackStorage env files) packId policy = out
      at houtcome hinv
    cases houtcome with
    | @removed count s m' _ hremoved =>
      have hnone : m'.storage.pointers.lookup packId = none := by
        cases hpointer : m'.storage.pointers.lookup packId with
        | none => rfl
        | some pointer =>
          have hrecorded := hinv.recorded pointer hpointer
          rw [Recorded, hremoved.records, if_pos rfl] at hrecorded
          cases hrecorded
      refine iff_of_true ?_ ⟨hclean, fun hfails => ?_⟩
      · rw [managerStep, managerCall, hout, pointerRefines_iff]
        refine ⟨?_, ?_, ?_⟩
        · show m'.storage.activeRevision packId = m'.active.lookup packId
          rw [hremoved.active, Table.lookup_erase_eq, if_pos rfl, activeRevision, hnone]
          rfl
        · show m'.storage.previousRevisions packId = []
          rw [previousRevisions, hnone]
          rfl
        · show m'.rollbackStack packId = []
          rw [hremoved.stack, if_pos rfl]
      · rw [managerCall, hout] at hfails
        cases hfails
    | refused hrun =>
      refine Untouched.step ?_ hrefines hclean
      rw [managerStep, managerCall, hout]
      exact ⟨rfl, rfl, by rw [← pointers_quiet hrun]; rfl⟩
    | failed _ hactive hrollbacks =>
      refine pointer_failing hrefines ?_ ?_ hclean ?_
      · rw [managerStep, managerCall, hout]
        exact congrArg _ hactive
      · rw [managerStep, managerCall, hout]
        exact rollbackStack_congr hrollbacks packId
      · rw [managerCall, hout]
        rfl
  · exact (untouched_remove hpack policy).step hrefines hclean

/-! ### Activations -/

variable {identity : PackRevision}

theorem PointerInv.staged_identity (h : PointerInv packId m)
    {receipt : SelfTestAuthorizationReceiptV1} {staged : StagedPack}
    (hchecks : m.checkActivate identity = .ok (receipt, staged)) : staged.identity = identity :=
  h.staged identity staged (checkActivate_staged hchecks)

/-- Nothing is pushed where no other revision was active. -/
theorem pushed_eq_nil {revision : Revision} (hprevious : s.previousRevisions packId = [])
    (hsame : ∀ current, s.activeRevision packId = some current → current = revision) :
    pushed (s.pointers.lookup packId) revision = [] := by
  rw [previousRevisions] at hprevious
  rw [activeRevision] at hsame
  cases hpointer : s.pointers.lookup packId with
  | none => rfl
  | some pointer =>
    rw [hpointer] at hprevious hsame
    have hactive : pointer.activeRevision = revision := hsame _ rfl
    simp only [pushed, hactive, ne_eq, not_true, if_false]
    exact hprevious

/-- The pointer behind an activation refines the manager if no other revision was active. -/
theorem pointerRefines_switchTo (hrefines : PointerRefines m packId)
    (hpack : identity.packId = packId) (hpointers : s'.pointers = m.storage.pointers.insert
      identity.packId (activatedPointer identity (m.storage.pointers.lookup identity.packId))) :
    PointerRefines (({ m with storage := s' } : ModelPackManager _).switchTo identity) packId ↔
      ∀ current, m.active.lookup packId = some current → current = identity.revision := by
  subst hpack
  obtain ⟨hactive, hprevious, hempty⟩ := pointerRefines_iff.1 hrefines
  obtain ⟨hstack, hkept⟩ | ⟨current, hcurrent, hne, hstack⟩ :=
    stack_switchTo ({ m with storage := s' } : ModelPackManager _) identity
  · refine iff_of_true (pointerRefines_iff.2 ⟨?_, ?_, hstack.trans hempty⟩) hkept
    · rw [active_switchTo, if_pos rfl]
      show s'.activeRevision identity.packId = _
      rw [activeRevision, hpointers, Table.lookup_insert_eq, if_pos rfl]
      rfl
    · show s'.previousRevisions identity.packId = _
      rw [previousRevisions, hpointers, Table.lookup_insert_eq, if_pos rfl]
      show dedup (pushed _ _) = []
      rw [pushed_eq_nil hprevious fun current hcurrent => hkept current (hactive ▸ hcurrent)]
      rfl
  · refine iff_of_false (fun hafter => ?_) fun hclean => hne (hclean current hcurrent)
    have hnil := (pointerRefines_iff.1 hafter).2.2
    rw [hstack] at hnil
    simp at hnil

/-- An activation that switches the storage, as far as the pointers go. -/
theorem activation_pointers {authorization : ActivationAuthorization} {staged : StagedPack}
    {result : Except StorageError Unit} (hstaged : staged.identity = identity)
    (hbefore : QuietStorageRun (filesystemPackStorage env files) m.storage s)
    (hactivate : (filesystemPackStorage env files).activate staged authorization s = (result, s')) :
    (s'.pointers = m.storage.pointers ∧ ∃ error, result = .error error) ∨
      s'.pointers = m.storage.pointers.insert identity.packId
        (activatedPointer identity (m.storage.pointers.lookup identity.packId)) := by
  subst hstaged
  rw [← pointers_quiet hbefore]
  cases result with
  | error error =>
    rcases (switches_activate staged authorization).error rfl hactivate with hkept | hswitched
    · exact .inl ⟨hkept, error, rfl⟩
    · exact .inr hswitched
  | ok _ => exact .inr ((switches_activate staged authorization).ok rfl hactivate)

theorem PointerInv.activation (h : PointerInv packId m) (hidentity : m.Recorded identity)
    (hrecorded : ∀ other, m.Recorded other → m'.Recorded other) (hstaged : ∀ other staged,
      m'.staged.lookup other = some staged → m.staged.lookup other = some staged ∨
      staged.identity = other) (hpointers : m'.storage.pointers = m.storage.pointers ∨
      m'.storage.pointers = m.storage.pointers.insert identity.packId (activatedPointer identity
      (m.storage.pointers.lookup identity.packId))) : PointerInv packId m' := by
  rcases hpointers with hkept | hswitched
  · exact h.of_lookup hrecorded hstaged (by rw [hkept])
  by_cases hpack : packId = identity.packId
  · subst hpack
    refine ⟨fun other staged hlookup => (hstaged other staged hlookup).elim (h.staged other staged)
      id, fun pointer hpointer => ?_⟩
    rw [hswitched, Table.lookup_insert_eq, if_pos rfl] at hpointer
    obtain rfl := Option.some.inj hpointer
    exact hrecorded _ hidentity
  · refine h.of_lookup hrecorded hstaged ?_
    rw [hswitched, Table.lookup_insert_eq, if_neg hpack]

/-- An activation decides by what it replaces, or by what a failure leaves. -/
theorem pointer_activation (h : PointerInv packId m) (identity : PackRevision) :
    PointerInv packId (m.activate (filesystemPackStorage env files) identity).2 ∧
      (PointerRefines m packId →
        PointerStep codec (filesystemPackStorage env files) packId m (.activate identity)) := by
  have houtcome := activate_outcome (filesystemPackStorage env files) m identity
  generalize hout : m.activate (filesystemPackStorage env files) identity = out at houtcome ⊢
  have hrecorded : ∀ {receipt staged}, m.checkActivate identity = .ok (receipt, staged) →
      m.Recorded identity := by
    intro receipt staged hchecks
    obtain ⟨record, hrecord, -⟩ := checkActivate_eq_ok hchecks
    exact Option.isSome_iff_exists.2 ⟨record, hrecord⟩
  cases houtcome with
  | @activated receipt staged s s' hgoes =>
    have hpointers := (activation_pointers (h.staged_identity hgoes.checks)
      (.single ⟨.stagedContentBinding staged, rfl, congrArg Prod.snd hgoes.binding⟩)
      hgoes.activates).resolve_left (by simp)
    refine ⟨h.activation (hrecorded hgoes.checks) (fun other => (recorded_switchTo other).2)
      (fun _ _ hlookup => .inl (lookup_of_lookup_erase hlookup)) (.inr hpointers),
      fun hrefines => ?_⟩
    by_cases hpack : identity.packId = packId
    · rw [PointerStep, managerStep, managerCall, hout]
      refine (pointerRefines_switchTo hrefines hpack hpointers).trans ⟨fun hclean => ⟨?_, ?_⟩, ?_⟩
      · rintro _ _ _ _ _ ⟨⟩ - -
        exact hclean
      · intro hfails
        rw [managerCall, hout] at hfails
        cases hfails
      · rintro ⟨hclean, -⟩
        exact hclean identity receipt staged s s' rfl hpack hgoes
    · refine Untouched.step ?_ hrefines (replacesNothing_of_ne ?_)
      · rw [managerStep, managerCall, hout]
        refine ⟨?_, stack_switchTo_of_ne (Ne.symm hpack), ?_⟩
        · rw [active_switchTo, if_neg (Ne.symm hpack)]
        · show s'.pointers.lookup packId = _
          rw [hpointers, Table.lookup_insert_eq, if_neg (Ne.symm hpack)]
      · rintro _ ⟨⟩
        exact hpack
  | refused hnot hquiet =>
    refine ⟨hquiet.pointerInv h, fun hrefines => Untouched.step ?_ hrefines ?_⟩
    · rw [managerStep, managerCall, hout]
      exact hquiet.untouched
    · rintro _ _ _ _ _ ⟨⟩ - hgoes
      exact absurd hgoes (hnot _ _ _ _)
  | failed hnot hquiet hchecks hbefore hactivate =>
    have hpointers := activation_pointers (h.staged_identity hchecks) hbefore hactivate
    have hclean : ReplacesNothing (filesystemPackStorage env files) packId m
        (.activate identity) := by
      rintro _ _ _ _ _ ⟨⟩ - hgoes
      exact absurd hgoes (hnot _ _ _ _)
    refine ⟨h.activation (hrecorded hchecks) hquiet.steady.recorded hquiet.staged
      (hpointers.imp_left And.left), fun hrefines => pointer_failing hrefines ?_ ?_ hclean ?_⟩
    · rw [managerStep, managerCall, hout]
      exact congrArg (AList.lookup packId) hquiet.active
    · rw [managerStep, managerCall, hout]
      exact rollbackStack_congr hquiet.rollbacks packId
    · rw [managerCall, hout]
      rfl

/-! ### Rollbacks -/

/-- A rollback leaves the pointers of other packs. -/
theorem lookup_activateExisting {result : Except StorageError Unit} (h : packId ≠ target.packId)
    (hbefore : QuietStorageRun (filesystemPackStorage env files) m.storage s)
    (hactivate : (filesystemPackStorage env files).activateExisting target s = (result, s')) :
    s'.pointers.lookup packId = m.storage.pointers.lookup packId := by
  rw [← pointers_quiet hbefore]
  have hother : (s.pointers.insert target.packId
      (existingPointer target (s.pointers.lookup target.packId))).lookup packId =
        s.pointers.lookup packId := by
    rw [Table.lookup_insert_eq, if_neg h]
  cases result with
  | error error =>
    rcases (switches_activateExisting target).error rfl hactivate with hkept | hswitched
    · rw [hkept]
    · rw [hswitched, hother]
  | ok _ => rw [(switches_activateExisting target).ok rfl hactivate, hother]

/-- Where the pointer refines the manager there is nothing to roll back to. -/
theorem pointer_rollback (h : PointerInv packId m) (hrefines : PointerRefines m packId)
    (other : PackId) :
    PointerInv packId (m.rollback (filesystemPackStorage env files) other).2 ∧
      PointerStep codec (filesystemPackStorage env files) packId m (.rollback other) := by
  have hclean : ReplacesNothing (filesystemPackStorage env files) packId m (.rollback other) :=
    replacesNothing_of_ne (by simp)
  have hother : ∀ {target}, (m.rollbackStack other).getLast? = some target → packId ≠ other := by
    rintro target htop rfl
    rw [(pointerRefines_iff.1 hrefines).2.2] at htop
    cases htop
  suffices hbooks : (∀ identity, m.Recorded identity →
        (m.rollback (filesystemPackStorage env files) other).2.Recorded identity) ∧
      (m.rollback (filesystemPackStorage env files) other).2.staged = m.staged ∧
      Untouched packId m (m.rollback (filesystemPackStorage env files) other).2 by
    obtain ⟨hrecorded, hstaged, huntouched⟩ := hbooks
    exact ⟨h.of_lookup hrecorded (fun _ _ hlookup => .inl (hstaged ▸ hlookup)) huntouched.pointer,
      huntouched.step hrefines hclean⟩
  have houtcome := rollback_outcome (filesystemPackStorage env files) m other
  generalize m.rollback (filesystemPackStorage env files) other = out at houtcome ⊢
  cases houtcome with
  | @rolledBack current target s s' hgoes =>
    have hne := hother hgoes.top
    refine ⟨fun identity => (recorded_rolledBack identity).2, rfl, ?_, ?_, ?_⟩
    · rw [active_rolledBack, if_neg hne]
    · rw [stack_rolledBack, if_neg hne]
      rfl
    · exact lookup_activateExisting hne
        (.single ⟨.referenceCount other, rfl, congrArg Prod.snd hgoes.references⟩) hgoes.activates
  | refused hnot hrun =>
    exact ⟨fun _ h => h, rfl, rfl, rfl, congrArg (AList.lookup packId) (pointers_quiet hrun)⟩
  | failed hnot htarget hbefore hactivate =>
    have hne := hother htarget
    refine ⟨fun _ h => h, rfl, rfl, ?_, lookup_activateExisting hne hbefore hactivate⟩
    show ((m.rollbacks.modify other List.dropLast).lookup packId).getD [] = _
    rw [Table.lookup_modify, if_neg hne]
    rfl
  | inactive hnone htarget hbefore hactivate =>
    have hne := hother htarget
    refine ⟨fun _ h => h, rfl, ?_, ?_, lookup_activateExisting hne hbefore hactivate⟩
    · exact (Table.lookup_insert_eq ..).trans (if_neg hne)
    · show ((m.rollbacks.modify other List.dropLast).lookup packId).getD [] = _
      rw [Table.lookup_modify, if_neg hne]
      rfl

/-! ### Every call -/

/-- **One step.** Where the pointer refines the manager, the invariant is kept, and whether the
refinement is kept is up to what an activation replaces and what a failure leaves. -/
theorem pointer_step (h : PointerInv packId m) (hrefines : PointerRefines m packId)
    (call : ManagerCall) :
    PointerInv packId (managerStep codec (filesystemPackStorage env files) call m) ∧
      PointerStep codec (filesystemPackStorage env files) packId m call := by
  by_cases hquiet : call.quiet
  · have hcall : QuietCall (filesystemPackStorage env files) m
        (managerStep codec (filesystemPackStorage env files) call m) := quiet_managerCall hquiet
    refine ⟨hcall.pointerInv h, hcall.untouched.step hrefines (replacesNothing_of_ne ?_)⟩
    rintro identity rfl
    cases hquiet
  cases call with
  | recordSelfTestAttestation identity attestation verifier now =>
    have houtcome := recordSelfTestAttestation_outcome codec (filesystemPackStorage env files) m
      identity attestation verifier now
    generalize hout : m.recordSelfTestAttestation codec (filesystemPackStorage env files) identity
      attestation verifier now = out at houtcome
    have hclean : ReplacesNothing (filesystemPackStorage env files) packId m
        (.recordSelfTestAttestation identity attestation verifier now) :=
      replacesNothing_of_ne (by simp)
    suffices hbooks : PointerInv packId out.2 ∧ Untouched packId m out.2 by
      refine ⟨?_, Untouched.step ?_ hrefines hclean⟩
      · rw [managerStep, managerCall, hout]
        exact hbooks.1
      · rw [managerStep, managerCall, hout]
        exact hbooks.2
    cases houtcome with
    | accepted challenge receipt s _ hattested =>
      have hpointers := pointers_quiet (hattested.before.tail
        ⟨.consumeAttestationReplayKey receipt.replayKey, rfl, congrArg Prod.snd hattested.consumed⟩)
      have hlookup := congrArg (AList.lookup packId) hpointers
      refine ⟨h.of_lookup hattested.steady.recorded
        (fun _ _ hstaged => .inl (hattested.staged ▸ hstaged)) hlookup, ?_, ?_, hlookup⟩
      · rw [hattested.active]
      · exact rollbackStack_congr hattested.rollbacks packId
    | refused hquiet => exact ⟨hquiet.pointerInv h, hquiet.untouched⟩
  | activate identity =>
    obtain ⟨hinv, hstep⟩ := @pointer_activation δ env files codec packId m h identity
    exact ⟨hinv, hstep hrefines⟩
  | remove other policy => exact ⟨h.remove other policy, pointer_removal h hrefines other policy⟩
  | rollback other => exact pointer_rollback h hrefines other
  | _ => exact absurd rfl hquiet

end Steps

/-- **The persisted active pointer.** In a run over a storage without pointers, the pointer of a
pack refines the manager in every state exactly if no activation of the pack replaces another
revision and no call fails in the storage behind a write of the pointer. -/
theorem pointer_refines_iff (codec : ManagerCodec) (env : Disk δ) (files : FilesystemCodec)
    (packId : PackId) (disk : δ) (references : Table PackId (List Text))
    (consumed : List Sha256Digest) (calls : List ManagerCall) :
    (∀ pre, pre <+: calls → PointerRefines
        (runFrom (managerStep codec (filesystemPackStorage env files)) pre
          (.new { disk, references, consumed })) packId) ↔
      Along (managerStep codec (filesystemPackStorage env files))
        (fun m call => ReplacesNothing (filesystemPackStorage env files) packId m call ∧
          FailsBeforeWriting codec (filesystemPackStorage env files) packId m call)
        calls (.new { disk, references, consumed }) := by
  refine along_iff_prefixes_of (C := fun _ _ => True) (PointerInv packId)
    (PointerRefines · packId) (fun m call h _ hrefines _ => (pointer_step h hrefines call).1)
    (fun m call h _ hrefines => (pointer_step h hrefines call).2) ?_ ?_
    (along_of_forall (fun _ _ => trivial) calls _)
  · exact ⟨fun _ _ h => (by cases h), fun _ h => (by cases h)⟩
  · exact pointerRefines_iff.2 ⟨rfl, rfl, rfl⟩

/-! ## An update and a rollback on a disk that never fails -/

structure SampleDisk where
  trees : Table Tree (List InstalledFileV1) := ∅
  indexes : Table Tree InstallIndexV1 := ∅
  transactions : List Char := ['1', '2']

def sampleDisk : Disk SampleDisk where
  isDir tree := fun d => ((d.trees.lookup tree).isSome, d)
  isPresent tree := fun d => ((d.trees.lookup tree).isSome, d)
  secureCreateDirAll folder := fun d =>
    match folder with
    | .tree tree =>
      if (d.trees.lookup tree).isSome then (.ok (), d)
      else (.ok (), { d with trees := d.trees.insert tree [] })
    | _ => (.ok (), d)
  rejectLink _ := pure ()
  removeDirAll tree := fun d =>
    (.ok (), { d with trees := d.trees.erase tree, indexes := d.indexes.erase tree })
  rename source destination := fun d =>
    match d.trees.lookup source, d.indexes.lookup source with
    | some files, some index => (.ok (), { d with
        trees := (d.trees.erase source).insert destination files
        indexes := (d.indexes.erase source).insert destination index })
    | _, _ => (.error ⟨"not found".toList⟩, d)
  readIndex tree := fun d =>
    match d.indexes.lookup tree with
    | some index => (.ok index, d)
    | none => (.error ⟨"not found".toList⟩, d)
  writeIndex tree index := fun d => (.ok (), { d with indexes := d.indexes.insert tree index })
  writeManifest _ _ := pure ()
  writeReceipt _ _ := pure ()
  indexFiles tree := fun d =>
    match d.trees.lookup tree with
    | some files => (.ok files, d)
    | none => (.error ⟨"not found".toList⟩, d)
  verifyDownload _ artifact := pure ⟨artifact.id, artifact.sizeBytes, artifact.sha256⟩
  extractArtifact artifact _ tree := fun d =>
    let file : InstalledFileV1 := ⟨artifact.destination, artifact.sizeBytes, artifact.sha256⟩
    (.ok (), { d with trees := d.trees.modify tree (file :: ·) })
  transaction := fun d =>
    (d.transactions.take 1, { d with transactions := d.transactions.drop 1 })
  lock _ := pure ()
  unlock _ := pure ()
  readJson _ := pure ()
  atomicWriteJson _ := pure .written
  removeFile _ := pure ()

def sampleFiles : FilesystemCodec where
  toCodec := fixtureCodec.toCodec
  files files := .ok (files.flatMap fun file => textBytes file.sha256.value)
  manifestError _ := "invalid manifest".toList

def filesystemBinding (revision : Revision) (transaction : Char) : StagedContentBindingV1 where
  identity := sampleIdentity revision
  transactionId := samplePack.value ++ '-' :: revision.value ++ ['-', transaction]
  manifestSha256 := fixtureCodec.sha256 (textBytes revision.value)
  contentTreeSha256 := fixtureCodec.sha256 (textBytes "npc-staged-content-tree-v1".toList ++ [0] ++
    textBytes (fixtureEvidence revision).sha256.value)
  fileCount := 1
  totalFileBytes := 9

/-- A revision is installed, another one takes its place, and the first one comes back. -/
def updateAndRollBack : List ManagerCall :=
  installCalls (filesystemBinding firstRevision '1') '1' ++
    (installCalls (filesystemBinding secondRevision '2') '2' ++ [.rollback samplePack])

/-- The stack is empty and the pointer has two revisions, one of them the active one. -/
theorem pointer_keeps_rolled_back :
    ¬ ∀ (codec : ManagerCodec) (env : Disk SampleDisk) (files : FilesystemCodec)
        (packId : PackId) (disk : SampleDisk) (calls : List ManagerCall),
      PointerRefines (runFrom (managerStep codec (filesystemPackStorage env files)) calls
        (.new { disk })) packId := by
  intro h
  have hrefines := h fixtureCodec sampleDisk sampleFiles samplePack {} updateAndRollBack
  refine hrefines.apart firstRevision ?_ ?_
  · decide +kernel
  · decide +kernel

end NpcRuntime.Packs
