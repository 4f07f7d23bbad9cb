import NpcRuntime.Lib.Machine
import NpcRuntime.Packs.MemoryStorage

/-!
# One active revision per pack

The manager keeps what is active in three places: the state of the records, the table of active
revisions and the rollback stacks. A rollback moves all three together. An activation leaves the
record of the revision it replaces in state `active`, and does not look into the rollback stack.

Without storage failures the three agree exactly as long as every activation that replaces a
revision finds the record of that revision in another state and does not come back to a revision
on the stack (`one_active_iff`).
-/

namespace NpcRuntime.Packs

variable {σ : Type}

namespace ModelPackManager

/-- A record is in state `active`. -/
def IsActive (m : ModelPackManager σ) (identity : PackRevision) : Prop :=
  ∃ record, m.records.lookup identity = some record ∧ record.state = .active

instance (m : ModelPackManager σ) (identity : PackRevision) : Decidable (m.IsActive identity) :=
  decidable_of_iff ((m.records.lookup identity).map PackRecord.state = some .active)
    Option.map_eq_some_iff

def Recorded (m : ModelPackManager σ) (identity : PackRevision) : Prop :=
  (m.records.lookup identity).isSome

/-- The three books agree. -/
structure OneActive (m : ModelPackManager σ) : Prop where
  /-- What is in state `active` is what is named. -/
  named : ∀ identity, m.IsActive identity →
    m.active.lookup identity.packId = some identity.revision
  distinct : ∀ packId, (m.rollbackStack packId).Nodup
  apart : ∀ packId revision, m.active.lookup packId = some revision →
    revision ∉ m.rollbackStack packId
  recorded : ∀ packId, ∀ revision ∈ m.rollbackStack packId, m.Recorded ⟨packId, revision⟩

theorem OneActive.single {m : ModelPackManager σ} (h : m.OneActive) {a b : PackRevision}
    (ha : m.IsActive a) (hb : m.IsActive b) (hpack : a.packId = b.packId) : a = b := by
  have hnamed := h.named a ha
  rw [hpack, h.named b hb] at hnamed
  exact PackRevision.ext hpack (Option.some.inj hnamed).symm

/-! ## Runs without storage failures -/

def storageFailure : Except ManagerError Unit → Bool
  | .error (.storage _) => true
  | _ => false

end ModelPackManager

open ModelPackManager

def managerStep (codec : ManagerCodec) (S : PackStorage σ) (call : ManagerCall)
    (m : ModelPackManager σ) : ModelPackManager σ :=
  (managerCall codec S call m).2

def NoStorageFailure (codec : ManagerCodec) (S : PackStorage σ) (m : ModelPackManager σ)
    (call : ManagerCall) : Prop :=
  storageFailure (managerCall codec S call m).1 = false

instance (codec : ManagerCodec) (S : PackStorage σ) (m : ModelPackManager σ)
    (call : ManagerCall) : Decidable (NoStorageFailure codec S m call) :=
  inferInstanceAs (Decidable (_ = false))

/-- An activation that goes through replaces only a revision whose record is not in state `active`,
and brings in none that is on the rollback stack. -/
def ReplacesCleanly (S : PackStorage σ) (m : ModelPackManager σ) (call : ManagerCall) : Prop :=
  ∀ identity receipt staged s s', call = .activate identity →
    m.ActivationGoes S identity receipt staged s s' →
      ∀ current, m.active.lookup identity.packId = some current → current ≠ identity.revision →
        ¬m.IsActive ⟨identity.packId, current⟩ ∧
          identity.revision ∉ m.rollbackStack identity.packId

/-! ## Steps -/

namespace ModelPackManager

/-- What holds in every run without storage failures. -/
structure ActiveInv (m : ModelPackManager σ) : Prop where
  active : ∀ packId revision, m.active.lookup packId = some revision →
    m.Recorded ⟨packId, revision⟩
  stack : ∀ packId, ∀ revision ∈ m.rollbackStack packId, m.Recorded ⟨packId, revision⟩
  empty : ∀ packId, m.active.lookup packId = none → m.rollbackStack packId = []

/-- Nothing is switched. -/
structure Steady (m m' : ModelPackManager σ) : Prop where
  active : m'.active = m.active
  rollbacks : m'.rollbacks = m.rollbacks
  recorded : ∀ identity, m.Recorded identity → m'.Recorded identity
  still : ∀ identity, m'.IsActive identity → m.IsActive identity

section Steady

variable {m m' : ModelPackManager σ}

theorem Steady.stack (h : Steady m m') (packId : PackId) :
    m'.rollbackStack packId = m.rollbackStack packId :=
  rollbackStack_congr h.rollbacks packId

theorem Steady.activeInv (h : Steady m m') (hinv : m.ActiveInv) : m'.ActiveInv where
  active := fun packId revision hactive =>
    h.recorded _ (hinv.active packId revision (h.active ▸ hactive))
  stack := fun packId revision hmem =>
    h.recorded _ (hinv.stack packId revision (h.stack packId ▸ hmem))
  empty := fun packId hnone => (h.stack packId).trans (hinv.empty packId (h.active ▸ hnone))

theorem Steady.oneActive (h : Steady m m') (hone : m.OneActive) : m'.OneActive where
  named := fun identity hactive => h.active ▸ hone.named identity (h.still identity hactive)
  distinct := fun packId => (h.stack packId).symm ▸ hone.distinct packId
  apart := fun packId revision hactive =>
    (h.stack packId).symm ▸ hone.apart packId revision (h.active ▸ hactive)
  recorded := fun packId revision hmem =>
    h.recorded _ (hone.recorded packId revision (h.stack packId ▸ hmem))

theorem Quiet.steady (h : m.Quiet m') : Steady m m' where
  active := h.active
  rollbacks := h.rollbacks
  recorded := fun identity hrecorded => by
    obtain ⟨record, hrecord⟩ := Option.isSome_iff_exists.1 hrecorded
    have hchange := h.records identity
    rw [hrecord] at hchange
    rw [Recorded]
    generalize m'.records.lookup identity = entry at hchange ⊢
    cases hchange
    rfl
  still := fun identity hactive => by
    obtain ⟨record', hrecord', hstate⟩ := hactive
    have hchange := h.records identity
    rw [hrecord'] at hchange
    generalize hrecord : m.records.lookup identity = entry at hchange
    cases hchange with
    | installed => cases hstate
    | changed hchange => exact ⟨_, hrecord, (hchange.active hstate).1⟩

theorem Attested.steady {S : PackStorage σ} {identity : PackRevision}
    {challenge : SelfTestChallengeV1} {receipt : SelfTestAuthorizationReceiptV1} {s : σ}
    (h : m.Attested S m' identity challenge receipt s) : Steady m m' where
  active := h.active
  rollbacks := h.rollbacks
  recorded := fun other hrecorded => by
    rw [Recorded, h.records, Table.lookup_modify]
    split_ifs
    · rw [Option.isSome_map]
      exact hrecorded
    · exact hrecorded
  still := fun other hactive => by
    obtain ⟨record', hrecord', hstate⟩ := hactive
    rw [h.records, Table.lookup_modify] at hrecord'
    split_ifs at hrecord'
    · obtain ⟨record, -, rfl⟩ := Option.map_eq_some_iff.1 hrecord'
      cases hstate
    · exact ⟨record', hrecord', hstate⟩

end Steady

/-! ### States -/

section States

variable {m : ModelPackManager σ}

theorem recorded_setState {identity other : PackRevision} {state : InstallState} :
    (m.setState identity state).Recorded other ↔ m.Recorded other := by
  rw [Recorded, lookup_setState]
  split_ifs
  · rw [Option.isSome_map, Recorded]
  · rfl

theorem isActive_setState {identity other : PackRevision} {state : InstallState} :
    (m.setState identity state).IsActive other ↔
      if other = identity then state = .active ∧ m.Recorded other else m.IsActive other := by
  rw [IsActive, lookup_setState]
  split_ifs
  · cases hrecord : m.records.lookup other <;> simp [Recorded, hrecord]
  · rfl

end States

/-! ### Activations -/

section Activation

variable {m : ModelPackManager σ} {identity : PackRevision}

theorem active_switchTo (packId : PackId) :
    (m.switchTo identity).active.lookup packId =
      if packId = identity.packId then some identity.revision else m.active.lookup packId :=
  Table.lookup_insert_eq ..

theorem isActive_switchTo (other : PackRevision) :
    (m.switchTo identity).IsActive other ↔
      if other = identity then m.Recorded other else m.IsActive other := by
  refine (isActive_setState (m := m)).trans ?_
  split_ifs <;> simp

theorem recorded_switchTo (other : PackRevision) :
    (m.switchTo identity).Recorded other ↔ m.Recorded other :=
  recorded_setState (m := m)

theorem stack_switchTo_of_ne {packId : PackId} (h : packId ≠ identity.packId) :
    (m.switchTo identity).rollbackStack packId = m.rollbackStack packId := by
  simp only [rollbackStack, switchTo]
  split
  · split_ifs
    · rw [Table.lookup_insert_eq, if_neg h]
    · rfl
  · rfl

/-- The stack grows by the revision that is replaced, if one is. -/
theorem stack_switchTo (m : ModelPackManager σ) (identity : PackRevision) :
    ((m.switchTo identity).rollbackStack identity.packId = m.rollbackStack identity.packId ∧
      ∀ current, m.active.lookup identity.packId = some current →
        current = identity.revision) ∨
    ∃ current, m.active.lookup identity.packId = some current ∧ current ≠ identity.revision ∧
      (m.switchTo identity).rollbackStack identity.packId =
        m.rollbackStack identity.packId ++ [current] := by
  cases hactive : m.active.lookup identity.packId with
  | none =>
    refine .inl ⟨?_, by simp⟩
    simp only [rollbackStack, switchTo, hactive]
  | some current =>
    by_cases hsame : current = identity.revision
    · refine .inl ⟨?_, by simp [hsame]⟩
      simp only [rollbackStack, switchTo, hactive, hsame, ne_eq, not_true, if_false]
    · refine .inr ⟨current, rfl, hsame, ?_⟩
      simp only [rollbackStack, switchTo, hactive, ne_eq, hsame, not_false_eq_true, if_true,
        Table.lookup_insert_eq, Option.getD_some]

theorem switchTo_activeInv (h : m.ActiveInv) (hrecorded : m.Recorded identity) :
    (m.switchTo identity).ActiveInv where
  active := fun packId revision hactive => by
    rw [active_switchTo] at hactive
    rw [recorded_switchTo]
    split_ifs at hactive with hpack
    · obtain rfl := Option.some.inj hactive
      exact hpack ▸ hrecorded
    · exact h.active packId revision hactive
  stack := fun packId revision hmem => by
    rw [recorded_switchTo]
    by_cases hpack : packId = identity.packId
    · subst hpack
      obtain ⟨hstack, -⟩ | ⟨current, hcurrent, -, hstack⟩ := stack_switchTo m identity
      · exact h.stack _ revision (hstack ▸ hmem)
      · rw [hstack] at hmem
        rcases List.mem_append.1 hmem with hmem | hmem
        · exact h.stack _ revision hmem
        · obtain rfl := List.mem_singleton.1 hmem
          exact h.active _ _ hcurrent
    · exact h.stack packId revision (stack_switchTo_of_ne hpack ▸ hmem)
  empty := fun packId hnone => by
    rw [active_switchTo] at hnone
    split_ifs at hnone with hpack
    rw [stack_switchTo_of_ne hpack]
    exact h.empty packId hnone

theorem switchTo_oneActive (h : m.ActiveInv) (hone : m.OneActive) (hrecorded : m.Recorded identity)
    (hidle : ∀ current, m.active.lookup identity.packId = some current →
      current ≠ identity.revision → ¬m.IsActive ⟨identity.packId, current⟩)
    (hnodup : ((m.switchTo identity).rollbackStack identity.packId).Nodup)
    (hnew : identity.revision ∉ (m.switchTo identity).rollbackStack identity.packId) :
    (m.switchTo identity).OneActive where
  named := fun other hactive => by
    rw [isActive_switchTo] at hactive
    rw [active_switchTo]
    split_ifs at hactive with heq
    · rw [if_pos (heq ▸ rfl), heq]
    · have hnamed := hone.named other hactive
      split_ifs with hpack
      · have hother : other.revision ≠ identity.revision := by
          exact fun hsame => heq (PackRevision.ext hpack hsame)
        have hcurrent : m.active.lookup identity.packId = some other.revision := hpack ▸ hnamed
        exact absurd (hpack ▸ hactive) (hidle other.revision hcurrent hother)
      · exact hnamed
  distinct := fun packId => by
    by_cases hpack : packId = identity.packId
    · exact hpack ▸ hnodup
    · rw [stack_switchTo_of_ne hpack]
      exact hone.distinct packId
  apart := fun packId revision hactive => by
    rw [active_switchTo] at hactive
    split_ifs at hactive with hpack
    · obtain rfl := Option.some.inj hactive
      exact hpack ▸ hnew
    · rw [stack_switchTo_of_ne hpack]
      exact hone.apart packId revision hactive
  recorded := (switchTo_activeInv h hrecorded).stack

/-- **When an activation keeps the books together.** -/
theorem switchTo_oneActive_iff (h : m.ActiveInv) (hone : m.OneActive)
    (hrecorded : m.Recorded identity) :
    (m.switchTo identity).OneActive ↔
      ∀ current, m.active.lookup identity.packId = some current → current ≠ identity.revision →
        ¬m.IsActive ⟨identity.packId, current⟩ ∧
          identity.revision ∉ m.rollbackStack identity.packId := by
  obtain ⟨hstack, hkept⟩ | ⟨old, hold, hne, hstack⟩ := stack_switchTo m identity
  · have hclean : ∀ current, m.active.lookup identity.packId = some current →
        current = identity.revision := hkept
    refine iff_of_true ?_ fun current hcurrent hne => absurd (hclean current hcurrent) hne
    refine switchTo_oneActive h hone hrecorded
      (fun current hcurrent hne => absurd (hclean current hcurrent) hne) ?_ ?_
    · exact hstack ▸ hone.distinct _
    · rw [hstack]
      -- the revision was the active one, or the stack is empty
      cases hactive : m.active.lookup identity.packId with
      | none =>
        rw [h.empty _ hactive]
        exact List.not_mem_nil
      | some current =>
        obtain rfl := hclean current hactive
        exact hone.apart _ _ hactive
  constructor
  · intro hafter current hcurrent _
    obtain rfl := Option.some.inj (hold.symm.trans hcurrent)
    constructor
    · intro hactive
      have hnamed := hafter.named ⟨identity.packId, old⟩ (by
        rw [isActive_switchTo, if_neg fun heq => hne (congrArg PackRevision.revision heq)]
        exact hactive)
      rw [active_switchTo, if_pos rfl] at hnamed
      exact hne (Option.some.inj hnamed).symm
    · intro hmem
      refine hafter.apart identity.packId identity.revision ?_ ?_
      · rw [active_switchTo, if_pos rfl]
      · rw [hstack]
        exact List.mem_append_left _ hmem
  · intro hclean
    have hnew := (hclean old hold hne).2
    refine switchTo_oneActive h hone hrecorded
      (fun current hcurrent hne => (hclean current hcurrent hne).1) ?_ ?_
    · rw [hstack, List.nodup_append]
      refine ⟨hone.distinct _, List.nodup_singleton old, ?_⟩
      rintro revision hmem _ hsingle rfl
      obtain rfl := List.mem_singleton.1 hsingle
      exact hone.apart _ _ hold hmem
    · rw [hstack, List.mem_append, List.mem_singleton]
      exact not_or.2 ⟨hnew, hne.symm⟩

end Activation

/-! ### Rollbacks -/

section Rollback

variable {m : ModelPackManager σ} {packId : PackId} {target current : Revision}

theorem active_rolledBack (other : PackId) :
    (m.rolledBack packId target current).active.lookup other =
      if other = packId then some target else m.active.lookup other :=
  Table.lookup_insert_eq ..

theorem stack_rolledBack (other : PackId) :
    (m.rolledBack packId target current).rollbackStack other =
      if other = packId then (m.rollbackStack other).dropLast else m.rollbackStack other := by
  show ((m.rollbacks.modify packId List.dropLast).lookup other).getD [] = _
  rw [Table.lookup_modify, rollbackStack]
  split_ifs
  · cases m.rollbacks.lookup other <;> rfl
  · rfl

theorem recorded_rolledBack (other : PackRevision) :
    (m.rolledBack packId target current).Recorded other ↔ m.Recorded other :=
  recorded_setState.trans recorded_setState

theorem isActive_rolledBack (other : PackRevision) :
    (m.rolledBack packId target current).IsActive other ↔
      if other = ⟨packId, target⟩ then m.Recorded other
      else other ≠ ⟨packId, current⟩ ∧ m.IsActive other := by
  refine isActive_setState.trans ?_
  split_ifs
  · rw [recorded_setState]
    exact and_iff_right rfl
  · refine isActive_setState.trans ?_
    split_ifs with h
    · simp [h]
    · simp only [ne_eq, h, not_false_eq_true, true_and]
      rfl

theorem rolledBack_activeInv (h : m.ActiveInv)
    (htop : (m.rollbackStack packId).getLast? = some target) :
    (m.rolledBack packId target current).ActiveInv where
  active := fun other revision hactive => by
    rw [active_rolledBack] at hactive
    rw [recorded_rolledBack]
    split_ifs at hactive with hpack
    · obtain rfl := Option.some.inj hactive
      exact hpack ▸ h.stack packId target (List.mem_of_getLast? htop)
    · exact h.active other revision hactive
  stack := fun other revision hmem => by
    rw [stack_rolledBack] at hmem
    rw [recorded_rolledBack]
    split_ifs at hmem
    · exact h.stack other revision (List.mem_of_mem_dropLast hmem)
    · exact h.stack other revision hmem
  empty := fun other hnone => by
    rw [active_rolledBack] at hnone
    split_ifs at hnone with hpack
    rw [stack_rolledBack, if_neg hpack]
    exact h.empty other hnone

/-- **A rollback keeps the books together.** -/
theorem rolledBack_oneActive (h : m.ActiveInv) (hone : m.OneActive)
    (htop : (m.rollbackStack packId).getLast? = some target)
    (hcurrent : m.active.lookup packId = some current) :
    (m.rolledBack packId target current).OneActive where
  named := fun other hactive => by
    rw [isActive_rolledBack] at hactive
    rw [active_rolledBack]
    split_ifs at hactive with heq
    · rw [if_pos (heq ▸ rfl), heq]
    · obtain ⟨hne, hactive⟩ := hactive
      have hnamed := hone.named other hactive
      split_ifs with hpack
      · -- the revision that was active is rolled back
        rw [hpack, hcurrent] at hnamed
        exact absurd (PackRevision.ext hpack (Option.some.inj hnamed).symm) hne
      · exact hnamed
  distinct := fun other => by
    rw [stack_rolledBack]
    split_ifs
    · exact (hone.distinct other).sublist (List.dropLast_sublist _)
    · exact hone.distinct other
  apart := fun other revision hactive => by
    rw [active_rolledBack] at hactive
    rw [stack_rolledBack]
    split_ifs at hactive ⊢ with hpack
    · obtain rfl := Option.some.inj hactive
      -- the target was on top of a stack without duplicates
      have hsplit := List.dropLast_append_getLast? _ htop
      have hnodup := hone.distinct packId
      rw [← hsplit, List.nodup_append] at hnodup
      intro hmem
      exact hnodup.2.2 _ (hpack ▸ hmem) _ List.mem_cons_self rfl
    · exact hone.apart other revision hactive
  recorded := (rolledBack_activeInv h htop).stack

end Rollback

/-! ### Removals -/

section Removal

variable {m m' : ModelPackManager σ} {packId : PackId}

theorem Removed.stack (h : Removed m m' packId) (other : PackId) :
    m'.rollbackStack other = if other = packId then [] else m.rollbackStack other := by
  rw [rollbackStack, h.rollbacks, Table.lookup_erase_eq]
  split_ifs <;> rfl

theorem Removed.activeInv (h : Removed m m' packId) (hinv : m.ActiveInv) : m'.ActiveInv where
  active := fun other revision hactive => by
    rw [h.active, Table.lookup_erase_eq] at hactive
    split_ifs at hactive with hpack
    rw [Recorded, h.records, if_neg hpack]
    exact hinv.active other revision hactive
  stack := fun other revision hmem => by
    rw [h.stack] at hmem
    split_ifs at hmem with hpack
    · cases hmem
    · rw [Recorded, h.records, if_neg hpack]
      exact hinv.stack other revision hmem
  empty := fun other hnone => by
    rw [h.active, Table.lookup_erase_eq] at hnone
    rw [h.stack]
    split_ifs at hnone ⊢ with hpack
    · rfl
    · exact hinv.empty other hnone

theorem Removed.oneActive (h : Removed m m' packId) (hinv : m.ActiveInv) (hone : m.OneActive) :
    m'.OneActive where
  named := fun other hactive => by
    obtain ⟨record, hrecord, hstate⟩ := hactive
    rw [h.records] at hrecord
    split_ifs at hrecord with hpack
    rw [h.active, Table.lookup_erase_eq, if_neg hpack]
    exact hone.named other ⟨record, hrecord, hstate⟩
  distinct := fun other => by
    rw [h.stack]
    split_ifs
    · exact List.nodup_nil
    · exact hone.distinct other
  apart := fun other revision hactive => by
    rw [h.active, Table.lookup_erase_eq] at hactive
    split_ifs at hactive with hpack
    rw [h.stack, if_neg hpack]
    exact hone.apart other revision hactive
  recorded := (h.activeInv hinv).stack

end Removal

theorem steady_storage (m : ModelPackManager σ) (s : σ) : Steady m { m with storage := s } :=
  ⟨rfl, rfl, fun _ h => h, fun _ h => h⟩

end ModelPackManager

/-! ### Every call -/

section Steps

variable {codec : ManagerCodec} {S : PackStorage σ} {m : ModelPackManager σ}

theorem replacesCleanly_of_ne {call : ManagerCall} (h : ∀ identity, call ≠ .activate identity) :
    ReplacesCleanly S m call :=
  fun identity _ _ _ _ hcall => absurd hcall (h identity)

/-- What a step that switches nothing keeps. -/
theorem ModelPackManager.Steady.step {m' : ModelPackManager σ} (hsteady : Steady m m')
    (h : m.ActiveInv) {call : ManagerCall} (hclean : ReplacesCleanly S m call) :
    m'.ActiveInv ∧ (m.OneActive → (m'.OneActive ↔ ReplacesCleanly S m call)) :=
  ⟨hsteady.activeInv h, fun hone => iff_of_true (hsteady.oneActive hone) hclean⟩

variable (h : m.ActiveInv)

include h

/-- An activation that goes through decides by what it replaces. -/
theorem activation_books (identity : PackRevision)
    (hfree : NoStorageFailure codec S m (.activate identity)) :
    (m.activate S identity).2.ActiveInv ∧ (m.OneActive →
      ((m.activate S identity).2.OneActive ↔ ReplacesCleanly S m (.activate identity))) := by
  have houtcome := activate_outcome S m identity
  simp only [NoStorageFailure, managerCall] at hfree
  generalize m.activate S identity = out at houtcome hfree ⊢
  cases houtcome with
  | @activated receipt staged s s' hgoes =>
    have hsteady := steady_storage m s'
    obtain ⟨record, hrecord, -⟩ := checkActivate_eq_ok hgoes.checks
    have hrecorded : ({ m with storage := s' } : ModelPackManager σ).Recorded identity :=
      Option.isSome_iff_exists.2 ⟨record, hrecord⟩
    refine ⟨switchTo_activeInv (hsteady.activeInv h) hrecorded, fun hone => ?_⟩
    refine (switchTo_oneActive_iff (hsteady.activeInv h) (hsteady.oneActive hone)
      hrecorded).trans ?_
    constructor
    · rintro hclean _ _ _ _ _ ⟨⟩ -
      exact hclean
    · intro hclean
      exact hclean identity receipt staged s s' rfl hgoes
  | refused hnot hquiet =>
    refine hquiet.quiet.steady.step h ?_
    rintro _ _ _ _ _ ⟨⟩ hgoes
    exact absurd hgoes (hnot _ _ _ _)
  | failed => cases hfree

theorem rollback_books (packId : PackId) (hfree : NoStorageFailure codec S m (.rollback packId)) :
    (m.rollback S packId).2.ActiveInv ∧ (m.OneActive → (m.rollback S packId).2.OneActive) := by
  have houtcome := rollback_outcome S m packId
  simp only [NoStorageFailure, managerCall] at hfree
  generalize m.rollback S packId = out at houtcome hfree ⊢
  cases houtcome with
  | @rolledBack current target s s' hgoes =>
    have hsteady := steady_storage m s'
    exact ⟨rolledBack_activeInv (hsteady.activeInv h) hgoes.top, fun hone =>
      rolledBack_oneActive (hsteady.activeInv h) (hsteady.oneActive hone) hgoes.top hgoes.current⟩
  | @refused error s hnot hrun =>
    exact ⟨(steady_storage m s).activeInv h, (steady_storage m s).oneActive⟩
  | failed => cases hfree
  | inactive hnone htop =>
    rw [h.empty packId hnone] at htop
    cases htop

theorem removal_books (packId : PackId) (policy : RemovalPolicy)
    (hfree : NoStorageFailure codec S m (.remove packId policy)) :
    (m.remove S packId policy).2.ActiveInv ∧
      (m.OneActive → (m.remove S packId policy).2.OneActive) := by
  have houtcome := remove_outcome S m packId policy
  simp only [NoStorageFailure, managerCall] at hfree
  generalize m.remove S packId policy = out at houtcome hfree ⊢
  cases houtcome with
  | removed _ hremoved => exact ⟨hremoved.activeInv h, hremoved.oneActive h⟩
  | @refused error s hrun =>
    exact ⟨(steady_storage m s).activeInv h, (steady_storage m s).oneActive⟩
  | failed => cases hfree

/-- **One step.** Without a storage failure it keeps the invariant, and whether it keeps the books
together is up to what an activation replaces. -/
theorem active_step (call : ManagerCall) (hfree : NoStorageFailure codec S m call) :
    (managerStep codec S call m).ActiveInv ∧ (m.OneActive →
      ((managerStep codec S call m).OneActive ↔ ReplacesCleanly S m call)) := by
  by_cases hquiet : call.quiet
  · have hcall : QuietCall S m (managerStep codec S call m) := quiet_managerCall hquiet
    refine hcall.quiet.steady.step h (replacesCleanly_of_ne ?_)
    rintro identity rfl
    cases hquiet
  cases call with
  | recordSelfTestAttestation identity attestation verifier now =>
    have houtcome := recordSelfTestAttestation_outcome codec S m identity attestation verifier now
    have hclean : ReplacesCleanly S m
        (.recordSelfTestAttestation identity attestation verifier now) :=
      replacesCleanly_of_ne (by simp)
    simp only [managerStep, managerCall]
    generalize m.recordSelfTestAttestation codec S identity attestation verifier now = out
      at houtcome ⊢
    cases houtcome with
    | accepted challenge receipt s _ hattested => exact hattested.steady.step h hclean
    | refused hquiet => exact hquiet.quiet.steady.step h hclean
  | activate identity => exact activation_books h identity hfree
  | remove packId policy =>
    obtain ⟨hinv, hone⟩ := removal_books h packId policy hfree
    exact ⟨hinv, fun hbefore => iff_of_true (hone hbefore) (replacesCleanly_of_ne (by simp))⟩
  | rollback packId =>
    obtain ⟨hinv, hone⟩ := rollback_books h packId hfree
    exact ⟨hinv, fun hbefore => iff_of_true (hone hbefore) (replacesCleanly_of_ne (by simp))⟩
  | _ => exact absurd rfl hquiet

end Steps

/-- **One active revision per pack.** In a run without storage failures the books of every state
agree exactly if every activation that goes through replaces cleanly. -/
theorem one_active_iff (codec : ManagerCodec) (S : PackStorage σ) (storage : σ)
    (calls : List ManagerCall)
    (h : Along (managerStep codec S) (NoStorageFailure codec S) calls (.new storage)) :
    (∀ pre, pre <+: calls → (runFrom (managerStep codec S) pre (.new storage)).OneActive) ↔
      Along (managerStep codec S) (ReplacesCleanly S) calls (.new storage) := by
  refine along_iff_prefixes_of ActiveInv OneActive
    (fun m call hinv hfree _ _ => (active_step hinv call hfree).1)
    (fun m call hinv hfree => (active_step hinv call hfree).2) ?_ ?_ h
  · exact ⟨fun _ _ h => (by cases h), fun _ _ h => (by cases h), fun _ _ => rfl⟩
  · exact ⟨fun _ h => (by obtain ⟨_, h, -⟩ := h; cases h), fun _ => .nil, fun _ _ h => (by cases h),
      fun _ _ h => (by cases h)⟩

/-- The calls that install one revision meet no storage failure. -/
theorem one_active_iff_install :
    Along (managerStep fixtureCodec fixtureStorage) (NoStorageFailure fixtureCodec fixtureStorage)
      (finishInstall firstRevision '1') (.new {}) ∧
    ((∀ pre, pre <+: finishInstall firstRevision '1' →
        (runFrom (managerStep fixtureCodec fixtureStorage) pre (.new {})).OneActive) ↔
      Along (managerStep fixtureCodec fixtureStorage) (ReplacesCleanly fixtureStorage)
        (finishInstall firstRevision '1') (.new {})) := by
  have hfree : Along (managerStep fixtureCodec fixtureStorage)
      (NoStorageFailure fixtureCodec fixtureStorage) (finishInstall firstRevision '1')
      (.new {}) := by
    decide +kernel
  exact ⟨hfree, one_active_iff fixtureCodec fixtureStorage {} _ hfree⟩

/-- An update leaves the record of the revision it replaces in state `active`. -/
theorem update_leaves_two_active :
    ¬ ∀ (codec : ManagerCodec) (S : PackStorage InMemoryPackStorage)
        (storage : InMemoryPackStorage) (calls : List ManagerCall),
      Along (managerStep codec S) (NoStorageFailure codec S) calls (.new storage) →
        (runFrom (managerStep codec S) calls (.new storage)).OneActive := by
  intro h
  have hfree : Along (managerStep fixtureCodec fixtureStorage)
      (NoStorageFailure fixtureCodec fixtureStorage) installTwo (.new {}) := by
    decide +kernel
  have hone := h fixtureCodec fixtureStorage {} installTwo hfree
  have hactive : ∀ revision ∈ [firstRevision, secondRevision],
      (runFrom (managerStep fixtureCodec fixtureStorage) installTwo (.new {})).IsActive
        (sampleIdentity revision) := by
    decide +kernel
  have hsame := hone.single (hactive firstRevision (by simp)) (hactive secondRevision (by simp)) rfl
  exact absurd hsame (by decide)

end NpcRuntime.Packs
