import NpcRuntime.Packs.Activation

/-!
# Rollbacks and removals that fail

A rollback takes its target off the rollback stack before it asks the storage to switch, and a
removal marks and erases one record after another while it asks the storage to remove the
revisions. A failure in between is returned without putting anything back.

A failed rollback or removal leaves the books as they were exactly if the storage does not fail
behind the first of these changes (`failed_switch_unchanged_iff`): a rollback's target must open,
and a removal must go through the whole pack or fail at a first revision that is marked already.
-/

namespace NpcRuntime.Packs

variable {σ : Type}

variable {m' : ModelPackManager σ}

namespace ModelPackManager

/-- The books of two managers show the same. -/
structure SameBooks (m m' : ModelPackManager σ) : Prop where
  records : ∀ identity, m'.records.lookup identity = m.records.lookup identity
  active : ∀ packId, m'.active.lookup packId = m.active.lookup packId
  rollbacks : ∀ packId, m'.rollbacks.lookup packId = m.rollbacks.lookup packId
  staged : ∀ identity, m'.staged.lookup identity = m.staged.lookup identity
  pendingSelfTests : ∀ identity,
    m'.pendingSelfTests.lookup identity = m.pendingSelfTests.lookup identity
  references : ∀ packId, m'.references.lookup packId = m.references.lookup packId

theorem sameBooks_storage (m : ModelPackManager σ) (s : σ) : SameBooks m { m with storage := s } :=
  ⟨fun _ => rfl, fun _ => rfl, fun _ => rfl, fun _ => rfl, fun _ => rfl, fun _ => rfl⟩

/-- If the call fails, it leaves the books. -/
def FailsUnchanged {α : Type} (m : ModelPackManager σ) (out : ManagerCallOf σ α) : Prop :=
  ∀ error, out.1 = .error error → SameBooks m out.2

variable {m : ModelPackManager σ}

theorem failsUnchanged_ok {α : Type} (a : α) : m.FailsUnchanged (.ok a, m') := by
  rintro error ⟨⟩

theorem failsUnchanged_error {α : Type} {error : ManagerError} :
    m.FailsUnchanged ((.error error, m') : ManagerCallOf σ α) ↔ SameBooks m m' := by
  constructor
  · intro h
    exact h error rfl
  · intro h _ _
    exact h

theorem failsUnchanged_discard {α : Type} {out : ManagerCallOf σ α} :
    m.FailsUnchanged (discard out) ↔ m.FailsUnchanged out := by
  obtain ⟨_ | _, m'⟩ := out
  · exact failsUnchanged_error.trans failsUnchanged_error.symm
  · exact iff_of_true (failsUnchanged_ok _) (failsUnchanged_ok _)

/-! ## Rollbacks -/

/-- Where nothing refers to the pack, the storage opens the revision on top of the stack. -/
def TargetOpens (S : PackStorage σ) (m : ModelPackManager σ) (packId : PackId) : Prop :=
  ∀ target s, S.referenceCount packId m.storage = (.ok 0, s) →
    (m.references.lookup packId).getD [] = [] → (m.rollbackStack packId).getLast? = some target →
      ∃ s', S.activateExisting ⟨packId, target⟩ s = (.ok (), s')

/-- The stacks after the pop. -/
theorem stack_pop {packId : PackId} (hpop : m'.rollbacks = m.rollbacks.modify packId List.dropLast)
    (other : PackId) :
    m'.rollbackStack other =
      if other = packId then (m.rollbackStack other).dropLast else m.rollbackStack other := by
  rw [rollbackStack, hpop, Table.lookup_modify, rollbackStack]
  split_ifs
  · cases m.rollbacks.lookup other <;> rfl
  · rfl

theorem not_sameBooks_of_pop {packId : PackId} {target : Revision}
    (htop : (m.rollbackStack packId).getLast? = some target)
    (hpop : m'.rollbacks = m.rollbacks.modify packId List.dropLast) : ¬SameBooks m m' := by
  intro h
  have hstack := stack_pop hpop packId
  rw [rollbackStack, h.rollbacks, ← rollbackStack, if_pos rfl] at hstack
  have hsome : m.rollbackStack packId ≠ [] := by
    rintro hnil
    rw [hnil] at htop
    cases htop
  have hpos := List.length_pos_of_ne_nil hsome
  have hlength := congrArg List.length hstack
  rw [List.length_dropLast] at hlength
  omega

/-- What the stack says about the table of active revisions in every run. -/
def StackBelowActive (m : ModelPackManager σ) : Prop :=
  ∀ packId, m.active.lookup packId = none → m.rollbackStack packId = []

section Rollback

variable {S : PackStorage σ} {m : ModelPackManager σ} {packId : PackId}

/-- A rollback that finds all it needs goes through. -/
theorem rollback_failsUnchanged_iff (h : m.StackBelowActive) :
    m.FailsUnchanged (m.rollback S packId) ↔ TargetOpens S m packId := by
  obtain ⟨s, -, ⟨count, hcount, heq⟩ | ⟨error, hcount, heq⟩⟩ := referenceCount_cases S m packId
  · simp only [rollback, heq]
    split_ifs with href
    · refine iff_of_true (failsUnchanged_error.2 (sameBooks_storage m s)) ?_
      intro target s' hzero hnone
      cases hcount.symm.trans hzero
      simp [hnone] at href
    · have hzero : count = 0 := by omega
      have hempty : (m.references.lookup packId).getD [] = [] :=
        List.eq_nil_of_length_eq_zero (by omega)
      subst hzero
      split
      · next hnone =>
        refine iff_of_true (failsUnchanged_error.2 (sameBooks_storage m s)) ?_
        intro target s' _ _ htop
        cases hnone.symm.trans htop
      · next target htop =>
        refine stored_rule (fun out => m.FailsUnchanged out ↔ _) fun result s' hactivate => ?_
        cases result with
        | error error =>
          refine iff_of_false ?_ ?_
          · rw [failsUnchanged_error]
            exact not_sameBooks_of_pop htop rfl
          · intro hopens
            obtain ⟨s'', hopen⟩ := hopens target s hcount hempty htop
            cases hactivate.symm.trans hopen
        | ok _ =>
          have hopens : TargetOpens S m packId := by
            intro target' t hcount' _ htop'
            cases hcount.symm.trans hcount'
            cases htop.symm.trans htop'
            exact ⟨s', hactivate⟩
          refine iff_of_true ?_ hopens
          dsimp only
          split
          · next hnone =>
            have hstack : m.rollbackStack packId = [] := h packId hnone
            rw [rollbackStack] at hstack
            rw [hstack] at htop
            cases htop
          · exact failsUnchanged_ok _
  · simp only [rollback, heq]
    refine iff_of_true (failsUnchanged_error.2 (sameBooks_storage m s)) ?_
    intro target s' hzero
    cases hcount.symm.trans hzero

end Rollback

/-! ## Removals -/

/-- The storage removes all of the revisions, or refuses a first one whose record says `removing`
already. -/
def RemovalsHold (S : PackStorage σ) (m : ModelPackManager σ) (identities : List PackRevision)
    (s : σ) : Prop :=
  (∃ s', Removals S identities s s') ∨
    ∃ identity error s', identities.head? = some identity ∧
      (m.records.lookup identity).map PackRecord.state = some .removing ∧
      S.removeRevision identity s = (.error error, s')

/-- Where the policy allows it, the revisions of the pack can be removed. -/
def RevisionsGo (S : PackStorage σ) (m : ModelPackManager σ) (packId : PackId)
    (policy : RemovalPolicy) : Prop :=
  ∀ count s, S.referenceCount packId m.storage = (.ok count, s) →
    policy = .force ∨ max ((m.references.lookup packId).getD []).length count = 0 →
      RemovalsHold S m (m.revisionsOf packId) s

section Removal

variable {S : PackStorage σ} {m : ModelPackManager σ} {packId : PackId}

/-- A mark changes nothing exactly if it is there already. -/
theorem sameBooks_removing_iff {identity : PackRevision} {s : σ}
    (hrecorded : m.Recorded identity) :
    SameBooks m { m.setState identity .removing with storage := s } ↔
      (m.records.lookup identity).map PackRecord.state = some .removing := by
  obtain ⟨record, hrecord⟩ := Option.isSome_iff_exists.1 hrecorded
  have hlookup := lookup_setState m identity identity .removing
  rw [if_pos rfl, hrecord] at hlookup
  constructor
  · intro h
    have hsame := h.records identity
    rw [hrecord] at hsame
    have hmarked : { record with state := .removing } = record :=
      Option.some.inj (hlookup.symm.trans hsame)
    rw [hrecord, Option.map_some, ← hmarked]
  · intro hmarked
    rw [hrecord, Option.map_some, Option.some.injEq] at hmarked
    refine ⟨fun other => ?_, fun _ => rfl, fun _ => rfl, fun _ => rfl, fun _ => rfl, fun _ => rfl⟩
    by_cases hother : other = identity
    · subst hother
      rw [hlookup, hrecord, Option.map_some, ← hmarked]
    · show (m.setState identity .removing).records.lookup other = _
      rw [lookup_setState, if_neg hother]

/-- What is gone stays gone. -/
theorem Withdrawn.gone (h : Withdrawn m m') {identity : PackRevision}
    (hgone : m.records.lookup identity = none) : m'.records.lookup identity = none := by
  obtain hsame | hnone | ⟨record, hrecord, -⟩ := h.records identity
  · exact hsame.trans hgone
  · exact hnone
  · cases hgone.symm.trans hrecord

/-- Removals that the storage carries out end the loop. -/
theorem removeRevisions_of_removals {identities : List PackRevision} (m : ModelPackManager σ)
    {s' : σ} (h : Removals S identities m.storage s') :
    ∃ m', removeRevisions S identities m = (.ok (), m') := by
  induction identities generalizing m with
  | nil => exact ⟨m, rfl⟩
  | cons identity identities ih =>
    cases h with
    | cons hremove hrest =>
      simp only [removeRevisions]
      refine stored_rule (fun out => ∃ m', out = (.ok (), m')) fun result s hresult => ?_
      obtain ⟨rfl, rfl⟩ := Prod.mk.inj (hremove.symm.trans hresult)
      exact ih _ hrest

/-- The first revision that the storage removes takes its record along. -/
theorem removeRevisions_failsUnchanged_iff {identities : List PackRevision}
    (hrecorded : ∀ identity ∈ identities, m.Recorded identity) :
    m.FailsUnchanged (removeRevisions S identities m) ↔
      RemovalsHold S m identities m.storage := by
  cases identities with
  | nil => exact iff_of_true (failsUnchanged_ok _) (.inl ⟨_, .nil _⟩)
  | cons identity identities =>
    have hhead := hrecorded identity List.mem_cons_self
    simp only [removeRevisions]
    refine stored_rule (fun out => m.FailsUnchanged out ↔ _) fun result s hremove => ?_
    replace hremove : S.removeRevision identity m.storage = (result, s) := hremove
    cases result with
    | error error =>
      rw [failsUnchanged_error]
      refine (sameBooks_removing_iff hhead).trans ⟨fun hmarked => ?_, fun hhold => ?_⟩
      · exact .inr ⟨identity, error, s, rfl, hmarked, hremove⟩
      · obtain ⟨s', hremovals⟩ | ⟨_, _, _, hfirst, hmarked, -⟩ := hhold
        · cases hremovals with
          | cons hgoes _ => cases hremove.symm.trans hgoes
        · cases hfirst
          exact hmarked
    | ok _ =>
      set m₁ : ModelPackManager σ := { m.setState identity .removing with
        storage := s
        staged := m.staged.erase identity
        pendingSelfTests := m.pendingSelfTests.erase identity
        records := (m.setState identity .removing).records.erase identity }
      show m.FailsUnchanged (removeRevisions S identities m₁) ↔ _
      have hgone : m₁.records.lookup identity = none := by
        simp only [m₁, Table.lookup_erase_eq, if_pos]
      have houtcome := removeRevisions_outcome S identities m₁
      generalize hout : removeRevisions S identities m₁ = out at houtcome ⊢
      cases houtcome with
      | removed _ _ _ _ hremovals =>
        exact iff_of_true (failsUnchanged_ok _) (.inl ⟨_, .cons hremove hremovals⟩)
      | failed hwithdrawn =>
        refine iff_of_false ?_ ?_
        · rw [failsUnchanged_error]
          intro hsame
          have hlost := hsame.records identity
          rw [hwithdrawn.gone hgone] at hlost
          simp [Recorded, ← hlost] at hhead
        · rintro (⟨s', hremovals⟩ | ⟨_, _, _, hfirst, -, hfails⟩)
          · cases hremovals with
            | cons hgoes hrest =>
              cases hremove.symm.trans hgoes
              obtain ⟨m', hgo⟩ := removeRevisions_of_removals m₁ hrest
              cases hout.symm.trans hgo
          · cases hfirst
            cases hremove.symm.trans hfails

theorem remove_failsUnchanged_iff {policy : RemovalPolicy} :
    m.FailsUnchanged (m.remove S packId policy) ↔ RevisionsGo S m packId policy := by
  obtain ⟨s, -, ⟨count, hcount, heq⟩ | ⟨error, hcount, heq⟩⟩ := referenceCount_cases S m packId
  · simp only [remove, heq]
    split_ifs with href
    · refine iff_of_true (failsUnchanged_error.2 (sameBooks_storage m s)) ?_
      intro count' s' hcount' hallowed
      cases hcount.symm.trans hcount'
      obtain rfl | hzero := hallowed
      · cases href.2
      · omega
    · have hgo : RevisionsGo S m packId policy ↔ RemovalsHold S m (m.revisionsOf packId) s := by
        constructor
        · intro h
          refine h count s hcount ?_
          cases policy with
          | force => exact .inl rfl
          | requireUnreferenced => exact .inr (by simpa using href)
        · intro h count' s' hcount' _
          cases hcount.symm.trans hcount'
          exact h
      have hrecorded : ∀ identity ∈ m.revisionsOf packId,
          ({ m with storage := s } : ModelPackManager σ).Recorded identity :=
        fun identity hmem => (mem_revisionsOf.1 hmem).2
      have hloop : ({ m with storage := s } : ModelPackManager σ).FailsUnchanged
          (removeRevisions S (m.revisionsOf packId) { m with storage := s }) ↔
            RemovalsHold S m (m.revisionsOf packId) s :=
        removeRevisions_failsUnchanged_iff hrecorded
      refine Iff.trans ?_ (hloop.trans hgo.symm)
      have hsame : ({ m with storage := s } : ModelPackManager σ).revisionsOf packId =
          m.revisionsOf packId := rfl
      rw [hsame]
      rcases removeRevisions S (m.revisionsOf packId) { m with storage := s } with ⟨_ | _, m'⟩
      · rw [failsUnchanged_error, failsUnchanged_error]
        exact ⟨fun h => ⟨h.1, h.2, h.3, h.4, h.5, h.6⟩, fun h => ⟨h.1, h.2, h.3, h.4, h.5, h.6⟩⟩
      · exact iff_of_true (failsUnchanged_ok _) (failsUnchanged_ok _)
  · simp only [remove, heq]
    refine iff_of_true (failsUnchanged_error.2 (sameBooks_storage m s)) ?_
    intro count s' hcount'
    cases hcount.symm.trans hcount'

end Removal

end ModelPackManager

open ModelPackManager

/-! ## Runs -/

section Steps

variable {codec : ManagerCodec} {S : PackStorage σ} {m : ModelPackManager σ}

theorem ModelPackManager.StackBelowActive.of_same (h : m.StackBelowActive)
    (hactive : m'.active = m.active) (hrollbacks : m'.rollbacks = m.rollbacks) :
    m'.StackBelowActive := by
  intro packId hnone
  rw [rollbackStack_congr hrollbacks]
  exact h packId (hactive ▸ hnone)

/-- A pack with a rollback stack has an active revision, whatever the storage does. -/
theorem stackBelowActive_step (h : m.StackBelowActive) (call : ManagerCall) :
    (managerStep codec S call m).StackBelowActive := by
  by_cases hquiet : call.quiet
  · have hcall : QuietCall S m (managerStep codec S call m) := quiet_managerCall hquiet
    exact h.of_same hcall.quiet.active hcall.quiet.rollbacks
  cases call with
  | recordSelfTestAttestation identity attestation verifier now =>
    have houtcome := recordSelfTestAttestation_outcome codec S m identity attestation verifier now
    simp only [managerStep, managerCall]
    generalize m.recordSelfTestAttestation codec S identity attestation verifier now = out
      at houtcome ⊢
    cases houtcome with
    | accepted challenge receipt s _ hattested =>
      exact h.of_same hattested.active hattested.rollbacks
    | refused hquiet => exact h.of_same hquiet.quiet.active hquiet.quiet.rollbacks
  | activate identity =>
    have houtcome := activate_outcome S m identity
    simp only [managerStep, managerCall]
    generalize m.activate S identity = out at houtcome ⊢
    cases houtcome with
    | @activated receipt staged s s' hgoes =>
      intro packId hnone
      rw [active_switchTo] at hnone
      split_ifs at hnone with hpack
      rw [stack_switchTo_of_ne hpack]
      exact h packId hnone
    | refused _ hquiet => exact h.of_same hquiet.quiet.active hquiet.quiet.rollbacks
    | failed _ hquiet => exact h.of_same hquiet.active hquiet.rollbacks
  | remove packId policy =>
    have houtcome := remove_outcome S m packId policy
    simp only [managerStep, managerCall, discard]
    generalize m.remove S packId policy = out at houtcome ⊢
    cases houtcome with
    | removed _ hremoved =>
      intro other hnone
      rw [hremoved.stack]
      split_ifs with hpack
      · rfl
      · rw [hremoved.active, Table.lookup_erase_eq, if_neg hpack] at hnone
        exact h other hnone
    | refused => exact h
    | failed _ hactive hrollbacks => exact h.of_same hactive hrollbacks
  | rollback packId =>
    have houtcome := rollback_outcome S m packId
    simp only [managerStep, managerCall, discard]
    generalize m.rollback S packId = out at houtcome ⊢
    cases houtcome with
    | @rolledBack current target s s' hgoes =>
      intro other hnone
      rw [active_rolledBack] at hnone
      split_ifs at hnone with hpack
      rw [stack_rolledBack, if_neg hpack]
      exact h other hnone
    | refused => exact h
    | failed =>
      intro other hnone
      rw [stack_pop rfl]
      have hempty := h other hnone
      rw [rollbackStack] at hempty ⊢
      simp [hempty]
    | inactive hnone htop =>
      rw [h packId hnone] at htop
      cases htop
  | _ => exact absurd rfl hquiet

/-- What a rollback or a removal needs in order to fail without a trace or not at all. -/
def SwitchHolds (S : PackStorage σ) (m : ModelPackManager σ) : ManagerCall → Prop
  | .rollback packId => TargetOpens S m packId
  | .remove packId policy => RevisionsGo S m packId policy
  | _ => True

/-- A rollback or a removal that fails leaves the books. -/
def FailedSwitchUnchanged (codec : ManagerCodec) (S : PackStorage σ) (m : ModelPackManager σ)
    (call : ManagerCall) : Prop :=
  match call with
  | .rollback _ | .remove .. => m.FailsUnchanged (managerCall codec S call m)
  | _ => True

theorem failedSwitchUnchanged_iff (h : m.StackBelowActive) (call : ManagerCall) :
    FailedSwitchUnchanged codec S m call ↔ SwitchHolds S m call := by
  cases call with
  | rollback packId => exact failsUnchanged_discard.trans (rollback_failsUnchanged_iff h)
  | remove packId policy => exact failsUnchanged_discard.trans remove_failsUnchanged_iff
  | _ => exact Iff.rfl

theorem ModelPackManager.SameBooks.activeInv (h : SameBooks m m') (hinv : m.ActiveInv) :
    m'.ActiveInv where
  active := fun packId revision hactive => by
    rw [h.active] at hactive
    rw [Recorded, h.records]
    exact hinv.active packId revision hactive
  stack := fun packId revision hmem => by
    rw [rollbackStack, h.rollbacks] at hmem
    rw [Recorded, h.records]
    exact hinv.stack packId revision hmem
  empty := fun packId hnone => by
    rw [h.active] at hnone
    rw [rollbackStack, h.rollbacks]
    exact hinv.empty packId hnone

/-- **One step.** As long as failed rollbacks and removals leave the books, what is active and what
can be rolled back to is recorded. -/
theorem activeInv_step (h : m.ActiveInv) (call : ManagerCall)
    (hunchanged : FailedSwitchUnchanged codec S m call) :
    (managerStep codec S call m).ActiveInv := by
  by_cases hquiet : call.quiet
  · have hcall : QuietCall S m (managerStep codec S call m) := quiet_managerCall hquiet
    exact hcall.quiet.steady.activeInv h
  cases call with
  | recordSelfTestAttestation identity attestation verifier now =>
    have houtcome := recordSelfTestAttestation_outcome codec S m identity attestation verifier now
    simp only [managerStep, managerCall]
    generalize m.recordSelfTestAttestation codec S identity attestation verifier now = out
      at houtcome ⊢
    cases houtcome with
    | accepted challenge receipt s _ hattested => exact hattested.steady.activeInv h
    | refused hquiet => exact hquiet.quiet.steady.activeInv h
  | activate identity =>
    have houtcome := activate_outcome S m identity
    simp only [managerStep, managerCall]
    generalize m.activate S identity = out at houtcome ⊢
    cases houtcome with
    | @activated receipt staged s s' hgoes =>
      obtain ⟨record, hrecord, -⟩ := checkActivate_eq_ok hgoes.checks
      have hrecorded : ({ m with storage := s' } : ModelPackManager σ).Recorded identity :=
        Option.isSome_iff_exists.2 ⟨record, hrecord⟩
      exact switchTo_activeInv ((steady_storage m s').activeInv h) hrecorded
    | refused _ hquiet => exact hquiet.quiet.steady.activeInv h
    | failed _ hquiet => exact hquiet.steady.activeInv h
  | remove packId policy =>
    have houtcome := remove_outcome S m packId policy
    have hfails : m.FailsUnchanged (m.remove S packId policy) :=
      failsUnchanged_discard.1 hunchanged
    simp only [managerStep, managerCall, discard]
    generalize m.remove S packId policy = out at houtcome hfails ⊢
    cases houtcome with
    | removed _ hremoved => exact hremoved.activeInv h
    | refused | failed => exact (failsUnchanged_error.1 hfails).activeInv h
  | rollback packId =>
    have houtcome := rollback_outcome S m packId
    have hfails : m.FailsUnchanged (m.rollback S packId) := failsUnchanged_discard.1 hunchanged
    simp only [managerStep, managerCall, discard]
    generalize m.rollback S packId = out at houtcome hfails ⊢
    cases houtcome with
    | @rolledBack current target s s' hgoes =>
      exact rolledBack_activeInv ((steady_storage m s').activeInv h) hgoes.top
    | refused | failed | inactive => exact (failsUnchanged_error.1 hfails).activeInv h
  | _ => exact absurd rfl hquiet

end Steps

theorem activeInv_new (storage : σ) : (ModelPackManager.new storage).ActiveInv :=
  ⟨fun _ _ h => (by cases h), fun _ _ h => (by cases h), fun _ _ => rfl⟩

/-- **Failed rollbacks and removals.** After any calls, a rollback or a removal that fails leaves
the books exactly if the storage does not fail behind its first change. In a run of calls that all
keep to this, what is active and what can be rolled back to is recorded. -/
theorem failed_switch_unchanged_iff (codec : ManagerCodec) (S : PackStorage σ) (storage : σ)
    (calls : List ManagerCall) :
    (∀ call, FailedSwitchUnchanged codec S (runFrom (managerStep codec S) calls (.new storage))
        call ↔ SwitchHolds S (runFrom (managerStep codec S) calls (.new storage)) call) ∧
      (Along (managerStep codec S) (SwitchHolds S) calls (.new storage) →
        (runFrom (managerStep codec S) calls (.new storage)).ActiveInv) := by
  have hstack := inv_runFrom StackBelowActive
    (fun m call h => @stackBelowActive_step σ codec S m h call)
    (s := .new storage) (fun _ _ => rfl) calls
  refine ⟨failedSwitchUnchanged_iff hstack, fun h => ?_⟩
  refine h.inv ActiveInv (fun m call hinv hholds => ?_) (activeInv_new storage)
  exact activeInv_step hinv call ((failedSwitchUnchanged_iff hinv.empty call).2 hholds)

/-- A storage that cannot switch to an installed revision. -/
def stuckStorage : PackStorage InMemoryPackStorage :=
  { fixtureStorage with
    activateExisting := fun _ s => (.error ⟨"the active pointer cannot be written".toList⟩, s) }

/-- A rollback that fails takes its target along. -/
theorem failed_rollback_loses_target :
    ¬ ∀ (codec : ManagerCodec) (S : PackStorage InMemoryPackStorage)
        (storage : InMemoryPackStorage) (calls : List ManagerCall) (call : ManagerCall),
      FailedSwitchUnchanged codec S (runFrom (managerStep codec S) calls (.new storage)) call := by
  intro h
  have hunchanged := failsUnchanged_discard.1
    (h fixtureCodec stuckStorage {} installTwo (.rollback samplePack))
  set m := runFrom (managerStep fixtureCodec stuckStorage) installTwo (.new {}) with hm
  have hbefore : m.rollbackStack samplePack = [firstRevision] := by
    rw [hm]
    decide +kernel
  have hafter : (m.rollback stuckStorage samplePack).2.rollbackStack samplePack = [] := by
    rw [hm]
    decide +kernel
  have hfailed : (m.rollback stuckStorage samplePack).1 =
      .error (.storage ⟨"the active pointer cannot be written".toList⟩) := by
    rw [hm]
    decide +kernel
  have hsame := (hunchanged _ hfailed).rollbacks samplePack
  rw [rollbackStack, hsame, ← rollbackStack, hbefore] at hafter
  cases hafter

end NpcRuntime.Packs
