import NpcRuntime.Characters.EncounterLog
import Mathlib.Logic.Relation

/-!
# Merged encounters

Lookups take one step along the redirects, so an encounter that was merged resolves to its survivor
as long as nothing that was merged into is itself merged: `merges_resolve_iff` says exactly that.
Without it, `merge_chain_unresolved` merges A into B and B into C, and A resolves to B.
-/

namespace NpcRuntime.Characters

/-- The encounters of a merge that succeeds: the source and the destination. -/
def mergedBy (registry : EncounterRegistry) (operation : RegistryOperation) :
    Option (Uuid × Uuid) :=
  match operation, (operation.run registry).1 with
  | .mergeUnknownEncounters sourceEncounterId destinationEncounterId _ _, .outcome (.ok ()) =>
    some (sourceEncounterId, destinationEncounterId)
  | _, _ => none

/-- The merges of a run. -/
def merges (operations : List RegistryOperation) (registry : EncounterRegistry) :
    List (Uuid × Uuid) := observed RegistryOperation.step mergedBy operations registry

/-- An encounter was merged into another. -/
def MergedInto (pairs : List (Uuid × Uuid)) (encounterId other : Uuid) : Prop :=
  (encounterId, other) ∈ pairs

/-- Following the merges of an encounter ends at the survivor. -/
def Survivor (pairs : List (Uuid × Uuid)) (encounterId survivor : Uuid) : Prop :=
  Relation.ReflTransGen (MergedInto pairs) encounterId survivor ∧
    ∀ other, ¬ MergedInto pairs survivor other

/-- Merged encounters resolve to their survivors, never to one that was merged away. -/
def Resolves (pairs : List (Uuid × Uuid)) (registry : EncounterRegistry) : Prop :=
  (∀ encounterId survivor, Survivor pairs encounterId survivor →
    registry.record encounterId = registry.records.lookup survivor ∧
      ∀ observedAtMs,
        registry.observe encounterId observedAtMs = registry.observe survivor observedAtMs) ∧
    ∀ encounterId other, MergedInto pairs encounterId other →
      ∀ further, ¬ MergedInto pairs (registry.resolve encounterId) further

/-- What is merged away is nothing that was merged into. -/
def MergesRoot (registry : EncounterRegistry) (operation : RegistryOperation) : Prop :=
  ∀ pair, mergedBy registry operation = some pair →
    ∀ encounterId, registry.redirects.lookup encounterId ≠ some pair.1

/-! ## The redirects are the merges -/

/-- The redirects are of encounters that are over, and lead nowhere from an active one. -/
structure Redirects (pairs : List (Uuid × Uuid)) (registry : EncounterRegistry) : Prop where
  merged : ∀ encounterId other, MergedInto pairs encounterId other ↔
    registry.redirects.lookup encounterId = some other
  isOver : ∀ encounterId other, registry.redirects.lookup encounterId = some other →
    ∃ record, registry.records.lookup encounterId = some record ∧ record.status = .expired
  acyclic : ∀ encounterId, ¬ Relation.TransGen (MergedInto pairs) encounterId encounterId

section Steps

variable {pairs : List (Uuid × Uuid)} {registry : EncounterRegistry}

/-- An active encounter was not merged. -/
theorem Redirects.active (h : Redirects pairs registry) {encounterId : Uuid}
    {record : EncounterRecord} (hrecord : registry.records.lookup encounterId = some record)
    (hactive : record.status = .active) : registry.redirects.lookup encounterId = none := by
  cases hredirect : registry.redirects.lookup encounterId with
  | none => rfl
  | some other =>
    obtain ⟨other, hother, hexpired⟩ := h.isOver encounterId other hredirect
    obtain rfl := Option.some.inj (hrecord.symm.trans hother)
    rw [hactive] at hexpired
    cases hexpired

/-- What a step does to the redirects. -/
theorem redirects_step (registry : EncounterRegistry) (operation : RegistryOperation) :
    (mergedBy registry operation = none ∧
        (operation.step registry).redirects = registry.redirects) ∨
      ∃ sourceEncounterId destinationEncounterId source destination,
        mergedBy registry operation = some (sourceEncounterId, destinationEncounterId) ∧
          sourceEncounterId ≠ destinationEncounterId ∧
          registry.records.lookup sourceEncounterId = some source ∧ source.status = .active ∧
          registry.records.lookup destinationEncounterId = some destination ∧
          destination.status = .active ∧
          (∃ record, (operation.step registry).records.lookup sourceEncounterId = some record ∧
            record.status = .expired) ∧
          (operation.step registry).redirects =
            registry.redirects.insert sourceEncounterId destinationEncounterId := by
  have hcases := run_cases operation registry
  have hplain : (∀ source destination confirmed now,
      operation ≠ .mergeUnknownEncounters source destination confirmed now) →
      mergedBy registry operation = none := by
    intro hmerge
    cases operation with
    | mergeUnknownEncounters source destination confirmed now =>
      exact absurd rfl (hmerge source destination confirmed now)
    | _ => rfl
  simp only [RegistryOperation.step]
  cases hcase : operation.run registry with
  | mk answer after =>
  rw [hcase] at hcases
  cases hcases with
  | refused error =>
    refine .inl ⟨?_, rfl⟩
    simp only [mergedBy, hcase]
  | merged source destination confirmed now record other hoperation hne hrecord hother hactive
      hlive =>
    refine .inr ⟨source, destination, record, other, ?_, hne, hrecord, hactive, hother, hlive,
      ⟨record.ended now, ?_, rfl⟩, rfl⟩
    · subst hoperation
      simp only [mergedBy, hcase]
    · show (registry.records.modify source _).lookup source = _
      rw [Table.lookup_modify, if_pos rfl, hrecord]
      rfl
  | corrected encounterId character now record hrecord hactive hinsert hmerge =>
    exact .inl ⟨hplain hmerge, rfl⟩
  | inserted record hoperation | observed encounterId now record hoperation
  | expired now hoperation | drained hoperation =>
    refine .inl ⟨hplain ?_, rfl⟩
    intro source destination confirmed now hother
    rw [hother] at hoperation
    cases hoperation

/-- A merge of two encounters that lead nowhere closes no cycle. -/
theorem acyclic_concat {source destination : Uuid}
    (hacyclic : ∀ encounterId, ¬ Relation.TransGen (MergedInto pairs) encounterId encounterId)
    (hne : source ≠ destination) (hdestination : ∀ other, ¬ MergedInto pairs destination other)
    (encounterId : Uuid) :
    ¬ Relation.TransGen (MergedInto (pairs ++ [(source, destination)])) encounterId
      encounterId := by
  have hsplit : ∀ a b, MergedInto (pairs ++ [(source, destination)]) a b →
      MergedInto pairs a b ∨ a = source ∧ b = destination := by
    intro a b hab
    rcases List.mem_append.1 hab with hold | hnew
    · exact .inl hold
    · exact .inr (Prod.mk.inj (List.mem_singleton.1 hnew))
  have hend : ∀ other, ¬ MergedInto (pairs ++ [(source, destination)]) destination other := by
    intro other hmerged
    rcases hsplit destination other hmerged with hold | hnew
    · exact hdestination other hold
    · exact hne hnew.1.symm
  -- A path either ends at the destination, or it is one of before.
  have hpath : ∀ a b, Relation.TransGen (MergedInto (pairs ++ [(source, destination)])) a b →
      b = destination ∨ Relation.TransGen (MergedInto pairs) a b := by
    intro a b hab
    induction hab with
    | single hab =>
      rcases hsplit _ _ hab with hold | hnew
      · exact .inr (.single hold)
      · exact .inl hnew.2
    | tail _ hbc ih =>
      rcases ih with hb | hold
      · subst hb
        exact absurd hbc (hend _)
      · rcases hsplit _ _ hbc with hstep | hnew
        · exact .inr (hold.tail hstep)
        · exact .inl hnew.2
  intro hcycle
  rcases hpath encounterId encounterId hcycle with hdest | hold
  · subst hdest
    obtain ⟨other, hfirst, -⟩ := Relation.TransGen.head'_iff.1 hcycle
    exact hend other hfirst
  · exact hacyclic encounterId hold

/-- **A step keeps the redirects the merges.** -/
theorem Redirects.step (h : Redirects pairs registry) (operation : RegistryOperation) :
    Redirects (pairs ++ (mergedBy registry operation).toList) (operation.step registry) := by
  have hover : ∀ encounterId record, registry.records.lookup encounterId = some record →
      record.status = .expired →
        ∃ record', (operation.step registry).records.lookup encounterId = some record' ∧
          record'.status = .expired := by
    intro encounterId record hrecord hexpired
    obtain ⟨record', hrecord', hages⟩ := ages_step registry operation hrecord
    exact ⟨record', hrecord', hages.1 hexpired⟩
  rcases redirects_step registry operation with ⟨hnone, hsame⟩ |
    ⟨source, destination, sourceRecord, destinationRecord, hsome, hne, hsource, hactive,
      hdestination, hlive, hended, hinsert⟩
  · rw [hnone, Option.toList_none, List.append_nil]
    refine ⟨?_, ?_, h.acyclic⟩
    · rw [hsame]
      exact h.merged
    · intro encounterId other hother
      rw [hsame] at hother
      obtain ⟨record, hrecord, hexpired⟩ := h.isOver encounterId other hother
      exact hover encounterId record hrecord hexpired
  · have hfree : ∀ other, ¬ MergedInto pairs source other := by
      intro other hother
      rw [h.merged, h.active hsource hactive] at hother
      cases hother
    rw [hsome]
    refine ⟨?_, ?_, ?_⟩
    · intro encounterId other
      rw [hinsert, Table.lookup_insert_eq]
      show (encounterId, other) ∈ pairs ++ [(source, destination)] ↔ _
      rw [List.mem_append, List.mem_singleton, Prod.mk.injEq]
      by_cases hid : encounterId = source
      · subst hid
        rw [if_pos rfl, Option.some.injEq]
        constructor
        · intro hmem
          rcases hmem with hold | hnew
          · exact absurd hold (hfree other)
          · exact hnew.2.symm
        · intro hdest
          exact .inr ⟨rfl, hdest.symm⟩
      · rw [if_neg hid, ← h.merged]
        constructor
        · intro hmem
          exact hmem.resolve_right fun hnew => hid hnew.1
        · exact .inl
    · intro encounterId other hother
      rw [hinsert, Table.lookup_insert_eq] at hother
      by_cases hid : encounterId = source
      · subst hid
        exact hended
      · rw [if_neg hid] at hother
        obtain ⟨record, hrecord, hexpired⟩ := h.isOver encounterId other hother
        exact hover encounterId record hrecord hexpired
    · apply acyclic_concat h.acyclic hne
      intro other hother
      rw [h.merged, h.active hdestination hlive] at hother
      cases hother

end Steps

variable {registry : EncounterRegistry}

/-- The redirects of a run are its merges. -/
theorem redirects_runFrom (h : Redirects [] registry) (operations : List RegistryOperation) :
    Redirects (merges operations registry)
      (runFrom RegistryOperation.step operations registry) := by
  induction operations using List.reverseRecOn with
  | nil => exact h
  | append_singleton operations operation ih =>
    have hstep := ih.step operation
    rw [merges, observed_append, runFrom_append]
    simpa only [merges, observed, runFrom, List.foldl_cons, List.foldl_nil, List.append_nil] using
      hstep

/-! ## Resolution -/

/-- No redirect leads to another. -/
def Direct (registry : EncounterRegistry) : Prop :=
  ∀ encounterId other, registry.redirects.lookup encounterId = some other →
    registry.redirects.lookup other = none

theorem observe_resolved {encounterId survivor : Uuid}
    (h : registry.resolve encounterId = registry.resolve survivor) (observedAtMs : Int) :
    registry.observe encounterId observedAtMs = registry.observe survivor observedAtMs := by
  unfold EncounterRegistry.observe
  rw [h]

/-- **One step is enough** exactly if no redirect leads to another. -/
theorem resolves_iff {pairs : List (Uuid × Uuid)} (h : Redirects pairs registry) :
    Resolves pairs registry ↔ Direct registry := by
  have hresolve : ∀ encounterId other, registry.redirects.lookup encounterId = some other →
      registry.resolve encounterId = other := by
    intro encounterId other hother
    rw [EncounterRegistry.resolve, hother, Option.getD_some]
  constructor
  · intro hresolves encounterId other hother
    have hfree := hresolves.2 encounterId other ((h.merged _ _).2 hother)
    rw [hresolve encounterId other hother] at hfree
    cases hfurther : registry.redirects.lookup other with
    | none => rfl
    | some further => exact absurd ((h.merged _ _).2 hfurther) (hfree further)
  · intro hdirect
    constructor
    · intro encounterId survivor hsurvivor
      obtain ⟨hpath, hend⟩ := hsurvivor
      have hnone : registry.redirects.lookup survivor = none := by
        cases hother : registry.redirects.lookup survivor with
        | none => rfl
        | some other => exact absurd ((h.merged _ _).2 hother) (hend other)
      have hself : registry.resolve survivor = survivor := by
        rw [EncounterRegistry.resolve, hnone, Option.getD_none]
      have hsame : registry.resolve encounterId = survivor := by
        cases Relation.ReflTransGen.cases_head hpath with
        | inl heq => rw [heq, hself]
        | inr hstep =>
          obtain ⟨other, hfirst, hrest⟩ := hstep
          have hother := (h.merged _ _).1 hfirst
          rw [hresolve encounterId other hother]
          cases Relation.ReflTransGen.cases_head hrest with
          | inl heq => exact heq
          | inr hstep =>
            obtain ⟨further, hsecond, -⟩ := hstep
            rw [h.merged, hdirect encounterId other hother] at hsecond
            cases hsecond
      refine ⟨?_, observe_resolved (hsame.trans hself.symm)⟩
      rw [EncounterRegistry.record, hsame]
    · intro encounterId other hmerged further hfurther
      have hother := (h.merged _ _).1 hmerged
      rw [hresolve encounterId other hother, h.merged, hdirect encounterId other hother] at hfurther
      cases hfurther

/-- A step keeps redirects direct exactly if it merges away nothing that was merged into. -/
theorem direct_step {pairs : List (Uuid × Uuid)} (h : Redirects pairs registry)
    (hdirect : Direct registry) (operation : RegistryOperation) :
    Direct (operation.step registry) ↔ MergesRoot registry operation := by
  rcases redirects_step registry operation with ⟨hnone, hsame⟩ |
    ⟨source, destination, sourceRecord, destinationRecord, hsome, hne, hsource, hactive,
      hdestination, hlive, -, hinsert⟩
  · refine iff_of_true ?_ ?_
    · intro encounterId other hother
      rw [hsame] at hother ⊢
      exact hdirect encounterId other hother
    · intro pair hpair
      rw [hnone] at hpair
      cases hpair
  · have hfree := h.active hsource hactive
    have hend := h.active hdestination hlive
    have hlookup : ∀ encounterId, (operation.step registry).redirects.lookup encounterId =
        if encounterId = source then some destination
        else registry.redirects.lookup encounterId := by
      intro encounterId
      rw [hinsert, Table.lookup_insert_eq]
    constructor
    · intro hafter pair hpair encounterId hinto
      obtain rfl := Option.some.inj (hsome.symm.trans hpair)
      have hother : encounterId ≠ source := by
        intro heq
        rw [heq, hfree] at hinto
        cases hinto
      have hnext := hafter encounterId source (by rw [hlookup, if_neg hother]; exact hinto)
      rw [hlookup, if_pos rfl] at hnext
      cases hnext
    · intro hroot encounterId other hother
      rw [hlookup] at hother ⊢
      by_cases hid : encounterId = source
      · rw [if_pos hid] at hother
        obtain rfl := Option.some.inj hother
        rw [if_neg hne.symm]
        exact hend
      · rw [if_neg hid] at hother
        rw [if_neg]
        · exact hdirect encounterId other hother
        · intro heq
          rw [heq] at hother
          exact hroot _ hsome encounterId hother

/-- **Merged encounters resolve to their survivors exactly in the runs that merge away nothing that
was merged into.** The merges are acyclic in every run. -/
theorem merges_resolve_iff {gameProfileId : Text} {registry : EncounterRegistry}
    (h : EncounterRegistry.new gameProfileId = .ok registry)
    (operations : List RegistryOperation) :
    (∀ encounterId,
        ¬ Relation.TransGen (MergedInto (merges operations registry)) encounterId encounterId) ∧
      ((∀ before, before <+: operations →
          Resolves (merges before registry)
            (runFrom RegistryOperation.step before registry)) ↔
        Along RegistryOperation.step MergesRoot operations registry) := by
  have hinitial : Redirects [] registry ∧ Direct registry := by
    unfold EncounterRegistry.new at h
    split at h
    · cases h
    · obtain rfl := Except.ok.inj h
      refine ⟨⟨?_, ?_, ?_⟩, ?_⟩
      · intro encounterId other
        constructor <;> intro hmerged <;> cases hmerged
      · intro encounterId other hother
        cases hother
      · intro encounterId hcycle
        obtain ⟨other, hfirst, -⟩ := Relation.TransGen.head'_iff.1 hcycle
        cases hfirst
      · intro encounterId other hother
        cases hother
  refine ⟨(redirects_runFrom hinitial.1 operations).acyclic, ?_⟩
  rw [← along_iff_prefixes (fun registry => ∃ pairs, Redirects pairs registry) Direct
    (fun registry operation hinv => hinv.elim fun pairs hpairs => ⟨_, hpairs.step operation⟩)
    (fun registry operation hinv hdirect =>
      hinv.elim fun pairs hpairs => direct_step hpairs hdirect operation)
    ⟨[], hinitial.1⟩ hinitial.2]
  refine forall_congr' fun before => imp_congr_right fun _ => ?_
  exact resolves_iff (redirects_runFrom hinitial.1 before)

/-- Three encounters; the first is merged into the second, and then that into the third. -/
def exampleChain : List RegistryOperation :=
  [.insert (exampleRecord 1), .insert (exampleRecord 2), .insert (exampleRecord 3),
    .mergeUnknownEncounters 1 2 true 5, .mergeUnknownEncounters 2 3 true 6]

theorem merges_resolve_example : ∃ registry, EncounterRegistry.new ['g'] = .ok registry ∧
    Resolves (merges (exampleChain.take 4) registry)
      (runFrom RegistryOperation.step (exampleChain.take 4) registry) := by
  refine ⟨⟨['g'], ∅, ∅, []⟩, rfl, ?_⟩
  refine ((@merges_resolve_iff ['g'] _ rfl (exampleChain.take 4)).2.2 ?_) _ List.prefix_rfl
  refine ⟨?_, ?_, ?_, ?_, trivial⟩ <;> intro pair _ encounterId hinto <;> cases hinto

/-- **The first encounter resolves to the second**, which was itself merged away. -/
theorem merge_chain_unresolved :
    ¬ ∀ gameProfileId registry, EncounterRegistry.new gameProfileId = .ok registry →
      ∀ operations, Resolves (merges operations registry)
        (runFrom RegistryOperation.step operations registry) := by
  intro h
  have hmerges : merges exampleChain ⟨['g'], ∅, ∅, []⟩ = [(1, 2), (2, 3)] := by
    decide +kernel
  have hsurvivor : Survivor (merges exampleChain ⟨['g'], ∅, ∅, []⟩) 1 3 := by
    rw [hmerges]
    refine ⟨.head (b := 2) (by simp [MergedInto]) (.single (by simp [MergedInto])), ?_⟩
    intro other hother
    simp [MergedInto] at hother
  have hrecord := ((h ['g'] _ rfl exampleChain).1 1 3 hsurvivor).1
  have hdifferent : (runFrom RegistryOperation.step exampleChain ⟨['g'], ∅, ∅, []⟩).record 1 ≠
      (runFrom RegistryOperation.step exampleChain ⟨['g'], ∅, ∅, []⟩).records.lookup 3 := by
    decide +kernel
  exact hdifferent hrecord

end NpcRuntime.Characters
