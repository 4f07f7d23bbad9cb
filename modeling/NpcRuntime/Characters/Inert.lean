import NpcRuntime.Characters.Import
import NpcRuntime.Characters.Visibility
import Mathlib.Data.List.Forall2

/-!
# A legacy import is inert until it is reviewed

What the importer stages comes from sources that are pending, so no prompt shows it and no memory is
made of it. `Staged` says how a staged profile extends its base; every step of the importer keeps
it, and tidying the lists drops nothing of the base. The memories of the approved knowledge are the
same up to their order, which is that of the identifiers (`approved_order_changes`).
-/

namespace NpcRuntime.Characters

open Memory

/-! ## What is staged -/

/-- A character with references and examples more, the examples from the given sources. -/
structure StagedCharacter (sources : List Text) (base staged : CharacterProfile) : Prop where
  same : { staged with
    styleExamples := base.styleExamples
    knowledgeRefs := base.knowledgeRefs } = base
  references : ∀ reference ∈ base.knowledgeRefs, reference ∈ staged.knowledgeRefs
  styles : ∀ style ∈ base.styleExamples, style ∈ staged.styleExamples
  added : ∀ style ∈ staged.styleExamples, style ∈ base.styleExamples ∨ style.provenanceId ∈ sources
  distinct : (staged.styleExamples.map (·.id)).Nodup

/-- A profile with content more, all from the given sources, which are pending. -/
structure Staged (sources : List Text) (base staged : GameProfile) : Prop where
  same : { staged with
    content := { staged.content with
      knowledge := base.content.knowledge
      provenance := base.content.provenance }
    characters := base.characters } = base
  provenance : ∃ added, staged.content.provenance = base.content.provenance ++ added ∧
    ∀ record ∈ added, record.id ∈ sources ∧ record.reviewStatus = some .pending
  knowledge : ∃ added, staged.content.knowledge = base.content.knowledge ++ added ∧
    ∀ record ∈ added, record.provenanceId ∈ sources
  characters : List.Forall₂ (StagedCharacter sources) base.characters staged.characters

theorem staged_refl {base : GameProfile} (h : base.valid = true) (sources : List Text) :
    Staged sources base base := by
  obtain ⟨-, -, -, hstyles⟩ := GameProfile.nodup_of_valid h
  refine ⟨rfl, ⟨[], (List.append_nil _).symm, fun _ h => (nomatch h)⟩,
    ⟨[], (List.append_nil _).symm, fun _ h => (nomatch h)⟩, ?_⟩
  rw [List.forall₂_same]
  intro character hcharacter
  exact ⟨rfl, fun _ h => h, fun _ h => h, fun _ h => .inl h, hstyles character hcharacter⟩

section Updates

variable {α : Type} {R : α → α → Prop} {p : α → Bool} {f : α → α}

/-- A change of the first element that passes, where the change keeps the relation to another
list. -/
theorem forall₂_updateFirst {l l' : List α} (h : List.Forall₂ R l l')
    (hf : ∀ a b, R a b → R a (f b)) : List.Forall₂ R l (updateFirst p f l') := by
  induction h with
  | nil => exact .nil
  | cons hab hrest ih =>
    rename_i a b l l'
    unfold updateFirst
    by_cases hb : p b = true
    · rw [if_pos hb]
      exact .cons (hf a b hab) hrest
    · rw [if_neg hb]
      exact .cons hab ih

/-- Related lists have related first elements that pass. -/
theorem forall₂_find? {l l' : List α} (h : List.Forall₂ R l l') (hp : ∀ a b, R a b → p a = p b) :
    l.find? p = none ∧ l'.find? p = none ∨
      ∃ a b, l.find? p = some a ∧ l'.find? p = some b ∧ R a b := by
  induction h with
  | nil => exact .inl ⟨rfl, rfl⟩
  | cons hab hrest ih =>
    rename_i a b l l'
    have hsame := hp a b hab
    by_cases ha : p a = true
    · exact .inr ⟨a, b, List.find?_cons_of_pos ha, List.find?_cons_of_pos (hsame ▸ ha), hab⟩
    · rw [List.find?_cons_of_neg ha, List.find?_cons_of_neg (hsame ▸ ha)]
      exact ih

end Updates

namespace Staged

variable {sources : List Text} {base staged : GameProfile}

section

variable (h : Staged sources base staged)

include h

theorem addProvenance {id : Text} (hid : id ∈ sources) (candidate : ScannedCandidate) :
    Staged sources base (staged.addProvenance id candidate) := by
  unfold GameProfile.addProvenance
  by_cases hknown : staged.hasProvenance id = true
  · rw [if_pos hknown]
    exact h
  · rw [if_neg hknown]
    obtain ⟨added, hprovenance, hpending⟩ := h.provenance
    refine ⟨h.same, ⟨added ++ [legacyProvenance id candidate], ?_, ?_⟩, h.knowledge, h.characters⟩
    · show staged.content.provenance ++ [legacyProvenance id candidate] = _
      rw [hprovenance, List.append_assoc]
    · intro record hrecord
      rcases List.mem_append.1 hrecord with hold | hnew
      · exact hpending record hold
      · rw [List.mem_singleton.1 hnew]
        exact ⟨hid, rfl⟩

theorem addKnowledge {record : KnowledgeRecord} (hrecord : record.provenanceId ∈ sources) :
    Staged sources base (staged.addKnowledge record) := by
  obtain ⟨added, hknowledge, hadded⟩ := h.knowledge
  refine ⟨h.same, h.provenance, ⟨added ++ [record], ?_, ?_⟩, h.characters⟩
  · show staged.content.knowledge ++ [record] = _
    rw [hknowledge, List.append_assoc]
  · intro other hother
    rcases List.mem_append.1 hother with hold | hnew
    · exact hadded other hold
    · rw [List.mem_singleton.1 hnew]
      exact hrecord

theorem addReference (owner reference : Text) :
    Staged sources base (staged.addReference owner reference) := by
  refine ⟨h.same, h.provenance, h.knowledge, forall₂_updateFirst h.characters ?_⟩
  intro character character' hstaged
  refine ⟨hstaged.same, ?_, hstaged.styles, hstaged.added, hstaged.distinct⟩
  intro other hother
  exact mem_sortedDedup_self.2 (List.mem_append_left _ (hstaged.references other hother))

end

variable {source : Text}

theorem addStyles (codec : ImportCodec) (h : Staged sources base staged) (owner : Text)
    (hsource : source ∈ sources) (lines : List Text) :
    Staged sources base (staged.addStyles codec owner source lines) := by
  refine ⟨h.same, h.provenance, h.knowledge, forall₂_updateFirst h.characters ?_⟩
  intro character character' hstaged
  refine ⟨hstaged.same, hstaged.references, ?_, ?_, nodup_sortedDedup _⟩
  · intro style hstyle
    exact mem_sortedDedup_append hstaged.distinct _ (hstaged.styles style hstyle)
  · intro style hstyle
    rcases List.mem_append.1 (mem_of_mem_sortedDedup hstyle) with hold | hnew
    · exact hstaged.added style hold
    · obtain ⟨line, -, rfl⟩ := List.mem_map.1 hnew
      exact .inr hsource

theorem addKnowledgeChunks (codec : ImportCodec) (h : Staged sources base staged) (idPrefix : Text)
    (authority : KnowledgeAuthority) (owner : Option Text) (text spoilerTier : Text)
    (hsource : source ∈ sources) :
    Staged sources base (Characters.addKnowledgeChunks codec idPrefix authority owner text
      spoilerTier source staged) := by
  unfold Characters.addKnowledgeChunks
  generalize (splitChunks text 16000).zipIdx = chunks
  induction chunks generalizing staged with
  | nil => exact h
  | cons chunk chunks ih =>
    refine ih ?_
    cases owner with
    | none => exact h.addKnowledge hsource
    | some owner => exact (h.addKnowledge hsource).addReference owner _

/-- **A candidate stages content of its source.** -/
theorem stagePayload {codec : ImportCodec} (h : Staged sources base staged) {spoilerTier : Text}
    (hsource : source ∈ sources) {candidate : ScannedCandidate} {next : GameProfile}
    {assets : List IdentityAsset} (hstage : Characters.stagePayload codec spoilerTier source
      candidate staged = .ok (next, assets)) : Staged sources base next := by
  unfold Characters.stagePayload at hstage
  split at hstage
  · cases hstage
    exact h.addKnowledgeChunks codec _ _ _ _ _ hsource
  · cases hstage
    exact h.addKnowledgeChunks codec _ _ _ _ _ hsource
  · obtain ⟨characterId, -, hok⟩ := bind_eq_ok.1 hstage
    cases hok
    exact h.addKnowledgeChunks codec _ _ _ _ _ hsource
  · obtain ⟨characterId, -, hok⟩ := bind_eq_ok.1 hstage
    cases hok
    exact h.addKnowledgeChunks codec _ _ _ _ _ hsource
  · obtain ⟨characterId, -, hrest⟩ := bind_eq_ok.1 hstage
    obtain ⟨-, hok⟩ := check_eq_ok.1 hrest
    cases hok
    exact h.addStyles codec _ hsource _
  · obtain ⟨characterId, -, hok⟩ := bind_eq_ok.1 hstage
    cases hok
    exact h
  · cases hstage

/-- **The importer stages content of its sources.** -/
theorem stageCandidates {codec : ImportCodec} {spoilerTier : Text}
    {selected : List ScannedCandidate} (h : Staged sources base staged)
    (hsources : ∀ candidate ∈ selected,
      provenanceId codec candidate.logicalPath candidate.fingerprint ∈ sources)
    {final : GameProfile} {assets : List IdentityAsset}
    (hstage : Characters.stageCandidates codec spoilerTier selected staged =
      .ok (final, assets)) : Staged sources base final := by
  induction selected generalizing staged assets with
  | nil =>
    cases hstage
    exact h
  | cons candidate selected ih =>
    have hsource := hsources candidate List.mem_cons_self
    obtain ⟨⟨next, now⟩, hnow, hrest⟩ := bind_eq_ok.1 hstage
    obtain ⟨⟨last, more⟩, hmore, hok⟩ := bind_eq_ok.1 hrest
    cases hok
    exact ih ((h.addProvenance hsource candidate).stagePayload hsource hnow)
      (fun other hother => hsources other (List.mem_cons_of_mem _ hother)) hmore

/-! ## What is staged is not visible -/

variable (hbase : base.valid = true) (h : Staged sources base staged)
  (hnew : ∀ id ∈ sources, base.hasProvenance id = false)

include h hnew

/-- A staged source is pending, and every other source is as it was. -/
theorem provenanceAvailable_eq (id : Text) :
    staged.tidied.provenanceAvailable id = base.provenanceAvailable id ∧
      (id ∈ sources → base.provenanceAvailable id = false) := by
  obtain ⟨added, hprovenance, hpending⟩ := h.provenance
  have hfind : staged.tidied.content.provenance.find? (fun record => record.id = id) =
      (base.content.provenance ++ added).find? fun record => record.id = id := by
    rw [← hprovenance]
    exact find?_insertionSort_key staged.content.provenance fun record => of_decide_eq_true
  unfold GameProfile.provenanceAvailable
  rw [hfind, List.find?_append]
  by_cases hsource : id ∈ sources
  · have habsent : base.content.provenance.find? (fun record => record.id = id) = none := by
      rw [List.find?_eq_none]
      intro record hrecord hid
      have hhas : base.hasProvenance id = true := List.any_eq_true.2 ⟨record, hrecord, hid⟩
      rw [hnew id hsource] at hhas
      cases hhas
    rw [habsent, Option.none_or]
    refine ⟨?_, fun _ => rfl⟩
    cases hadded : added.find? fun record => record.id = id with
    | none => rfl
    | some record =>
      have hstatus := (hpending record (List.mem_of_find?_eq_some hadded)).2
      simp [hstatus]
  · have habsent : added.find? (fun record => record.id = id) = none := by
      rw [List.find?_eq_none]
      intro record hrecord hid
      exact hsource (of_decide_eq_true hid ▸ (hpending record hrecord).1)
    rw [habsent, Option.or_none]
    exact ⟨rfl, fun hin => absurd hin hsource⟩

include hbase

/-- Of the knowledge, what is available is that of the base. -/
theorem knowledge_available (q : KnowledgeRecord → Bool) :
    (base.content.knowledge.filter fun record =>
        base.provenanceAvailable record.provenanceId && q record).Perm
      (staged.tidied.content.knowledge.filter fun record =>
        staged.tidied.provenanceAvailable record.provenanceId && q record) := by
  obtain ⟨-, -, hdistinct, -⟩ := GameProfile.nodup_of_valid hbase
  obtain ⟨added, hknowledge, hadded⟩ := h.knowledge
  have hstagedNodup : staged.tidied.content.knowledge.Nodup :=
    List.Nodup.of_map _ (nodup_sortedDedup staged.content.knowledge)
  rw [List.perm_ext_iff_of_nodup ((List.Nodup.of_map _ hdistinct).filter _)
    (hstagedNodup.filter _)]
  intro record
  rw [List.mem_filter, List.mem_filter, (provenanceAvailable_eq h hnew record.provenanceId).1]
  refine and_congr_left ?_
  intro havailable
  rw [Bool.and_eq_true] at havailable
  constructor
  · intro hrecord
    show record ∈ sortedDedup _ staged.content.knowledge
    rw [hknowledge]
    exact mem_sortedDedup_append hdistinct added hrecord
  · intro hrecord
    have hin : record ∈ staged.content.knowledge := mem_of_mem_sortedDedup hrecord
    rw [hknowledge] at hin
    rcases List.mem_append.1 hin with hold | hnewRecord
    · exact hold
    · have hpending := (provenanceAvailable_eq h hnew record.provenanceId).2
        (hadded record hnewRecord)
      rw [hpending] at havailable
      cases havailable.1

variable {character character' : CharacterProfile}

/-- Of a character's examples, what is available is that of the base. -/
theorem styles_available (hcharacter : StagedCharacter sources character character')
    (hmember : character ∈ base.characters) :
    (character.styleExamples.filter fun style =>
        base.provenanceAvailable style.provenanceId).Perm
      (character'.styleExamples.filter fun style =>
        staged.tidied.provenanceAvailable style.provenanceId) := by
  obtain ⟨-, -, -, hstyles⟩ := GameProfile.nodup_of_valid hbase
  rw [List.perm_ext_iff_of_nodup ((List.Nodup.of_map _ (hstyles character hmember)).filter _)
    ((List.Nodup.of_map _ hcharacter.distinct).filter _)]
  intro style
  rw [List.mem_filter, List.mem_filter, (provenanceAvailable_eq h hnew style.provenanceId).1]
  refine and_congr_left ?_
  intro havailable
  constructor
  · exact hcharacter.styles style
  · intro hstyle
    refine (hcharacter.added style hstyle).resolve_right ?_
    intro hsource
    rw [(provenanceAvailable_eq h hnew style.provenanceId).2 hsource] at havailable
    cases havailable

/-- **A staged profile shows what its base shows.** -/
theorem sameView {request : PromptBuildRequest}
    (hcharacter : StagedCharacter sources character character')
    (hmember : character ∈ base.characters)
    (hrequested : request.scope.characterId = some character.id) :
    SameView request base staged.tidied character character' := by
  obtain ⟨-, -, hdistinct, hstyles⟩ := GameProfile.nodup_of_valid hbase
  have hid : character'.id = character.id :=
    (congrArg CharacterProfile.id hcharacter.same :)
  have htiers : staged.content.spoilerTiers = base.content.spoilerTiers :=
    (congrArg (fun profile : GameProfile => profile.content.spoilerTiers) h.same :)
  have hknows : ∀ record, base.knows request record =
      (base.provenanceAvailable record.provenanceId &&
        (base.spoilerAllowed request.enabledSpoilerTiers record.spoilerTier &&
          (record.authority ≠ .characterAuthored ||
            record.ownerCharacterId = request.scope.characterId))) := by
    intro record
    unfold GameProfile.knows
    rw [Bool.and_assoc]
  have hknows' : ∀ record, staged.tidied.knows request record =
      (staged.tidied.provenanceAvailable record.provenanceId &&
        (base.spoilerAllowed request.enabledSpoilerTiers record.spoilerTier &&
          (record.authority ≠ .characterAuthored ||
            record.ownerCharacterId = request.scope.characterId))) := by
    intro record
    unfold GameProfile.knows GameProfile.spoilerAllowed
    rw [Bool.and_assoc, ← htiers]
    rfl
  refine ⟨?_, ?_, ?_, ?_, hrequested, hid.symm, ?_, ?_, ?_, ?_, ?_⟩
  · exact (congrArg (fun profile : GameProfile => profile.content.worldLore) h.same :).symm
  · exact (congrArg (fun profile : GameProfile => profile.content.retrieval) h.same :).symm
  · unfold GameProfile.visibleKnowledge
    rw [funext hknows, funext hknows']
    exact knowledge_available hbase h hnew _
  · exact (List.filter_sublist.map _).nodup hdistinct
  · exact (congrArg CharacterProfile.biography hcharacter.same :).symm
  · exact (congrArg CharacterProfile.personality hcharacter.same :).symm
  · exact (congrArg CharacterProfile.dialogueStyle hcharacter.same :).symm
  · rw [selectStyleExamples_visible hrequested,
      selectStyleExamples_visible (hid.symm ▸ hrequested)]
    exact styles_available hbase h hnew hcharacter hmember
  · exact visibleExamples_nodup request (hstyles character hmember)

end Staged

/-! ## The import -/

/-- The record is approved, and the memory of it for the user is refused with the error. -/
def CharacterDatabase.Refuses (database : CharacterDatabase) (userId : Text)
    (record : KnowledgeRecord) (error : CharacterDbError) : Prop :=
  record ∈ database.profile.content.knowledge.filter (fun record =>
      database.profile.provenanceAvailable record.provenanceId) ∧
    (knowledgeInput database.profile.id userId record).validate.mapError
      (fun error => CharacterDbError.invalidInput (scopeMessage error)) = .error error

/-- The same memories in some order, or the same refusal; where several records are refused, the
two databases may report different ones of them. -/
def SameMemories (database database' : CharacterDatabase) (userId : Text) : Prop :=
  match database.approvedKnowledgeMemoryInputs userId,
    database'.approvedKnowledgeMemoryInputs userId with
  | .ok inputs, .ok inputs' => inputs.Perm inputs'
  | .error error, .error error' => error = error' ∨ ∃ record record', record ≠ record' ∧
      database.Refuses userId record error ∧ database.Refuses userId record' error'
  | _, _ => False

/-- Every record of the base is in the staged profile, where characters have references and examples
more, and the lists of knowledge and of sources are in another order. -/
structure Keeps (base staged : GameProfile) : Prop where
  same : { staged with
    content := { staged.content with
      knowledge := base.content.knowledge
      provenance := base.content.provenance }
    characters := base.characters } = base
  knowledge : ∀ record ∈ base.content.knowledge, record ∈ staged.content.knowledge
  provenance : ∀ record ∈ base.content.provenance, record ∈ staged.content.provenance
  characters : List.Forall₂ (fun character character' =>
    { character' with
      styleExamples := character.styleExamples
      knowledgeRefs := character.knowledgeRefs } = character ∧
      (∀ reference ∈ character.knowledgeRefs, reference ∈ character'.knowledgeRefs) ∧
      ∀ style ∈ character.styleExamples, style ∈ character'.styleExamples)
    base.characters staged.characters

variable {sources : List Text} {base staged : GameProfile}

theorem Staged.keeps (h : Staged sources base staged) (hbase : base.valid = true) :
    Keeps base staged.tidied := by
  obtain ⟨-, -, hdistinct, -⟩ := GameProfile.nodup_of_valid hbase
  obtain ⟨addedKnowledge, hknowledge, -⟩ := h.knowledge
  obtain ⟨addedProvenance, hprovenance, -⟩ := h.provenance
  refine ⟨h.same, ?_, ?_, ?_⟩
  · intro record hrecord
    show record ∈ sortedDedup _ staged.content.knowledge
    rw [hknowledge]
    exact mem_sortedDedup_append hdistinct addedKnowledge hrecord
  · intro record hrecord
    show record ∈ staged.content.provenance.insertionSort _
    rw [List.mem_insertionSort, hprovenance]
    exact List.mem_append_left _ hrecord
  · exact h.characters.imp fun _ _ hcharacter =>
      ⟨hcharacter.same, hcharacter.references, hcharacter.styles⟩

/-- The memories of a user, or the refusal of one record. -/
theorem approvedKnowledgeMemoryInputs_cases (database : CharacterDatabase) {userId : Text}
    (hblank : (!userId.trim.isEmpty) = true) :
    (∀ record error, ¬ database.Refuses userId record error) ∧
        database.approvedKnowledgeMemoryInputs userId =
          .ok ((database.profile.content.knowledge.filter fun record =>
            database.profile.provenanceAvailable record.provenanceId).map
              (knowledgeInput database.profile.id userId)) ∨
      ∃ record error, database.Refuses userId record error ∧
        database.approvedKnowledgeMemoryInputs userId = .error error := by
  unfold CharacterDatabase.approvedKnowledgeMemoryInputs
  simp only [require, hblank, if_true, bind, Except.bind]
  cases hinputs : ((database.profile.content.knowledge.filter fun record =>
      database.profile.provenanceAvailable record.provenanceId).map
        (knowledgeInput database.profile.id userId)).forM fun input =>
      input.validate.mapError fun error => CharacterDbError.invalidInput (scopeMessage error) with
  | ok u =>
    refine .inl ⟨?_, rfl⟩
    rintro record error ⟨hrecord, herror⟩
    rw [forM_eq_ok.1 hinputs _ (List.mem_map_of_mem hrecord)] at herror
    cases herror
  | error error =>
    obtain ⟨input, hinput, herror⟩ := exists_of_forM_eq_error hinputs
    obtain ⟨record, hrecord, rfl⟩ := List.mem_map.1 hinput
    exact .inr ⟨record, error, ⟨hrecord, herror⟩, rfl⟩

variable {database database' : CharacterDatabase}

/-- **Databases with the same approved knowledge make the same memories.** -/
theorem approvedKnowledgeMemoryInputs_same (hid : database.profile.id = database'.profile.id)
    (h : (database.profile.content.knowledge.filter fun record =>
        database.profile.provenanceAvailable record.provenanceId).Perm
      (database'.profile.content.knowledge.filter fun record =>
        database'.profile.provenanceAvailable record.provenanceId)) (userId : Text) :
    SameMemories database database' userId := by
  have hrefuses : ∀ record error,
      database.Refuses userId record error ↔ database'.Refuses userId record error := by
    intro record error
    unfold CharacterDatabase.Refuses
    rw [h.mem_iff, hid]
  unfold SameMemories
  by_cases hblank : (!userId.trim.isEmpty) = true
  · rcases approvedKnowledgeMemoryInputs_cases database hblank with
      ⟨hnone, hok⟩ | ⟨record, error, hrefused, herror⟩ <;>
    rcases approvedKnowledgeMemoryInputs_cases database' hblank with
      ⟨hnone', hok'⟩ | ⟨record', error', hrefused', herror'⟩
    · rw [hok, hok', hid]
      exact h.map _
    · exact absurd ((hrefuses record' error').2 hrefused') (hnone record' error')
    · exact absurd ((hrefuses record error).1 hrefused) (hnone' record error)
    · rw [herror, herror']
      rw [← hrefuses] at hrefused'
      by_cases hrecord : record = record'
      · subst hrecord
        exact .inl (Except.error.inj (hrefused.2.symm.trans hrefused'.2))
      · exact .inr ⟨record, record', hrecord, hrefused, hrefused'⟩
  · -- A blank user is refused before any record is read.
    have hrefused : ∀ database : CharacterDatabase,
        database.approvedKnowledgeMemoryInputs userId = .error
          (.invalidInput "knowledge indexing requires a non-blank user ID") := by
      intro database
      unfold CharacterDatabase.approvedKnowledgeMemoryInputs
      rw [require, if_neg hblank]
      rfl
    rw [hrefused database, hrefused database']
    exact .inl rfl

/-- A character of the staged profile is one of the base. -/
theorem Staged.sameCharacter (h : Staged sources database.profile staged)
    (hprofile : database'.profile = staged.tidied)
    (hnew : ∀ id ∈ sources, database.profile.hasProvenance id = false)
    {request : PromptBuildRequest} {id : Text} (hid : request.scope.characterId = some id) :
    SameCharacter request database database' id := by
  have hreverse : List.Forall₂ (StagedCharacter sources) database.profile.characters.reverse
      database'.profile.characters.reverse := by
    rw [hprofile, List.forall₂_reverse_iff]
    exact h.characters
  have hsame : ∀ character character', StagedCharacter sources character character' →
      decide (character.id = id) = decide (character'.id = id) := by
    intro character character' hcharacter
    have hids : character'.id = character.id :=
      (congrArg CharacterProfile.id hcharacter.same :)
    rw [hids]
  rcases forall₂_find? hreverse hsame with
    ⟨habsent, habsent'⟩ | ⟨character, character', hpresent, hpresent', hcharacter⟩
  · exact .absent habsent habsent'
  · refine .present character character' hpresent hpresent' ?_
    rw [hprofile]
    refine h.sameView database.valid hnew hcharacter ?_ ?_
    · exact List.mem_reverse.1 (List.mem_of_find?_eq_some hpresent)
    · rw [hid, character_id hpresent]

/-- **A legacy import is inert.** The staged profile makes a database that answers every prompt as
the base does and makes the same memories, in the order of their identifiers. It keeps every record
of the base. -/
theorem legacy_import_inert (codec : ImportCodec) (plan : LegacyImportPlan)
    (base : CharacterDatabase) (resolutions : List ConflictResolution)
    {imported : LegacyImportMaterialization}
    (hmaterialize : plan.materialize codec base.profile resolutions = .ok imported)
    (hnew : ∀ selected, plan.select resolutions = .ok selected → ∀ candidate ∈ selected,
      base.profile.hasProvenance
        (provenanceId codec candidate.logicalPath candidate.fingerprint) = false) :
    ∃ staged, CharacterDatabase.new imported.stagedProfile = .ok staged ∧
      (∀ promptCodec request, buildPromptContext promptCodec base request =
        buildPromptContext promptCodec staged request) ∧
      (∀ userId, SameMemories base staged userId) ∧
      Keeps base.profile imported.stagedProfile := by
  obtain ⟨-, hrest⟩ := check_eq_ok.1 hmaterialize
  obtain ⟨selected, hselected, hrest⟩ := bind_eq_ok.1 hrest
  obtain ⟨spoilerTier, -, hrest⟩ := bind_eq_ok.1 hrest
  obtain ⟨⟨staged, assets⟩, hstage, hrest⟩ := bind_eq_ok.1 hrest
  obtain ⟨hvalid, hok⟩ := check_eq_ok.1 hrest
  rw [require_eq_ok] at hvalid
  cases hok
  have hstaged := (staged_refl base.valid (selected.map fun candidate =>
    provenanceId codec candidate.logicalPath candidate.fingerprint)).stageCandidates
      (fun candidate hcandidate => List.mem_map_of_mem hcandidate) hstage
  have hsources : ∀ id ∈ selected.map (fun candidate =>
      provenanceId codec candidate.logicalPath candidate.fingerprint),
      base.profile.hasProvenance id = false := by
    intro id hid
    obtain ⟨candidate, hcandidate, rfl⟩ := List.mem_map.1 hid
    exact hnew selected hselected candidate hcandidate
  have hname : base.profile.id = staged.tidied.id :=
    (congrArg GameProfile.id hstaged.same :).symm
  refine ⟨⟨staged.tidied, hvalid⟩, ?_, ?_, ?_, hstaged.keeps base.valid⟩
  · rw [CharacterDatabase.new, dif_pos hvalid]
  · intro promptCodec request
    exact buildPromptContext_congr ⟨rfl, rfl, rfl, rfl, rfl, rfl, rfl⟩ hname
      (fun id hid => hstaged.sameCharacter rfl hsources hid)
  · intro userId
    refine approvedKnowledgeMemoryInputs_same hname ?_ userId
    have havailable := hstaged.knowledge_available base.valid hsources fun _ => true
    simpa only [Bool.and_true] using havailable

/-! ### A plan with one text -/

/-- The digests of the two identities of `worldPlan`. -/
def worldCodec : ImportCodec where
  sha256 := fun text =>
    if text.head? = some 'w' then
      [176, 235, 44, 38, 102, 171, 173, 134, 24, 95, 237, 62, 149, 250, 234, 33, 210, 102, 234, 12,
      188, 255, 41, 27, 148, 219, 228, 6, 186, 75, 226, 110]
    else
      [10, 34, 34, 244, 37, 190, 199, 254, 61, 34, 198, 185, 94, 40, 188, 147, 137, 157, 232, 133,
      110, 38, 151, 248, 200, 70, 238, 107, 195, 159, 31, 109]
  debugString := fun text => ['"'] ++ text ++ ['"']

def worldText : ScannedCandidate where
  logicalPath := "world.txt".toList
  kind := .worldText
  fingerprint :=
    { sourceId := "source-a".toList
      revision := "1".toList
      relativePath := "world.txt".toList
      rawSha256 := "48c27c3d24781793f69095b835137213cc2fcf857951f4e69e8516cf66d63726".toList
      normalizedSha256 :=
        "48c27c3d24781793f69095b835137213cc2fcf857951f4e69e8516cf66d63726".toList
      byteLength := 17 }
  payload := .text "A new king rules.".toList

/-- The plan for the given candidates, each the only one of its path. -/
def importPlan (candidates : List ScannedCandidate) : LegacyImportPlan where
  manifest :=
    { schemaVersion := "legacy-character-import/1.0.0".toList
      targetProfileId := "game".toList
      accepted := candidates.map fun candidate =>
        ⟨candidate.logicalPath, candidate.kind, [candidate.fingerprint], none⟩
      conflicts := [] }
  candidates := candidates.map fun candidate => (candidate.logicalPath, [candidate])

theorem legacy_import_inert_example :
    ∃ imported, (importPlan [worldText]).materialize worldCodec openDatabase.profile [] =
        .ok imported ∧
      imported.stagedProfile.content.knowledge.length = 2 ∧
      ∃ staged, CharacterDatabase.new imported.stagedProfile = .ok staged ∧
        (∀ promptCodec request, buildPromptContext promptCodec openDatabase request =
          buildPromptContext promptCodec staged request) ∧
        (∀ userId, SameMemories openDatabase staged userId) ∧
        Keeps openDatabase.profile imported.stagedProfile := by
  have hmaterialize : (importPlan [worldText]).materialize worldCodec openDatabase.profile [] =
      .ok _ := rfl
  refine ⟨_, hmaterialize, by decide +kernel, ?_⟩
  refine legacy_import_inert worldCodec (importPlan [worldText]) openDatabase [] hmaterialize ?_
  intro selected hselected
  have honly : (importPlan [worldText]).select [] = .ok [worldText] := by decide +kernel
  rw [honly] at hselected
  cases hselected
  decide +kernel

/-! ### The order of the memories -/

def coastKnowledge : KnowledgeRecord :=
  ⟨"coast".toList, .coreCanon, none, "The coast is cold.".toList, [], "open".toList,
    "book".toList⟩

def unsortedDatabase : CharacterDatabase :=
  ⟨exampleProfile [openKnowledge, coastKnowledge], by decide +kernel⟩

def sortedDatabase : CharacterDatabase :=
  ⟨exampleProfile [coastKnowledge, openKnowledge], by decide +kernel⟩

/-- Even an import of nothing sorts the knowledge of the base, and so the memories of it. -/
theorem approved_order_changes :
    ¬ ∀ (codec : ImportCodec) (plan : LegacyImportPlan) (base : CharacterDatabase)
      (resolutions : List ConflictResolution) (imported : LegacyImportMaterialization),
      plan.materialize codec base.profile resolutions = .ok imported →
      (∀ selected, plan.select resolutions = .ok selected → ∀ candidate ∈ selected,
        base.profile.hasProvenance
          (provenanceId codec candidate.logicalPath candidate.fingerprint) = false) →
      ∀ staged, CharacterDatabase.new imported.stagedProfile = .ok staged →
      ∀ userId, base.approvedKnowledgeMemoryInputs userId =
        staged.approvedKnowledgeMemoryInputs userId := by
  intro h
  have hmaterialize : (importPlan []).materialize worldCodec unsortedDatabase.profile [] =
      .ok _ := rfl
  have hnone : (importPlan []).select [] = .ok [] := by decide +kernel
  have hnew : CharacterDatabase.new sortedDatabase.profile = .ok sortedDatabase :=
    dif_pos sortedDatabase.valid
  have hsame := h worldCodec (importPlan []) unsortedDatabase [] _ hmaterialize (by
    intro selected hselected
    rw [hnone] at hselected
    cases hselected
    exact fun _ hin => nomatch hin) _ hnew "user".toList
  revert hsame
  decide +kernel

end NpcRuntime.Characters
