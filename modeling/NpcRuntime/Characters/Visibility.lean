import NpcRuntime.Characters.Prompt

/-!
# A prompt shows what its request may see

Every lane filters before it cuts, orders stably and pays from the budget only for what it shows. So
a prompt depends on what is visible to its request and on nothing else (`buildPromptContext_congr`),
and two databases and two requests that differ only in what is hidden get the same answer
(`prompt_noninterference`).
-/

namespace NpcRuntime.Characters

open Memory

/-! ## What is visible -/

namespace GameProfile

variable (profile : GameProfile) (request : PromptBuildRequest)

/-- Knowledge that is available, no spoiler, and not of another character. -/
def knows (record : KnowledgeRecord) : Bool :=
  profile.provenanceAvailable record.provenanceId &&
    profile.spoilerAllowed request.enabledSpoilerTiers record.spoilerTier &&
    (record.authority ≠ .characterAuthored || record.ownerCharacterId = request.scope.characterId)

def visibleKnowledge : List KnowledgeRecord :=
  profile.content.knowledge.filter (profile.knows request)

/-- The examples of the character of the request whose provenance is available, and no others. -/
def visibleExamples (character : CharacterProfile) : List StyleExample :=
  if request.scope.characterId = some character.id then
    character.styleExamples.filter fun style => profile.provenanceAvailable style.provenanceId
  else []

/-- The profile without its hidden knowledge and examples. -/
def withoutHidden : GameProfile :=
  { profile with
    content := { profile.content with knowledge := profile.visibleKnowledge request }
    characters := profile.characters.map fun character =>
      { character with styleExamples := profile.visibleExamples request character } }

end GameProfile

namespace PromptBuildRequest

variable (request : PromptBuildRequest)

def visibleTurns (turns : List DeliveredTurnRecord) : List DeliveredTurnRecord :=
  turns.filter fun turn => turn.scope = request.scope

/-- The request without the memory that is out of its scope or a spoiler. -/
def withoutHidden : PromptBuildRequest :=
  { request with
    memoryContext :=
      { worldLore := permittedMemory request request.memoryContext.worldLore
        biography := permittedMemory request request.memoryContext.biography
        characterKnowledge := permittedMemory request request.memoryContext.characterKnowledge
        uncertainPublicInfo := permittedMemory request request.memoryContext.uncertainPublicInfo
        recentDialogue := request.visibleTurns request.memoryContext.recentDialogue
        longTermSummaries := permittedMemory request request.memoryContext.longTermSummaries } }

end PromptBuildRequest

/-! ## Lanes -/

variable {codec : PromptCodec} {profile profile' : GameProfile}
  {request request' : PromptBuildRequest}

/-- A lane takes from the visible knowledge. -/
theorem knowledgeRecords_eq {wanted : KnowledgeRecord → Bool}
    (h : ∀ record, wanted record = true → record.authority ≠ .characterAuthored ∨
      record.ownerCharacterId = request.scope.characterId) :
    profile.knowledgeRecords request.enabledSpoilerTiers wanted =
      ((profile.visibleKnowledge request).filter wanted).map profileKnowledgeRecord := by
  unfold GameProfile.knowledgeRecords GameProfile.visibleKnowledge
  rw [List.filter_filter, List.filter_filter, List.filter_filter]
  congr 1
  apply List.filter_congr
  intro record _
  unfold GameProfile.knows
  by_cases hwanted : wanted record = true
  · have howner : (decide (record.authority ≠ .characterAuthored) ||
        decide (record.ownerCharacterId = request.scope.characterId)) = true := by
      simpa using h record hwanted
    rw [hwanted, howner, Bool.and_true, Bool.and_true, Bool.true_and, Bool.and_comm]
  · rw [Bool.not_eq_true] at hwanted
    simp [hwanted]

theorem permittedMemory_append (records more : List DerivedMemoryRecord) :
    permittedMemory request (records ++ more) =
      permittedMemory request records ++ permittedMemory request more := by
  rw [permittedMemory, List.filter_append, List.filter_append]
  rfl

/-- What is permitted may be taken before the order or after it. -/
theorem permittedMemory_sortMemory (records : List DerivedMemoryRecord) :
    permittedMemory request (sortMemory records) =
      sortMemory (permittedMemory request records) := by
  unfold permittedMemory sortMemory
  rw [filter_insertionSort, filter_insertionSort]

theorem visibleTurns_sortTurns (turns : List DeliveredTurnRecord) :
    request.visibleTurns (sortTurns turns) = sortTurns (request.visibleTurns turns) := by
  unfold PromptBuildRequest.visibleTurns sortTurns
  rw [filter_insertionSort]

/-- What a request that hides the same says of its scope. -/
structure SameRequest (request request' : PromptBuildRequest) : Prop where
  schemaVersion : request.schemaVersion = request'.schemaVersion
  scope : request.scope = request'.scope
  query : request.query = request'.query
  tiers : request.enabledSpoilerTiers = request'.enabledSpoilerTiers
  policy : request.memorySpoilerPolicy = request'.memorySpoilerPolicy
  examples : request.maxStyleExamples = request'.maxStyleExamples
  memory : request.withoutHidden.memoryContext = request'.withoutHidden.memoryContext

/-- What is visible in two profiles is the same up to its order, for a character that both have. -/
structure SameView (request : PromptBuildRequest) (profile profile' : GameProfile)
    (character character' : CharacterProfile) : Prop where
  worldLore : profile.content.worldLore = profile'.content.worldLore
  retrieval : profile.content.retrieval = profile'.content.retrieval
  knowledge : (profile.visibleKnowledge request).Perm (profile'.visibleKnowledge request)
  distinct : ((profile.visibleKnowledge request).map (·.id)).Nodup
  requested : request.scope.characterId = some character.id
  id : character.id = character'.id
  biography : character.biography = character'.biography
  personality : character.personality = character'.personality
  dialogueStyle : character.dialogueStyle = character'.dialogueStyle
  examples : (profile.visibleExamples request character).Perm
    (profile'.visibleExamples request character')
  distinctExamples : ((profile.visibleExamples request character).map (·.id)).Nodup

/-! ### Orders without ties -/

theorem sortById_eq_of_perm {records records' : List PromptRecord} (h : records.Perm records')
    (hdistinct : (records.map (·.id)).Nodup) : sortById records = sortById records' := by
  refine insertionSort_eq_of_perm _ ?_ h
  intro left hleft right hright hle hge
  exact List.inj_on_of_nodup_map hdistinct hleft hright (le_antisymm hle hge)

theorem selectStyleExamples_eq_of_perm {styles styles' : List StyleExample}
    (h : styles.Perm styles') (hdistinct : (styles.map (·.id)).Nodup) (seed : Text) (limit : Nat) :
    selectStyleExamples codec styles seed limit = selectStyleExamples codec styles' seed limit := by
  unfold selectStyleExamples
  rw [insertionSort_eq_of_perm (fun left right => styleKey codec seed left ≤
    styleKey codec seed right) ?_ h]
  intro left hleft right hright hle hge
  have hkey := le_antisymm hle hge
  have hid : left.id = right.id := by
    have hsecond := (Prod.mk.inj (toLex.injective hkey)).2
    exact (Prod.mk.inj (toLex.injective hsecond)).2
  exact List.inj_on_of_nodup_map hdistinct hleft hright hid

/-! ### What a lane shows -/

variable {character character' : CharacterProfile}

theorem selectStyleExamples_visible (h : request.scope.characterId = some character.id) :
    profile.visibleExamples request character = character.styleExamples.filter fun style =>
      profile.provenanceAvailable style.provenanceId := if_pos h

/-- The records of a lane in order, in both profiles. -/
theorem sortById_knowledgeRecords (h : SameView request profile profile' character character')
    {wanted : KnowledgeRecord → Bool}
    (hwanted : ∀ record, wanted record = true → record.authority ≠ .characterAuthored ∨
      record.ownerCharacterId = request.scope.characterId) :
    sortById (profile.knowledgeRecords request.enabledSpoilerTiers wanted) =
      sortById (profile'.knowledgeRecords request.enabledSpoilerTiers wanted) := by
  rw [knowledgeRecords_eq hwanted, knowledgeRecords_eq hwanted]
  refine sortById_eq_of_perm ((h.knowledge.filter wanted).map profileKnowledgeRecord) ?_
  rw [List.map_map]
  exact (List.filter_sublist.map _).nodup h.distinct

/-- **A lane shows what is visible of the profile.** -/
theorem laneRecords_profile (h : SameView request profile profile' character character')
    (remaining : Nat) (authority : PromptAuthority) :
    laneRecords codec profile character request remaining authority =
      laneRecords codec profile' character' request remaining authority := by
  cases authority with
  | coreCanon =>
    have hrecords := @sortById_knowledgeRecords _ _ _ _ _ h
      (fun record => record.authority = .coreCanon) fun record hrecord => .inl
        (by rw [of_decide_eq_true hrecord]; decide)
    unfold sortById at hrecords
    simp only [laneRecords, sortById, List.insertionSort_cons, hrecords, h.worldLore, h.retrieval]
  | characterProfile =>
    have hexamples := h.examples
    have hdistinct := h.distinctExamples
    rw [selectStyleExamples_visible h.requested] at hexamples hdistinct
    rw [selectStyleExamples_visible (h.id ▸ h.requested)] at hexamples
    simp only [laneRecords, selectStyleExamples_eq_of_perm hexamples hdistinct, h.id, h.biography,
      h.personality, h.dialogueStyle]
  | gamePublic =>
    have hrecords := @sortById_knowledgeRecords _ _ _ _ _ h
      (fun record => record.authority = .gamePublic) fun record hrecord => .inl
        (by rw [of_decide_eq_true hrecord]; decide)
    simp only [laneRecords, hrecords, h.retrieval]
  | characterAuthored =>
    have howner : ∀ record : KnowledgeRecord, (decide (record.authority = .characterAuthored) &&
        decide (record.ownerCharacterId = some character'.id)) = true →
        record.authority ≠ .characterAuthored ∨
          record.ownerCharacterId = request.scope.characterId := by
      intro record hrecord
      rw [Bool.and_eq_true] at hrecord
      refine .inr ?_
      rw [of_decide_eq_true hrecord.2, h.requested, h.id]
    simp only [laneRecords, h.id, sortById_knowledgeRecords h howner, h.retrieval]
  | retrievedMemory => rfl
  | sessionSummary => rfl
  | recentDeliveredTurns => simp only [laneRecords, h.retrieval]

/-- **A lane shows what is visible of the memory.** -/
theorem laneRecords_request (h : SameRequest request request') (remaining : Nat)
    (authority : PromptAuthority) :
    laneRecords codec profile character request remaining authority =
      laneRecords codec profile character request' remaining authority := by
  have hmemory := h.memory
  simp only [PromptBuildRequest.withoutHidden, MemoryContextBundle.mk.injEq] at hmemory
  obtain ⟨hlore, hbiography, hknowledge, hpublic, hturns, hsummaries⟩ := hmemory
  cases authority with
  | coreCanon => simp only [laneRecords, h.tiers]
  | characterProfile => simp only [laneRecords, h.query, h.examples]
  | gamePublic => simp only [laneRecords, h.tiers]
  | characterAuthored => simp only [laneRecords, h.tiers]
  | retrievedMemory =>
    simp only [laneRecords, permittedMemory_append, hlore, hbiography, hknowledge, hpublic]
  | sessionSummary =>
    simp only [laneRecords, permittedMemory_sortMemory, hsummaries]
  | recentDeliveredTurns =>
    have hsorted : request.visibleTurns (sortTurns request.memoryContext.recentDialogue) =
        request'.visibleTurns (sortTurns request'.memoryContext.recentDialogue) := by
      rw [visibleTurns_sortTurns, visibleTurns_sortTurns, hturns]
    unfold PromptBuildRequest.visibleTurns at hsorted
    simp only [laneRecords, hsorted]

/-- The lanes share a budget, from which each takes the same. -/
theorem sectionsOf_congr (hrequest : SameRequest request request')
    (hview : SameView request profile profile' character character')
    (lanes : List PromptAuthority) (remaining : Nat) :
    sectionsOf codec profile character request lanes remaining =
      sectionsOf codec profile' character' request' lanes remaining := by
  induction lanes generalizing remaining with
  | nil => rfl
  | cons authority lanes ih =>
    have hlane : laneRecords codec profile character request remaining authority =
        laneRecords codec profile' character' request' remaining authority := by
      rw [laneRecords_profile hview, laneRecords_request hrequest]
    rw [sectionsOf, sectionsOf, hlane, ih]

/-! ## Prompts -/

variable {database database' : CharacterDatabase}

/-- What both databases have of the character of a request, or neither. -/
inductive SameCharacter (request : PromptBuildRequest) (database database' : CharacterDatabase)
    (id : Text) : Prop
  | absent (h : database.character id = none) (h' : database'.character id = none)
  | present (character character' : CharacterProfile) (h : database.character id = some character)
      (h' : database'.character id = some character')
      (hview : SameView request database.profile database'.profile character character')

/-- **A prompt depends on what is visible.** -/
theorem buildPromptContext_congr (hrequest : SameRequest request request')
    (hid : database.profile.id = database'.profile.id)
    (hcharacter : ∀ id, request.scope.characterId = some id →
      SameCharacter request database database' id) :
    buildPromptContext codec database request = buildPromptContext codec database' request' := by
  unfold buildPromptContext
  rw [← hrequest.schemaVersion, ← hrequest.scope, ← hrequest.query, ← hrequest.examples, ← hid]
  cases hscope : request.scope.characterId with
  | none => rfl
  | some id =>
    rcases hcharacter id hscope with ⟨habsent, habsent'⟩ |
      ⟨character, character', hpresent, hpresent', hview⟩
    · simp only [CharacterDatabase.requireCharacter, habsent, habsent', okOr, bind, Except.bind]
    · have hassemble : assemble codec database.profile character request =
          assemble codec database'.profile character' request' := by
        simp only [assemble, hview.retrieval, sectionsOf_congr hrequest hview, hview.id, hid,
          hrequest.query]
      simp only [CharacterDatabase.requireCharacter, hpresent, hpresent', okOr, bind, Except.bind,
        hassemble]

/-- The character of an identifier, without its hidden examples. -/
theorem character_withoutHidden (id : Text) :
    (database.character id).map (fun character => { character with
      styleExamples := database.profile.visibleExamples request character }) =
      (database.profile.withoutHidden request).characters.reverse.find? (·.id = id) := by
  show _ = (database.profile.characters.map _).reverse.find? _
  rw [← List.map_reverse, List.find?_map]
  rfl

theorem visibleExamples_nodup (request : PromptBuildRequest)
    (h : (character.styleExamples.map (·.id)).Nodup) :
    ((profile.visibleExamples request character).map (·.id)).Nodup := by
  unfold GameProfile.visibleExamples
  by_cases hrequested : request.scope.characterId = some character.id
  · rw [if_pos hrequested]
    exact (List.filter_sublist.map _).nodup h
  · rw [if_neg hrequested]
    exact List.nodup_nil

theorem character_id {id : Text} (h : database.character id = some character) :
    character.id = id := by
  simpa using List.find?_some h

/-- **Prompts leak nothing.** Databases and requests that differ only in what the request may not
see give the same prompt. -/
theorem prompt_noninterference (codec : PromptCodec) (database database' : CharacterDatabase)
    (request request' : PromptBuildRequest)
    (hrequest : request.withoutHidden = request'.withoutHidden)
    (hprofile : database.profile.withoutHidden request =
      database'.profile.withoutHidden request) :
    buildPromptContext codec database request = buildPromptContext codec database' request' := by
  have hsame : SameRequest request request' := by
    have h := PromptBuildRequest.mk.inj hrequest
    exact ⟨h.1, h.2.1, h.2.2.1, h.2.2.2.1, h.2.2.2.2.2.1, h.2.2.2.2.2.2, h.2.2.2.2.1⟩
  have hname : (database.profile.withoutHidden request).id =
      (database'.profile.withoutHidden request).id := by rw [hprofile]
  have hcontent : (database.profile.withoutHidden request).content =
      (database'.profile.withoutHidden request).content := by rw [hprofile]
  refine buildPromptContext_congr hsame hname ?_
  intro id hid
  have hcharacter := @character_withoutHidden request database id
  rw [hprofile, ← character_withoutHidden] at hcharacter
  cases hpresent : database.character id with
  | none =>
    rw [hpresent, Option.map_none] at hcharacter
    exact .absent hpresent (Option.map_eq_none_iff.1 hcharacter.symm)
  | some character =>
    rw [hpresent, Option.map_some] at hcharacter
    obtain ⟨character', hpresent', hview⟩ := Option.map_eq_some_iff.1 hcharacter.symm
    have hexamples : database.profile.visibleExamples request character =
        database'.profile.visibleExamples request character' :=
      (congrArg CharacterProfile.styleExamples hview).symm
    refine .present character character' hpresent hpresent'
      ⟨?_, ?_, ?_, ?_, ?_, ?_, ?_, ?_, ?_, ?_, ?_⟩
    · exact (ContentBundle.mk.inj hcontent).1
    · exact (ContentBundle.mk.inj hcontent).2.2.2.2
    · exact List.Perm.of_eq (ContentBundle.mk.inj hcontent).2.2.2.1
    · exact (List.filter_sublist.map _).nodup database.nodup_knowledge
    · rw [character_id hpresent]
      exact hid
    · exact (congrArg CharacterProfile.id hview).symm
    · exact (congrArg CharacterProfile.biography hview).symm
    · exact (congrArg CharacterProfile.personality hview).symm
    · exact (congrArg CharacterProfile.dialogueStyle hview).symm
    · exact List.Perm.of_eq hexamples
    · exact visibleExamples_nodup request (database.nodup_styles hpresent)

/-! ## A game with a secret -/

def examplePolicy : RetrievalPolicy := ⟨5, 16, 4, 4, 1, [.coreCanon, .retrievedMemory]⟩

/-- The digests of its query and of its policy. -/
def exampleCodec : PromptCodec where
  sha256 := fun text =>
    if text = "Who rules?".toList then
      [148, 25, 192, 77, 77, 202, 78, 75, 55, 232, 112, 101, 184, 187, 45, 186, 228, 14, 136, 211,
      244, 248, 204, 241, 56, 17, 53, 103, 29, 185, 197, 225]
    else
      [228, 191, 75, 173, 78, 9, 43, 33, 246, 116, 128, 141, 220, 101, 178, 7, 155, 143, 103, 228,
      53, 45, 160, 6, 146, 218, 171, 21, 245, 139, 102, 246]
  policyJson := fun _ => .ok ("\x7b\"query_window_delivered_turns\":5,\"max_core_records\":16," ++
    "\"max_public_records\":4,\"max_character_records\":4," ++
    "\"max_memory_records\":1,\"authority_order\":[\"core_canon\"," ++
    "\"retrieved_memory\"]\x7d").toList

/-- One character, and knowledge from a source that is approved or pending. -/
def exampleProfile (knowledge : List KnowledgeRecord) : GameProfile where
  schemaVersion := gameProfileVersion
  id := "game".toList
  content :=
    { worldLore := "A kingdom.".toList
      spoilerTiers := [⟨"open".toList, [], true⟩]
      provenance := [⟨"book".toList, [], .original, none, none, none, none, none, none, none, none⟩,
        ⟨"import".toList, [], .legacyImport, none, none, none, none, none, none, some .pending, none⟩]
      knowledge := knowledge
      retrieval := examplePolicy }
  characters := [⟨"guard".toList, [], [], [], [], [], false, []⟩]
  defaultCharacterId := "guard".toList

def openKnowledge : KnowledgeRecord :=
  ⟨"queen".toList, .coreCanon, none, "A queen rules.".toList, [], "open".toList, "book".toList⟩

def pendingKnowledge : KnowledgeRecord :=
  ⟨"heir".toList, .coreCanon, none, "The heir is false.".toList, [], "open".toList,
    "import".toList⟩

def openDatabase : CharacterDatabase := ⟨exampleProfile [openKnowledge], by decide +kernel⟩

def secretDatabase : CharacterDatabase :=
  ⟨exampleProfile [pendingKnowledge, openKnowledge], by decide +kernel⟩

def exampleScope : AuthorityScope :=
  ⟨"user".toList, "game".toList, "game".toList, some "guard".toList, none, some "session".toList,
    none⟩

def exampleRequest (worldLore : List DerivedMemoryRecord) : PromptBuildRequest where
  schemaVersion := characterDbSchemaVersion
  scope := exampleScope
  query := "Who rules?".toList
  enabledSpoilerTiers := []
  memoryContext := ⟨worldLore, [], [], [], [], []⟩
  memorySpoilerPolicy := ⟨true, true, true, true⟩
  maxStyleExamples := 4

/-- A memory of another user. -/
def foreignMemory : DerivedMemoryRecord where
  id := "memory".toList
  scope := { exampleScope with userId := "other".toList }
  «class» := .worldLore
  spoilerScope := .none
  content := "The other user won.".toList
  contentSha256 := []
  provenance := ⟨[], none, none, none, none, []⟩
  confidence := 1
  importance := 1
  observedAtMs := 0
  createdAtMs := 0
  expiresAtMs := none
  sourceTurnIds := []
  generator := none

theorem prompt_noninterference_example :
    buildPromptContext exampleCodec openDatabase (exampleRequest []) =
      buildPromptContext exampleCodec secretDatabase (exampleRequest [foreignMemory]) :=
  prompt_noninterference exampleCodec openDatabase secretDatabase (exampleRequest [])
    (exampleRequest [foreignMemory]) (by decide +kernel) (by decide +kernel)

end NpcRuntime.Characters
