import NpcRuntime.Characters.Profile
import NpcRuntime.Lib.Limit
import NpcRuntime.Memory.Domain
import Mathlib.Data.Prod.Lex

/-!
# Prompt contexts

`build_prompt_context` of `character-db/src/prompt.rs`: the lanes of a prompt, in the order that the
profile chooses, each from its own source. Three lanes take authored knowledge, one the character's
own examples, two share a budget of remembered records, and one the last turns that were delivered.
SHA-256 and the JSON of the policy are parameters.
-/

namespace NpcRuntime.Characters

open Text Memory

/-- SHA-256, of the UTF-8 of a text, and `serde_json::to_vec` of a policy. -/
structure PromptCodec where
  sha256 : Text → List UInt8
  policyJson : RetrievalPolicy → Except String Text

/-- `format!("{byte:02x}")`, byte by byte. -/
def hex (digest : List UInt8) : Text :=
  digest.flatMap fun byte => [Nat.digitChar (byte.toNat / 16), Nat.digitChar (byte.toNat % 16)]

structure PromptBuildRequest where
  schemaVersion : Text
  scope : AuthorityScope
  query : Text
  enabledSpoilerTiers : List Text
  memoryContext : MemoryContextBundle
  memorySpoilerPolicy : SpoilerPolicy
  maxStyleExamples : Nat
deriving DecidableEq

structure PromptRecord where
  id : Text
  text : Text
  provenanceId : Option Text
  memoryClass : Option KnowledgeClass
  spoilerScope : Option SpoilerScope
deriving DecidableEq

structure PromptSection where
  authority : PromptAuthority
  records : List PromptRecord
deriving DecidableEq

structure RetrievalProvenance where
  schemaVersion : Text
  policyFingerprintSha256 : Text
  querySha256 : Text
  selectedProfileKnowledgeIds : List Text
  selectedMemoryItemIds : List Text
  embeddingMetadataIds : List Text
deriving DecidableEq

structure PromptContext where
  schemaVersion : Text
  profileId : Text
  characterId : Text
  sections : List PromptSection
  retrievalProvenance : RetrievalProvenance
deriving DecidableEq

/-! ## Records -/

def profileKnowledgeRecord (record : KnowledgeRecord) : PromptRecord :=
  ⟨record.id, record.text, some record.provenanceId, none, none⟩

def derivedMemoryRecord (record : DerivedMemoryRecord) : PromptRecord :=
  ⟨record.id, record.content, record.provenance.sourceId.or (some record.id), some record.class,
    some record.spoilerScope⟩

def deliveredTurnRecord (turn : DeliveredTurnRecord) : PromptRecord :=
  let speaker := match turn.speaker with
    | .player => "Player".toList
    | .npc => "NPC".toList
  ⟨"turn:".toList ++ turn.turnId, speaker ++ ": ".toList ++ turn.deliveredText, some turn.turnId,
    none, none⟩

def styleRecord (style : StyleExample) : PromptRecord :=
  ⟨style.id, style.speaker ++ ": ".toList ++ style.text, some style.provenanceId, none, none⟩

/-! ## What may be shown -/

namespace GameProfile

variable (profile : GameProfile)

def spoilerAllowed (enabled : List Text) (tier : Text) : Bool :=
  enabled.contains tier ||
    profile.content.spoilerTiers.any fun candidate => candidate.id = tier && candidate.defaultEnabled

def provenanceAvailable (id : Text) : Bool :=
  match profile.content.provenance.find? (·.id = id) with
  | none => false
  | some record => record.reviewStatus = none || record.reviewStatus = some .approved

/-- The knowledge of a lane. -/
def knowledgeRecords (enabled : List Text) (wanted : KnowledgeRecord → Bool) : List PromptRecord :=
  (((profile.content.knowledge.filter wanted).filter fun record =>
      profile.provenanceAvailable record.provenanceId).filter fun record =>
        profile.spoilerAllowed enabled record.spoilerTier).map profileKnowledgeRecord

end GameProfile

/-! ## Orders -/

def sortById (records : List PromptRecord) : List PromptRecord :=
  records.insertionSort fun left right => left.id ≤ right.id

/-- The important first, then the recent. -/
def memoryKey (record : DerivedMemoryRecord) : ℚᵒᵈ ×ₗ ℤᵒᵈ ×ₗ Text :=
  toLex (.toDual record.importance, toLex (.toDual record.observedAtMs, record.id))

def sortMemory (records : List DerivedMemoryRecord) : List DerivedMemoryRecord :=
  records.insertionSort fun left right => memoryKey left ≤ memoryKey right

def turnKey (turn : DeliveredTurnRecord) : ℕ ×ₗ Text := toLex (turn.sequence, turn.turnId)

def sortTurns (turns : List DeliveredTurnRecord) : List DeliveredTurnRecord :=
  turns.insertionSort fun left right => turnKey left ≤ turnKey right

/-- Shuffled by the query, and the heavier first where the digests agree. -/
def styleKey (codec : PromptCodec) (seed : Text) (style : StyleExample) :
    List ℕ ×ₗ ℕᵒᵈ ×ₗ Text :=
  toLex ((codec.sha256 (seed ++ [Char.ofNat 0] ++ style.id)).map UInt8.toNat,
    toLex (.toDual style.weightMillis, style.id))

def selectStyleExamples (codec : PromptCodec) (examples : List StyleExample) (seed : Text)
    (limit : Nat) : List StyleExample :=
  (examples.insertionSort fun left right =>
    styleKey codec seed left ≤ styleKey codec seed right).take limit

/-! ## Lanes -/

/-- The memory that is in scope and not a spoiler. -/
def permittedMemory (request : PromptBuildRequest) (records : List DerivedMemoryRecord) :
    List DerivedMemoryRecord :=
  (records.filter fun record => record.scope = request.scope).filter fun record =>
    request.memorySpoilerPolicy.allows record.spoilerScope

/-- The records of a lane, and the budget that is left. -/
def laneRecords (codec : PromptCodec) (profile : GameProfile) (character : CharacterProfile)
    (request : PromptBuildRequest) (remaining : Nat) :
    PromptAuthority → List PromptRecord × Nat
  | .coreCanon =>
    ((sortById (⟨"profile-world-lore".toList, profile.content.worldLore, none, none, none⟩ ::
      profile.knowledgeRecords request.enabledSpoilerTiers fun record =>
        record.authority = .coreCanon)).take profile.content.retrieval.maxCoreRecords, remaining)
  | .characterProfile =>
    ([⟨character.id ++ "-biography".toList, character.biography, none, none, none⟩,
      ⟨character.id ++ "-personality".toList, character.personality, none, none, none⟩,
      ⟨character.id ++ "-dialogue-style".toList, character.dialogueStyle, none, none, none⟩] ++
      (selectStyleExamples codec (character.styleExamples.filter fun style =>
        profile.provenanceAvailable style.provenanceId) request.query
          request.maxStyleExamples).map styleRecord, remaining)
  | .gamePublic =>
    ((sortById (profile.knowledgeRecords request.enabledSpoilerTiers fun record =>
      record.authority = .gamePublic)).take profile.content.retrieval.maxPublicRecords, remaining)
  | .characterAuthored =>
    ((sortById (profile.knowledgeRecords request.enabledSpoilerTiers fun record =>
      record.authority = .characterAuthored && record.ownerCharacterId = some character.id)).take
        profile.content.retrieval.maxCharacterRecords, remaining)
  | .retrievedMemory =>
    let records := ((sortMemory (permittedMemory request
      (request.memoryContext.worldLore ++ request.memoryContext.biography ++
        request.memoryContext.characterKnowledge ++
        request.memoryContext.uncertainPublicInfo))).take remaining).map derivedMemoryRecord
    (records, remaining - records.length)
  | .sessionSummary =>
    let records := ((permittedMemory request
      (sortMemory request.memoryContext.longTermSummaries)).take remaining).map derivedMemoryRecord
    (records, remaining - records.length)
  | .recentDeliveredTurns =>
    let records := ((sortTurns request.memoryContext.recentDialogue).filter fun turn =>
      turn.scope = request.scope).map deliveredTurnRecord
    (records.drop (records.length - profile.content.retrieval.queryWindowDeliveredTurns),
      remaining)

/-- The sections, lane by lane. A lane without records has none. -/
def sectionsOf (codec : PromptCodec) (profile : GameProfile) (character : CharacterProfile)
    (request : PromptBuildRequest) : List PromptAuthority → Nat → List PromptSection
  | [], _ => []
  | authority :: rest, remaining =>
    let lane := laneRecords codec profile character request remaining authority
    (if lane.1.isEmpty then [] else [⟨authority, lane.1⟩]) ++
      sectionsOf codec profile character request rest lane.2

def selectedIds (sections : List PromptSection) (lanes : List PromptAuthority) : List Text :=
  (sections.filter fun part => lanes.contains part.authority).flatMap fun part =>
    part.records.map PromptRecord.id

/-- `to_string` of the errors of a scope, which are all of `InvalidData`. -/
def scopeMessage : MemoryError → String
  | .invalidData message => "invalid memory data: " ++ String.ofList message
  | .notFound what => "record not found: " ++ String.ofList what
  | .revisionConflict id expected actual =>
    "revision conflict for " ++ String.ofList id ++ ": expected " ++ toString expected ++
      ", found " ++ toString actual
  | .database _ => "database error"

/-- The context for a request that was checked. -/
def assemble (codec : PromptCodec) (profile : GameProfile) (character : CharacterProfile)
    (request : PromptBuildRequest) : Except CharacterDbError PromptContext := do
  let policy := profile.content.retrieval
  let sections := sectionsOf codec profile character request policy.authorityOrder
    policy.maxMemoryRecords
  let policyJson ← (codec.policyJson policy).mapError .invalidInput
  .ok
    { schemaVersion := characterDbSchemaVersion
      profileId := profile.id
      characterId := character.id
      sections := sections
      retrievalProvenance :=
        { schemaVersion := characterDbSchemaVersion
          policyFingerprintSha256 := hex (codec.sha256 policyJson)
          querySha256 := hex (codec.sha256 request.query)
          selectedProfileKnowledgeIds :=
            selectedIds sections [.coreCanon, .gamePublic, .characterAuthored]
          selectedMemoryItemIds :=
            selectedIds sections [.sessionSummary, .recentDeliveredTurns, .retrievedMemory]
          embeddingMetadataIds := [] } }

def buildPromptContext (codec : PromptCodec) (database : CharacterDatabase)
    (request : PromptBuildRequest) : Except CharacterDbError PromptContext := do
  require (request.schemaVersion = characterDbSchemaVersion)
    (.invalidInput ("unsupported prompt request schema `" ++
      String.ofList request.schemaVersion ++ "`"))
  request.scope.validate.mapError fun error => .invalidInput (scopeMessage error)
  require (!(request.query.trim.isEmpty || request.scope.sessionId.isNone))
    (.invalidInput "prompt query and a session-scoped authority boundary are required")
  require (request.maxStyleExamples ≤ 64)
    (.invalidInput "max_style_examples cannot exceed 64")
  require (request.scope.profileId = database.profile.id &&
      request.scope.gameId = database.profile.id)
    (.invalidInput "prompt authority scope does not match the active game profile")
  let characterId ← okOr request.scope.characterId
    (.invalidInput "prompt authority scope requires a character ID")
  let character ← database.requireCharacter characterId
  assemble codec database.profile character request

/-! ## Knowledge for the memory -/

/-- `json!` of an authority. -/
def KnowledgeAuthority.json : KnowledgeAuthority → Json.Value
  | .coreCanon => .string "core_canon".toList
  | .gamePublic => .string "game_public".toList
  | .characterAuthored => .string "character_authored".toList

/-- The memory of a knowledge record, for a user. -/
def knowledgeInput (profileId userId : Text) (record : KnowledgeRecord) : DerivedMemoryInput where
  id := some ("profile-knowledge:".toList ++ record.id)
  scope := ⟨userId, profileId, profileId, record.ownerCharacterId, none, none, none⟩
  «class» := match record.authority with
    | .coreCanon | .gamePublic => .worldLore
    | .characterAuthored => .characterKnowledge
  spoilerScope := match record.authority with
    | .coreCanon | .gamePublic => .game
    | .characterAuthored => .characterPrivate
  content := record.text
  provenance :=
    { sourceKind := "game_profile_knowledge".toList
      sourceId := some record.provenanceId
      sourceUri := none
      author := none
      capturedAtMs := none
      attributes := [("authority".toList, record.authority.json),
        ("knowledge_id".toList, .string record.id),
        ("spoiler_tier".toList, .string record.spoilerTier)] }
  confidence := 1
  importance := 7 / 10
  observedAtMs := 0
  expiresAtMs := none
  sourceTurnIds := []
  generator := none

/-- `approved_knowledge_memory_inputs` of `character-db/src/database.rs`. -/
def CharacterDatabase.approvedKnowledgeMemoryInputs (database : CharacterDatabase)
    (userId : Text) : Except CharacterDbError (List DerivedMemoryInput) := do
  require (!userId.trim.isEmpty)
    (.invalidInput "knowledge indexing requires a non-blank user ID")
  let inputs := (database.profile.content.knowledge.filter fun record =>
    database.profile.provenanceAvailable record.provenanceId).map
      (knowledgeInput database.profile.id userId)
  inputs.forM fun input => input.validate.mapError fun error => .invalidInput (scopeMessage error)
  .ok inputs

/-! ## The size of a prompt -/

/-- The most records of a lane. -/
def laneLimit (policy : RetrievalPolicy) (request : PromptBuildRequest) : PromptAuthority → Nat
  | .coreCanon => policy.maxCoreRecords
  | .characterProfile => 3 + request.maxStyleExamples
  | .gamePublic => policy.maxPublicRecords
  | .characterAuthored => policy.maxCharacterRecords
  | .retrievedMemory | .sessionSummary => policy.maxMemoryRecords
  | .recentDeliveredTurns => policy.queryWindowDeliveredTurns

/-- What a section takes from the budget of the memory. -/
def PromptSection.spent (part : PromptSection) : Nat :=
  match part.authority with
  | .retrievedMemory | .sessionSummary => part.records.length
  | _ => 0

/-- The sections of lanes, in their order, within the budget and the limits. -/
structure Bounded (policy : RetrievalPolicy) (request : PromptBuildRequest)
    (lanes : List PromptAuthority) (remaining : Nat) (sections : List PromptSection) : Prop where
  order : (sections.map (·.authority)).Sublist lanes
  memory : (sections.map (·.spent)).sum ≤ remaining
  records : ∀ part ∈ sections, part.records ≠ [] ∧
    part.records.length ≤ laneLimit policy request part.authority

variable {codec : PromptCodec} {profile : GameProfile} {character : CharacterProfile}
  {request : PromptBuildRequest}

/-- A lane keeps its limit, and pays from the budget for what it shows. -/
theorem laneRecords_bounded {remaining : Nat}
    (h : remaining ≤ profile.content.retrieval.maxMemoryRecords) (authority : PromptAuthority) :
    let lane := laneRecords codec profile character request remaining authority
    lane.1.length ≤ laneLimit profile.content.retrieval request authority ∧
      PromptSection.spent ⟨authority, lane.1⟩ + lane.2 ≤ remaining := by
  cases authority <;>
    simp only [laneRecords, laneLimit, PromptSection.spent, selectStyleExamples, List.length_append,
      List.length_map, List.length_take, List.length_drop, List.length_cons, List.length_nil] <;>
    omega

theorem sectionsOf_bounded {remaining : Nat}
    (h : remaining ≤ profile.content.retrieval.maxMemoryRecords) (lanes : List PromptAuthority) :
    Bounded profile.content.retrieval request lanes remaining
      (sectionsOf codec profile character request lanes remaining) := by
  induction lanes generalizing remaining with
  | nil => exact ⟨.slnil, Nat.zero_le _, List.forall_mem_nil _⟩
  | cons authority lanes ih =>
    obtain ⟨hlimit, hspent⟩ := @laneRecords_bounded codec profile character request _ h authority
    have hrest := @ih (laneRecords codec profile character request remaining authority).2 (by omega)
    unfold sectionsOf
    dsimp only
    split_ifs with hempty
    · exact ⟨hrest.order.cons _, hrest.memory.trans (by omega), hrest.records⟩
    · refine ⟨hrest.order.cons_cons _, (Nat.add_le_add_left hrest.memory _).trans hspent,
        List.forall_mem_cons.2 ⟨⟨?_, hlimit⟩, hrest.records⟩⟩
      exact fun h => hempty (List.isEmpty_iff.2 h)

/-- **A prompt is bounded**, in the order and by the limits of its profile, and shows no lane
twice. -/
theorem prompt_bounded (codec : PromptCodec) (database : CharacterDatabase)
    (request : PromptBuildRequest) :
    Returns (buildPromptContext codec database request) fun context =>
      let policy := database.profile.content.retrieval
      (context.sections.map (·.authority)).Nodup ∧
        Bounded policy request policy.authorityOrder policy.maxMemoryRecords context.sections := by
  have hnodup : database.profile.content.retrieval.authorityOrder.Nodup := by
    have hvalid := database.valid
    simp only [GameProfile.valid, Bool.and_eq_true, decide_eq_true_eq] at hvalid
    exact hvalid.1.2.1
  unfold buildPromptContext assemble
  simp only [returns_bind, returns_ok]
  intros
  exact ⟨(sectionsOf_bounded le_rfl _).order.nodup hnodup, sectionsOf_bounded le_rfl _⟩

end NpcRuntime.Characters
