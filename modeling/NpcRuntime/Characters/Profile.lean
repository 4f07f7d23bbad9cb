import Mathlib.Data.Char
import Mathlib.Data.List.Infix
import Mathlib.Data.List.Lex
import Mathlib.Data.List.Nodup
import NpcRuntime.Lib.Text

/-!
# Game profiles and the character database

`game-profile/src/model.rs` and `validation.rs`, with the fields that the character database uses,
and `character-db/src/database.rs`. Of `validate` it is the answer that counts: whether there are
errors. What it checks in the other fields of a profile is left out.
-/

namespace NpcRuntime.Characters

/-! ## The profile -/

structure SpoilerTier where
  id : Text
  description : Text
  defaultEnabled : Bool
deriving DecidableEq

inductive ProvenanceKind where
  | original | official | licensed | legacyImport
deriving DecidableEq

inductive ReviewStatus where
  | pending | approved | rejected
deriving DecidableEq

structure ProvenanceRecord where
  id : Text
  title : Text
  kind : ProvenanceKind
  sourceUrl : Option Text
  license : Option Text
  notes : Option Text
  sourceRevision : Option Text
  sourcePath : Option Text
  sourceSha256 : Option Text
  reviewStatus : Option ReviewStatus
  transformVersion : Option Text
deriving DecidableEq

inductive KnowledgeAuthority where
  | coreCanon | gamePublic | characterAuthored
deriving DecidableEq

structure KnowledgeRecord where
  id : Text
  authority : KnowledgeAuthority
  ownerCharacterId : Option Text
  text : Text
  topicTags : List Text
  spoilerTier : Text
  provenanceId : Text
deriving DecidableEq

/-- The lanes of a prompt. -/
inductive PromptAuthority where
  | coreCanon | characterProfile | gamePublic | characterAuthored | retrievedMemory
  | sessionSummary | recentDeliveredTurns
deriving DecidableEq

structure RetrievalPolicy where
  queryWindowDeliveredTurns : Nat
  maxCoreRecords : Nat
  maxPublicRecords : Nat
  maxCharacterRecords : Nat
  maxMemoryRecords : Nat
  authorityOrder : List PromptAuthority
deriving DecidableEq

structure ContentBundle where
  worldLore : Text
  spoilerTiers : List SpoilerTier
  provenance : List ProvenanceRecord
  knowledge : List KnowledgeRecord
  retrieval : RetrievalPolicy
deriving DecidableEq

structure StyleExample where
  id : Text
  speaker : Text
  text : Text
  situationTags : List Text
  toneTags : List Text
  weightMillis : Nat
  provenanceId : Text
deriving DecidableEq

structure CharacterProfile where
  id : Text
  displayName : Text
  biography : Text
  personality : Text
  dialogueStyle : Text
  styleExamples : List StyleExample
  backgroundNpc : Bool
  /-- `prompt.knowledge_refs`. -/
  knowledgeRefs : List Text
deriving DecidableEq

structure GameProfile where
  schemaVersion : Text
  id : Text
  content : ContentBundle
  characters : List CharacterProfile
  /-- `defaults.character_id`. -/
  defaultCharacterId : Text
deriving DecidableEq

/-! ## Validation -/

def gameProfileVersion : Text := "2.0.0".toList

/-- `str::to_ascii_lowercase`. -/
def toAsciiLowercase (value : Text) : Text := value.map Char.toLower

/-- `str::contains`. -/
def contains (value needle : Text) : Bool := decide (needle <:+: value)

def validateHttpsUrl (value : Text) : Bool :=
  let lower := toAsciiLowercase value
  "https://".toList.isPrefixOf lower && !lower.contains '@' &&
    !contains lower "javascript:".toList && !contains lower "data:".toList

def validateRelativeLeaf (value : Text) : Bool :=
  ((value.splitOn '/').all fun segment =>
      !segment.isEmpty && segment ≠ ['.'] && segment ≠ ['.', '.'] &&
        segment.head? ≠ some '.' && !segment.contains (Char.ofNat 0)) &&
    value.head? ≠ some '/' && !value.contains '\\' && !value.contains ':' &&
    value.utf8Len ≤ 512

/-- The checks of a provenance record. -/
def ProvenanceRecord.valid (record : ProvenanceRecord) : Bool :=
  record.sourceUrl.all validateHttpsUrl &&
    (!(record.kind = .official || record.kind = .licensed) || record.sourceUrl.isSome) &&
    record.sourcePath.all validateRelativeLeaf &&
    record.sourceSha256.all fun hash =>
      hash.length = 64 && hash.all fun c => c.isDigit || ('a' ≤ c && c ≤ 'f')

namespace GameProfile

variable (profile : GameProfile)

def hasProvenance (id : Text) : Bool := profile.content.provenance.any (·.id = id)

def hasTier (id : Text) : Bool := profile.content.spoilerTiers.any (·.id = id)

def hasCharacter (id : Text) : Bool := profile.characters.any (·.id = id)

/-- The checks of a character. -/
def validCharacter (character : CharacterProfile) : Bool :=
  (character.knowledgeRefs.all fun reference =>
      profile.hasProvenance reference || profile.hasTier reference ||
        profile.content.knowledge.any (·.id = reference)) &&
    decide (character.styleExamples.map (·.id)).Nodup &&
    character.styleExamples.all fun style =>
      style.weightMillis ≤ 1000 && profile.hasProvenance style.provenanceId

/-- The checks of a knowledge record. -/
def validKnowledge (record : KnowledgeRecord) : Bool :=
  profile.hasProvenance record.provenanceId && profile.hasTier record.spoilerTier &&
    match record.authority, record.ownerCharacterId with
    | .characterAuthored, some owner => profile.hasCharacter owner
    | .characterAuthored, none => false
    | _, some _ => false
    | _, none => true

/-- `validate` finds no error. -/
def valid : Bool :=
  profile.schemaVersion = gameProfileVersion &&
    decide (profile.characters.map (·.id)).Nodup &&
    decide (profile.content.provenance.map (·.id)).Nodup &&
    decide (profile.content.knowledge.map (·.id)).Nodup &&
    decide (profile.content.spoilerTiers.map (·.id)).Nodup &&
    profile.hasCharacter profile.defaultCharacterId &&
    profile.characters.all profile.validCharacter &&
    profile.content.knowledge.all profile.validKnowledge &&
    (decide profile.content.retrieval.authorityOrder.Nodup &&
      profile.content.retrieval.authorityOrder.contains .coreCanon) &&
    profile.content.provenance.all ProvenanceRecord.valid

end GameProfile

namespace GameProfile

variable {profile : GameProfile}

/-- What a profile without errors has only once. -/
theorem nodup_of_valid (h : profile.valid = true) :
    (profile.characters.map (·.id)).Nodup ∧ (profile.content.provenance.map (·.id)).Nodup ∧
      (profile.content.knowledge.map (·.id)).Nodup ∧
      ∀ character ∈ profile.characters, (character.styleExamples.map (·.id)).Nodup := by
  unfold valid at h
  simp only [Bool.and_eq_true, decide_eq_true_eq] at h
  obtain ⟨⟨⟨⟨⟨⟨⟨⟨⟨-, hcharacters⟩, hprovenance⟩, hknowledge⟩, -⟩, -⟩, hvalid⟩, -⟩, -⟩, -⟩ := h
  refine ⟨hcharacters, hprovenance, hknowledge, ?_⟩
  intro character hcharacter
  have hcheck := List.all_eq_true.1 hvalid character hcharacter
  unfold validCharacter at hcheck
  simp only [Bool.and_eq_true, decide_eq_true_eq] at hcheck
  exact hcheck.1.2

end GameProfile

/-! ## The database -/

def characterDbSchemaVersion : Text := "character-db/1.0.0".toList

inductive CharacterDbError where
  | invalidProfile
  | unknownCharacter (id : Text)
  | invalidInput (message : String)
deriving DecidableEq

/-- A database of a profile without errors. -/
structure CharacterDatabase where
  profile : GameProfile
  valid : profile.valid = true

namespace CharacterDatabase

def new (profile : GameProfile) : Except CharacterDbError CharacterDatabase :=
  if h : profile.valid = true then .ok ⟨profile, h⟩ else .error .invalidProfile

/-- The character of an identifier: the last one, where the index is by identifier. -/
def character (database : CharacterDatabase) (id : Text) : Option CharacterProfile :=
  database.profile.characters.reverse.find? (·.id = id)

def requireCharacter (database : CharacterDatabase) (id : Text) :
    Except CharacterDbError CharacterProfile :=
  match database.character id with
  | some character => .ok character
  | none => .error (.unknownCharacter id)

variable (database : CharacterDatabase)

theorem nodup_knowledge : (database.profile.content.knowledge.map (·.id)).Nodup :=
  (GameProfile.nodup_of_valid database.valid).2.2.1

theorem nodup_styles {id : Text} {character : CharacterProfile}
    (h : database.character id = some character) : (character.styleExamples.map (·.id)).Nodup :=
  (GameProfile.nodup_of_valid database.valid).2.2.2 character
    (List.mem_reverse.1 (List.mem_of_find?_eq_some h))

end CharacterDatabase

end NpcRuntime.Characters
