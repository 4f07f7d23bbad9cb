import NpcRuntime.Lib.ContentIndex
import NpcRuntime.Lib.Json
import NpcRuntime.Lib.Result
import Mathlib.Algebra.Order.Ring.Rat

/-!
# The memory domain

`memory/src/domain.rs`: the records and requests of the memory store, and the checks a request
passes before it reaches the writer. Confidences and importances are exact rationals in place of
`f64`, instants and revisions are integers.

The encoders and hashes of other crates are parameters (`Codec`).
-/

namespace NpcRuntime.Memory

open Text Json

inductive DatabaseError where
  /-- A `CHECK`, `UNIQUE`, foreign-key or trigger refusal. -/
  | constraint (name : String)
  /-- A column that does not read back. -/
  | conversion
  /-- `SQLITE_CORRUPT_VTAB`: the full-text index refuses a removal. -/
  | corruptIndex
deriving DecidableEq

inductive MemoryError where
  | database (error : DatabaseError)
  | invalidData (message : Text)
  | notFound (what : Text)
  | revisionConflict (id : Text) (expected actual : Int)
deriving DecidableEq

def MemoryError.invalid (message : String) : MemoryError := .invalidData message.toList

/-! ## Memory items -/

inductive MemoryNamespace where
  | event
  | episode
  | fact
  | relationship
  | summary
  | lore
  | profile
deriving DecidableEq

inductive Visibility where
  | «private»
  | character
  | game
  | profile
  | global
deriving DecidableEq

structure MemoryScope where
  profileId : Option Text
  gameId : Option Text
  characterId : Option Text
  sessionId : Option Text
  saveId : Option Text
deriving DecidableEq

structure Provenance where
  sourceKind : Text
  sourceId : Option Text
  sourceUri : Option Text
  author : Option Text
  capturedAtMs : Option Int
  attributes : List (Text × Value)
deriving DecidableEq

structure MemoryInput where
  /-- `none` asks for a random identifier. -/
  id : Option Text
  «namespace» : MemoryNamespace
  scope : MemoryScope
  visibility : Visibility
  content : Text
  provenance : Provenance
  confidence : ℚ
  importance : ℚ
  observedAtMs : Int
  expiresAtMs : Option Int
  /-- A mismatch rejects the write. -/
  expectedRevision : Option Int
deriving DecidableEq

/-- A number in `0..=1`. -/
def validateUnit (name : String) (value : ℚ) : Except MemoryError Unit :=
  require (0 ≤ value && value ≤ 1) (.invalid (name ++ " must be finite and between 0 and 1"))

def MemoryInput.validate (input : MemoryInput) : Except MemoryError Unit := do
  require (!input.content.isBlank) (.invalid "memory content cannot be blank")
  require (input.content.utf8Len ≤ 1048576) (.invalid "memory content exceeds 1 MiB")
  validateUnit "confidence" input.confidence
  validateUnit "importance" input.importance
  input.expiresAtMs.forM fun expires =>
    require (input.observedAtMs < expires) (.invalid "expires_at_ms must be after observed_at_ms")

structure MemoryRecord where
  id : Text
  «namespace» : MemoryNamespace
  scope : MemoryScope
  visibility : Visibility
  content : Text
  contentSha256 : Text
  provenance : Provenance
  confidence : ℚ
  importance : ℚ
  observedAtMs : Int
  createdAtMs : Int
  updatedAtMs : Int
  expiresAtMs : Option Int
  embeddingGeneration : Option Int
  revision : Int
deriving DecidableEq

structure EmbeddingInput where
  itemId : Text
  generation : Int
  modelId : Text
  values : List F32
deriving DecidableEq

/-- The exact value of an `f32`, where it is finite. -/
def F32.value : F32 → ℚ
  | .finite q => q
  | .notFinite => 0

/-- The square of the Euclidean norm. -/
def squaredNorm (values : List F32) : ℚ := (values.map fun v => F32.value v * F32.value v).sum

/-- `f64::EPSILON`. -/
def f64Epsilon : ℚ := 1 / 2 ^ 52

def EmbeddingInput.validate (embedding : EmbeddingInput) : Except MemoryError Unit := do
  require (0 ≤ embedding.generation) (.invalid "embedding generation cannot be negative")
  require (!embedding.modelId.isBlank && !embedding.values.isEmpty)
    (.invalid "embedding model and vector are required")
  require (embedding.values.length ≤ 65536 && !embedding.values.contains .notFinite)
    (.invalid "embedding is too large or contains a non-finite value")
  require (f64Epsilon * f64Epsilon < squaredNorm embedding.values)
    (.invalid "zero-length embedding is not searchable")

/-! ## Retrieval -/

structure RetrievalFilter where
  namespaces : List MemoryNamespace
  visibility : List Visibility
  profileId : Option Text
  gameId : Option Text
  characterId : Option Text
  sessionId : Option Text
  saveId : Option Text
  includeGlobalScope : Bool
deriving DecidableEq

structure RetrievalQuery where
  text : Option Text
  embedding : Option (List F32)
  embeddingGeneration : Option Int
  filter : RetrievalFilter
  limit : Nat
  candidateLimit : Nat
  nowMs : Int
deriving DecidableEq

def RetrievalQuery.validate (query : RetrievalQuery) : Except MemoryError Unit := do
  require (query.limit ≠ 0 && query.limit ≤ 1000) (.invalid "retrieval limit must be in 1..=1000")
  require (query.limit ≤ query.candidateLimit && query.candidateLimit ≤ 50000)
    (.invalid "candidate_limit must be >= limit and <= 50000")
  require (!query.filter.namespaces.isEmpty && !query.filter.visibility.isEmpty)
    (.invalid "at least one namespace and visibility are required")
  query.embedding.forM fun vector =>
    require (!vector.isEmpty && !vector.contains .notFinite)
      (.invalid "query embedding must be non-empty and finite")

/-! ## The outbox -/

structure ReindexRequest where
  targetGeneration : Int
  modelId : Text
  batchSize : Nat
deriving DecidableEq

structure ReindexReport where
  ftsRebuilt : Bool
  embeddingJobsEnqueued : Nat
  targetGeneration : Int
deriving DecidableEq

structure OutboxJobInput where
  kind : Text
  aggregateId : Option Text
  payload : Value
  availableAtMs : Int
  maxAttempts : Nat
  dedupeKey : Option Text
deriving DecidableEq

inductive OutboxStatus where
  | pending
  | processing
  | completed
  | dead
deriving DecidableEq

structure OutboxJob where
  id : Nat
  kind : Text
  aggregateId : Option Text
  payload : Value
  status : OutboxStatus
  attempts : Nat
  maxAttempts : Nat
  availableAtMs : Int
  leaseOwner : Option Text
  leaseExpiresAtMs : Option Int
  lastError : Option Text
  createdAtMs : Int
  updatedAtMs : Int
deriving DecidableEq

inductive ImportConflictPolicy where
  | reject
  | keepExisting
  | replace
deriving DecidableEq

structure ImportReport where
  inserted : Nat
  replaced : Nat
  skipped : Nat
deriving DecidableEq

/-! ## Authority -/

/-- The authority boundary of delivered turns and structured memories. -/
structure AuthorityScope where
  userId : Text
  profileId : Text
  gameId : Text
  characterId : Option Text
  encounterId : Option Text
  sessionId : Option Text
  saveId : Option Text
deriving DecidableEq

/-- Not blank and of bounded length. -/
def validateBounded (name : String) (value : Text) (maximum : Nat) : Except MemoryError Unit :=
  require (!value.isBlank && value.utf8Len ≤ maximum)
    (.invalid (name ++ " must be non-blank and at most " ++ toString maximum ++ " bytes"))

def AuthorityScope.validate (scope : AuthorityScope) : Except MemoryError Unit := do
  validateBounded "user_id" scope.userId 512
  validateBounded "profile_id" scope.profileId 512
  validateBounded "game_id" scope.gameId 512
  scope.characterId.forM (validateBounded "character_id" · 512)
  scope.encounterId.forM (validateBounded "encounter_id" · 512)
  scope.sessionId.forM (validateBounded "session_id" · 512)
  scope.saveId.forM (validateBounded "save_id" · 512)

inductive TurnSpeaker where
  | player
  | npc
deriving DecidableEq

/-- The final state of a turn, as its producer reports it. -/
inductive DeliveryDisposition where
  | queued
  | delivered (deliveredAtMs : Int)
  | partiallyDelivered (deliveredBytes : Nat) (deliveredAtMs : Int)
  | cancelled
  | failed
deriving DecidableEq

/-- The text that was delivered, and when. -/
def DeliveryDisposition.eligibleText (text : Text) :
    DeliveryDisposition → Except MemoryError (Option (Text × Int))
  | .delivered deliveredAtMs => .ok (some (text, deliveredAtMs))
  | .partiallyDelivered deliveredBytes deliveredAtMs =>
    let refused : MemoryError :=
      .invalid "partial delivery must be a non-empty, proper UTF-8 byte prefix"
    if deliveredBytes = 0 ∨ text.utf8Len ≤ deliveredBytes then .error refused
    else match text.splitAtByte deliveredBytes with
      | none => .error refused
      | some (before, _) => .ok (some (before, deliveredAtMs))
  | .queued | .cancelled | .failed => .ok none

structure TurnCommitInput where
  turnId : Text
  scope : AuthorityScope
  speaker : TurnSpeaker
  text : Text
  delivery : DeliveryDisposition
  createdAtMs : Int
  sequence : Nat
  cancellationGeneration : Nat
  providerId : Option Text
  deliveryReceiptId : Option Text
  provenance : Provenance
deriving DecidableEq

def TurnCommitInput.validate (turn : TurnCommitInput) : Except MemoryError Unit := do
  turn.scope.validate
  validateBounded "turn_id" turn.turnId 512
  require (!turn.text.isBlank && turn.text.utf8Len ≤ 1048576)
    (.invalid "turn text must be non-blank and at most 1 MiB")
  turn.providerId.forM (validateBounded "provider_id" · 512)
  turn.deliveryReceiptId.forM (validateBounded "delivery_receipt_id" · 512)
  let eligible ← turn.delivery.eligibleText turn.text
  eligible.forM fun (text, deliveredAtMs) => do
    require (!text.isBlank && turn.createdAtMs ≤ deliveredAtMs)
      (.invalid "delivered text cannot be blank or predate turn creation")
    require (turn.speaker ≠ .npc || turn.deliveryReceiptId.isSome)
      (.invalid "delivered NPC text requires an audio or subtitle delivery receipt")

structure DeliveredTurnRecord where
  turnId : Text
  scope : AuthorityScope
  speaker : TurnSpeaker
  deliveredText : Text
  contentSha256 : Text
  createdAtMs : Int
  deliveredAtMs : Int
  sequence : Nat
  cancellationGeneration : Nat
  providerId : Option Text
  deliveryReceiptId : Option Text
  provenance : Provenance
deriving DecidableEq

inductive KnowledgeClass where
  | worldLore
  | biography
  | characterKnowledge
  | uncertainPublicInfo
  | longTermSummary
deriving DecidableEq

inductive SpoilerScope where
  | none
  | game
  | save
  | characterPrivate
  | userPrivate
deriving DecidableEq

structure GeneratorProvenance where
  providerId : Text
  modelId : Text
  modelRevision : Text
  promptVersion : Text
deriving DecidableEq

structure DerivedMemoryInput where
  id : Option Text
  scope : AuthorityScope
  «class» : KnowledgeClass
  spoilerScope : SpoilerScope
  content : Text
  provenance : Provenance
  confidence : ℚ
  importance : ℚ
  observedAtMs : Int
  expiresAtMs : Option Int
  sourceTurnIds : List Text
  generator : Option GeneratorProvenance
deriving DecidableEq

/-- The loop over the source turns, which remembers the identifiers it has met. -/
def validateSources (met : List Text) : List Text → Except MemoryError Unit
  | [] => .ok ()
  | id :: ids => do
    validateBounded "source turn id" id 512
    require (!met.contains id) (.invalid "derived memory source turn IDs must be unique")
    validateSources (id :: met) ids

def DerivedMemoryInput.validate (memory : DerivedMemoryInput) : Except MemoryError Unit := do
  memory.scope.validate
  memory.id.forM (validateBounded "derived memory id" · 512)
  require (!memory.content.isBlank && memory.content.utf8Len ≤ 1048576)
    (.invalid "derived memory must be non-blank and at most 1 MiB")
  validateUnit "confidence" memory.confidence
  validateUnit "importance" memory.importance
  require (memory.expiresAtMs.all (memory.observedAtMs < ·))
    (.invalid "derived memory expiry must follow observation")
  require (memory.sourceTurnIds.length ≤ 10000)
    (.invalid "derived memory references too many source turns")
  validateSources [] memory.sourceTurnIds
  require (memory.class ≠ .longTermSummary ||
      (!memory.sourceTurnIds.isEmpty && memory.generator.isSome))
    (.invalid "long-term summaries require source turns and generator provenance")
  memory.generator.forM fun generator => do
    validateBounded "generator provider" generator.providerId 512
    validateBounded "generator model" generator.modelId 512
    validateBounded "generator revision" generator.modelRevision 512
    validateBounded "prompt version" generator.promptVersion 512

structure DerivedMemoryRecord where
  id : Text
  scope : AuthorityScope
  «class» : KnowledgeClass
  spoilerScope : SpoilerScope
  content : Text
  contentSha256 : Text
  provenance : Provenance
  confidence : ℚ
  importance : ℚ
  observedAtMs : Int
  createdAtMs : Int
  expiresAtMs : Option Int
  sourceTurnIds : List Text
  generator : Option GeneratorProvenance
deriving DecidableEq

structure MemoryCommitBatch where
  turns : List TurnCommitInput
  derived : List DerivedMemoryInput
deriving DecidableEq

inductive SkippedTurnReason where
  | queued
  | cancelled
  | failed
deriving DecidableEq

structure SkippedTurn where
  turnId : Text
  reason : SkippedTurnReason
deriving DecidableEq

structure MemoryCommitReport where
  storedTurns : List DeliveredTurnRecord
  skippedTurns : List SkippedTurn
  derivedMemories : List DerivedMemoryRecord
deriving DecidableEq

/-! ## Erasure -/

/-- The optional fields of the scope narrow the erasure. -/
structure CharacterMemoryErasureRequest where
  scope : AuthorityScope
  erasedAtMs : Int
deriving DecidableEq

def CharacterMemoryErasureRequest.validate (request : CharacterMemoryErasureRequest) :
    Except MemoryError Unit := do
  request.scope.validate
  require request.scope.characterId.isSome
    (.invalid "character memory erasure requires an exact character ID")
  require (0 ≤ request.erasedAtMs) (.invalid "memory erasure timestamp cannot be negative")

structure CharacterMemoryErasureReport where
  erasureId : Text
  scopeSha256 : Text
  deliveredTurnsDeleted : Nat
  structuredMemoriesDeleted : Nat
  legacyItemsDeleted : Nat
  outboxJobsDeleted : Nat
  erasedAtMs : Int
deriving DecidableEq

structure CharacterMemoryStatusReport where
  deliveredTurns : Nat
  structuredMemories : Nat
  legacyItems : Nat
deriving DecidableEq

/-! ## Context -/

structure SpoilerPolicy where
  allowGame : Bool
  allowSave : Bool
  allowCharacterPrivate : Bool
  allowUserPrivate : Bool
deriving DecidableEq

def SpoilerPolicy.allows (policy : SpoilerPolicy) : SpoilerScope → Bool
  | .none => true
  | .game => policy.allowGame
  | .save => policy.allowSave
  | .characterPrivate => policy.allowCharacterPrivate
  | .userPrivate => policy.allowUserPrivate

structure ContextQuery where
  scope : AuthorityScope
  text : Option Text
  spoilerPolicy : SpoilerPolicy
  recentTurnLimit : Nat
  perClassLimit : Nat
  nowMs : Int
deriving DecidableEq

def ContextQuery.validate (query : ContextQuery) : Except MemoryError Unit := do
  query.scope.validate
  require (query.recentTurnLimit ≤ 1000 && query.perClassLimit ≤ 1000)
    (.invalid "context limits must be at most 1000")
  require (query.text.all (·.utf8Len ≤ 65536)) (.invalid "context query text is too large")

structure MemoryContextBundle where
  worldLore : List DerivedMemoryRecord
  biography : List DerivedMemoryRecord
  characterKnowledge : List DerivedMemoryRecord
  uncertainPublicInfo : List DerivedMemoryRecord
  recentDialogue : List DeliveredTurnRecord
  longTermSummaries : List DerivedMemoryRecord
deriving DecidableEq

/-! ## What comes from other crates -/

structure FtsEntry where
  rowid : Nat
  content : Text
  provenanceJson : Text
deriving DecidableEq

/-- `serde_json` at the types the store encodes, the hexadecimal SHA-256 digest of a text, SQLite's
`json_valid`, and which removals FTS5 refuses from an index that does not list what it should. -/
structure Codec where
  writeProvenance : Provenance → Text
  readProvenance : Text → Option Provenance
  writeGenerator : GeneratorProvenance → Text
  readGenerator : Text → Option GeneratorProvenance
  writePayload : Value → Text
  readPayload : Text → Option Value
  writeScope : AuthorityScope → Text
  jsonValid : Text → Bool
  sha256 : Text → Text
  ftsRefuses : ContentIndex FtsEntry → FtsEntry → Bool

/-! ### A codec that reads given values -/

def optionalText : Option Text → Value
  | none => .null
  | some t => .string t

def integer (n : Int) : Value := .number (if 0 ≤ n then .posInt n.toNat else .negInt n.natAbs)

def Provenance.json (provenance : Provenance) : Value :=
  .object [("source_kind".toList, .string provenance.sourceKind),
    ("source_id".toList, optionalText provenance.sourceId),
    ("source_uri".toList, optionalText provenance.sourceUri),
    ("author".toList, optionalText provenance.author),
    ("captured_at_ms".toList, (provenance.capturedAtMs.map integer).getD .null),
    ("attributes".toList, .object provenance.attributes)]

def GeneratorProvenance.json (generator : GeneratorProvenance) : Value :=
  .object [("provider_id".toList, .string generator.providerId),
    ("model_id".toList, .string generator.modelId),
    ("model_revision".toList, .string generator.modelRevision),
    ("prompt_version".toList, .string generator.promptVersion)]

def AuthorityScope.json (scope : AuthorityScope) : Value :=
  .object [("user_id".toList, .string scope.userId),
    ("profile_id".toList, .string scope.profileId),
    ("game_id".toList, .string scope.gameId),
    ("character_id".toList, optionalText scope.characterId),
    ("encounter_id".toList, optionalText scope.encounterId),
    ("session_id".toList, optionalText scope.sessionId),
    ("save_id".toList, optionalText scope.saveId)]

/-- JSON as `serde_json` writes it, read back where it is the text of one of the given values, and
the given digests. FTS5 counts the rows of its index, and takes no removal where it counts none. -/
def Codec.known (float : ℚ → Text) (provenances : List Provenance) (payloads : List Value)
    (digests : List (Text × Text)) : Codec where
  writeProvenance provenance := provenance.json.text float
  readProvenance t := provenances.find? fun provenance => provenance.json.text float = t
  writeGenerator generator := generator.json.text float
  readGenerator _ := none
  writePayload payload := payload.text float
  readPayload t := payloads.find? fun payload => payload.text float = t
  writeScope scope := scope.json.text float
  jsonValid _ := true
  sha256 t := ((digests.find? fun digest => digest.1 = t).map Prod.snd).getD []
  ftsRefuses index _ := index.entries.length ≤ index.unmatched.length

/-! ## SQLite's text functions -/

/-- `trim(x)`: spaces only. -/
def sqlTrim (t : Text) : Text := (t.dropWhile (· = ' ')).rdropWhile (· = ' ')

/-- `length(x)`: the characters before the first NUL. -/
def sqlLength (t : Text) : Nat := (t.takeWhile fun c => c.toNat ≠ 0).length

/-- `CHECK(length(trim(x)) > 0 AND length(x) <= maximum)`. -/
def sqlBounded (maximum : Nat) (t : Text) : Bool :=
  0 < sqlLength (sqlTrim t) && sqlLength t ≤ maximum

end NpcRuntime.Memory
