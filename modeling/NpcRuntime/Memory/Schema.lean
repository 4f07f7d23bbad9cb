import NpcRuntime.Lib.ContentIndex
import NpcRuntime.Memory.Outbox

/-!
# The tables and their triggers

`memory/src/schema.rs`: the tables of the memory database with their keys, checks, foreign keys and
triggers, and the statements that change them.

The statements on memory items drive the full-text index through its triggers. Deleting turns,
structured memories and their source links is refused unless an erasure has authorized it.
-/

namespace NpcRuntime.Memory

open Text Json

/-! ## Memory items, their full-text index and their embeddings -/

structure MemoryItem where
  rowid : Nat
  id : Text
  «namespace» : MemoryNamespace
  scope : MemoryScope
  visibility : Visibility
  content : Text
  contentSha256 : Text
  provenanceJson : Text
  confidence : ℚ
  importance : ℚ
  observedAtMs : Int
  createdAtMs : Int
  updatedAtMs : Int
  expiresAtMs : Option Int
  embeddingGeneration : Option Int
  revision : Int
  deletedAtMs : Option Int
deriving DecidableEq

namespace MemoryItem

def live (item : MemoryItem) : Bool := item.deletedAtMs.isNone

/-- `expires_at_ms IS NULL OR expires_at_ms > now`. -/
def unexpired (nowMs : Int) (item : MemoryItem) : Bool := item.expiresAtMs.all (nowMs < ·)

/-- The checks of the table. -/
def check (codec : Codec) (item : MemoryItem) : Bool :=
  sqlBounded 1048576 item.content && item.contentSha256.length = 64 &&
    codec.jsonValid item.provenanceJson && 0 ≤ item.confidence && item.confidence ≤ 1 &&
    0 ≤ item.importance && item.importance ≤ 1 && item.expiresAtMs.all (item.observedAtMs < ·) &&
    item.embeddingGeneration.all (0 ≤ ·) && 0 < item.revision

/-- The columns of `idx_memory_fact_identity`, for the rows it covers. Nulls are distinct. -/
def factIdentity (item : MemoryItem) : Option (MemoryNamespace × Text × Text × Text × Text) :=
  if item.live ∧ item.namespace ∈ [.fact, .relationship, .lore, .profile] then
    match item.scope.profileId, item.scope.gameId, item.scope.characterId with
    | some profileId, some gameId, some characterId =>
      some (item.namespace, profileId, gameId, characterId, item.contentSha256)
    | _, _, _ => none
  else none

end MemoryItem

def MemoryItem.ftsEntry (item : MemoryItem) : FtsEntry :=
  ⟨item.rowid, item.content, item.provenanceJson⟩

structure Embedding where
  itemId : Text
  generation : Int
  modelId : Text
  values : List F32
  createdAtMs : Int
deriving DecidableEq

def Embedding.key (embedding : Embedding) : Text × Int := (embedding.itemId, embedding.generation)

structure ItemTables where
  items : Rows MemoryItem.id
  fts : ContentIndex FtsEntry
  embeddings : Rows Embedding.key
deriving DecidableEq

namespace ItemTables

def empty : ItemTables := ⟨.empty _, .empty, .empty _⟩

/-- The next `rowid`. -/
def nextRowid (t : ItemTables) : Nat := (t.items.rows.map MemoryItem.rowid).foldr max 0 + 1

/-- Another row has the fact identity of this one. -/
def factTaken (t : ItemTables) (item : MemoryItem) : Bool :=
  item.factIdentity.isSome &&
    t.items.rows.any fun other => other.id ≠ item.id ∧ other.factIdentity = item.factIdentity

/-- `INSERT INTO memory_items`, where no row has the identifier. -/
def insertItem (t : ItemTables) (item : MemoryItem) (h : t.items.find? item.id = none) :
    ItemTables :=
  { t with
    items := t.items.insert item h
    fts := t.fts.inserted MemoryItem.live MemoryItem.ftsEntry item }

/-- `UPDATE memory_items SET f WHERE p`. -/
def updateItems (t : ItemTables) (p : MemoryItem → Bool) (f : MemoryItem → MemoryItem)
    (hf : ∀ item, (f item).id = item.id) : ItemTables :=
  { t with
    items := t.items.update (fun item => if p item then f item else item) (by
      intro item
      split
      · exact hf item
      · rfl)
    fts := t.fts.updatedWhere MemoryItem.live MemoryItem.ftsEntry p f t.items.rows }

theorem find?_updateItems (t : ItemTables) (p : MemoryItem → Bool) (f : MemoryItem → MemoryItem)
    (hf : ∀ item, (f item).id = item.id) (id : Text) :
    (t.updateItems p f hf).items.find? id =
      (t.items.find? id).map fun item => if p item then f item else item := by
  unfold updateItems
  rw [Rows.find?_update]

/-- Whether the index takes the removals that `DELETE FROM memory_items WHERE p` issues. -/
def deletable (codec : Codec) (t : ItemTables) (p : MemoryItem → Bool) : Bool :=
  t.fts.takes codec.ftsRefuses ((t.items.rows.filter p).map MemoryItem.ftsEntry)

/-- The tables without the rows that satisfy `p`; the embeddings of the rows go with them. -/
def deleteItems (t : ItemTables) (p : MemoryItem → Bool) : ItemTables where
  items := t.items.delete p
  fts := t.fts.deletedWhere MemoryItem.ftsEntry p t.items.rows
  embeddings := t.embeddings.delete fun embedding =>
    (t.items.find? embedding.itemId).any p

/-- `INSERT INTO memory_fts(memory_fts) VALUES('rebuild')`. -/
def rebuildFts (t : ItemTables) : ItemTables :=
  { t with fts := .rebuild (t.items.rows.map MemoryItem.ftsEntry) }

/-- `DELETE FROM memory_embeddings WHERE item_id = …`. -/
def deleteEmbeddings (t : ItemTables) (itemId : Text) : ItemTables :=
  { t with embeddings := t.embeddings.delete fun embedding => embedding.itemId = itemId }

end ItemTables

/-! ## Delivered turns, structured memories and their sources -/

structure DeliveredTurn where
  turnId : Text
  scope : AuthorityScope
  speaker : TurnSpeaker
  deliveredText : Text
  contentSha256 : Text
  createdAtMs : Int
  deliveredAtMs : Int
  sequenceNo : Nat
  cancellationGeneration : Nat
  providerId : Option Text
  deliveryReceiptId : Option Text
  provenanceJson : Text
deriving DecidableEq

structure StructuredMemory where
  id : Text
  scope : AuthorityScope
  knowledgeClass : KnowledgeClass
  spoilerScope : SpoilerScope
  content : Text
  contentSha256 : Text
  provenanceJson : Text
  confidence : ℚ
  importance : ℚ
  observedAtMs : Int
  createdAtMs : Int
  expiresAtMs : Option Int
  generatorJson : Option Text
deriving DecidableEq

structure SourceLink where
  memoryId : Text
  turnId : Text
  sourceOrdinal : Nat
deriving DecidableEq

def SourceLink.key (link : SourceLink) : Text × Text := (link.memoryId, link.turnId)

/-- The checks of both tables on the columns of the scope. -/
def AuthorityScope.check (scope : AuthorityScope) : Bool :=
  sqlBounded 512 scope.userId && sqlBounded 512 scope.profileId && sqlBounded 512 scope.gameId &&
    scope.characterId.all (sqlBounded 512) && scope.encounterId.all (sqlBounded 512) &&
    scope.sessionId.all (sqlBounded 512) && scope.saveId.all (sqlBounded 512)

def DeliveredTurn.check (codec : Codec) (turn : DeliveredTurn) : Bool :=
  sqlBounded 512 turn.turnId && turn.scope.check && sqlBounded 1048576 turn.deliveredText &&
    turn.contentSha256.length = 64 && turn.createdAtMs ≤ turn.deliveredAtMs &&
    turn.providerId.all (sqlBounded 512) && turn.deliveryReceiptId.all (sqlBounded 512) &&
    codec.jsonValid turn.provenanceJson

def StructuredMemory.check (codec : Codec) (memory : StructuredMemory) : Bool :=
  sqlBounded 512 memory.id && memory.scope.check && sqlBounded 1048576 memory.content &&
    memory.contentSha256.length = 64 && codec.jsonValid memory.provenanceJson &&
    0 ≤ memory.confidence && memory.confidence ≤ 1 && 0 ≤ memory.importance &&
    memory.importance ≤ 1 && memory.expiresAtMs.all (memory.observedAtMs < ·) &&
    memory.generatorJson.all codec.jsonValid &&
    (memory.knowledgeClass ≠ .longTermSummary || memory.generatorJson.isSome)

structure AuthorityTables where
  turns : Rows DeliveredTurn.turnId
  memories : Rows StructuredMemory.id
  sources : Rows SourceLink.key
deriving DecidableEq

namespace AuthorityTables

def empty : AuthorityTables := ⟨.empty _, .empty _, .empty _⟩

end AuthorityTables

def constraint {σ α : Type} (name : String) (x : Option α) : Transaction σ MemoryError α :=
  .lift (okOr x (.database (.constraint name)))

/-- `DELETE FROM memory_items WHERE p`, under the trigger `memory_fts_delete`. -/
def deleteItems (codec : Codec) (p : MemoryItem → Bool) : Transaction ItemTables MemoryError Unit :=
  .reading fun t => do
    .guard (t.deletable codec p) (.database .corruptIndex)
    .write fun _ => t.deleteItems p

/-- `INSERT INTO delivered_turns`. -/
def insertTurn (codec : Codec) (turn : DeliveredTurn) :
    Transaction AuthorityTables MemoryError Unit :=
  .reading fun t => do
    .guard (turn.check codec) (.database (.constraint "delivered_turns"))
    let turns ← constraint "delivered_turns.turn_id" (t.turns.insert? turn)
    .write fun _ => { t with turns }

/-- `INSERT INTO structured_memories`. -/
def insertMemory (codec : Codec) (memory : StructuredMemory) :
    Transaction AuthorityTables MemoryError Unit :=
  .reading fun t => do
    .guard (memory.check codec) (.database (.constraint "structured_memories"))
    let memories ← constraint "structured_memories.id" (t.memories.insert? memory)
    .write fun _ => { t with memories }

/-- `INSERT INTO structured_memory_sources`: both ends have to be there, and the ordinal of a memory
is its own. -/
def insertSource (link : SourceLink) : Transaction AuthorityTables MemoryError Unit :=
  .reading fun t => do
    .guard ((t.memories.find? link.memoryId).isSome && (t.turns.find? link.turnId).isSome)
      (.database (.constraint "FOREIGN KEY"))
    .guard (!t.sources.rows.any fun other =>
        other.memoryId = link.memoryId ∧ other.sourceOrdinal = link.sourceOrdinal)
      (.database (.constraint "structured_memory_sources.source_ordinal"))
    let sources ← constraint "structured_memory_sources" (t.sources.insert? link)
    .write fun _ => { t with sources }

/-- `DELETE FROM structured_memory_sources WHERE p`, under the trigger
`structured_sources_immutable_delete`. -/
def deleteSources (authorized : Bool) (p : SourceLink → Bool) :
    Transaction AuthorityTables MemoryError Unit :=
  .reading fun t => do
    .guard (authorized || !t.sources.rows.any p) (.database (.constraint
      "structured provenance is immutable outside explicit native erasure"))
    .write fun _ => { t with sources := t.sources.delete p }

/-- `DELETE FROM structured_memories WHERE p`, under the trigger
`structured_memories_immutable_delete` and the foreign key of the sources. -/
def deleteMemories (authorized : Bool) (p : StructuredMemory → Bool) :
    Transaction AuthorityTables MemoryError Unit :=
  .reading fun t => do
    .guard (authorized || !t.memories.rows.any p) (.database (.constraint
      "structured memories are immutable outside explicit native erasure"))
    .guard (!t.sources.rows.any fun link => (t.memories.find? link.memoryId).any p)
      (.database (.constraint "FOREIGN KEY"))
    .write fun _ => { t with memories := t.memories.delete p }

/-- `DELETE FROM delivered_turns WHERE p`, under the trigger `delivered_turns_immutable_delete` and
the foreign key of the sources. -/
def deleteTurns (authorized : Bool) (p : DeliveredTurn → Bool) :
    Transaction AuthorityTables MemoryError Unit :=
  .reading fun t => do
    .guard (authorized || !t.turns.rows.any p) (.database (.constraint
      "delivered turns are append-only outside explicit native erasure"))
    .guard (!t.sources.rows.any fun link => (t.turns.find? link.turnId).any p)
      (.database (.constraint "FOREIGN KEY"))
    .write fun _ => { t with turns := t.turns.delete p }

/-! ## The database -/

structure ErasureAudit where
  erasureId : Text
  scopeSha256 : Text
  deliveredTurnsDeleted : Nat
  structuredMemoriesDeleted : Nat
  legacyItemsDeleted : Nat
  outboxJobsDeleted : Nat
  erasedAtMs : Int
deriving DecidableEq

def ErasureAudit.check (audit : ErasureAudit) : Bool :=
  audit.erasureId.length = 36 && audit.scopeSha256.length = 64 && 0 ≤ audit.erasedAtMs

structure Database where
  items : ItemTables
  outbox : Outbox
  authority : AuthorityTables
  audit : Rows ErasureAudit.erasureId
deriving DecidableEq

def Database.empty : Database := ⟨.empty, .empty _, .empty, .empty _⟩

abbrev Tx (α : Type) := Transaction Database MemoryError α

/-- A statement on the memory items. -/
def onItems {α : Type} (t : Transaction ItemTables MemoryError α) : Tx α :=
  t.zoom Database.items fun db items => { db with items }

/-- A statement on the outbox. -/
def onOutbox {α : Type} (t : Transaction Outbox MemoryError α) : Tx α :=
  t.zoom Database.outbox fun db outbox => { db with outbox }

/-- A statement on the authoritative tables. -/
def onAuthority {α : Type} (t : Transaction AuthorityTables MemoryError α) : Tx α :=
  t.zoom Database.authority fun db authority => { db with authority }

/-- `INSERT INTO memory_erasure_audit`. -/
def insertAudit (audit : ErasureAudit) : Tx Unit :=
  .reading fun db => do
    .guard audit.check (.database (.constraint "memory_erasure_audit"))
    let rows ← constraint "memory_erasure_audit.erasure_id" (db.audit.insert? audit)
    .write fun _ => { db with audit := rows }

end NpcRuntime.Memory
