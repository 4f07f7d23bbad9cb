import NpcRuntime.Lib.Decimal
import NpcRuntime.Memory.Schema
import Mathlib.Data.Char
import Mathlib.Data.List.Lex

/-!
# Memory items

The functions of `memory/src/store.rs` that work `memory_items`: upserting and importing records,
soft deletion and expiry, storing embeddings, and reindexing. An upsert and a reindex ask for
embeddings through the outbox.

The identifier of a record without one and the clock are arguments.
-/

namespace NpcRuntime.Memory

open Text Json

/-! ## Reading -/

/-- `record_from_row`. -/
def MemoryItem.record (codec : Codec) (item : MemoryItem) : Except MemoryError MemoryRecord := do
  let provenance ← okOr (codec.readProvenance item.provenanceJson) (.database .conversion)
  return {
    id := item.id
    «namespace» := item.namespace
    scope := item.scope
    visibility := item.visibility
    content := item.content
    contentSha256 := item.contentSha256
    provenance
    confidence := item.confidence
    importance := item.importance
    observedAtMs := item.observedAtMs
    createdAtMs := item.createdAtMs
    updatedAtMs := item.updatedAtMs
    expiresAtMs := item.expiresAtMs
    embeddingGeneration := item.embeddingGeneration
    revision := item.revision }

/-- `load_record`: the live row of an identifier. -/
def loadRecord (codec : Codec) (t : ItemTables) (id : Text) :
    Except MemoryError (Option MemoryRecord) :=
  match (t.items.find? id).filter MemoryItem.live with
  | none => .ok none
  | some item => (item.record codec).map some

/-! ## Upserting -/

/-- The row of a new record. -/
def MemoryInput.item (codec : Codec) (input : MemoryInput) (id : Text) (nowMs : Int)
    (rowid : Nat) : MemoryItem where
  rowid := rowid
  id := id
  «namespace» := input.namespace
  scope := input.scope
  visibility := input.visibility
  content := input.content.trim
  contentSha256 := codec.sha256 input.content.trim
  provenanceJson := codec.writeProvenance input.provenance
  confidence := input.confidence
  importance := input.importance
  observedAtMs := input.observedAtMs
  createdAtMs := nowMs
  updatedAtMs := nowMs
  expiresAtMs := input.expiresAtMs
  embeddingGeneration := none
  revision := 1
  deletedAtMs := none

/-- `ON CONFLICT(id) DO UPDATE SET …`. -/
def MemoryItem.replacedBy (old new : MemoryItem) : MemoryItem :=
  { new with
    rowid := old.rowid
    id := old.id
    createdAtMs := old.createdAtMs
    embeddingGeneration :=
      if old.contentSha256 = new.contentSha256 then old.embeddingGeneration else none
    revision := old.revision + 1 }

theorem MemoryItem.replacedBy_id (old new : MemoryItem) : (old.replacedBy new).id = old.id := rfl

/-- The row an upsert leaves. -/
def upsertedItem (codec : Codec) (t : ItemTables) (input : MemoryInput) (id : Text)
    (nowMs : Int) : MemoryItem :=
  match t.items.find? id with
  | none => input.item codec id nowMs t.nextRowid
  | some old => old.replacedBy (input.item codec id nowMs old.rowid)

theorem upsertedItem_id (codec : Codec) (t : ItemTables) (input : MemoryInput) (id : Text)
    (nowMs : Int) : (upsertedItem codec t input id nowMs).id = id := by
  unfold upsertedItem
  split
  · rfl
  · next old hold => exact (Rows.find?_eq_some.1 hold).2

/-- `INSERT INTO memory_items … ON CONFLICT(id) DO UPDATE`. -/
def upsertStatement (codec : Codec) (t : ItemTables) (input : MemoryInput) (id : Text)
    (nowMs : Int) : ItemTables :=
  if h : t.items.find? (upsertedItem codec t input id nowMs).id = none then
    t.insertItem (upsertedItem codec t input id nowMs) h
  else
    t.updateItems (fun item => item.id = id)
      (fun old => old.replacedBy (input.item codec id nowMs old.rowid)) fun old =>
        old.replacedBy_id _

/-- The item's content is not the one that was stored before. -/
def contentChanged (codec : Codec) (t : ItemTables) (input : MemoryInput) (id : Text) : Bool :=
  (t.items.find? id).all fun old => old.contentSha256 ≠ codec.sha256 input.content.trim

/-- The part of `upsert_in_transaction` that works the items. -/
def upsertItem (codec : Codec) (input : MemoryInput) (newId : Text) (nowMs : Int) :
    Transaction ItemTables MemoryError MemoryRecord :=
  .reading fun t => do
    let id := input.id.getD newId
    .guard (!id.isBlank && id.utf8Len ≤ 512)
      (.invalid "record ID must be non-empty and at most 512 bytes")
    let actual := ((t.items.find? id).map MemoryItem.revision).getD 0
    .guard (input.expectedRevision.all (actual = ·))
      (.revisionConflict id (input.expectedRevision.getD 0) actual)
    .guard ((upsertedItem codec t input id nowMs).check codec)
      (.database (.constraint "memory_items"))
    .guard (!t.factTaken (upsertedItem codec t input id nowMs))
      (.database (.constraint "idx_memory_fact_identity"))
    .write fun _ => upsertStatement codec t input id nowMs
    .write fun t' => if contentChanged codec t input id then t'.deleteEmbeddings id else t'
    .reading fun t' => .lift do
      let record ← loadRecord codec t' id
      okOr record (.notFound id)

/-- The payload of the embedding job of an upsert. -/
def upsertPayload (record : MemoryRecord) : Value :=
  .object [("content_sha256".toList, .string record.contentSha256),
    ("item_id".toList, .string record.id),
    ("revision".toList, integer record.revision)]

/-- `embedding:{id}:{revision}`. -/
def upsertKey (id : Text) (revision : Int) : Text :=
  "embedding:".toList ++ id ++ ':' :: showInt revision

def embeddingKind : Text := "memory.embedding.requested".toList

def upsertJob (record : MemoryRecord) (nowMs : Int) : OutboxJobInput where
  kind := embeddingKind
  aggregateId := some record.id
  payload := upsertPayload record
  availableAtMs := nowMs
  maxAttempts := 5
  dedupeKey := some (upsertKey record.id record.revision)

def upsertInTransaction (codec : Codec) (input : MemoryInput) (newId : Text) (nowMs : Int) :
    Tx MemoryRecord := do
  let record ← onItems (upsertItem codec input newId nowMs)
  let _ ← onOutbox (enqueueJobTx codec (upsertJob record nowMs) nowMs)
  return record

def upsertRecord (codec : Codec) (input : MemoryInput) (newId : Text) (nowMs : Int) :
    Tx MemoryRecord := do
  .lift input.validate
  upsertInTransaction codec input newId nowMs

/-! ## Importing -/

/-- The loop of `import_records`. -/
def importRecords (codec : Codec) (policy : ImportConflictPolicy) (nowMs : Int)
    (report : ImportReport) : List MemoryInput → Tx ImportReport
  | [] => pure report
  | input :: records => .reading fun db =>
    let id := input.id.getD []
    match db.items.items.find? id, policy with
    | some _, .reject =>
      .lift (.error (.invalidData ("import conflicts with existing record ".toList ++ id)))
    | some _, .keepExisting =>
      importRecords codec policy nowMs { report with skipped := report.skipped + 1 } records
    | some _, .replace => do
      let _ ← upsertInTransaction codec { input with expectedRevision := none } [] nowMs
      importRecords codec policy nowMs { report with replaced := report.replaced + 1 } records
    | none, _ => do
      let _ ← upsertInTransaction codec { input with expectedRevision := some 0 } [] nowMs
      importRecords codec policy nowMs { report with inserted := report.inserted + 1 } records

/-- `MemoryStore::import`. -/
def importAll (codec : Codec) (records : List MemoryInput) (policy : ImportConflictPolicy)
    (nowMs : Int) : Tx ImportReport := do
  .lift (records.forM fun record => do
    record.validate
    require (!(record.id.getD []).isEmpty)
      (.invalid "imports require a stable non-empty record ID"))
  importRecords codec policy nowMs ⟨0, 0, 0⟩ records

/-! ## Deletion and expiry -/

def MemoryItem.softDeleted (nowMs : Int) (item : MemoryItem) : MemoryItem :=
  { item with
    deletedAtMs := some nowMs
    updatedAtMs := nowMs
    revision := item.revision + 1 }

theorem MemoryItem.softDeleted_id (nowMs : Int) (item : MemoryItem) :
    (item.softDeleted nowMs).id = item.id := rfl

def softDelete (id : Text) (deletedAtMs : Int) : Transaction ItemTables MemoryError Bool :=
  .reading fun t => do
    let doomed := fun item : MemoryItem => decide (item.id = id) && item.live
    .write fun _ => t.updateItems doomed (MemoryItem.softDeleted deletedAtMs)
      (MemoryItem.softDeleted_id deletedAtMs)
    return t.items.rows.any doomed

def purgeExpired (nowMs : Int) : Transaction ItemTables MemoryError Nat :=
  .reading fun t => do
    let doomed := fun item : MemoryItem => item.live && !item.unexpired nowMs
    .write fun _ => t.updateItems doomed (MemoryItem.softDeleted nowMs)
      (MemoryItem.softDeleted_id nowMs)
    return t.items.rows.countP doomed

/-! ## Embeddings -/

/-- `INSERT INTO memory_embeddings … ON CONFLICT(item_id, generation) DO UPDATE`. -/
def upsertEmbedding (embedding : Embedding) (t : ItemTables) : ItemTables :=
  { t with
    embeddings :=
      if h : t.embeddings.find? embedding.key = none then t.embeddings.insert embedding h
      else t.embeddings.update (fun old => if old.key = embedding.key then embedding else old) (by
        intro old
        split
        · next heq => exact heq.symm
        · rfl) }

def MemoryItem.embedded (generation : Int) (item : MemoryItem) : MemoryItem :=
  { item with embeddingGeneration := some generation }

theorem MemoryItem.embedded_id (generation : Int) (item : MemoryItem) :
    (item.embedded generation).id = item.id := rfl

def putEmbedding (embedding : EmbeddingInput) (nowMs : Int) :
    Transaction ItemTables MemoryError Unit := do
  .lift embedding.validate
  .reading fun t => do
    .guard (0 < sqlLength (sqlTrim embedding.modelId))
      (.database (.constraint "memory_embeddings"))
    .guard (t.items.find? embedding.itemId).isSome (.notFound embedding.itemId)
    .write fun t => upsertEmbedding
      ⟨embedding.itemId, embedding.generation, embedding.modelId, embedding.values, nowMs⟩ t
    .write fun t => t.updateItems (fun item => decide (item.id = embedding.itemId) && item.live)
      (MemoryItem.embedded embedding.generation) (MemoryItem.embedded_id embedding.generation)

/-! ## Reindexing -/

/-- `embedding:{id}:{revision}:{generation}`. -/
def reindexKey (id : Text) (revision generation : Int) : Text :=
  "embedding:".toList ++ id ++ ':' :: (showInt revision ++ ':' :: showInt generation)

def reindexPayload (request : ReindexRequest) (item : MemoryItem) : Value :=
  .object [("batch_size".toList, .number (.posInt request.batchSize)),
    ("content_sha256".toList, .string item.contentSha256),
    ("generation".toList, integer request.targetGeneration),
    ("item_id".toList, .string item.id),
    ("model_id".toList, .string request.modelId),
    ("revision".toList, integer item.revision)]

def reindexJob (request : ReindexRequest) (item : MemoryItem) (nowMs : Int) : OutboxJobInput where
  kind := embeddingKind
  aggregateId := some item.id
  payload := reindexPayload request item
  availableAtMs := nowMs
  maxAttempts := 5
  dedupeKey := some (reindexKey item.id item.revision request.targetGeneration)

/-- The rows a reindex asks an embedding for. -/
def MemoryItem.stale (nowMs generation : Int) (item : MemoryItem) : Bool :=
  item.live && item.unexpired nowMs && item.embeddingGeneration ≠ some generation

def staleItems (t : ItemTables) (nowMs generation : Int) : List MemoryItem :=
  (t.items.rows.filter (MemoryItem.stale nowMs generation)).insertionSort fun left right =>
    left.id ≤ right.id

def reindex (codec : Codec) (request : ReindexRequest) (nowMs : Int) : Tx ReindexReport := do
  onItems (.write ItemTables.rebuildFts)
  .reading fun db => do
    let stale := staleItems db.items nowMs request.targetGeneration
    onOutbox (stale.forM fun item => do
      let _ ← enqueueJobTx codec (reindexJob request item nowMs) nowMs
      return ⟨⟩)
    return ⟨true, stale.length, request.targetGeneration⟩

/-- `MemoryStore::reindex`. -/
def reindexAll (codec : Codec) (request : ReindexRequest) (nowMs : Int) : Tx ReindexReport := do
  .lift (require (0 ≤ request.targetGeneration && !request.modelId.isBlank &&
    request.batchSize ≠ 0 && request.batchSize ≤ 10000)
    (.invalid "invalid reindex generation, model, or batch size"))
  reindex codec request nowMs

end NpcRuntime.Memory
