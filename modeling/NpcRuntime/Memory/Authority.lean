import NpcRuntime.Memory.Schema
import Mathlib.Data.List.Sort

/-!
# Authoritative commits

`commit_authoritative_batch` of `memory/src/store.rs` and what it calls: delivered turns are stored
first, then the structured memories that cite them. A row that is already there is compared with the
one to be stored; nothing is overwritten.

The identifiers of memories without one and the clock come with the call, one for each memory of the
batch (`Stamp`).
-/

namespace NpcRuntime.Memory

open Text Json

def checkedSqlInteger (name : String) (value : Nat) : Except MemoryError Unit :=
  require (value < 2 ^ 63) (.invalid (name ++ " exceeds SQLite's signed integer range"))

/-! ## Reading -/

/-- `delivered_turn_from_row`. -/
def DeliveredTurn.record (codec : Codec) (turn : DeliveredTurn) :
    Except MemoryError DeliveredTurnRecord := do
  let provenance ← okOr (codec.readProvenance turn.provenanceJson) (.database .conversion)
  return {
    turnId := turn.turnId
    scope := turn.scope
    speaker := turn.speaker
    deliveredText := turn.deliveredText
    contentSha256 := turn.contentSha256
    createdAtMs := turn.createdAtMs
    deliveredAtMs := turn.deliveredAtMs
    sequence := turn.sequenceNo
    cancellationGeneration := turn.cancellationGeneration
    providerId := turn.providerId
    deliveryReceiptId := turn.deliveryReceiptId
    provenance }

def loadDeliveredTurn (codec : Codec) (t : AuthorityTables) (turnId : Text) :
    Except MemoryError (Option DeliveredTurnRecord) :=
  match t.turns.find? turnId with
  | none => .ok none
  | some turn => (turn.record codec).map some

def readGeneratorJson (codec : Codec) :
    Option Text → Except MemoryError (Option GeneratorProvenance)
  | none => .ok none
  | some json => (okOr (codec.readGenerator json) (.database .conversion)).map some

/-- `derived_memory_from_row`, with the sources that are read after it. -/
def StructuredMemory.record (codec : Codec) (memory : StructuredMemory)
    (sourceTurnIds : List Text) : Except MemoryError DerivedMemoryRecord := do
  let provenance ← okOr (codec.readProvenance memory.provenanceJson) (.database .conversion)
  let generator ← readGeneratorJson codec memory.generatorJson
  return {
    id := memory.id
    scope := memory.scope
    «class» := memory.knowledgeClass
    spoilerScope := memory.spoilerScope
    content := memory.content
    contentSha256 := memory.contentSha256
    provenance
    confidence := memory.confidence
    importance := memory.importance
    observedAtMs := memory.observedAtMs
    createdAtMs := memory.createdAtMs
    expiresAtMs := memory.expiresAtMs
    sourceTurnIds
    generator }

/-- `SELECT turn_id … WHERE memory_id = … ORDER BY source_ordinal`. -/
def AuthorityTables.sourceTurnIds (t : AuthorityTables) (memoryId : Text) : List Text :=
  ((t.sources.rows.filter fun link => link.memoryId = memoryId).insertionSort fun left right =>
    left.sourceOrdinal ≤ right.sourceOrdinal).map SourceLink.turnId

def loadDerivedMemory (codec : Codec) (t : AuthorityTables) (id : Text) :
    Except MemoryError (Option DerivedMemoryRecord) :=
  match t.memories.find? id with
  | none => .ok none
  | some memory => (memory.record codec (t.sourceTurnIds id)).map some

/-! ## Delivered turns -/

/-- The record a turn has to agree with. -/
def TurnCommitInput.record (codec : Codec) (turn : TurnCommitInput) (deliveredText : Text)
    (deliveredAtMs : Int) : DeliveredTurnRecord where
  turnId := turn.turnId
  scope := turn.scope
  speaker := turn.speaker
  deliveredText := deliveredText
  contentSha256 := codec.sha256 deliveredText
  createdAtMs := turn.createdAtMs
  deliveredAtMs := deliveredAtMs
  sequence := turn.sequence
  cancellationGeneration := turn.cancellationGeneration
  providerId := turn.providerId
  deliveryReceiptId := turn.deliveryReceiptId
  provenance := turn.provenance

def TurnCommitInput.row (codec : Codec) (turn : TurnCommitInput) (deliveredText : Text)
    (deliveredAtMs : Int) : DeliveredTurn where
  turnId := turn.turnId
  scope := turn.scope
  speaker := turn.speaker
  deliveredText := deliveredText
  contentSha256 := codec.sha256 deliveredText
  createdAtMs := turn.createdAtMs
  deliveredAtMs := deliveredAtMs
  sequenceNo := turn.sequence
  cancellationGeneration := turn.cancellationGeneration
  providerId := turn.providerId
  deliveryReceiptId := turn.deliveryReceiptId
  provenanceJson := codec.writeProvenance turn.provenance

def storeTurn (codec : Codec) (turn : TurnCommitInput) (deliveredText : Text)
    (deliveredAtMs : Int) : Transaction AuthorityTables MemoryError DeliveredTurnRecord :=
  .reading fun t => do
    let expected := turn.record codec deliveredText deliveredAtMs
    let stored ← .lift (loadDeliveredTurn codec t turn.turnId)
    match stored with
    | some existing =>
      .guard (existing = expected) (.invalidData ("delivered turn ".toList ++ turn.turnId ++
        " is immutable and conflicts with the existing source row".toList))
      return existing
    | none =>
      .lift (checkedSqlInteger "turn sequence" turn.sequence)
      .lift (checkedSqlInteger "cancellation generation" turn.cancellationGeneration)
      insertTurn codec (turn.row codec deliveredText deliveredAtMs)
      return expected

/-- Why a turn is skipped. Turns in the other two states are eligible or refused. -/
def DeliveryDisposition.skippedReason : DeliveryDisposition → SkippedTurnReason
  | .queued => .queued
  | .cancelled => .cancelled
  | .failed | .delivered _ | .partiallyDelivered _ _ => .failed

/-- The loop over the turns of a batch. -/
def commitTurns (codec : Codec) (report : MemoryCommitReport) :
    List TurnCommitInput → Transaction AuthorityTables MemoryError MemoryCommitReport
  | [] => pure report
  | turn :: turns => do
    let eligible ← .lift (turn.delivery.eligibleText turn.text)
    match eligible with
    | none =>
      let skipped := ⟨turn.turnId, turn.delivery.skippedReason⟩
      commitTurns codec { report with skippedTurns := report.skippedTurns ++ [skipped] } turns
    | some (deliveredText, deliveredAtMs) =>
      let stored ← storeTurn codec turn deliveredText deliveredAtMs
      commitTurns codec { report with storedTurns := report.storedTurns ++ [stored] } turns

/-! ## Structured memories -/

def sourceScopeCompatible (memory source : AuthorityScope) : Bool :=
  memory.userId = source.userId && memory.profileId = source.profileId &&
    memory.gameId = source.gameId && memory.characterId = source.characterId &&
    memory.encounterId = source.encounterId && memory.saveId = source.saveId

/-- The check of one source turn. -/
def checkSource (codec : Codec) (t : AuthorityTables) (memory : DerivedMemoryInput)
    (sourceId : Text) : Except MemoryError Unit := do
  let stored ← loadDeliveredTurn codec t sourceId
  let source ← okOr stored (.notFound ("source turn ".toList ++ sourceId))
  require (sourceScopeCompatible memory.scope source.scope) (.invalidData ("source turn ".toList ++
    sourceId ++ " crosses a user, game, character, encounter, or save boundary".toList))

/-- The stored record is the one the input asks for. -/
def DerivedMemoryRecord.same (existing : DerivedMemoryRecord) (memory : DerivedMemoryInput) :
    Bool :=
  existing.scope = memory.scope && existing.class = memory.class &&
    existing.spoilerScope = memory.spoilerScope && existing.content = memory.content.trim &&
    existing.provenance = memory.provenance && existing.confidence = memory.confidence &&
    existing.importance = memory.importance && existing.observedAtMs = memory.observedAtMs &&
    existing.expiresAtMs = memory.expiresAtMs && existing.sourceTurnIds = memory.sourceTurnIds &&
    existing.generator = memory.generator

def DerivedMemoryInput.row (codec : Codec) (memory : DerivedMemoryInput) (id : Text)
    (createdAtMs : Int) : StructuredMemory where
  id := id
  scope := memory.scope
  knowledgeClass := memory.class
  spoilerScope := memory.spoilerScope
  content := memory.content.trim
  contentSha256 := codec.sha256 memory.content.trim
  provenanceJson := codec.writeProvenance memory.provenance
  confidence := memory.confidence
  importance := memory.importance
  observedAtMs := memory.observedAtMs
  createdAtMs := createdAtMs
  expiresAtMs := memory.expiresAtMs
  generatorJson := memory.generator.map codec.writeGenerator

def insertSources (id : Text) (sourceTurnIds : List Text) :
    Transaction AuthorityTables MemoryError Unit :=
  sourceTurnIds.zipIdx.forM fun source => insertSource ⟨id, source.1, source.2⟩

def insertDerivedMemory (codec : Codec) (memory : DerivedMemoryInput) (newId : Text)
    (nowMs : Int) : Transaction AuthorityTables MemoryError DerivedMemoryRecord :=
  .reading fun t => do
    let id := memory.id.getD newId
    .lift (memory.sourceTurnIds.forM (checkSource codec t memory))
    let stored ← .lift (loadDerivedMemory codec t id)
    match stored with
    | some existing =>
      .guard (existing.same memory) (.invalidData ("structured memory ".toList ++ id ++
        " is immutable and conflicts with the existing record".toList))
      return existing
    | none =>
      insertMemory codec (memory.row codec id nowMs)
      insertSources id memory.sourceTurnIds
      .reading fun t => .lift do
        let record ← loadDerivedMemory codec t id
        okOr record (.notFound id)

/-! ## Batches -/

/-- The random identifier and the clock of one derived memory. -/
structure Stamp where
  newId : Text
  nowMs : Int
deriving DecidableEq

def insertDerived (codec : Codec) (derived : List DerivedMemoryInput) (stamps : Nat → Stamp) :
    Transaction AuthorityTables MemoryError (List DerivedMemoryRecord) :=
  derived.zipIdx.mapM fun memory =>
    insertDerivedMemory codec memory.1 (stamps memory.2).newId (stamps memory.2).nowMs

def commitAuthoritativeBatch (codec : Codec) (batch : MemoryCommitBatch) (stamps : Nat → Stamp) :
    Transaction AuthorityTables MemoryError MemoryCommitReport := do
  let report ← commitTurns codec ⟨[], [], []⟩ batch.turns
  let derivedMemories ← insertDerived codec batch.derived stamps
  return { report with derivedMemories }

/-- The checks of `MemoryStore::commit_batch`. -/
def MemoryCommitBatch.validate (batch : MemoryCommitBatch) : Except MemoryError Unit := do
  require (batch.turns.length ≤ 10000 && batch.derived.length ≤ 10000) (.invalid
    "a memory commit batch may contain at most 10000 turns and 10000 derived records")
  batch.turns.forM fun turn => do
    turn.validate
    checkedSqlInteger "turn sequence" turn.sequence
    checkedSqlInteger "cancellation generation" turn.cancellationGeneration
  batch.derived.forM DerivedMemoryInput.validate

/-- `MemoryStore::commit_batch`. -/
def commitBatch (codec : Codec) (batch : MemoryCommitBatch) (stamps : Nat → Stamp) :
    Transaction AuthorityTables MemoryError MemoryCommitReport := do
  .lift batch.validate
  commitAuthoritativeBatch codec batch stamps

end NpcRuntime.Memory
