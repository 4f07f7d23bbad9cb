import NpcRuntime.Memory.Authority

/-!
# Character erasure

`character_memory_status` and `erase_character_memory` of `memory/src/store.rs`. An erasure collects
the identifiers of the rows it is for in temporary tables, deletes what goes with them and then the
rows, and leaves one audit row. The triggers let it delete because the connection is authorized for
as long as the call lasts.

The random identifier of the erasure is an argument.
-/

namespace NpcRuntime.Memory

open Text Json

/-- The condition on turns and structured memories: an optional field of the request narrows it. -/
def AuthorityScope.covers (request scope : AuthorityScope) : Bool :=
  scope.userId = request.userId && scope.profileId = request.profileId &&
    scope.gameId = request.gameId && scope.characterId = request.characterId &&
    (request.encounterId.isNone || scope.encounterId = request.encounterId) &&
    (request.sessionId.isNone || scope.sessionId = request.sessionId) &&
    (request.saveId.isNone || scope.saveId = request.saveId)

/-- The condition on memory items, which have no user and no encounter. -/
def AuthorityScope.coversItem (request : AuthorityScope) (scope : MemoryScope) : Bool :=
  scope.profileId = some request.profileId && scope.gameId = some request.gameId &&
    scope.characterId = request.characterId &&
    (request.sessionId.isNone || scope.sessionId = request.sessionId) &&
    (request.saveId.isNone || scope.saveId = request.saveId)

def characterMemoryStatus (db : Database) (scope : AuthorityScope) :
    Except MemoryError CharacterMemoryStatusReport := do
  let _ ← okOr scope.characterId (.invalid "character ID is required")
  return {
    deliveredTurns := db.authority.turns.rows.countP fun turn => scope.covers turn.scope
    structuredMemories := db.authority.memories.rows.countP fun memory => scope.covers memory.scope
    legacyItems := db.items.items.rows.countP fun item => scope.coversItem item.scope }

/-- The temporary tables of an erasure. -/
structure EraseIds where
  turnIds : List Text
  memoryIds : List Text
  legacyIds : List Text
deriving DecidableEq

/-- The structured memories in scope, and those that cite a turn in scope. -/
def EraseIds.collect (scope : AuthorityScope) (db : Database) : EraseIds :=
  let turnIds := (db.authority.turns.rows.filter fun turn => scope.covers turn.scope).map
    DeliveredTurn.turnId
  { turnIds
    memoryIds :=
      ((db.authority.memories.rows.filter fun memory => scope.covers memory.scope).map
          StructuredMemory.id ++
        (db.authority.sources.rows.filter fun link => turnIds.contains link.turnId).map
          SourceLink.memoryId).dedup
    legacyIds := (db.items.items.rows.filter fun item => scope.coversItem item.scope).map
      MemoryItem.id }

/-- `aggregate_id IN …`, for any of the three. -/
def EraseIds.names (ids : EraseIds) (row : OutboxRow) : Bool :=
  row.aggregateId.any fun id =>
    ids.turnIds.contains id || ids.memoryIds.contains id || ids.legacyIds.contains id

def EraseIds.auditRow (ids : EraseIds) (codec : Codec) (request : CharacterMemoryErasureRequest)
    (erasureId : Text) (outboxJobsDeleted : Nat) : ErasureAudit where
  erasureId := erasureId
  scopeSha256 := codec.sha256 (codec.writeScope request.scope)
  deliveredTurnsDeleted := ids.turnIds.length
  structuredMemoriesDeleted := ids.memoryIds.length
  legacyItemsDeleted := ids.legacyIds.length
  outboxJobsDeleted := outboxJobsDeleted
  erasedAtMs := request.erasedAtMs

def ErasureAudit.report (audit : ErasureAudit) : CharacterMemoryErasureReport where
  erasureId := audit.erasureId
  scopeSha256 := audit.scopeSha256
  deliveredTurnsDeleted := audit.deliveredTurnsDeleted
  structuredMemoriesDeleted := audit.structuredMemoriesDeleted
  legacyItemsDeleted := audit.legacyItemsDeleted
  outboxJobsDeleted := audit.outboxJobsDeleted
  erasedAtMs := audit.erasedAtMs

/-- The deletions, in their order. -/
def eraseRows (codec : Codec) (authorized : Bool) (ids : EraseIds) : Tx Unit := do
  onOutbox (.write fun outbox => outbox.delete ids.names)
  onAuthority do
    deleteSources authorized fun link => ids.memoryIds.contains link.memoryId
    deleteMemories authorized fun memory => ids.memoryIds.contains memory.id
    deleteTurns authorized fun turn => ids.turnIds.contains turn.turnId
  onItems (deleteItems codec fun item => ids.legacyIds.contains item.id)

/-- The transaction of `erase_character_memory`. -/
def eraseTx (codec : Codec) (authorized : Bool) (request : CharacterMemoryErasureRequest)
    (erasureId : Text) : Tx CharacterMemoryErasureReport :=
  .reading fun db => do
    let ids := EraseIds.collect request.scope db
    let audit := ids.auditRow codec request erasureId (db.outbox.rows.countP ids.names)
    eraseRows codec authorized ids
    insertAudit audit
    return audit.report

/-- The writer's connection, and what `memory_erasure_authorized()` says on it. -/
structure Connection where
  database : Database
  erasureAuthorized : Bool
deriving DecidableEq

namespace Connection

def start : Connection := ⟨.empty, false⟩

/-- Run a transaction. -/
def run {α : Type} (t : Tx α) (c : Connection) : Except MemoryError α × Connection :=
  ((t.commit c.database).1, { c with database := (t.commit c.database).2 })

end Connection

/-- `erase_character_memory`: the guard authorizes the connection and, however the transaction
ends, revokes that when it is dropped. -/
def eraseCharacterMemory (codec : Codec) (request : CharacterMemoryErasureRequest)
    (erasureId : Text) (c : Connection) :
    Except MemoryError CharacterMemoryErasureReport × Connection :=
  match request.validate with
  | .error error => (.error error, c)
  | .ok () =>
    let guarded := { c with erasureAuthorized := true }
    let (result, after) :=
      guarded.run (eraseTx codec guarded.erasureAuthorized request erasureId)
    (result, { after with erasureAuthorized := false })

end NpcRuntime.Memory
