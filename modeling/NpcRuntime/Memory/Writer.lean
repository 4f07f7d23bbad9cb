import NpcRuntime.Lib.Machine
import NpcRuntime.Memory.Erasure
import NpcRuntime.Memory.Items

/-!
# The writer

`writer_main` of `memory/src/store.rs`: one connection works off the commands of all callers, one
after another. Commands are the public calls with their checks; what a call takes from the clock or
draws at random comes with the command. Backups, checkpoints and closing leave the tables alone.
-/

namespace NpcRuntime.Memory

open Text Json

inductive WriterCommand where
  | commitBatch (batch : MemoryCommitBatch) (stamps : Nat → Stamp)
  | upsert (input : MemoryInput) (newId : Text) (nowMs : Int)
  | delete (id : Text) (deletedAtMs : Int)
  | eraseCharacter (request : CharacterMemoryErasureRequest) (erasureId : Text)
  | putEmbedding (embedding : EmbeddingInput) (nowMs : Int)
  | enqueue (job : OutboxJobInput) (nowMs : Int)
  | claim (worker : Text) (nowMs leaseMs : Int) (limit : Nat)
  | complete (id : Nat) (worker : Text) (nowMs : Int)
  | fail (id : Nat) (worker : Text) (nowMs retryAtMs : Int) (error : Text)
  | reindex (request : ReindexRequest) (nowMs : Int)
  | importRecords (records : List MemoryInput) (policy : ImportConflictPolicy) (nowMs : Int)
  | purgeExpired (nowMs : Int)

/-- The connection after a command. -/
def Connection.next (codec : Codec) (command : WriterCommand) (c : Connection) : Connection :=
  match command with
  | .commitBatch batch stamps => (c.run (onAuthority (commitBatch codec batch stamps))).2
  | .upsert input newId nowMs => (c.run (upsertRecord codec input newId nowMs)).2
  | .delete id deletedAtMs => (c.run (onItems (softDelete id deletedAtMs))).2
  | .eraseCharacter request erasureId => (eraseCharacterMemory codec request erasureId c).2
  | .putEmbedding embedding nowMs => (c.run (onItems (Memory.putEmbedding embedding nowMs))).2
  | .enqueue job nowMs => (c.run (onOutbox (enqueueJob codec job nowMs))).2
  | .claim worker nowMs leaseMs limit =>
    (c.run (onOutbox (MemoryStore.claimJobs codec worker nowMs leaseMs limit))).2
  | .complete id worker nowMs => (c.run (onOutbox (completeJob id worker nowMs))).2
  | .fail id worker nowMs retryAtMs error =>
    (c.run (onOutbox (MemoryStore.failJob id worker nowMs retryAtMs error))).2
  | .reindex request nowMs => (c.run (reindexAll codec request nowMs)).2
  | .importRecords records policy nowMs => (c.run (importAll codec records policy nowMs)).2
  | .purgeExpired nowMs => (c.run (onItems (Memory.purgeExpired nowMs))).2

end NpcRuntime.Memory
