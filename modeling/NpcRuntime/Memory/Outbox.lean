import NpcRuntime.Lib.Rows
import NpcRuntime.Lib.Transactions
import NpcRuntime.Memory.Domain
import Mathlib.Data.List.Sort

/-!
# The outbox

`memory_outbox` of `memory/src/schema.rs` and the functions of `memory/src/store.rs` that work it:
jobs are enqueued once per dedupe key, claimed under a lease, and completed or failed by the worker
that holds the lease.

The table's check ties the lease columns to the status, so status, owner and expiry are one value
(`JobState`).
-/

namespace NpcRuntime.Memory

open Text Json

/-- The `status`, `lease_owner` and `lease_expires_at_ms` columns. -/
inductive JobState where
  | pending
  | processing (leaseOwner : Text) (leaseExpiresAtMs : Int)
  | completed
  | dead
deriving DecidableEq

namespace JobState

def status : JobState → OutboxStatus
  | .pending => .pending
  | .processing _ _ => .processing
  | .completed => .completed
  | .dead => .dead

def leaseOwner : JobState → Option Text
  | .processing owner _ => some owner
  | _ => none

def leaseExpiresAtMs : JobState → Option Int
  | .processing _ expires => some expires
  | _ => none

/-- Completed and dead jobs are done with. -/
def finished : JobState → Bool
  | .completed | .dead => true
  | _ => false

end JobState

structure OutboxRow where
  id : Nat
  kind : Text
  aggregateId : Option Text
  payloadJson : Text
  state : JobState
  attempts : Nat
  maxAttempts : Nat
  availableAtMs : Int
  lastError : Option Text
  dedupeKey : Option Text
  createdAtMs : Int
  updatedAtMs : Int
deriving DecidableEq

abbrev Outbox := Rows OutboxRow.id

namespace Outbox

/-- The next `INTEGER PRIMARY KEY`. -/
def nextId (outbox : Outbox) : Nat := (outbox.rows.map OutboxRow.id).foldr max 0 + 1

theorem lt_nextId {outbox : Outbox} {row : OutboxRow} (h : row ∈ outbox.rows) :
    row.id < outbox.nextId :=
  Rows.lt_foldr_max_succ (List.mem_map_of_mem h)

theorem find?_nextId (outbox : Outbox) : outbox.find? outbox.nextId = none := by
  rw [Rows.find?_eq_none]
  intro row hrow
  exact (lt_nextId hrow).ne

/-- The row with a dedupe key. -/
def withKey (outbox : Outbox) (key : Text) : Option OutboxRow :=
  outbox.rows.find? fun row => row.dedupeKey = some key

end Outbox

/-! ## Enqueueing -/

/-- The row of a new job. -/
def OutboxJobInput.row (codec : Codec) (job : OutboxJobInput) (nowMs : Int) (id : Nat) :
    OutboxRow where
  id := id
  kind := job.kind
  aggregateId := job.aggregateId
  payloadJson := codec.writePayload job.payload
  state := .pending
  attempts := 0
  maxAttempts := job.maxAttempts
  availableAtMs := job.availableAtMs
  lastError := none
  dedupeKey := job.dedupeKey
  createdAtMs := nowMs
  updatedAtMs := nowMs

/-- The checks of the table on a new row. -/
def OutboxRow.check (codec : Codec) (row : OutboxRow) : Bool :=
  0 < sqlLength (sqlTrim row.kind) && codec.jsonValid row.payloadJson && 0 < row.maxAttempts

/-- `INSERT … ON CONFLICT(dedupe_key) DO NOTHING`, and the identifier under the key. -/
def enqueueJobTx (codec : Codec) (job : OutboxJobInput) (nowMs : Int) :
    Transaction Outbox MemoryError Nat :=
  .reading fun outbox => do
    let row := job.row codec nowMs outbox.nextId
    .guard (row.check codec) (.database (.constraint "memory_outbox"))
    match job.dedupeKey.bind outbox.withKey with
    | some existing => return existing.id
    | none =>
      .write fun _ => outbox.insert row outbox.find?_nextId
      return row.id

def validateJob (codec : Codec) (job : OutboxJobInput) : Except MemoryError Unit := do
  require (!job.kind.isBlank && job.kind.utf8Len ≤ 256 && job.maxAttempts ≠ 0 &&
    job.maxAttempts ≤ 1000) (.invalid "job kind and max_attempts are invalid")
  require ((codec.writePayload job.payload).utf8Len ≤ 1048576)
    (.invalid "job payload exceeds 1 MiB")

def enqueueJob (codec : Codec) (job : OutboxJobInput) (nowMs : Int) :
    Transaction Outbox MemoryError Nat := do
  .lift (validateJob codec job)
  enqueueJobTx codec job nowMs

/-! ## Claiming -/

/-- `i64::saturating_add`. -/
def i64SaturatingAdd (a b : Int) : Int := max (-2 ^ 63) (min (a + b) (2 ^ 63 - 1))

/-- An expired lease is given up: the job is pending again, or dead after its last attempt. -/
def OutboxRow.recovered (nowMs : Int) (row : OutboxRow) : OutboxRow :=
  match row.state with
  | .processing _ expires =>
    if expires ≤ nowMs then
      { row with
        state := if row.maxAttempts ≤ row.attempts then .dead else .pending
        availableAtMs := nowMs
        updatedAtMs := nowMs
        lastError := some (row.lastError.getD "worker lease expired".toList) }
    else row
  | _ => row

theorem OutboxRow.recovered_id (nowMs : Int) (row : OutboxRow) :
    (row.recovered nowMs).id = row.id := by
  unfold recovered
  split
  · split <;> rfl
  · rfl

def OutboxRow.claimable (nowMs : Int) (row : OutboxRow) : Bool :=
  row.state = .pending && row.availableAtMs ≤ nowMs && row.attempts < row.maxAttempts

/-- `ORDER BY available_at_ms, id`. -/
def OutboxRow.before (left right : OutboxRow) : Prop :=
  left.availableAtMs < right.availableAtMs ∨
    left.availableAtMs = right.availableAtMs ∧ left.id ≤ right.id

instance : DecidableRel OutboxRow.before := fun _ _ => by
  unfold OutboxRow.before
  infer_instance

/-- `UPDATE … SET status='processing' … WHERE id = … AND status='pending'`. -/
def OutboxRow.leased (id : Nat) (worker : Text) (leaseExpires nowMs : Int) (row : OutboxRow) :
    OutboxRow :=
  if row.id = id ∧ row.state = .pending then
    { row with
      state := .processing worker leaseExpires
      attempts := row.attempts + 1
      updatedAtMs := nowMs }
  else row

theorem OutboxRow.leased_id (id : Nat) (worker : Text) (leaseExpires nowMs : Int)
    (row : OutboxRow) : (row.leased id worker leaseExpires nowMs).id = row.id := by
  unfold leased
  split <;> rfl

/-- The jobs a claim takes, in the order it takes them. -/
def claimIds (outbox : Outbox) (nowMs : Int) (limit : Nat) : List Nat :=
  (((outbox.rows.filter (OutboxRow.claimable nowMs)).insertionSort OutboxRow.before).take
    limit).map OutboxRow.id

/-- The job of a row, if its payload reads back. -/
def OutboxRow.job (codec : Codec) (row : OutboxRow) : Except MemoryError OutboxJob := do
  let payload ← okOr (codec.readPayload row.payloadJson) (.database .conversion)
  return {
    id := row.id
    kind := row.kind
    aggregateId := row.aggregateId
    payload
    status := row.state.status
    attempts := row.attempts
    maxAttempts := row.maxAttempts
    availableAtMs := row.availableAtMs
    leaseOwner := row.state.leaseOwner
    leaseExpiresAtMs := row.state.leaseExpiresAtMs
    lastError := row.lastError
    createdAtMs := row.createdAtMs
    updatedAtMs := row.updatedAtMs }

def loadJobTx (codec : Codec) (id : Nat) : Transaction Outbox MemoryError OutboxJob :=
  .reading fun outbox => .lift do
    let row ← okOr (outbox.find? id) (.database .conversion)
    row.job codec

def recoverLeases (nowMs : Int) (outbox : Outbox) : Outbox :=
  outbox.update (OutboxRow.recovered nowMs) (OutboxRow.recovered_id nowMs)

def leaseJobs (ids : List Nat) (worker : Text) (leaseExpires nowMs : Int) (outbox : Outbox) :
    Outbox :=
  ids.foldl (fun outbox id => outbox.update (OutboxRow.leased id worker leaseExpires nowMs)
    (OutboxRow.leased_id id worker leaseExpires nowMs)) outbox

def claimJobs (codec : Codec) (worker : Text) (nowMs leaseMs : Int) (limit : Nat) :
    Transaction Outbox MemoryError (List OutboxJob) := do
  .write (recoverLeases nowMs)
  .reading fun outbox => do
    let ids := claimIds outbox nowMs limit
    .write (leaseJobs ids worker (i64SaturatingAdd nowMs leaseMs) nowMs)
    ids.mapM (loadJobTx codec)

/-! ## Completing and failing -/

/-- The row is leased to the worker. -/
def OutboxRow.leasedBy (id : Nat) (worker : Text) (row : OutboxRow) : Bool :=
  row.id = id && row.state.leaseOwner = some worker

/-- The row after the holder of its lease has settled it. -/
def OutboxRow.released (id : Nat) (worker : Text) (settle : OutboxRow → OutboxRow)
    (row : OutboxRow) : OutboxRow :=
  if row.leasedBy id worker then { settle row with id := row.id } else row

theorem OutboxRow.released_id (id : Nat) (worker : Text) (settle : OutboxRow → OutboxRow)
    (row : OutboxRow) : (row.released id worker settle).id = row.id := by
  unfold released
  split <;> rfl

def completeJob (id : Nat) (worker : Text) (nowMs : Int) : Transaction Outbox MemoryError Bool :=
  .reading fun outbox => do
    .write fun _ => outbox.update
      (OutboxRow.released id worker fun row =>
        { row with state := .completed, updatedAtMs := nowMs })
      (OutboxRow.released_id id worker _)
    return outbox.rows.any (OutboxRow.leasedBy id worker)

def failJob (id : Nat) (worker : Text) (nowMs retryAtMs : Int) (error : Text) :
    Transaction Outbox MemoryError OutboxStatus :=
  .reading fun outbox => do
    let row ← .lift (okOr (outbox.rows.find? (OutboxRow.leasedBy id worker))
      (.notFound ("leased outbox job ".toList ++ Nat.toDigits 10 id)))
    let state : JobState := if row.maxAttempts ≤ row.attempts then .dead else .pending
    .write fun _ => outbox.update
      (OutboxRow.released id worker fun row =>
        { row with
          state
          availableAtMs := retryAtMs
          lastError := some error
          updatedAtMs := nowMs })
      (OutboxRow.released_id id worker _)
    return state.status

/-! ## What callers may ask for -/

namespace MemoryStore

def claimJobs (codec : Codec) (worker : Text) (nowMs leaseMs : Int) (limit : Nat) :
    Transaction Outbox MemoryError (List OutboxJob) := do
  .lift (require (!worker.isBlank && limit ≠ 0 && limit ≤ 1000)
    (.invalid "worker is required and claim limit must be in 1..=1000"))
  .lift (require (leaseMs ≤ 2 ^ 63 - 1) (.invalid "lease is too long"))
  .lift (require (0 < leaseMs) (.invalid "lease must be greater than zero"))
  Memory.claimJobs codec worker nowMs leaseMs limit

def failJob (id : Nat) (worker : Text) (nowMs retryAtMs : Int) (error : Text) :
    Transaction Outbox MemoryError OutboxStatus := do
  .lift (require (!error.isBlank && error.utf8Len ≤ 16384 && nowMs ≤ retryAtMs)
    (.invalid "failure requires a bounded error and a non-past retry time"))
  Memory.failJob id worker nowMs retryAtMs error

end MemoryStore

end NpcRuntime.Memory
