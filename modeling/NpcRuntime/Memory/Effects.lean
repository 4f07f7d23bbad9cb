import NpcRuntime.Memory.Leases
import NpcRuntime.Memory.Writer

/-!
# What the calls do

For each call on the memory items that goes through: the tables it leaves. And for each command of
the writer: the tables it cannot touch.
-/

namespace NpcRuntime.Memory

open Text Json

/-! ## Frames -/

namespace Connection

variable {α : Type} (c : Connection)

@[simp] theorem run_erasureAuthorized (t : Tx α) :
    (c.run t).2.erasureAuthorized = c.erasureAuthorized := rfl

theorem run_database (t : Tx α) : (c.run t).2.database = (t.commit c.database).2 := rfl

@[simp] theorem run_onItems (t : Transaction ItemTables MemoryError α) :
    (c.run (onItems t)).2.database =
      { c.database with items := (t.commit c.database.items).2 } := by
  rw [run_database, onItems, Transaction.commit_zoom rfl]

@[simp] theorem run_onOutbox (t : Transaction Outbox MemoryError α) :
    (c.run (onOutbox t)).2.database =
      { c.database with outbox := (t.commit c.database.outbox).2 } := by
  rw [run_database, onOutbox, Transaction.commit_zoom rfl]

@[simp] theorem run_onAuthority (t : Transaction AuthorityTables MemoryError α) :
    (c.run (onAuthority t)).2.database =
      { c.database with authority := (t.commit c.database.authority).2 } := by
  rw [run_database, onAuthority, Transaction.commit_zoom rfl]

end Connection

/-! ## Upserts -/

/-- The tables after an upsert. -/
def upserted (codec : Codec) (t : ItemTables) (input : MemoryInput) (id : Text) (nowMs : Int) :
    ItemTables :=
  if contentChanged codec t input id then
    (upsertStatement codec t input id nowMs).deleteEmbeddings id
  else upsertStatement codec t input id nowMs

/-- An upsert that goes through. -/
structure Upserts (codec : Codec) (input : MemoryInput) (id : Text) (nowMs : Int)
    (t t' : ItemTables) (record : MemoryRecord) : Prop where
  notBlank : id.isBlank = false
  bounded : id.utf8Len ≤ 512
  unexpired : (upsertedItem codec t input id nowMs).check codec = true
  tables : t' = upserted codec t input id nowMs
  loaded : loadRecord codec t' id = .ok (some record)

variable {input : MemoryInput} {newId : Text} {t t' : ItemTables} {record : MemoryRecord}
  {codec : Codec}

theorem upsertItem_eq_ok {nowMs : Int}
    (h : upsertItem codec input newId nowMs t = .ok (record, t')) :
    Upserts codec input (input.id.getD newId) nowMs t t' record := by
  rw [upsertItem, Transaction.reading_eq, Transaction.guard_bind_eq_ok] at h
  obtain ⟨hid, h⟩ := h
  rw [Transaction.guard_bind_eq_ok] at h
  obtain ⟨_, h⟩ := h
  rw [Transaction.guard_bind_eq_ok] at h
  obtain ⟨hcheck, h⟩ := h
  rw [Transaction.guard_bind_eq_ok] at h
  obtain ⟨_, h⟩ := h
  rw [Transaction.write_bind, Transaction.write_bind, Transaction.reading_eq,
    Transaction.lift_eq_ok] at h
  obtain ⟨hloaded, rfl⟩ := h
  obtain ⟨loaded, hload, hrecord⟩ := bind_eq_ok.1 hloaded
  rw [okOr_eq_ok] at hrecord
  subst hrecord
  simp only [Bool.and_eq_true, Bool.not_eq_true', decide_eq_true_eq] at hid
  exact ⟨hid.1, hid.2, hcheck, rfl, hload⟩

theorem upserted_items (codec : Codec) (t : ItemTables) (input : MemoryInput) (id : Text)
    (nowMs : Int) :
    (upserted codec t input id nowMs).items = (upsertStatement codec t input id nowMs).items := by
  unfold upserted
  by_cases hchanged : contentChanged codec t input id = true
  · rw [if_pos hchanged]
    rfl
  · rw [if_neg hchanged]

/-- The row an upsert leaves, under its identifier. -/
theorem find?_upserted (codec : Codec) (t : ItemTables) (input : MemoryInput) (id : Text)
    (nowMs : Int) (other : Text) :
    (upserted codec t input id nowMs).items.find? other =
      if other = id then some (upsertedItem codec t input id nowMs) else t.items.find? other := by
  rw [upserted_items, upsertStatement]
  have hid := upsertedItem_id codec t input id nowMs
  by_cases hfresh : t.items.find? (upsertedItem codec t input id nowMs).id = none
  · rw [dif_pos hfresh]
    show (t.items.insert (upsertedItem codec t input id nowMs) hfresh).find? other = _
    rw [Rows.find?_insert, hid]
    simp only [eq_comm]
  · rw [dif_neg hfresh, ItemTables.find?_updateItems]
    rw [hid] at hfresh
    obtain ⟨old, hold⟩ := Option.ne_none_iff_exists'.1 hfresh
    by_cases hother : other = id
    · subst hother
      have hsame := (Rows.find?_eq_some.1 hold).2
      simp [hold, hsame, upsertedItem]
    · rw [if_neg hother]
      cases hfind : t.items.find? other with
      | none => rfl
      | some row =>
        have hrow : row.id ≠ id := by
          rw [(Rows.find?_eq_some.1 hfind).2]
          exact hother
        simp [hrow]

theorem upsertedItem_live (codec : Codec) (t : ItemTables) (input : MemoryInput) (id : Text)
    (nowMs : Int) : (upsertedItem codec t input id nowMs).live = true := by
  unfold upsertedItem
  split <;> rfl

/-- The record an upsert returns is the one of the row it leaves. -/
theorem Upserts.record_eq {id : Text} {nowMs : Int} (h : Upserts codec input id nowMs t t' record) :
    record.id = id ∧ record.revision = (upsertedItem codec t input id nowMs).revision ∧
      record.contentSha256 = (upsertedItem codec t input id nowMs).contentSha256 := by
  have hloaded := h.loaded
  have hlive := upsertedItem_live codec t input id nowMs
  rw [h.tables, loadRecord, find?_upserted, if_pos rfl] at hloaded
  simp only [Option.filter_some, hlive, if_true] at hloaded
  obtain ⟨read, hread, heq⟩ := map_eq_ok.1 hloaded
  cases heq
  obtain ⟨provenance, _, hpure⟩ := bind_eq_ok.1 hread
  obtain rfl := NpcRuntime.pure_eq_ok.1 hpure
  exact ⟨upsertedItem_id codec t input id nowMs, rfl, rfl⟩

variable {db db' : Database}

theorem upsertInTransaction_eq_ok {nowMs : Int}
    (h : upsertInTransaction codec input newId nowMs db = .ok (record, db')) :
    ∃ items job outbox, Upserts codec input (input.id.getD newId) nowMs db.items items record ∧
      enqueueJobTx codec (upsertJob record nowMs) nowMs db.outbox = .ok (job, outbox) ∧
      db' = { db with items, outbox } := by
  obtain ⟨stored, mid, hitems, h⟩ := Transaction.bind_eq_ok.1 h
  obtain ⟨items, hupsert, rfl⟩ := Transaction.zoom_eq_ok.1 hitems
  obtain ⟨job, last, hjob, h⟩ := Transaction.bind_eq_ok.1 h
  obtain ⟨outbox, henqueue, rfl⟩ := Transaction.zoom_eq_ok.1 hjob
  obtain ⟨rfl, rfl⟩ := Transaction.pure_eq_ok.1 h
  exact ⟨items, job, outbox, upsertItem_eq_ok hupsert, henqueue, rfl⟩

theorem upsertRecord_eq_ok {nowMs : Int}
    (h : upsertRecord codec input newId nowMs db = .ok (record, db')) :
    input.validate = .ok () ∧
      upsertInTransaction codec input newId nowMs db = .ok (record, db') := by
  obtain ⟨_, hvalid, h⟩ := Transaction.lift_bind_eq_ok.1 h
  exact ⟨hvalid, h⟩

section Import

variable {codec : Codec} {policy : ImportConflictPolicy} {nowMs : Int}

/-- **What every upsert keeps, an import keeps.** -/
theorem ensures_importRecords {inv : Database → Prop}
    (h : ∀ input newId, Transaction.Ensures inv (upsertInTransaction codec input newId nowMs)
      fun _ => inv) (report : ImportReport) (records : List MemoryInput) :
    Transaction.Ensures inv (importRecords codec policy nowMs report records) fun _ => inv := by
  induction records generalizing report with
  | nil => exact Transaction.ensures_pure _ fun _ hs => hs
  | cons input records ih =>
    apply Transaction.ensures_reading_of
    intro db _
    dsimp only
    split
    · intro s a s' _ hlift
      cases hlift
    · exact ih _
    · exact Transaction.ensures_bind (h _ _) fun _ => ih _
    · exact Transaction.ensures_bind (h _ _) fun _ => ih _

theorem ensures_importAll {inv : Database → Prop}
    (h : ∀ input newId, Transaction.Ensures inv (upsertInTransaction codec input newId nowMs)
      fun _ => inv) (records : List MemoryInput) :
    Transaction.Ensures inv (importAll codec records policy nowMs) fun _ => inv := by
  intro db report db' hdb himport
  obtain ⟨_, _, himport⟩ := Transaction.lift_bind_eq_ok.1 himport
  exact ensures_importRecords h _ records db report db' hdb himport

end Import

/-! ## Expiry and embeddings -/

theorem softDelete_eq (id : Text) (deletedAtMs : Int) (t : ItemTables) :
    ((softDelete id deletedAtMs).commit t).2 =
      t.updateItems (fun item => decide (item.id = id) && item.live)
        (MemoryItem.softDeleted deletedAtMs) (MemoryItem.softDeleted_id deletedAtMs) := rfl

theorem purgeExpired_eq (nowMs : Int) (t : ItemTables) :
    ((purgeExpired nowMs).commit t).2 =
      t.updateItems (fun item => item.live && !item.unexpired nowMs)
        (MemoryItem.softDeleted nowMs) (MemoryItem.softDeleted_id nowMs) := rfl

/-- What `put_embedding` requires. -/
def EmbeddingInput.accepted (embedding : EmbeddingInput) (t : ItemTables) : Prop :=
  embedding.validate = .ok () ∧ 0 < sqlLength (sqlTrim embedding.modelId) ∧
    (t.items.find? embedding.itemId).isSome

/-- The tables after an embedding has been put. -/
def embedded (embedding : EmbeddingInput) (nowMs : Int) (t : ItemTables) : ItemTables :=
  let generation := embedding.generation
  (upsertEmbedding ⟨embedding.itemId, generation, embedding.modelId, embedding.values,
    nowMs⟩ t).updateItems (fun item => decide (item.id = embedding.itemId) && item.live)
      (MemoryItem.embedded generation) (MemoryItem.embedded_id generation)

theorem putEmbedding_eq_ok {embedding : EmbeddingInput} {nowMs : Int} {u : Unit} :
    putEmbedding embedding nowMs t = .ok (u, t') ↔
      embedding.accepted t ∧ t' = embedded embedding nowMs t := by
  rw [putEmbedding, Transaction.lift_bind_eq_ok]
  simp only [Transaction.reading_eq, Transaction.guard_bind_eq_ok, Transaction.write_bind,
    Transaction.write_eq_ok]
  constructor
  · intro h
    obtain ⟨_, hvalid, hmodel, hitem, rfl⟩ := h
    exact ⟨⟨hvalid, by simpa using hmodel, hitem⟩, rfl⟩
  · intro h
    obtain ⟨⟨hvalid, hmodel, hitem⟩, rfl⟩ := h
    exact ⟨(), hvalid, by simpa using hmodel, hitem, rfl⟩

/-! ## Reindexing -/

/-- The checks of the outbox on a new job do not depend on what it holds. -/
def OutboxJobInput.accepted (codec : Codec) (job : OutboxJobInput) : Bool :=
  0 < sqlLength (sqlTrim job.kind) && codec.jsonValid (codec.writePayload job.payload) &&
    0 < job.maxAttempts

theorem enqueueJobTx_ok_iff {job : OutboxJobInput} {nowMs : Int} {outbox : Outbox} :
    (∃ out, enqueueJobTx codec job nowMs outbox = .ok out) ↔ job.accepted codec = true := by
  rw [enqueueJobTx, Transaction.reading_eq]
  simp only [Transaction.guard_bind_eq_ok]
  constructor
  · intro h
    obtain ⟨_, hcheck, _⟩ := h
    exact hcheck
  · intro h
    cases hkey : job.dedupeKey.bind outbox.withKey with
    | some existing => exact ⟨(existing.id, outbox), h, rfl⟩
    | none =>
      exact ⟨(outbox.nextId, outbox.insert (job.row codec nowMs outbox.nextId)
        outbox.find?_nextId), h, rfl⟩

/-- The loop of a reindex. -/
def enqueueStale (codec : Codec) (request : ReindexRequest) (nowMs : Int)
    (stale : List MemoryItem) : Transaction Outbox MemoryError PUnit :=
  stale.forM fun item => do
    let _ ← enqueueJobTx codec (reindexJob request item nowMs) nowMs
    return ⟨⟩

variable {request : ReindexRequest}

theorem enqueueStale_cons {nowMs : Int} {item : MemoryItem} {stale : List MemoryItem}
    {outbox : Outbox} {out : PUnit × Outbox} :
    enqueueStale codec request nowMs (item :: stale) outbox = .ok out ↔
      ∃ job mid, enqueueJobTx codec (reindexJob request item nowMs) nowMs outbox = .ok (job, mid) ∧
        enqueueStale codec request nowMs stale mid = .ok out := by
  show ((enqueueJobTx codec (reindexJob request item nowMs) nowMs >>= fun _ => pure PUnit.unit) >>=
    fun _ => enqueueStale codec request nowMs stale) outbox = .ok out ↔ _
  rw [bind_assoc, Transaction.bind_eq_ok]
  rfl

theorem enqueueStale_ok_iff {request : ReindexRequest} {nowMs : Int} {stale : List MemoryItem}
    {outbox : Outbox} :
    (∃ out, enqueueStale codec request nowMs stale outbox = .ok out) ↔
      ∀ item ∈ stale, (reindexJob request item nowMs).accepted codec = true := by
  induction stale generalizing outbox with
  | nil =>
    refine ⟨fun _ item hitem => ?_, fun _ => ⟨_, rfl⟩⟩
    cases hitem
  | cons item stale ih =>
    simp only [enqueueStale_cons, List.forall_mem_cons]
    constructor
    · intro h
      obtain ⟨out, job, mid, hjob, hrest⟩ := h
      exact ⟨enqueueJobTx_ok_iff.1 ⟨_, hjob⟩, ih.1 ⟨out, hrest⟩⟩
    · intro h
      obtain ⟨⟨job, mid⟩, hjob⟩ := enqueueJobTx_ok_iff.2 h.1
      obtain ⟨out, hrest⟩ := ih.2 h.2
      exact ⟨out, job, mid, hjob, hrest⟩

/-- The checks of `MemoryStore::reindex`. -/
def ReindexRequest.valid (request : ReindexRequest) : Bool :=
  0 ≤ request.targetGeneration && !request.modelId.isBlank && request.batchSize ≠ 0 &&
    request.batchSize ≤ 10000

theorem reindexAll_eq_ok {nowMs : Int} {report : ReindexReport} :
    reindexAll codec request nowMs db = .ok (report, db') ↔
      request.valid = true ∧ ∃ outbox, enqueueStale codec request nowMs
          (staleItems db.items nowMs request.targetGeneration) db.outbox = .ok (.unit, outbox) ∧
        report = ⟨true, (staleItems db.items nowMs request.targetGeneration).length,
          request.targetGeneration⟩ ∧
        db' = { db with items := db.items.rebuildFts, outbox } := by
  have hreindex : reindex codec request nowMs db = .ok (report, db') ↔
      ∃ outbox, enqueueStale codec request nowMs
          (staleItems db.items nowMs request.targetGeneration) db.outbox = .ok (.unit, outbox) ∧
        report = ⟨true, (staleItems db.items nowMs request.targetGeneration).length,
          request.targetGeneration⟩ ∧
        db' = { db with items := db.items.rebuildFts, outbox } := by
    show (onOutbox (enqueueStale codec request nowMs
        (staleItems db.items.rebuildFts nowMs request.targetGeneration)) >>= fun _ => pure _)
      { db with items := db.items.rebuildFts } = .ok (report, db') ↔ _
    rw [Transaction.bind_eq_ok]
    constructor
    · intro h
      obtain ⟨_, mid, hzoom, hpure⟩ := h
      obtain ⟨rfl, rfl⟩ := Transaction.pure_eq_ok.1 hpure
      obtain ⟨outbox, hloop, heq⟩ := Transaction.zoom_eq_ok.1 hzoom
      exact ⟨outbox, hloop, rfl, heq.symm⟩
    · intro h
      obtain ⟨outbox, hloop, rfl, rfl⟩ := h
      exact ⟨.unit, _, Transaction.zoom_eq_ok.2 ⟨outbox, hloop, rfl⟩, rfl⟩
  rw [reindexAll, Transaction.lift_bind_eq_ok]
  simp only [hreindex, require_eq_ok]
  constructor
  · intro h
    obtain ⟨_, hvalid, h⟩ := h
    exact ⟨hvalid, h⟩
  · intro h
    exact ⟨(), h⟩

/-! ## What a command cannot touch -/

/-- The commands on turns and structured memories. -/
def WriterCommand.authoritative : WriterCommand → Bool
  | .commitBatch _ _ | .eraseCharacter _ _ => true
  | _ => false

theorem ensures_upsert_authority {nowMs : Int} (authority : AuthorityTables) :
    Transaction.Ensures (fun db => db.authority = authority)
      (upsertInTransaction codec input newId nowMs) fun _ db => db.authority = authority := by
  intro db record db' hdb hupsert
  obtain ⟨items, job, outbox, _, _, rfl⟩ := upsertInTransaction_eq_ok hupsert
  exact hdb

/-- **Only two commands work the authoritative tables.** -/
theorem next_authority {command : WriterCommand} (c : Connection)
    (h : command.authoritative = false) :
    (c.next codec command).database.authority = c.database.authority := by
  cases command with
  | commitBatch batch stamps => cases h
  | eraseCharacter request erasureId => cases h
  | upsert input newId nowMs =>
    refine Transaction.commit_keeps
      (fun db : Database => db.authority = c.database.authority) ?_ rfl
    intro db record db' hdb hupsert
    exact ensures_upsert_authority _ db record db' hdb (upsertRecord_eq_ok hupsert).2
  | importRecords records policy nowMs =>
    exact Transaction.commit_keeps (fun db : Database => db.authority = c.database.authority)
      (ensures_importAll (fun _ _ => ensures_upsert_authority _) records) rfl
  | reindex request nowMs =>
    refine Transaction.commit_keeps
      (fun db : Database => db.authority = c.database.authority) ?_ rfl
    intro db report db' hdb hreindex
    obtain ⟨_, outbox, _, _, rfl⟩ := reindexAll_eq_ok.1 hreindex
    exact hdb
  | delete id deletedAtMs => simp [Connection.next]
  | putEmbedding embedding nowMs => simp [Connection.next]
  | purgeExpired nowMs => simp [Connection.next]
  | enqueue job nowMs => simp [Connection.next]
  | claim worker nowMs leaseMs limit => simp [Connection.next]
  | complete id worker nowMs => simp [Connection.next]
  | fail id worker nowMs retryAtMs error => simp [Connection.next]

/-- A statement on the items that goes through or changes nothing. -/
theorem run_items_keeps {α : Type} {inv : ItemTables → Prop} {t : Tx α} {c : Connection}
    (h : inv c.database.items)
    (ht : ∀ db a db', inv db.items → t db = .ok (a, db') → inv db'.items) :
    inv (c.run t).2.database.items :=
  Transaction.commit_keeps (fun db : Database => inv db.items) ht h

/-- The commands that leave the index, the embeddings and the number of rows to upserts. -/
def WriterCommand.plain : WriterCommand → Bool
  | .reindex _ _ | .eraseCharacter _ _ | .putEmbedding _ _ => false
  | _ => true

/-- **What upserts and soft deletions keep**, every plain command keeps. -/
theorem next_items_keeps (codec : Codec) (inv : ItemTables → Prop)
    (hupserted : ∀ t input id nowMs, inv t → inv (upserted codec t input id nowMs))
    (hsoftDeleted : ∀ t p nowMs, inv t → inv (ItemTables.updateItems t p
      (MemoryItem.softDeleted nowMs) (MemoryItem.softDeleted_id nowMs)))
    {command : WriterCommand} (c : Connection) (hplain : command.plain = true)
    (h : inv c.database.items) : inv (c.next codec command).database.items := by
  have hupsert : ∀ input newId nowMs, Transaction.Ensures (fun db : Database => inv db.items)
      (upsertInTransaction codec input newId nowMs) fun _ db => inv db.items := by
    intro input newId nowMs db record db' hdb hupsert
    obtain ⟨items, job, outbox, hitems, _, rfl⟩ := upsertInTransaction_eq_ok hupsert
    rw [hitems.tables]
    exact hupserted _ _ _ _ hdb
  cases command with
  | reindex request nowMs => cases hplain
  | eraseCharacter request erasureId => cases hplain
  | putEmbedding embedding nowMs => cases hplain
  | upsert input newId nowMs =>
    apply run_items_keeps h
    intro db record db' hdb hrecord
    exact hupsert input newId nowMs db record db' hdb (upsertRecord_eq_ok hrecord).2
  | importRecords records policy nowMs =>
    apply run_items_keeps h
    exact ensures_importAll (fun input newId => hupsert input newId nowMs) records
  | delete id deletedAtMs =>
    simp only [Connection.next, Connection.run_onItems, softDelete_eq]
    exact hsoftDeleted _ _ _ h
  | purgeExpired nowMs =>
    simp only [Connection.next, Connection.run_onItems, purgeExpired_eq]
    exact hsoftDeleted _ _ _ h
  | commitBatch batch stamps => simpa [Connection.next] using h
  | enqueue job nowMs => simpa [Connection.next] using h
  | claim worker nowMs leaseMs limit => simpa [Connection.next] using h
  | complete id worker nowMs => simpa [Connection.next] using h
  | fail id worker nowMs retryAtMs error => simpa [Connection.next] using h

theorem next_put_items {embedding : EmbeddingInput} {nowMs : Int} (c : Connection) :
    (embedding.accepted c.database.items →
      (c.next codec (.putEmbedding embedding nowMs)).database.items =
        embedded embedding nowMs c.database.items) ∧
      (¬ embedding.accepted c.database.items →
        (c.next codec (.putEmbedding embedding nowMs)).database.items = c.database.items) := by
  simp only [Connection.next, Connection.run_onItems]
  constructor
  · intro haccepted
    have hput : putEmbedding embedding nowMs c.database.items =
        .ok ((), embedded embedding nowMs c.database.items) :=
      putEmbedding_eq_ok.2 ⟨haccepted, rfl⟩
    rw [Transaction.commit_of_ok hput]
  · intro hrefused
    cases hput : putEmbedding embedding nowMs c.database.items with
    | error error => rw [Transaction.commit_of_error hput]
    | ok out => exact absurd (putEmbedding_eq_ok.1 hput).1 hrefused

/-- The reindex goes through: the request is valid, and the outbox takes its jobs. -/
def reindexAccepted (codec : Codec) (request : ReindexRequest) (nowMs : Int) (t : ItemTables) :
    Bool :=
  request.valid && (staleItems t nowMs request.targetGeneration).all fun item =>
    (reindexJob request item nowMs).accepted codec

theorem reindexAccepted_iff {nowMs : Int} :
    reindexAccepted codec request nowMs db.items = true ↔
      ∃ out, reindexAll codec request nowMs db = .ok out := by
  simp only [reindexAccepted, Bool.and_eq_true, List.all_eq_true, Prod.exists, reindexAll_eq_ok,
    ← @enqueueStale_ok_iff codec request nowMs _ db.outbox]
  constructor
  · intro h
    obtain ⟨hvalid, ⟨⟩, outbox, hloop⟩ := h
    exact ⟨_, _, hvalid, outbox, hloop, rfl, rfl⟩
  · intro h
    obtain ⟨_, _, hvalid, outbox, hloop, _⟩ := h
    exact ⟨hvalid, _, outbox, hloop⟩

theorem next_reindex_items (request : ReindexRequest) (nowMs : Int) (c : Connection) :
    (c.next codec (.reindex request nowMs)).database.items =
      if reindexAccepted codec request nowMs c.database.items then c.database.items.rebuildFts
      else c.database.items := by
  simp only [Connection.next, Connection.run_database]
  cases hrun : reindexAll codec request nowMs c.database with
  | error error =>
    have hrefused : ¬ reindexAccepted codec request nowMs c.database.items = true := by
      rw [reindexAccepted_iff, hrun]
      simp
    rw [if_neg hrefused, Transaction.commit_of_error hrun]
  | ok out =>
    rw [if_pos (reindexAccepted_iff.2 ⟨out, hrun⟩), Transaction.commit_of_ok hrun]
    obtain ⟨_, outbox, _, _, hdb⟩ := reindexAll_eq_ok.1 hrun
    rw [hdb]

variable {request : CharacterMemoryErasureRequest}

theorem eraseCharacterMemory_invalid {error : MemoryError} (h : request.validate = .error error)
    (erasureId : Text) (c : Connection) :
    eraseCharacterMemory codec request erasureId c = (.error error, c) := by
  unfold eraseCharacterMemory
  rw [h]

theorem eraseCharacterMemory_valid (h : request.validate = .ok ()) (erasureId : Text)
    (c : Connection) :
    eraseCharacterMemory codec request erasureId c =
      (((eraseTx codec true request erasureId).commit c.database).1,
        ⟨((eraseTx codec true request erasureId).commit c.database).2, false⟩) := by
  unfold eraseCharacterMemory
  rw [h]
  rfl

/-- **No command leaves the connection authorized.** -/
theorem next_erasureAuthorized (codec : Codec) (command : WriterCommand) (c : Connection)
    (h : c.erasureAuthorized = false) : (c.next codec command).erasureAuthorized = false := by
  cases command with
  | eraseCharacter request erasureId =>
    simp only [Connection.next]
    cases hvalid : request.validate with
    | error error =>
      rw [eraseCharacterMemory_invalid hvalid]
      exact h
    | ok _ => rw [eraseCharacterMemory_valid hvalid]
  | _ => exact h

end NpcRuntime.Memory
