import NpcRuntime.Memory.Commits
import NpcRuntime.Memory.Effects
import Mathlib.Data.List.Dedup

/-!
# What an erasure does

In any run of the writer source links are between rows that are there (`next_sourced`). An erasure
then removes exactly the rows in scope and what hangs on them, and counts them right; the foreign
keys never stand in its way, since a memory that cites an erased turn goes before the turn does.

Two things go wrong (`character_erasure`). Jobs are matched by the bare identifier of what they are
about, so that of an item that stays may go; and the trigger of a deletion also removes from the
full-text index what a soft deletion has removed, which the index may refuse. Both happen
(`erasure_reaches_further`).
-/

namespace NpcRuntime.Memory

open Text Json

variable {codec : Codec}

/-! ## What is erased -/

section Scope

variable (scope : AuthorityScope) (db : Database)

def erasesTurn (id : Text) : Bool :=
  db.authority.turns.rows.any fun turn => turn.turnId = id && scope.covers turn.scope

/-- The memory is in scope, or cites a turn in scope. -/
def erasesMemory (id : Text) : Bool :=
  db.authority.memories.rows.any fun memory => memory.id = id && (scope.covers memory.scope ||
    db.authority.sources.rows.any fun link => link.memoryId = id && erasesTurn scope db link.turnId)

def erasesItem (id : Text) : Bool :=
  db.items.items.rows.any fun item => item.id = id && scope.coversItem item.scope

/-- The job is about a row that is erased. -/
def erasesJob (row : OutboxRow) : Bool :=
  row.aggregateId.any fun id =>
    erasesTurn scope db id || erasesMemory scope db id || erasesItem scope db id

/-- The database without what is erased. -/
def Database.erased : Database where
  items := db.items.deleteItems fun item => erasesItem scope db item.id
  outbox := db.outbox.delete (erasesJob scope db)
  authority := {
    turns := db.authority.turns.delete fun turn => erasesTurn scope db turn.turnId
    memories := db.authority.memories.delete fun memory => erasesMemory scope db memory.id
    sources := db.authority.sources.delete fun link => erasesMemory scope db link.memoryId }
  audit := db.audit

variable {scope db}

theorem contains_map_filter {α : Type} (l : List α) (key : α → Text) (p : α → Bool) (id : Text) :
    ((l.filter p).map key).contains id = l.any fun r => decide (key r = id) && p r := by
  rw [Bool.eq_iff_iff]
  simp only [List.contains_iff_mem, List.mem_map, List.mem_filter, List.any_eq_true,
    Bool.and_eq_true, decide_eq_true_eq]
  constructor
  · intro h
    obtain ⟨r, ⟨hr, hp⟩, hid⟩ := h
    exact ⟨r, hr, hid, hp⟩
  · intro h
    obtain ⟨r, hr, hid, hp⟩ := h
    exact ⟨r, ⟨hr, hp⟩, hid⟩

theorem contains_turnIds (id : Text) :
    (EraseIds.collect scope db).turnIds.contains id = erasesTurn scope db id :=
  contains_map_filter ..

theorem contains_memoryIds (h : Sourced db.authority) (id : Text) :
    (EraseIds.collect scope db).memoryIds.contains id = erasesMemory scope db id := by
  have hmem : id ∈ (EraseIds.collect scope db).memoryIds ↔
      (∃ memory ∈ db.authority.memories.rows, scope.covers memory.scope = true ∧ memory.id = id) ∨
        ∃ link ∈ db.authority.sources.rows, erasesTurn scope db link.turnId = true ∧
          link.memoryId = id := by
    simp only [← contains_turnIds, EraseIds.collect, List.mem_dedup, List.mem_append, List.mem_map,
      List.mem_filter, and_assoc]
  rw [Bool.eq_iff_iff, List.contains_iff_mem, hmem]
  simp only [erasesMemory, List.any_eq_true, Bool.and_eq_true, Bool.or_eq_true, decide_eq_true_eq]
  constructor
  · intro hcases
    rcases hcases with ⟨memory, hmemory, hcovers, hid⟩ | ⟨link, hlink, herased, hid⟩
    · exact ⟨memory, hmemory, hid, .inl hcovers⟩
    · obtain ⟨memory, hmemory, _, _, hmemoryId, _⟩ := h link hlink
      exact ⟨memory, hmemory, hmemoryId.trans hid, .inr ⟨link, hlink, hid, herased⟩⟩
  · intro hcases
    obtain ⟨memory, hmemory, hid, hcovers | ⟨link, hlink, hlinkId, herased⟩⟩ := hcases
    · exact .inl ⟨memory, hmemory, hcovers, hid⟩
    · exact .inr ⟨link, hlink, herased, hlinkId⟩

theorem contains_legacyIds (id : Text) :
    (EraseIds.collect scope db).legacyIds.contains id = erasesItem scope db id :=
  contains_map_filter ..

/-- A link to an erased turn is one of an erased memory. -/
theorem erasesMemory_of_turn (h : Sourced db.authority) {link : SourceLink}
    (hlink : link ∈ db.authority.sources.rows) (hturn : erasesTurn scope db link.turnId = true) :
    erasesMemory scope db link.memoryId = true := by
  obtain ⟨memory, hmemory, _, _, hid, _⟩ := h link hlink
  simp only [erasesMemory, List.any_eq_true, Bool.and_eq_true, Bool.or_eq_true, decide_eq_true_eq]
  exact ⟨memory, hmemory, hid, .inr ⟨link, hlink, rfl, hturn⟩⟩

theorem names_collect (h : Sourced db.authority) :
    (EraseIds.collect scope db).names = erasesJob scope db := by
  funext row
  simp only [EraseIds.names, contains_turnIds, contains_memoryIds h, contains_legacyIds, erasesJob]

end Scope

/-! ## The deletions -/

/-- No row refers to one that satisfies `p`. -/
theorem not_any_references {α β : Type} {l : List α} {f : α → Option β} {p : β → Bool}
    (h : ∀ a ∈ l, ∀ b, f a = some b → p b = false) : (!l.any fun a => (f a).any p) = true := by
  rw [Bool.not_eq_true', List.any_eq_false]
  intro a ha
  cases hfound : f a with
  | none => simp
  | some b => simpa using h a ha b hfound

theorem deleteSources_authorized (p : SourceLink → Bool) (t : AuthorityTables) :
    deleteSources true p t = .ok ((), { t with sources := t.sources.delete p }) := rfl

variable {t : AuthorityTables}

/-- Where no link is left to them, memories can be deleted. -/
theorem deleteMemories_authorized {p : StructuredMemory → Bool} (h : ∀ link ∈ t.sources.rows, ∀
      memory, t.memories.find? link.memoryId = some memory → p memory = false) :
    deleteMemories true p t = .ok ((), { t with memories := t.memories.delete p }) := by
  rw [deleteMemories, Transaction.reading_eq, Transaction.guard_bind_eq_ok]
  refine ⟨rfl, ?_⟩
  rw [Transaction.guard_bind_eq_ok]
  exact ⟨not_any_references h, rfl⟩

theorem deleteTurns_authorized {p : DeliveredTurn → Bool}
    (h : ∀ link ∈ t.sources.rows, ∀ turn, t.turns.find? link.turnId = some turn → p turn = false) :
    deleteTurns true p t = .ok ((), { t with turns := t.turns.delete p }) := by
  rw [deleteTurns, Transaction.reading_eq, Transaction.guard_bind_eq_ok]
  refine ⟨rfl, ?_⟩
  rw [Transaction.guard_bind_eq_ok]
  exact ⟨not_any_references h, rfl⟩

theorem deleteItems_eq (p : MemoryItem → Bool) (t : ItemTables) :
    deleteItems codec p t = if t.deletable codec p then .ok ((), t.deleteItems p)
      else .error (.database .corruptIndex) := by
  rw [deleteItems, Transaction.reading_eq]
  cases t.deletable codec p <;> rfl

/-- **The deletions go through** if the full-text index takes the removals. -/
theorem eraseRows_eq {scope : AuthorityScope} {db : Database} (h : Sourced db.authority) :
    eraseRows codec true (EraseIds.collect scope db) db =
      if db.items.deletable codec fun item => erasesItem scope db item.id then
        .ok ((), db.erased scope)
      else .error (.database .corruptIndex) := by
  have hmemories : deleteMemories true (fun memory => erasesMemory scope db memory.id)
      { db.authority with
        sources := db.authority.sources.delete fun link => erasesMemory scope db link.memoryId } =
      .ok ((), { db.authority with
        sources := db.authority.sources.delete fun link => erasesMemory scope db link.memoryId
        memories := db.authority.memories.delete fun memory =>
          erasesMemory scope db memory.id }) := by
    apply deleteMemories_authorized
    intro link hlink memory hmemory
    rw [(Rows.find?_eq_some.1 hmemory).2]
    exact (Rows.mem_delete.1 hlink).2
  have hturns : deleteTurns true (fun turn => erasesTurn scope db turn.turnId)
      { db.authority with
        sources := db.authority.sources.delete fun link => erasesMemory scope db link.memoryId
        memories := db.authority.memories.delete fun memory => erasesMemory scope db memory.id } =
      .ok ((), (db.erased scope).authority) := by
    apply deleteTurns_authorized
    intro link hlink turn hturn
    rw [(Rows.find?_eq_some.1 hturn).2]
    obtain ⟨hlink, hkept⟩ := Rows.mem_delete.1 hlink
    by_contra herased
    rw [erasesMemory_of_turn h hlink (by simpa using herased)] at hkept
    cases hkept
  have hauthority : (do
      deleteSources true fun link => erasesMemory scope db link.memoryId
      deleteMemories true fun memory => erasesMemory scope db memory.id
      deleteTurns true fun turn => erasesTurn scope db turn.turnId) db.authority =
      .ok ((), (db.erased scope).authority) :=
    Transaction.bind_eq_ok.2 ⟨(), _, deleteSources_authorized _ _,
      Transaction.bind_eq_ok.2 ⟨(), _, hmemories, hturns⟩⟩
  have hrows : onAuthority (do
      deleteSources true fun link => erasesMemory scope db link.memoryId
      deleteMemories true fun memory => erasesMemory scope db memory.id
      deleteTurns true fun turn => erasesTurn scope db turn.turnId)
        { db with outbox := (db.erased scope).outbox } =
      .ok ((), { db.erased scope with items := db.items }) :=
    Transaction.zoom_eq_ok.2 ⟨_, hauthority, rfl⟩
  unfold eraseRows
  simp only [names_collect h, contains_turnIds, contains_memoryIds h, contains_legacyIds]
  have houtbox : onOutbox (.write fun outbox => outbox.delete (erasesJob scope db)) db =
      .ok ((), { db with outbox := (db.erased scope).outbox }) := rfl
  rw [Transaction.bind_of_ok houtbox, Transaction.bind_of_ok hrows]
  show (deleteItems codec (fun item => erasesItem scope db item.id) db.items).map _ = _
  rw [deleteItems_eq]
  split <;> rfl

/-! ## The audit row -/

/-- The table takes the audit row. -/
def ErasureAudit.Accepted (audit : ErasureAudit) (db : Database) : Prop :=
  audit.check = true ∧ db.audit.find? audit.erasureId = none

/-- The refusals of the table. -/
def ErasureAudit.refused (audit : ErasureAudit) : MemoryError :=
  .database (.constraint
    (if audit.check then "memory_erasure_audit.erasure_id" else "memory_erasure_audit"))

theorem insertAudit_of_accepted {audit : ErasureAudit} {db : Database} (h : audit.Accepted db) :
    insertAudit audit db = .ok ((), { db with audit := db.audit.insert audit h.2 }) := by
  rw [insertAudit, Transaction.reading_eq, Transaction.guard_bind_eq_ok]
  refine ⟨h.1, ?_⟩
  rw [constraint_bind_eq_ok]
  exact ⟨_, dif_pos h.2, rfl⟩

theorem insertAudit_of_not_accepted {audit : ErasureAudit} {db : Database}
    (h : ¬ audit.Accepted db) : insertAudit audit db = .error audit.refused := by
  unfold insertAudit ErasureAudit.refused
  by_cases hcheck : audit.check = true
  · have htaken : db.audit.find? audit.erasureId ≠ none := fun hfree => h ⟨hcheck, hfree⟩
    have hinsert : db.audit.insert? audit = none := dif_neg htaken
    rw [if_pos hcheck, Transaction.reading_eq, hcheck, hinsert]
    rfl
  · rw [if_neg hcheck, Transaction.reading_eq, (Bool.not_eq_true _).mp hcheck]
    rfl

/-- The audit row of an erasure. -/
def erasureAudit (codec : Codec) (request : CharacterMemoryErasureRequest) (erasureId : Text)
    (db : Database) : ErasureAudit :=
  (EraseIds.collect request.scope db).auditRow codec request erasureId
    (db.outbox.rows.countP (EraseIds.collect request.scope db).names)

/-- The erasure goes through: the request is valid, the full-text index takes the removals, and the
audit table takes the row. -/
structure EraseAccepted (codec : Codec) (request : CharacterMemoryErasureRequest) (erasureId : Text)
    (db : Database) : Prop where
  valid : request.validate = .ok ()
  deletable : db.items.deletable codec (fun item => erasesItem request.scope db item.id) = true
  audited : (erasureAudit codec request erasureId db).Accepted db

section Call

variable {request : CharacterMemoryErasureRequest} {erasureId : Text} {c : Connection}

/-- **An erasure that goes through.** -/
theorem eraseCharacterMemory_of_accepted (h : Sourced c.database.authority)
    (haccepted : EraseAccepted codec request erasureId c.database) :
    eraseCharacterMemory codec request erasureId c =
      (.ok (erasureAudit codec request erasureId c.database).report,
        ⟨{ c.database.erased request.scope with
          audit := c.database.audit.insert (erasureAudit codec request erasureId c.database)
            haccepted.audited.2 }, false⟩) := by
  have hrows := @eraseRows_eq codec request.scope _ h
  rw [if_pos haccepted.deletable] at hrows
  have htx : eraseTx codec true request erasureId c.database =
      .ok ((erasureAudit codec request erasureId c.database).report,
        { c.database.erased request.scope with
          audit := c.database.audit.insert (erasureAudit codec request erasureId c.database)
            haccepted.audited.2 }) :=
    Transaction.bind_eq_ok.2 ⟨(), _, hrows, Transaction.bind_eq_ok.2
      ⟨(), _, @insertAudit_of_accepted _ (c.database.erased request.scope) haccepted.audited, rfl⟩⟩
  rw [eraseCharacterMemory_valid haccepted.valid, Transaction.commit_of_ok htx]

/-- **An erasure that is refused** changes nothing, and no foreign key refuses it. -/
theorem eraseCharacterMemory_of_not_accepted (h : Sourced c.database.authority)
    (hrefused : ¬ EraseAccepted codec request erasureId c.database) :
    ∃ error c', eraseCharacterMemory codec request erasureId c = (.error error, c') ∧
      c'.database = c.database ∧ (request.validate = .error error ∨
        error = .database .corruptIndex ∨
        error = (erasureAudit codec request erasureId c.database).refused) := by
  cases hvalid : request.validate with
  | error error => exact ⟨error, c, eraseCharacterMemory_invalid hvalid erasureId c, rfl, .inl rfl⟩
  | ok _ =>
    rw [eraseCharacterMemory_valid hvalid]
    have hrows := @eraseRows_eq codec request.scope _ h
    by_cases hdeletable : c.database.items.deletable codec fun item =>
        erasesItem request.scope c.database item.id
    · rw [if_pos hdeletable] at hrows
      have hinsert := @insertAudit_of_not_accepted _ (c.database.erased request.scope)
        fun haudit => hrefused ⟨hvalid, hdeletable, haudit⟩
      have htx : eraseTx codec true request erasureId c.database =
          .error (erasureAudit codec request erasureId c.database).refused := by
        rw [eraseTx, Transaction.reading_eq, Transaction.bind_of_ok hrows]
        exact Transaction.bind_of_error hinsert
      rw [Transaction.commit_of_error htx]
      exact ⟨_, _, rfl, rfl, .inr (.inr rfl)⟩
    · rw [if_neg hdeletable] at hrows
      have htx : eraseTx codec true request erasureId c.database =
          .error (.database .corruptIndex) := by
        rw [eraseTx, Transaction.reading_eq]
        exact Transaction.bind_of_error hrows
      rw [Transaction.commit_of_error htx]
      exact ⟨_, _, rfl, rfl, .inr (.inl rfl)⟩

end Call

/-! ## The links of a run -/

theorem sourced_erased {scope : AuthorityScope} {db : Database} (h : Sourced db.authority) :
    Sourced (db.erased scope).authority := by
  intro link hlink
  obtain ⟨hlink, hkept⟩ := Rows.mem_delete.1 hlink
  obtain ⟨memory, hmemory, turn, hturn, hid, hturnId, hscope⟩ := h link hlink
  refine ⟨memory, Rows.mem_delete.2 ⟨hmemory, ?_⟩, turn, Rows.mem_delete.2 ⟨hturn, ?_⟩, hid,
    hturnId, hscope⟩
  · rw [hid]
    exact hkept
  · rw [hturnId]
    by_contra herased
    rw [erasesMemory_of_turn h hlink (by simpa using herased)] at hkept
    cases hkept

theorem commitBatch_eq_ok {batch : MemoryCommitBatch} {stamps : Nat → Stamp} {t' : AuthorityTables}
    {report : MemoryCommitReport} :
    commitBatch codec batch stamps t = .ok (report, t') ↔ batch.validate = .ok () ∧
      commitAuthoritativeBatch codec batch stamps t = .ok (report, t') := by
  rw [commitBatch, Transaction.lift_bind_eq_ok]
  constructor
  · intro h
    obtain ⟨_, hvalid, h⟩ := h
    exact ⟨hvalid, h⟩
  · intro h
    exact ⟨(), h⟩

theorem commitAuthoritativeBatch_sourced {batch : MemoryCommitBatch} {stamps : Nat → Stamp}
    {t' : AuthorityTables} {report : MemoryCommitReport}
    (h : commitAuthoritativeBatch codec batch stamps t = .ok (report, t')) (hsourced : Sourced t) :
    Sourced t' := by
  obtain ⟨stored, mid, records, hstore, hderive, _⟩ := commitAuthoritativeBatch_eq_ok.1 h
  exact (insertStamped_eq_ok hderive).sourced ((commitTurns_eq_ok hstore).sourced hsourced)

/-- **Every command keeps the links between rows that are there.** -/
theorem next_sourced (command : WriterCommand) (c : Connection)
    (h : Sourced c.database.authority) : Sourced (c.next codec command).database.authority := by
  by_cases hcommand : command.authoritative = false
  · rw [next_authority c hcommand]
    exact h
  · cases command with
    | commitBatch batch stamps =>
      simp only [Connection.next, Connection.run_onAuthority]
      refine Transaction.commit_keeps Sourced ?_ h
      intro t report t' ht hcommit
      exact commitAuthoritativeBatch_sourced (commitBatch_eq_ok.1 hcommit).2 ht
    | eraseCharacter request erasureId =>
      simp only [Connection.next]
      by_cases haccepted : EraseAccepted codec request erasureId c.database
      · rw [eraseCharacterMemory_of_accepted h haccepted]
        exact sourced_erased h
      · obtain ⟨error, c', herase, hsame, _⟩ := eraseCharacterMemory_of_not_accepted h haccepted
        rw [herase, hsame]
        exact h
    | _ => exact absurd rfl hcommand

theorem run_sourced (codec : Codec) (commands : List WriterCommand) :
    Sourced (runFrom (Connection.next codec) commands .start).database.authority :=
  inv_runFrom (fun c => Sourced c.database.authority) (fun c command h => next_sourced command c h)
    (by intro link hlink; cases hlink) commands

theorem run_erasureAuthorized (codec : Codec) (commands : List WriterCommand) :
    (runFrom (Connection.next codec) commands .start).erasureAuthorized = false :=
  inv_runFrom (fun c => c.erasureAuthorized = false)
    (fun c command h => next_erasureAuthorized codec command c h) rfl commands

variable {request : CharacterMemoryErasureRequest}

theorem next_erase_items {erasureId : Text} {c : Connection} (h : Sourced c.database.authority) :
    (EraseAccepted codec request erasureId c.database →
      (c.next codec (.eraseCharacter request erasureId)).database.items =
        c.database.items.deleteItems fun item => erasesItem request.scope c.database item.id) ∧
      (¬ EraseAccepted codec request erasureId c.database →
        (c.next codec (.eraseCharacter request erasureId)).database.items = c.database.items) := by
  simp only [Connection.next]
  constructor
  · intro haccepted
    rw [eraseCharacterMemory_of_accepted h haccepted]
    rfl
  · intro hrefused
    obtain ⟨error, c', herase, hsame, _⟩ := eraseCharacterMemory_of_not_accepted h hrefused
    rw [herase, hsame]

/-! ## Complete and exact -/

/-- **A complete and exact erasure.** Of each table the rows in scope go with what hangs on them;
the others stay as they are. -/
structure CompleteErasure (scope : AuthorityScope) (db db' : Database)
    (report : CharacterMemoryErasureReport) : Prop where
  status : characterMemoryStatus db' scope = .ok ⟨0, 0, 0⟩
  turns : db'.authority.turns.rows =
    db.authority.turns.rows.filter fun turn => !scope.covers turn.scope
  /-- The memories that stay are out of scope and cite no erased turn. -/
  memories : db'.authority.memories.rows = db.authority.memories.rows.filter fun memory =>
    !(scope.covers memory.scope || db.authority.sources.rows.any fun link =>
      link.memoryId = memory.id && erasesTurn scope db link.turnId)
  sources : db'.authority.sources.rows = db.authority.sources.rows.filter fun link =>
    !(erasesMemory scope db link.memoryId || erasesTurn scope db link.turnId)
  items : db'.items.items.rows =
    db.items.items.rows.filter fun item => !scope.coversItem item.scope
  index : db'.items.fts = db.items.fts.deletedWhere MemoryItem.ftsEntry
    (fun item => scope.coversItem item.scope) db.items.items.rows
  embeddings : db'.items.embeddings.rows =
    db.items.embeddings.rows.filter fun embedding => !erasesItem scope db embedding.itemId
  outbox : db'.outbox.rows = db.outbox.rows.filter fun row => !erasesJob scope db row
  audit : ∃ row : ErasureAudit, db'.audit.rows = db.audit.rows ++ [row] ∧ row.report = report
  turnsCounted : db'.authority.turns.rows.length + report.deliveredTurnsDeleted =
    db.authority.turns.rows.length
  memoriesCounted : db'.authority.memories.rows.length + report.structuredMemoriesDeleted =
    db.authority.memories.rows.length
  itemsCounted : db'.items.items.rows.length + report.legacyItemsDeleted =
    db.items.items.rows.length
  jobsCounted : db'.outbox.rows.length + report.outboxJobsDeleted = db.outbox.rows.length

/-- A deletion that goes through removes nothing. -/
structure Connection.DeletionForbidden (c : Connection) : Prop where
  turns : ∀ p t u t', deleteTurns c.erasureAuthorized p t = .ok (u, t') → t' = t
  memories : ∀ p t u t', deleteMemories c.erasureAuthorized p t = .ok (u, t') → t' = t
  sources : ∀ p t u t', deleteSources c.erasureAuthorized p t = .ok (u, t') → t' = t

theorem rows_delete_eq {α κ : Type} {key : α → κ} {t : Rows key} {p : α → Bool}
    (h : (!t.rows.any p) = true) : t.delete p = t := by
  apply Rows.ext
  rw [Bool.not_eq_true', List.any_eq_false] at h
  refine List.filter_eq_self.2 ?_
  intro row hrow
  simpa using h row hrow

theorem deletionForbidden {c : Connection} (h : c.erasureAuthorized = false) :
    c.DeletionForbidden := by
  constructor
  · intro p t u t' hdelete
    rw [h, deleteTurns, Transaction.reading_eq, Transaction.guard_bind_eq_ok] at hdelete
    obtain ⟨hnone, hdelete⟩ := hdelete
    rw [Transaction.guard_bind_eq_ok] at hdelete
    obtain rfl := Transaction.write_eq_ok.1 hdelete.2
    rw [rows_delete_eq hnone]
  · intro p t u t' hdelete
    rw [h, deleteMemories, Transaction.reading_eq, Transaction.guard_bind_eq_ok] at hdelete
    obtain ⟨hnone, hdelete⟩ := hdelete
    rw [Transaction.guard_bind_eq_ok] at hdelete
    obtain rfl := Transaction.write_eq_ok.1 hdelete.2
    rw [rows_delete_eq hnone]
  · intro p t u t' hdelete
    rw [h, deleteSources, Transaction.reading_eq, Transaction.guard_bind_eq_ok] at hdelete
    obtain ⟨hnone, hdelete⟩ := hdelete
    obtain rfl := Transaction.write_eq_ok.1 hdelete
    rw [rows_delete_eq hnone]

section Exact

variable {scope : AuthorityScope} {db : Database}

theorem erasesTurn_of_mem {turn : DeliveredTurn} (h : turn ∈ db.authority.turns.rows) :
    erasesTurn scope db turn.turnId = scope.covers turn.scope :=
  db.authority.turns.any_key_eq h _

theorem erasesMemory_of_mem {memory : StructuredMemory} (h : memory ∈ db.authority.memories.rows) :
    erasesMemory scope db memory.id = (scope.covers memory.scope ||
      db.authority.sources.rows.any fun link =>
        link.memoryId = memory.id && erasesTurn scope db link.turnId) :=
  db.authority.memories.any_key_eq h fun other => scope.covers other.scope ||
    db.authority.sources.rows.any fun link =>
      link.memoryId = memory.id && erasesTurn scope db link.turnId

theorem erasesItem_of_mem {item : MemoryItem} (h : item ∈ db.items.items.rows) :
    erasesItem scope db item.id = scope.coversItem item.scope :=
  db.items.items.any_key_eq h _

/-- The identifiers collected for the memories are those of the rows that go. -/
theorem memoryIds_length (h : Sourced db.authority) :
    (EraseIds.collect scope db).memoryIds.length =
      db.authority.memories.rows.countP fun memory => erasesMemory scope db memory.id := by
  have hperm : (EraseIds.collect scope db).memoryIds.Perm
      ((db.authority.memories.rows.filter fun memory => erasesMemory scope db memory.id).map
        StructuredMemory.id) := by
    have hnodup : (EraseIds.collect scope db).memoryIds.Nodup := List.nodup_dedup _
    rw [List.perm_ext_iff_of_nodup hnodup
      (db.authority.memories.nodup.sublist (List.filter_sublist.map _))]
    intro id
    rw [← List.contains_iff_mem, contains_memoryIds h, List.mem_map]
    constructor
    · intro herased
      have hrow := herased
      simp only [erasesMemory, List.any_eq_true, Bool.and_eq_true, decide_eq_true_eq] at hrow
      obtain ⟨memory, hmemory, rfl, _⟩ := hrow
      exact ⟨memory, List.mem_filter.2 ⟨hmemory, herased⟩, rfl⟩
    · intro hmem
      obtain ⟨memory, hmemory, rfl⟩ := hmem
      exact (List.mem_filter.1 hmemory).2
  rw [hperm.length_eq, List.length_map, List.countP_eq_length_filter]

/-- What is kept and what goes are all there was. -/
theorem length_filter_not {α : Type} (p : α → Bool) (l : List α) :
    (l.filter fun a => !p a).length + l.countP p = l.length := by
  have hsplit := l.length_eq_length_filter_add p
  rw [List.countP_eq_length_filter]
  omega

/-- An item that goes takes its embeddings along. -/
theorem erasesItem_eq_any (itemId : Text) :
    (db.items.items.find? itemId).any (fun item => erasesItem scope db item.id) =
      erasesItem scope db itemId := by
  cases hfind : db.items.items.find? itemId with
  | none =>
    rw [Option.any_none, eq_comm, erasesItem, List.any_eq_false]
    intro item hitem
    simp [Rows.find?_eq_none.1 hfind item hitem]
  | some item => rw [Option.any_some, (Rows.find?_eq_some.1 hfind).2]

theorem countP_filter_not {α : Type} {p q : α → Bool} (h : ∀ a, p a = true → q a = true)
    (l : List α) : (l.filter fun a => !q a).countP p = 0 := by
  rw [List.countP_eq_zero]
  intro a ha hp
  rw [List.mem_filter, h a hp] at ha
  cases ha.2

theorem completeErasure {codec : Codec} {erasureId : Text} {db : Database}
    (h : Sourced db.authority) (hcharacter : request.scope.characterId.isSome)
    (haudit : (erasureAudit codec request erasureId db).Accepted db) :
    CompleteErasure request.scope db { db.erased request.scope with
      audit := db.audit.insert (erasureAudit codec request erasureId db) haudit.2 }
      (erasureAudit codec request erasureId db).report := by
  have hturns : (db.authority.turns.rows.filter fun turn =>
      !erasesTurn request.scope db turn.turnId) =
      db.authority.turns.rows.filter fun turn => !request.scope.covers turn.scope :=
    List.filter_congr fun turn hturn => by rw [erasesTurn_of_mem hturn]
  have hmemories : (db.authority.memories.rows.filter fun memory =>
      !erasesMemory request.scope db memory.id) =
      db.authority.memories.rows.filter fun memory =>
        !(request.scope.covers memory.scope || db.authority.sources.rows.any fun link =>
          link.memoryId = memory.id && erasesTurn request.scope db link.turnId) :=
    List.filter_congr fun memory hmemory => by rw [erasesMemory_of_mem hmemory]
  have hitems : (db.items.items.rows.filter fun item => !erasesItem request.scope db item.id) =
      db.items.items.rows.filter fun item => !request.scope.coversItem item.scope :=
    List.filter_congr fun item hitem => by rw [erasesItem_of_mem hitem]
  have hstatus : characterMemoryStatus { db.erased request.scope with
      audit := db.audit.insert (erasureAudit codec request erasureId db) haudit.2 }
      request.scope = .ok ⟨0, 0, 0⟩ := by
    obtain ⟨characterId, hcharacter⟩ := Option.isSome_iff_exists.1 hcharacter
    have hcounts : (⟨(db.authority.turns.rows.filter fun turn =>
            !erasesTurn request.scope db turn.turnId).countP
              fun turn => request.scope.covers turn.scope,
        (db.authority.memories.rows.filter fun memory =>
            !erasesMemory request.scope db memory.id).countP
              fun memory => request.scope.covers memory.scope,
        (db.items.items.rows.filter fun item => !erasesItem request.scope db item.id).countP
          fun item => request.scope.coversItem item.scope⟩ : CharacterMemoryStatusReport) =
        ⟨0, 0, 0⟩ := by
      rw [hturns, hmemories, hitems, countP_filter_not fun _ h => h,
        countP_filter_not fun _ h => h, countP_filter_not]
      intro memory hcovers
      rw [hcovers, Bool.true_or]
    unfold characterMemoryStatus
    rw [hcharacter]
    exact congrArg Except.ok hcounts
  exact {
    status := hstatus
    turns := hturns
    memories := hmemories
    sources := by
      apply List.filter_congr
      intro link hlink
      cases hturn : erasesTurn request.scope db link.turnId with
      | false => rw [Bool.or_false]
      | true =>
        dsimp only
        rw [erasesMemory_of_turn h hlink hturn, Bool.true_or]
    items := hitems
    index := by
      have hdoomed : (db.items.items.rows.filter fun item => erasesItem request.scope db item.id) =
          db.items.items.rows.filter fun item => request.scope.coversItem item.scope :=
        List.filter_congr fun item hitem => erasesItem_of_mem hitem
      show db.items.fts.deletedWhere MemoryItem.ftsEntry
        (fun item => erasesItem request.scope db item.id) db.items.items.rows = _
      unfold ContentIndex.deletedWhere
      rw [hdoomed]
    embeddings := by
      apply List.filter_congr
      intro embedding _
      dsimp only
      rw [erasesItem_eq_any]
    outbox := rfl
    audit := ⟨_, rfl, rfl⟩
    turnsCounted := by
      show (db.authority.turns.rows.filter fun turn =>
        !erasesTurn request.scope db turn.turnId).length +
          (EraseIds.collect request.scope db).turnIds.length = _
      have hcollected : (EraseIds.collect request.scope db).turnIds.length =
          db.authority.turns.rows.countP fun turn => request.scope.covers turn.scope := by
        rw [EraseIds.collect, List.length_map, List.countP_eq_length_filter]
      rw [hturns, hcollected]
      exact length_filter_not _ _
    memoriesCounted := by
      show (db.authority.memories.rows.filter fun memory =>
        !erasesMemory request.scope db memory.id).length +
          (EraseIds.collect request.scope db).memoryIds.length = _
      rw [memoryIds_length h]
      exact length_filter_not _ _
    itemsCounted := by
      show (db.items.items.rows.filter fun item =>
        !erasesItem request.scope db item.id).length +
          (EraseIds.collect request.scope db).legacyIds.length = _
      have hcollected : (EraseIds.collect request.scope db).legacyIds.length =
          db.items.items.rows.countP fun item => request.scope.coversItem item.scope := by
        rw [EraseIds.collect, List.length_map, List.countP_eq_length_filter]
      rw [hitems, hcollected]
      exact length_filter_not _ _
    jobsCounted := by
      show (db.outbox.rows.filter fun row => !erasesJob request.scope db row).length +
        db.outbox.rows.countP (EraseIds.collect request.scope db).names = _
      rw [names_collect h]
      exact length_filter_not _ _ }

/-- The request is for one character. -/
theorem CharacterMemoryErasureRequest.character_of_validate (h : request.validate = .ok ()) :
    request.scope.characterId.isSome := by
  obtain ⟨_, h⟩ := check_eq_ok.1 h
  exact require_eq_ok.1 (check_eq_ok.1 h).1

/-- What an erasure promises, whether it succeeds or not. -/
structure ErasureContract (codec : Codec) (request : CharacterMemoryErasureRequest)
    (erasureId : Text) (c : Connection) : Prop where
  complete : ∀ report c', eraseCharacterMemory codec request erasureId c = (.ok report, c') →
    CompleteErasure request.scope c.database c'.database report
  /-- Foreign keys never make it fail. -/
  failed : ∀ error c', eraseCharacterMemory codec request erasureId c = (.error error, c') →
    c'.database = c.database ∧ (request.validate = .error error ∨
      error = .database .corruptIndex ∨
      error = (erasureAudit codec request erasureId c.database).refused)
  /-- Deletion is forbidden before the call and after it. -/
  forbidden : c.DeletionForbidden ∧
    (eraseCharacterMemory codec request erasureId c).2.DeletionForbidden

/-- The job asks for the embedding of an item that stays. -/
def keptItemJob (scope : AuthorityScope) (db : Database) (row : OutboxRow) : Bool :=
  row.kind = embeddingKind && db.items.items.rows.any fun item =>
    row.aggregateId = some item.id && !scope.coversItem item.scope

/-- What else an erasure owes: nothing but its audit row stands in the way of a valid request, and
the jobs of the items that stay stay with them. -/
structure ExactErasure (codec : Codec) (request : CharacterMemoryErasureRequest)
    (erasureId : Text) (c : Connection) : Prop where
  succeeds : request.validate = .ok () →
    (erasureAudit codec request erasureId c.database).Accepted c.database →
      ∃ report c', eraseCharacterMemory codec request erasureId c = (.ok report, c')
  keepsJobs : ∀ report c', eraseCharacterMemory codec request erasureId c = (.ok report, c') →
    ∀ row ∈ c.database.outbox.rows, keptItemJob request.scope c.database row = true →
      row ∈ c'.database.outbox.rows

/-- The full-text index takes the removals, and no job of an item that stays has the identifier of
a row that goes. -/
def ErasureSafe (codec : Codec) (request : CharacterMemoryErasureRequest) (erasureId : Text)
    (db : Database) : Prop :=
  request.validate = .ok () → (erasureAudit codec request erasureId db).Accepted db →
    db.items.deletable codec (fun item => erasesItem request.scope db item.id) = true ∧
    ∀ row ∈ db.outbox.rows, keptItemJob request.scope db row = true →
      erasesJob request.scope db row = false

/-- **Character erasure is complete and atomic**, in any run of the writer, and exact where the
full-text index takes the removals and identifiers are not shared. -/
theorem character_erasure (codec : Codec) (commands : List WriterCommand)
    (request : CharacterMemoryErasureRequest) (erasureId : Text) :
    ErasureContract codec request erasureId
        (runFrom (Connection.next codec) commands .start) ∧
      (ExactErasure codec request erasureId (runFrom (Connection.next codec) commands .start) ↔
        ErasureSafe codec request erasureId
          (runFrom (Connection.next codec) commands .start).database) := by
  have hsourced := run_sourced codec commands
  have hauthorized := run_erasureAuthorized codec commands
  generalize runFrom (Connection.next codec) commands .start = c at hsourced hauthorized
  have hnext := next_erasureAuthorized codec (.eraseCharacter request erasureId) c
    hauthorized
  have haccepts : ∀ report c', eraseCharacterMemory codec request erasureId c = (.ok report, c') →
      EraseAccepted codec request erasureId c.database := by
    intro report c' herase
    by_contra hrefused
    obtain ⟨error, c'', hfails, _⟩ := eraseCharacterMemory_of_not_accepted hsourced hrefused
    rw [hfails] at herase
    cases herase
  refine ⟨⟨?_, ?_, deletionForbidden hauthorized, deletionForbidden hnext⟩, ?_, ?_⟩
  · intro report c' herase
    have haccepted := haccepts report c' herase
    rw [eraseCharacterMemory_of_accepted hsourced haccepted] at herase
    cases herase
    exact completeErasure hsourced
      (CharacterMemoryErasureRequest.character_of_validate haccepted.valid) haccepted.audited
  · intro error c' herase
    by_cases haccepted : EraseAccepted codec request erasureId c.database
    · rw [eraseCharacterMemory_of_accepted hsourced haccepted] at herase
      cases herase
    · obtain ⟨refusal, c'', hfails, hsame, hreason⟩ :=
        eraseCharacterMemory_of_not_accepted hsourced haccepted
      rw [hfails] at herase
      cases herase
      exact ⟨hsame, hreason⟩
  · intro hexact hvalid haudit
    obtain ⟨report, c', herase⟩ := hexact.succeeds hvalid haudit
    have haccepted := haccepts report c' herase
    refine ⟨haccepted.deletable, fun row hrow hkept => ?_⟩
    have hstays := hexact.keepsJobs report c' herase row hrow hkept
    rw [eraseCharacterMemory_of_accepted hsourced haccepted] at herase
    cases herase
    exact (Rows.mem_delete.1 hstays).2
  · intro hsafe
    refine ⟨fun hvalid haudit => ?_, fun report c' herase row hrow hkept => ?_⟩
    · exact ⟨_, _, eraseCharacterMemory_of_accepted hsourced
        ⟨hvalid, (hsafe hvalid haudit).1, haudit⟩⟩
    · have haccepted := haccepts report c' herase
      rw [eraseCharacterMemory_of_accepted hsourced haccepted] at herase
      cases herase
      exact Rows.mem_delete.2
        ⟨hrow, (hsafe haccepted.valid haccepted.audited).2 row hrow hkept⟩

end Exact

/-! ### What else goes -/

/-- The default provenance. -/
def runtimeProvenance : Provenance := ⟨"runtime".toList, none, none, none, none, []⟩

/-- A codec for the note `n`, and for the scope of the character `c`. -/
def noteCodec : Codec := .known (fun _ => []) [runtimeProvenance] []
  [("n".toList, "1b16b1df538ba12dc3f97edbb85caa7050d46c148134290feba80f8236c83db9".toList),
    ((AuthorityScope.json ⟨"u".toList, "p".toList, "g".toList, some "c".toList, none, none,
      none⟩).text fun _ => [],
      "f8f3794f0487782034e17475f353412900cff14a3bbe01351abc7f54fb80f5da".toList)]

/-- The note as an item of a profile. -/
def noteItem (id profileId : String) : MemoryInput where
  id := some id.toList
  «namespace» := .event
  scope := ⟨some profileId.toList, some "g".toList, some "c".toList, none, none⟩
  visibility := .private
  content := "n".toList
  provenance := runtimeProvenance
  confidence := 1
  importance := 1
  observedAtMs := 0
  expiresAtMs := none
  expectedRevision := none

/-- The note as a turn of the character `c`. -/
def noteTurn (turnId : String) : TurnCommitInput where
  turnId := turnId.toList
  scope := ⟨"u".toList, "p".toList, "g".toList, some "c".toList, none, none, none⟩
  speaker := .player
  text := "n".toList
  delivery := .delivered 0
  createdAtMs := 0
  sequence := 0
  cancellationGeneration := 0
  providerId := none
  deliveryReceiptId := none
  provenance := runtimeProvenance

/-- A turn of the character, and an item of another profile under the same identifier. -/
def sharedIdentifier : List WriterCommand :=
  [.commitBatch ⟨[noteTurn "x"], []⟩ fun _ => ⟨[], 0⟩, .upsert (noteItem "x" "q") [] 0]

/-- An item of the character expires and is purged. -/
def purgedItem : List WriterCommand :=
  [.upsert { noteItem "i" "p" with expiresAtMs := some 5 } [] 0, .purgeExpired 10]

def characterRequest : CharacterMemoryErasureRequest :=
  ⟨⟨"u".toList, "p".toList, "g".toList, some "c".toList, none, none, none⟩, 0⟩

def randomId : Text := "00000000-0000-4000-8000-000000000001".toList

/-- **An erasure removes the job of an item that stays**, which shares its identifier with a turn
that goes, **and is refused** where the index lists nothing of an item that is deleted already. -/
theorem erasure_reaches_further :
    (¬ ExactErasure noteCodec characterRequest randomId
      (runFrom (Connection.next noteCodec) sharedIdentifier .start)) ∧
    ¬ ExactErasure noteCodec characterRequest randomId
      (runFrom (Connection.next noteCodec) purgedItem .start) := by
  have hvalid : characterRequest.validate = .ok () := by decide
  constructor
  · intro hexact
    obtain ⟨report, c', herase⟩ := hexact.succeeds hvalid ⟨by decide +kernel, by decide +kernel⟩
    have hjobs : ∃ row ∈ (runFrom (Connection.next noteCodec) sharedIdentifier
        .start).database.outbox.rows, keptItemJob characterRequest.scope (runFrom
          (Connection.next noteCodec) sharedIdentifier .start).database row = true := by
      decide +kernel
    obtain ⟨row, hrow, hkept⟩ := hjobs
    have hstays := hexact.keepsJobs report c' herase row hrow hkept
    have hgone : (eraseCharacterMemory noteCodec characterRequest randomId
        (runFrom (Connection.next noteCodec) sharedIdentifier .start)).2.database.outbox.rows =
        [] := by
      decide +kernel
    rw [herase] at hgone
    rw [hgone] at hstays
    cases hstays
  · intro hexact
    obtain ⟨report, c', herase⟩ := hexact.succeeds hvalid ⟨by decide +kernel, by decide +kernel⟩
    have hrefused : (eraseCharacterMemory noteCodec characterRequest randomId
        (runFrom (Connection.next noteCodec) purgedItem .start)).1 =
        .error (.database .corruptIndex) := by
      decide +kernel
    rw [herase] at hrefused
    cases hrefused

end NpcRuntime.Memory
