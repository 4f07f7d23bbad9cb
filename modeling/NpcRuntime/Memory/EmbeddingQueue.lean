import NpcRuntime.Memory.Erased

/-!
# Work for missing embeddings

Upserts and reindexes ask for embeddings through the outbox, one job for each dedupe key. No two
requests of one shape share a key (`upsertKey_inj`, `reindexKey_inj`). But the two shapes overlap,
as identifiers may hold colons and digits, and a key stays taken when its job is finished.

Where the key of a request is free, or unfinished work for it is there already, the work is queued
when the command returns, in every run (`embedding_work_queued`). Otherwise it may be lost
(`upsert_swallowed`).
-/

namespace NpcRuntime.Memory

open Text Json

variable {codec : Codec}

/-! ## Requests and jobs -/

/-- An embedding that is asked for: by an upsert of any generation, by a reindex of one. -/
structure EmbeddingWork where
  itemId : Text
  revision : Int
  generation : Option Int

/-- The dedupe key of the request. -/
def EmbeddingWork.key (work : EmbeddingWork) : Text :=
  match work.generation with
  | none => upsertKey work.itemId work.revision
  | some generation => reindexKey work.itemId work.revision generation

variable {id' : Text} {revision revision' : Int}

/-- **Upserts do not share keys.** -/
theorem upsertKey_inj {id : Text} (h : upsertKey id revision = upsertKey id' revision') :
    id = id' ∧ revision = revision' := by
  obtain ⟨hid, hrevision⟩ :=
    append_field_inj (colon_notMem_showInt revision) (colon_notMem_showInt revision') h
  exact ⟨List.append_cancel_left hid, showInt_inj hrevision⟩

/-- The key of a reindex is that of an upsert with the generation behind it. -/
theorem reindexKey_eq (id : Text) (revision generation : Int) :
    reindexKey id revision generation = upsertKey id revision ++ ':' :: showInt generation := by
  unfold reindexKey upsertKey
  rw [List.append_assoc, List.append_assoc, List.append_assoc, List.cons_append]

variable {generation : Int}

/-- **Requests of reindexes do not share keys.** -/
theorem reindexKey_inj {id : Text} {generation' : Int}
    (h : reindexKey id revision generation = reindexKey id' revision' generation') :
    id = id' ∧ revision = revision' ∧ generation = generation' := by
  rw [reindexKey_eq, reindexKey_eq] at h
  obtain ⟨hkey, hgeneration⟩ :=
    append_field_inj (colon_notMem_showInt generation) (colon_notMem_showInt generation') h
  obtain ⟨hid, hrevision⟩ := upsertKey_inj hkey
  exact ⟨hid, hrevision, showInt_inj hgeneration⟩

/-- An upsert of an item whose identifier ends in a revision, and a reindex of that revision. -/
structure Overlaps (a b : EmbeddingWork) : Prop where
  upserted : a.generation = none
  reindexed : b.generation = some a.revision
  itemId : a.itemId = b.itemId ++ ':' :: showInt b.revision

theorem upsertKey_eq_reindexKey_iff {id : Text} :
    upsertKey id revision = reindexKey id' revision' generation ↔
      id = id' ++ ':' :: showInt revision' ∧ revision = generation := by
  have hprefix : upsertKey id' revision' =
      "embedding:".toList ++ (id' ++ ':' :: showInt revision') :=
    List.append_assoc _ _ _
  rw [reindexKey_eq]
  constructor
  · intro h
    obtain ⟨hid, hgeneration⟩ :=
      append_field_inj (colon_notMem_showInt revision) (colon_notMem_showInt generation) h
    exact ⟨List.append_cancel_left (hid.trans hprefix), showInt_inj hgeneration⟩
  · intro h
    obtain ⟨rfl, rfl⟩ := h
    exact (congrArg (fun key => key ++ ':' :: showInt revision) hprefix).symm

/-- **Which requests share a key.** -/
theorem EmbeddingWork.key_eq_iff {a b : EmbeddingWork} :
    a.key = b.key ↔ a = b ∨ Overlaps a b ∨ Overlaps b a := by
  obtain ⟨id, revision, generation⟩ := a
  obtain ⟨id', revision', generation'⟩ := b
  constructor
  · intro h
    cases generation with
    | none =>
      cases generation' with
      | none =>
        obtain ⟨rfl, rfl⟩ := upsertKey_inj h
        exact .inl rfl
      | some generation' =>
        obtain ⟨hid, rfl⟩ := upsertKey_eq_reindexKey_iff.1 h
        exact .inr (.inl ⟨rfl, rfl, hid⟩)
    | some generation =>
      cases generation' with
      | none =>
        obtain ⟨hid, rfl⟩ := upsertKey_eq_reindexKey_iff.1 h.symm
        exact .inr (.inr ⟨rfl, rfl, hid⟩)
      | some generation' =>
        obtain ⟨rfl, rfl, rfl⟩ := reindexKey_inj h
        exact .inl rfl
  · intro h
    rcases h with heq | hoverlap | hoverlap
    · rw [heq]
    · obtain ⟨hupserted, hreindexed, hid⟩ := hoverlap
      subst hupserted hreindexed
      exact upsertKey_eq_reindexKey_iff.2 ⟨hid, rfl⟩
    · obtain ⟨hupserted, hreindexed, hid⟩ := hoverlap
      subst hupserted hreindexed
      exact (upsertKey_eq_reindexKey_iff.2 ⟨hid, rfl⟩).symm

/-- The member of an object. -/
def member (name : String) : Value → Option Value
  | .object members => (members.find? fun entry => entry.1 = name.toList).map Prod.snd
  | _ => none

/-- The payload names the item, the revision and, where one is asked for, the generation. -/
structure Names (payload : Value) (work : EmbeddingWork) : Prop where
  itemId : member "item_id" payload = some (.string work.itemId)
  revision : member "revision" payload = some (integer work.revision)
  generation : ∀ generation, work.generation = some generation →
    member "generation" payload = some (integer generation)

/-- A pending or processing embedding job for the work. -/
structure OutboxRow.Serves (codec : Codec) (row : OutboxRow) (work : EmbeddingWork) : Prop where
  unfinished : row.state.finished = false
  kind : row.kind = embeddingKind
  payload : ∃ payload, row.payloadJson = codec.writePayload payload ∧ Names payload work

/-- There is unfinished work. -/
def Served (codec : Codec) (outbox : Outbox) (work : EmbeddingWork) : Prop :=
  ∃ row ∈ outbox.rows, row.Serves codec work

/-- A request for the work is not swallowed: its key is free, or the work is there. -/
def Unblocked (codec : Codec) (outbox : Outbox) (work : EmbeddingWork) : Prop :=
  outbox.withKey work.key = none ∨ Served codec outbox work

/-- A job that asks for the work. -/
structure OutboxJobInput.AsksFor (job : OutboxJobInput) (work : EmbeddingWork) : Prop where
  kind : job.kind = embeddingKind
  dedupeKey : job.dedupeKey = some work.key
  payload : Names job.payload work

theorem upsertJob_asksFor (record : MemoryRecord) (nowMs : Int) :
    (upsertJob record nowMs).AsksFor ⟨record.id, record.revision, none⟩ := by
  refine ⟨rfl, rfl, ?_, ?_, ?_⟩
  · rfl
  · rfl
  · intro generation h
    cases h

/-- The work a reindex asks for. -/
def MemoryItem.work (item : MemoryItem) (generation : Int) : EmbeddingWork :=
  ⟨item.id, item.revision, some generation⟩

theorem reindexJob_asksFor (request : ReindexRequest) (item : MemoryItem) (nowMs : Int) :
    (reindexJob request item nowMs).AsksFor (item.work request.targetGeneration) := by
  refine ⟨rfl, rfl, ?_, ?_, ?_⟩
  · rfl
  · rfl
  · intro generation h
    cases h
    rfl

/-! ## Enqueueing -/

/-- Rows have been appended, all under keys of the list. -/
structure Grows (keys : List Text) (outbox outbox' : Outbox) : Prop where
  kept : outbox.rows <+: outbox'.rows
  fresh : ∀ row ∈ outbox'.rows, row ∈ outbox.rows ∨ ∃ key ∈ keys, row.dedupeKey = some key

theorem Grows.refl (keys : List Text) (outbox : Outbox) : Grows keys outbox outbox :=
  ⟨List.prefix_refl _, fun _ hrow => .inl hrow⟩

theorem Grows.trans {keys keys' : List Text} {outbox mid outbox' : Outbox}
    (h : Grows keys outbox mid) (h' : Grows keys' mid outbox') :
    Grows (keys ++ keys') outbox outbox' := by
  refine ⟨h.kept.trans h'.kept, ?_⟩
  intro row hrow
  rcases h'.fresh row hrow with hmid | ⟨key, hkey, heq⟩
  · rcases h.fresh row hmid with hold | ⟨key, hkey, heq⟩
    · exact .inl hold
    · exact .inr ⟨key, List.mem_append_left _ hkey, heq⟩
  · exact .inr ⟨key, List.mem_append_right _ hkey, heq⟩

variable {outbox outbox' : Outbox}

/-- Work that is queued stays queued. -/
theorem Served.extends {work : EmbeddingWork} (h : Served codec outbox work)
    (hkept : outbox.rows <+: outbox'.rows) : Served codec outbox' work := by
  obtain ⟨row, hrow, hserves⟩ := h
  exact ⟨row, hkept.subset hrow, hserves⟩

/-- Jobs with other keys block nothing. -/
theorem Unblocked.grows {keys : List Text} {work : EmbeddingWork} (h : Unblocked codec outbox work)
    (hgrows : Grows keys outbox outbox') (hother : work.key ∉ keys) :
    Unblocked codec outbox' work := by
  rcases h with hfree | hserved
  · refine .inl (List.find?_eq_none.2 ?_)
    intro row hrow
    rw [decide_eq_true_eq]
    intro htaken
    rcases hgrows.fresh row hrow with hold | ⟨key, hkey, heq⟩
    · exact List.find?_eq_none.1 hfree row hold (decide_eq_true htaken)
    · rw [htaken] at heq
      exact hother (Option.some.inj heq ▸ hkey)
  · exact .inr (hserved.extends hgrows.kept)

section Enqueue

variable {job : OutboxJobInput} {work : EmbeddingWork} {nowMs : Int} {outbox outbox' : Outbox}
  {id : Nat}

theorem enqueue_grows (hasks : job.AsksFor work)
    (h : enqueueJobTx codec job nowMs outbox = .ok (id, outbox')) :
    Grows [work.key] outbox outbox' := by
  rcases (enqueueJobTx_eq_ok h).2 with ⟨_, _, rfl⟩ | ⟨_, hrows⟩
  · exact .refl _ _
  · refine ⟨?_, ?_⟩
    · rw [hrows]
      exact List.prefix_append _ _
    · intro row hrow
      rw [hrows, List.mem_append, List.mem_singleton] at hrow
      rcases hrow with hold | rfl
      · exact .inl hold
      · exact .inr ⟨work.key, List.mem_singleton_self _, hasks.dedupeKey⟩

/-- **A request that is not blocked is served.** -/
theorem enqueue_served (hasks : job.AsksFor work) (hunblocked : Unblocked codec outbox work)
    (h : enqueueJobTx codec job nowMs outbox = .ok (id, outbox')) : Served codec outbox' work := by
  have hgrows := enqueue_grows hasks h
  rcases hunblocked with hfree | hserved
  · rcases (enqueueJobTx_eq_ok h).2 with ⟨existing, hexisting, _⟩ | ⟨_, hrows⟩
    · rw [hasks.dedupeKey, Option.bind_some, hfree] at hexisting
      cases hexisting
    · refine ⟨job.row codec nowMs outbox.nextId, ?_, rfl, hasks.kind, job.payload, rfl,
        hasks.payload⟩
      rw [hrows]
      exact List.mem_append_right _ (List.mem_singleton_self _)
  · exact hserved.extends hgrows.kept

end Enqueue

/-! ## Upserts -/

/-- The revision of an item; none has revision 0. -/
def currentRevision (t : ItemTables) (id : Text) : Int :=
  ((t.items.find? id).map MemoryItem.revision).getD 0

theorem upsertedItem_revision (t : ItemTables) (input : MemoryInput) (id : Text) (nowMs : Int) :
    (upsertedItem codec t input id nowMs).revision = currentRevision t id + 1 := by
  unfold upsertedItem currentRevision
  cases t.items.find? id with
  | none => rfl
  | some old => rfl

theorem currentRevision_upserted (t : ItemTables) (input : MemoryInput) (id : Text) (nowMs : Int)
    (other : Text) :
    currentRevision (upserted codec t input id nowMs) other =
      currentRevision t other + if other = id then 1 else 0 := by
  by_cases hother : other = id
  · subst hother
    rw [if_pos rfl, ← @upsertedItem_revision codec t input other nowMs]
    simp [currentRevision, find?_upserted]
  · simp [currentRevision, find?_upserted, hother]

/-- The work an upsert asks for. -/
def upsertWork (t : ItemTables) (id : Text) : EmbeddingWork := ⟨id, currentRevision t id + 1, none⟩

section Upsert

variable {input : MemoryInput} {newId : Text} {nowMs : Int} {db db' : Database}
  {record : MemoryRecord}

/-- **What an upsert does**: the item's revision goes up by one, and its work is asked for. -/
theorem upsertInTransaction_asks
    (h : upsertInTransaction codec input newId nowMs db = .ok (record, db')) :
    db'.items = upserted codec db.items input (input.id.getD newId) nowMs ∧
      Grows [(upsertWork db.items (input.id.getD newId)).key] db.outbox db'.outbox ∧
      (Unblocked codec db.outbox (upsertWork db.items (input.id.getD newId)) →
        Served codec db'.outbox (upsertWork db.items (input.id.getD newId))) := by
  obtain ⟨items, job, outbox, hupserts, henqueue, rfl⟩ := upsertInTransaction_eq_ok h
  have hasks : (upsertJob record nowMs).AsksFor (upsertWork db.items (input.id.getD newId)) := by
    obtain ⟨hid, hrevision, _⟩ := hupserts.record_eq
    have hjob := upsertJob_asksFor record nowMs
    rw [hid, hrevision, upsertedItem_revision] at hjob
    exact hjob
  exact ⟨hupserts.tables, enqueue_grows hasks henqueue,
    fun hunblocked => enqueue_served hasks hunblocked henqueue⟩

end Upsert

/-! ## Reindexes -/

/-- **The loop of a reindex** serves every request that is not blocked. -/
theorem enqueueStale_served {request : ReindexRequest} {nowMs : Int} {stale : List MemoryItem}
    (hnodup : (stale.map MemoryItem.id).Nodup)
    (hunblocked : ∀ item ∈ stale, Unblocked codec outbox (item.work request.targetGeneration))
    (h : enqueueStale codec request nowMs stale outbox = .ok (.unit, outbox')) :
    Grows (stale.map fun item => (item.work request.targetGeneration).key) outbox outbox' ∧
      ∀ item ∈ stale, Served codec outbox' (item.work request.targetGeneration) := by
  induction stale generalizing outbox with
  | nil =>
    obtain ⟨_, rfl⟩ := Transaction.pure_eq_ok.1 h
    refine ⟨.refl _ _, ?_⟩
    intro item hitem
    cases hitem
  | cons item stale ih =>
    obtain ⟨job, mid, henqueue, hrest⟩ := enqueueStale_cons.1 h
    obtain ⟨hother, hnodup⟩ := List.nodup_cons.1 hnodup
    obtain ⟨hhead, htail⟩ := List.forall_mem_cons.1 hunblocked
    have hasks := reindexJob_asksFor request item nowMs
    have hgrows := enqueue_grows hasks henqueue
    have hserved := enqueue_served hasks hhead henqueue
    -- The keys of the other items are others.
    have hmid : ∀ other ∈ stale, Unblocked codec mid (other.work request.targetGeneration) := by
      intro other hmem
      apply (htail other hmem).grows hgrows
      intro hkey
      have hid : other.id = item.id := (reindexKey_inj (List.mem_singleton.1 hkey)).1
      exact hother (hid ▸ List.mem_map_of_mem hmem)
    obtain ⟨hgrowsRest, hservedRest⟩ := ih hnodup hmid hrest
    refine ⟨hgrows.trans hgrowsRest, ?_⟩
    rw [List.forall_mem_cons]
    exact ⟨hserved.extends hgrowsRest.kept, hservedRest⟩

theorem mem_staleItems {t : ItemTables} {nowMs : Int} {item : MemoryItem} :
    item ∈ staleItems t nowMs generation ↔
      item ∈ t.items.rows ∧ item.stale nowMs generation = true := by
  rw [staleItems, List.mem_insertionSort, List.mem_filter]

theorem staleItems_nodup (t : ItemTables) (nowMs generation : Int) :
    ((staleItems t nowMs generation).map MemoryItem.id).Nodup := by
  have hfiltered : ((t.items.rows.filter (MemoryItem.stale nowMs generation)).map
      MemoryItem.id).Nodup := t.items.nodup.sublist (List.filter_sublist.map _)
  exact ((List.perm_insertionSort _ _).map MemoryItem.id).nodup_iff.2 hfiltered

/-! ## Imports -/

/-- How many records of an import are upserted under an identifier. -/
def importUpserts (policy : ImportConflictPolicy) (t : ItemTables) (records : List MemoryInput)
    (id : Text) : Nat :=
  match policy with
  | .replace => records.countP fun record => record.id.getD [] = id
  | _ =>
    if t.items.find? id = none ∧ records.any fun record => record.id.getD [] = id then 1 else 0

/-- The work for the last of them. -/
def importWork (policy : ImportConflictPolicy) (t : ItemTables) (records : List MemoryInput)
    (id : Text) : EmbeddingWork :=
  ⟨id, currentRevision t id + importUpserts policy t records id, none⟩

section Import

variable {policy : ImportConflictPolicy} {t : ItemTables} {input : MemoryInput}
  {records : List MemoryInput} {nowMs : Int}

theorem importUpserts_nil (id : Text) : importUpserts policy t [] id = 0 := by
  cases policy <;> simp [importUpserts]

/-- A record that is kept is not upserted. -/
theorem importUpserts_kept (h : t.items.find? (input.id.getD []) ≠ none) (id : Text) :
    importUpserts .keepExisting t (input :: records) id =
      importUpserts .keepExisting t records id := by
  by_cases hid : input.id.getD [] = id
  · subst hid
    simp [importUpserts, h]
  · simp [importUpserts, hid]

/-- A record that is replaced or new is upserted, and known to the records after it. -/
theorem importUpserts_upserted
    (h : policy = .replace ∨ t.items.find? (input.id.getD []) = none) (row : MemoryInput)
    (id : Text) :
    importUpserts policy t (input :: records) id =
      importUpserts policy (upserted codec t row (input.id.getD []) nowMs) records id +
        if id = input.id.getD [] then 1 else 0 := by
  by_cases hreplace : policy = .replace
  · subst hreplace
    simp [importUpserts, List.countP_cons, eq_comm]
  · have hnew := h.resolve_left hreplace
    by_cases hid : id = input.id.getD []
    · subst hid
      cases policy with
      | replace => exact absurd rfl hreplace
      | _ => simp [importUpserts, find?_upserted, hnew]
    · cases policy with
      | replace => exact absurd rfl hreplace
      | _ => simp [importUpserts, find?_upserted, hid, Ne.symm hid]

/-- What an import leaves. -/
structure Imports (codec : Codec) (policy : ImportConflictPolicy) (records : List MemoryInput)
    (db db' : Database) : Prop where
  kept : db.outbox.rows <+: db'.outbox.rows
  revisions : ∀ id, currentRevision db'.items id =
    currentRevision db.items id + importUpserts policy db.items records id
  served : (∀ id, 0 < importUpserts policy db.items records id →
      Unblocked codec db.outbox (importWork policy db.items records id)) →
    ∀ id, 0 < importUpserts policy db.items records id →
      Served codec db'.outbox (importWork policy db.items records id)

/-- One record that is upserted, then the others. -/
theorem Imports.cons {db mid db' : Database} {row : MemoryInput} {record : MemoryRecord}
    (hupsert : upsertInTransaction codec row [] nowMs db = .ok (record, mid))
    (hid : row.id = input.id)
    (h : policy = .replace ∨ db.items.items.find? (input.id.getD []) = none)
    (hrest : Imports codec policy records mid db') :
    Imports codec policy (input :: records) db db' := by
  obtain ⟨hitems, hgrows, hserved⟩ := upsertInTransaction_asks hupsert
  rw [hid] at hitems hgrows hserved
  have hcount : ∀ id, importUpserts policy db.items (input :: records) id =
      importUpserts policy mid.items records id + if id = input.id.getD [] then 1 else 0 := by
    intro id
    rw [hitems]
    exact importUpserts_upserted h row id
  have hrevision : ∀ id, currentRevision mid.items id =
      currentRevision db.items id + if id = input.id.getD [] then 1 else 0 := by
    intro id
    rw [hitems]
    exact currentRevision_upserted db.items row _ nowMs id
  have hwork : ∀ id, importWork policy db.items (input :: records) id =
      importWork policy mid.items records id := by
    intro id
    rw [importWork, importWork, hcount, hrevision]
    congr 1
    split <;> omega
  refine ⟨hgrows.kept.trans hrest.kept, ?_, ?_⟩
  · intro id
    rw [hrest.revisions, hrevision, hcount]
    split <;> omega
  · intro hunblocked id hpositive
    have hlater : ∀ other, 0 < importUpserts policy mid.items records other →
        Unblocked codec mid.outbox (importWork policy mid.items records other) := by
      intro other hother
      rw [← hwork]
      refine (hunblocked other ?_).grows hgrows ?_
      · rw [hcount]
        omega
      -- A later upsert of the same item is of a later revision.
      · intro hkey
        obtain ⟨hid, hrevisions⟩ := upsertKey_inj (List.mem_singleton.1 hkey)
        have hsame : other = input.id.getD [] := hid
        have heq : currentRevision db.items other +
            importUpserts policy db.items (input :: records) other =
          currentRevision db.items (input.id.getD []) + 1 := hrevisions
        rw [hcount, if_pos hsame, ← hsame] at heq
        omega
    by_cases hlast : 0 < importUpserts policy mid.items records id
    · rw [hwork]
      exact hrest.served hlater id hlast
    · have hsame : id = input.id.getD [] := by
        by_contra hother
        rw [hcount, if_neg hother] at hpositive
        exact hlast hpositive
      have hwhole : importWork policy db.items (input :: records) id =
          upsertWork db.items (input.id.getD []) := by
        subst hsame
        rw [importWork, hcount, if_pos rfl, upsertWork]
        congr 1
        omega
      have hopen := hunblocked id hpositive
      rw [hwhole] at hopen ⊢
      exact (hserved hopen).extends hrest.kept

/-- **The loop of an import.** -/
theorem importRecords_imports {report report' : ImportReport} {db db' : Database}
    (h : importRecords codec policy nowMs report records db = .ok (report', db')) :
    Imports codec policy records db db' := by
  induction records generalizing report db with
  | nil =>
    obtain ⟨_, rfl⟩ := Transaction.pure_eq_ok.1 h
    refine ⟨List.prefix_refl _, ?_, ?_⟩
    · intro id
      rw [importUpserts_nil]
      omega
    · intro _ id hpositive
      rw [importUpserts_nil] at hpositive
      omega
  | cons input records ih =>
    simp only [importRecords, Transaction.reading_eq] at h
    cases hfind : db.items.items.find? (input.id.getD []) with
    | none =>
      rw [hfind] at h
      obtain ⟨record, mid, hupsert, hrest⟩ := Transaction.bind_eq_ok.1 h
      exact Imports.cons hupsert rfl (.inr hfind) (ih hrest)
    | some old =>
      rw [hfind] at h
      cases policy with
      | reject => cases h
      | keepExisting =>
        have hrest := ih h
        have hkept : ∀ id, importUpserts .keepExisting db.items (input :: records) id =
            importUpserts .keepExisting db.items records id :=
          importUpserts_kept (by rw [hfind]; simp)
        refine ⟨hrest.kept, ?_, ?_⟩
        · intro id
          rw [hkept]
          exact hrest.revisions id
        · simp only [importWork, hkept]
          exact hrest.served
      | replace =>
        obtain ⟨record, mid, hupsert, hrest⟩ := Transaction.bind_eq_ok.1 h
        exact Imports.cons hupsert rfl (.inl rfl) (ih hrest)

end Import

/-! ## Runs -/

/-- The transaction goes through. -/
def GoesThrough {α : Type} (t : Tx α) (db : Database) : Prop := (t db).isOk = true

theorem GoesThrough.exists_ok {α : Type} {t : Tx α} {db : Database} (h : GoesThrough t db) :
    ∃ a db', t db = .ok (a, db') := by
  unfold GoesThrough at h
  cases ht : t db with
  | error error =>
    rw [ht] at h
    cases h
  | ok out => exact ⟨out.1, out.2, rfl⟩

/-- What a command asks for is not blocked. -/
def RequestsUnblocked (codec : Codec) (c : Connection) : WriterCommand → Prop
  | .upsert input newId nowMs =>
    GoesThrough (upsertRecord codec input newId nowMs) c.database →
      Unblocked codec c.database.outbox (upsertWork c.database.items (input.id.getD newId))
  | .importRecords records policy nowMs =>
    GoesThrough (importAll codec records policy nowMs) c.database →
      ∀ id, 0 < importUpserts policy c.database.items records id →
        Unblocked codec c.database.outbox (importWork policy c.database.items records id)
  | .reindex request nowMs =>
    GoesThrough (reindexAll codec request nowMs) c.database →
      ∀ item ∈ c.database.items.items.rows, item.stale nowMs request.targetGeneration = true →
        Unblocked codec c.database.outbox (item.work request.targetGeneration)
  | _ => True

/-- After an upsert and an import there is work for the current revision of each item that was
written, after a reindex for each live and unexpired item without an embedding of the generation. -/
def WorkQueued (codec : Codec) (c : Connection) (command : WriterCommand) : Prop :=
  let after := (c.next codec command).database
  match command with
  | .upsert input newId nowMs =>
    GoesThrough (upsertRecord codec input newId nowMs) c.database →
      Served codec after.outbox
        ⟨input.id.getD newId, currentRevision after.items (input.id.getD newId), none⟩
  | .importRecords records policy nowMs =>
    GoesThrough (importAll codec records policy nowMs) c.database →
      ∀ record ∈ records,
        policy = .replace ∨ c.database.items.items.find? (record.id.getD []) = none →
          Served codec after.outbox
            ⟨record.id.getD [], currentRevision after.items (record.id.getD []), none⟩
  | .reindex request nowMs =>
    GoesThrough (reindexAll codec request nowMs) c.database →
      ∀ item ∈ after.items.items.rows, item.stale nowMs request.targetGeneration = true →
        Served codec after.outbox (item.work request.targetGeneration)
  | _ => True

theorem run_of_ok {α : Type} {t : Tx α} {c : Connection} {a : α} {db : Database}
    (h : t c.database = .ok (a, db)) : (c.run t).2.database = db := by
  rw [Connection.run_database, Transaction.commit_of_ok h]

/-- Every record of an import that is written is counted. -/
theorem importUpserts_pos {policy : ImportConflictPolicy} {t : ItemTables}
    {records : List MemoryInput} {record : MemoryInput} (hrecord : record ∈ records)
    (h : policy = .replace ∨ t.items.find? (record.id.getD []) = none) :
    0 < importUpserts policy t records (record.id.getD []) := by
  by_cases hreplace : policy = .replace
  · subst hreplace
    rw [importUpserts, List.countP_pos_iff]
    exact ⟨record, hrecord, decide_eq_true rfl⟩
  · have hnew := h.resolve_left hreplace
    have hany : (records.any fun other => other.id.getD [] = record.id.getD []) = true :=
      List.any_eq_true.2 ⟨record, hrecord, decide_eq_true rfl⟩
    cases policy with
    | replace => exact absurd rfl hreplace
    | _ => simp only [importUpserts, if_pos (And.intro hnew hany), Nat.one_pos]

/-- **What is not blocked is queued.** -/
theorem next_workQueued {c : Connection} {command : WriterCommand}
    (h : RequestsUnblocked codec c command) : WorkQueued codec c command := by
  cases command with
  | upsert input newId nowMs =>
    intro hgoes
    have hunblocked := h hgoes
    obtain ⟨record, db, hok⟩ := hgoes.exists_ok
    obtain ⟨hitems, _, hserved⟩ := upsertInTransaction_asks (upsertRecord_eq_ok hok).2
    simp only [Connection.next, run_of_ok hok, hitems, currentRevision_upserted, if_pos]
    exact hserved hunblocked
  | importRecords records policy nowMs =>
    intro hgoes record hrecord hwritten
    have hunblocked := h hgoes
    obtain ⟨report, db, hok⟩ := hgoes.exists_ok
    obtain ⟨_, _, himport⟩ := Transaction.lift_bind_eq_ok.1 hok
    have himports := importRecords_imports himport
    simp only [Connection.next, run_of_ok hok, himports.revisions]
    exact himports.served hunblocked _ (importUpserts_pos hrecord hwritten)
  | reindex request nowMs =>
    intro hgoes
    have hunblocked := h hgoes
    obtain ⟨report, db, hok⟩ := hgoes.exists_ok
    obtain ⟨_, outbox, hloop, _, rfl⟩ := reindexAll_eq_ok.1 hok
    simp only [Connection.next, run_of_ok hok]
    intro item hitem hstale
    have hserved := (enqueueStale_served (staleItems_nodup _ _ _) (fun other hother =>
      hunblocked other (mem_staleItems.1 hother).1 (mem_staleItems.1 hother).2) hloop).2
    exact hserved item (mem_staleItems.2 ⟨hitem, hstale⟩)
  | _ => trivial

/-- **Missing embeddings and their work.** Two requests share a dedupe key exactly if one is an
upsert of an item whose identifier ends in the revision the other asks for. In a run whose
requests are not blocked, the work is queued after every upsert, import and reindex. -/
theorem embedding_work_queued {commands : List WriterCommand}
    (h : Along (Connection.next codec) (RequestsUnblocked codec) commands .start) :
    (∀ a b : EmbeddingWork, a.key = b.key ↔ a = b ∨ Overlaps a b ∨ Overlaps b a) ∧
      Along (Connection.next codec) (WorkQueued codec) commands .start := by
  refine ⟨fun a b => EmbeddingWork.key_eq_iff, ?_⟩
  exact h.mono_inv (fun _ => True) (fun _ _ _ _ => trivial) (fun _ _ _ hi => next_workQueued hi)
    trivial

/-- A fresh item is upserted, and reindexed. -/
theorem embedding_work_queued_fresh :
    Along (Connection.next noteCodec) (WorkQueued noteCodec)
      [.upsert (noteItem "a" "p") [] 0, .reindex ⟨2, "m".toList, 1⟩ 0] .start := by
  have hunblocked : Along (Connection.next noteCodec) (RequestsUnblocked noteCodec)
      [.upsert (noteItem "a" "p") [] 0, .reindex ⟨2, "m".toList, 1⟩ 0] .start := by
    refine ⟨fun _ => .inl (by decide +kernel), ?_, trivial⟩
    intro _ item hitem hstale
    have hfree : ∀ item ∈ (Connection.next noteCodec (.upsert (noteItem "a" "p") [] 0)
        .start).database.items.items.rows,
      (Connection.next noteCodec (.upsert (noteItem "a" "p") [] 0)
        .start).database.outbox.withKey (item.work 2).key = none := by decide +kernel
    exact .inl (hfree item hitem)
  exact (embedding_work_queued hunblocked).2

/-! ### A colon in an identifier -/

/-- The payloads of the jobs below. -/
def swallowingPayloads : List Value :=
  let digest := ("content_sha256".toList,
    Value.string "1b16b1df538ba12dc3f97edbb85caa7050d46c148134290feba80f8236c83db9".toList)
  [.object [digest, ("item_id".toList, .string "a".toList), ("revision".toList, integer 1)],
    .object [digest, ("item_id".toList, .string "a:1".toList), ("revision".toList, integer 1)],
    .object [("batch_size".toList, .number (.posInt 1)), digest, ("generation".toList, integer 2),
      ("item_id".toList, .string "a".toList), ("model_id".toList, .string "m".toList),
      ("revision".toList, integer 1)]]

def swallowingCodec : Codec := .known (fun _ => []) [runtimeProvenance] swallowingPayloads
  [("n".toList, "1b16b1df538ba12dc3f97edbb85caa7050d46c148134290feba80f8236c83db9".toList)]

/-- The item `a` is written and reindexed, the item `a:1` is written, and all jobs are done. -/
def workedOff : List WriterCommand :=
  [.upsert (noteItem "a" "p") [] 0, .reindex ⟨2, "m".toList, 1⟩ 0,
    .upsert (noteItem "a:1" "p") [] 0, .claim "w".toList 0 1000 3, .complete 1 "w".toList 1,
    .complete 2 "w".toList 1, .complete 3 "w".toList 1]

/-- **The second revision of `a:1` is not queued**: its key is that of the reindex of `a`, whose job
is finished. -/
theorem upsert_swallowed :
    ¬ Along (Connection.next swallowingCodec) (WorkQueued swallowingCodec)
      (workedOff ++ [.upsert (noteItem "a:1" "p") [] 2]) .start := by
  intro h
  have hqueued := (along_append.1 h).2.1
  have hgoes : (upsertRecord swallowingCodec (noteItem "a:1" "p") [] 2
      (runFrom (Connection.next swallowingCodec) workedOff .start).database).isOk = true := by
    decide +kernel
  have hfinished : ∀ row ∈ (Connection.next swallowingCodec (.upsert (noteItem "a:1" "p") [] 2)
      (runFrom (Connection.next swallowingCodec) workedOff .start)).database.outbox.rows,
      row.state.finished = true := by
    decide +kernel
  obtain ⟨row, hrow, hserves⟩ := hqueued hgoes
  have hunfinished := hserves.unfinished
  rw [hfinished row hrow] at hunfinished
  cases hunfinished

end NpcRuntime.Memory
