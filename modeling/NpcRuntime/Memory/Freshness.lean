import NpcRuntime.Memory.Erased
import Mathlib.Logic.Function.Basic

/-!
# Whether embeddings describe the current content

Workers read a job, compute a vector for the content whose hash it names, and put it whenever they
are done; other commands come in between. Beside the tables the machine keeps, for each embedding,
the hash its vector was computed for (`Vectors`). The code does not: an embedding is put under the
identifier of its item alone, whatever has become of the content since.

* An item announces only embeddings that are there (`Announced`), in every run.
* Every embedding describes the current content of its item, in every state of a run, exactly if no
  vector is put that was computed for other content (`embeddings_fresh_iff`).
-/

namespace NpcRuntime.Memory

open Text Json

variable {codec : Codec}

theorem upserted_embeddings (t : ItemTables) (input : MemoryInput) (id : Text) (nowMs : Int) :
    (upserted codec t input id nowMs).embeddings =
      if contentChanged codec t input id then
        t.embeddings.delete fun embedding => embedding.itemId = id
      else t.embeddings := by
  have hstatement : (upsertStatement codec t input id nowMs).embeddings = t.embeddings := by
    unfold upsertStatement
    split <;> rfl
  unfold upserted
  split
  · rw [ItemTables.deleteEmbeddings, hstatement]
  · exact hstatement

/-- Where the content has not changed, an upsert leaves its hash and its embeddings. -/
theorem upsertedItem_of_unchanged {t : ItemTables} {input : MemoryInput} {id : Text} {nowMs : Int}
    (h : contentChanged codec t input id = false) :
    ∃ old, t.items.find? id = some old ∧
      (upsertedItem codec t input id nowMs).contentSha256 = old.contentSha256 ∧
      (upsertedItem codec t input id nowMs).embeddingGeneration = old.embeddingGeneration := by
  unfold contentChanged at h
  cases hfind : t.items.find? id with
  | none => simp [hfind] at h
  | some old =>
    have hsame : old.contentSha256 = codec.sha256 input.content.trim := by simpa [hfind] using h
    refine ⟨old, rfl, ?_⟩
    simp [upsertedItem, hfind, MemoryItem.replacedBy, MemoryInput.item, hsame]

/-- Where it has, the row announces no embedding. -/
theorem upsertedItem_of_changed {t : ItemTables} {input : MemoryInput} {id : Text} {nowMs : Int}
    (h : contentChanged codec t input id = true) :
    (upsertedItem codec t input id nowMs).embeddingGeneration = none := by
  unfold contentChanged at h
  cases hfind : t.items.find? id with
  | none => simp [upsertedItem, hfind, MemoryInput.item]
  | some old =>
    have hother : old.contentSha256 ≠ codec.sha256 input.content.trim := by simpa [hfind] using h
    simp [upsertedItem, hfind, MemoryItem.replacedBy, MemoryInput.item, hother]

theorem mem_upsertEmbedding {embedding row : Embedding} {t : ItemTables} :
    row ∈ (upsertEmbedding embedding t).embeddings.rows ↔
      row ∈ t.embeddings.rows ∧ row.key ≠ embedding.key ∨ row = embedding := by
  unfold upsertEmbedding
  by_cases hfresh : t.embeddings.find? embedding.key = none
  · simp only [dif_pos hfresh, Rows.rows_insert, List.mem_append, List.mem_singleton]
    refine or_congr_left ?_
    exact (and_iff_left_of_imp fun hrow => Rows.find?_eq_none.1 hfresh row hrow).symm
  · simp only [dif_neg hfresh, Rows.mem_update]
    constructor
    · intro h
      obtain ⟨old, hold, rfl⟩ := h
      by_cases hkey : old.key = embedding.key
      · exact .inr (if_pos hkey)
      · rw [if_neg hkey]
        exact .inl ⟨hold, hkey⟩
    · intro h
      rcases h with ⟨hrow, hkey⟩ | rfl
      · exact ⟨row, hrow, if_neg hkey⟩
      · obtain ⟨old, hold⟩ := Option.ne_none_iff_exists'.1 hfresh
        obtain ⟨hmem, hkey⟩ := Rows.find?_eq_some.1 hold
        exact ⟨old, hmem, if_pos hkey⟩

/-! ## Announced generations -/

/-- An item names the generation of an embedding that is there. -/
def Announced (t : ItemTables) : Prop :=
  ∀ id item, t.items.find? id = some item → ∀ generation,
    item.embeddingGeneration = some generation →
      ∃ embedding ∈ t.embeddings.rows, embedding.key = (id, generation)

namespace Announced

variable {t : ItemTables}

theorem upserted (h : Announced t) (input : MemoryInput) (id : Text) (nowMs : Int) :
    Announced (upserted codec t input id nowMs) := by
  intro other item hfind generation hgeneration
  rw [find?_upserted] at hfind
  rw [upserted_embeddings]
  by_cases hother : other = id
  · rw [if_pos hother] at hfind
    cases hfind
    cases hchanged : contentChanged codec t input id with
    | true =>
      rw [upsertedItem_of_changed hchanged] at hgeneration
      cases hgeneration
    | false =>
      obtain ⟨old, hold, _, hkept⟩ := @upsertedItem_of_unchanged codec t input id nowMs hchanged
      rw [hother]
      exact h id old hold generation (hkept.symm.trans hgeneration)
  · rw [if_neg hother] at hfind
    obtain ⟨embedding, hmem, hkey⟩ := h other item hfind generation hgeneration
    refine ⟨embedding, ?_, hkey⟩
    split
    · refine Rows.mem_delete.2 ⟨hmem, ?_⟩
      have hitem : embedding.itemId = other := congrArg Prod.fst hkey
      simpa [hitem] using hother
    · exact hmem

theorem softDeleted (h : Announced t) (p : MemoryItem → Bool) (nowMs : Int) :
    Announced (t.updateItems p (MemoryItem.softDeleted nowMs)
      (MemoryItem.softDeleted_id nowMs)) := by
  intro id item hfind generation hgeneration
  rw [ItemTables.find?_updateItems, Option.map_eq_some_iff] at hfind
  obtain ⟨old, hold, rfl⟩ := hfind
  apply h id old hold generation
  split at hgeneration
  · exact hgeneration
  · exact hgeneration

theorem delete (h : Announced t) (p : MemoryItem → Bool) : Announced (t.deleteItems p) := by
  intro id item hfind generation hgeneration
  have hfound : (t.items.find? id).filter (fun item => !p item) = some item := by
    rw [← Rows.find?_delete]
    exact hfind
  rw [Option.filter_eq_some_iff] at hfound
  obtain ⟨embedding, hmem, hkey⟩ := h id item hfound.1 generation hgeneration
  refine ⟨embedding, Rows.mem_delete.2 ⟨hmem, ?_⟩, hkey⟩
  have hitem : embedding.itemId = id := congrArg Prod.fst hkey
  rw [hitem, hfound.1, Option.any_some]
  simpa using hfound.2

theorem embedded (h : Announced t) (embedding : EmbeddingInput) (nowMs : Int) :
    Announced (embedded embedding nowMs t) := by
  intro id item hfind generation hgeneration
  have hput := ItemTables.find?_updateItems (upsertEmbedding ⟨embedding.itemId,
    embedding.generation, embedding.modelId, embedding.values, nowMs⟩ t)
    (fun item => decide (item.id = embedding.itemId) && item.live)
    (MemoryItem.embedded embedding.generation) (MemoryItem.embedded_id embedding.generation) id
  obtain ⟨old, hold, hitem⟩ := Option.map_eq_some_iff.1 (hput.symm.trans hfind)
  show ∃ row ∈ (upsertEmbedding ⟨embedding.itemId, embedding.generation, embedding.modelId,
    embedding.values, nowMs⟩ t).embeddings.rows, row.key = (id, generation)
  simp only [mem_upsertEmbedding]
  -- The new embedding is the one that is announced, or it leaves the announced one in place.
  by_cases hkey : (id, generation) = (embedding.itemId, embedding.generation)
  · exact ⟨_, .inr rfl, hkey.symm⟩
  · have hannounced : old.embeddingGeneration = some generation := by
      have hid := (Rows.find?_eq_some.1 hold).2
      by_cases hmarked : (decide (old.id = embedding.itemId) && old.live) = true
      · rw [if_pos hmarked] at hitem
        rw [← hitem] at hgeneration
        simp only [Bool.and_eq_true, decide_eq_true_eq, hid] at hmarked
        exact absurd (Prod.ext hmarked.1 (Option.some.inj hgeneration).symm) hkey
      · rw [if_neg hmarked] at hitem
        rw [hitem]
        exact hgeneration
    obtain ⟨row, hrow, hrowKey⟩ := h id old hold generation hannounced
    refine ⟨row, .inl ⟨hrow, ?_⟩, hrowKey⟩
    rw [hrowKey]
    exact hkey

theorem next {c : Connection} (hsourced : Sourced c.database.authority)
    (h : Announced c.database.items) (command : WriterCommand) :
    Announced (c.next codec command).database.items := by
  by_cases hplain : command.plain = true
  · exact next_items_keeps codec Announced (fun t input id nowMs ht => ht.upserted input id nowMs)
      (fun t p nowMs ht => ht.softDeleted p nowMs) c hplain h
  · cases command with
    | putEmbedding embedding nowMs =>
      by_cases haccepted : embedding.accepted c.database.items
      · rw [(next_put_items c).1 haccepted]
        exact h.embedded embedding nowMs
      · rw [(next_put_items c).2 haccepted]
        exact h
    | reindex request nowMs =>
      rw [next_reindex_items]
      split
      · exact h
      · exact h
    | eraseCharacter request erasureId =>
      by_cases haccepted : EraseAccepted codec request erasureId c.database
      · rw [(next_erase_items hsourced).1 haccepted]
        exact h.delete _
      · rw [(next_erase_items hsourced).2 haccepted]
        exact h
    | _ => exact absurd rfl hplain

end Announced

/-! ## Vectors and the content they were computed for -/

/-- The writer, and the hash of the content each embedding was computed for. -/
structure Vectors where
  connection : Connection
  origin : Text × Int → Text

/-- A command; a put carries the content hash its worker read in the payload of its job. -/
structure WorkerStep where
  command : WriterCommand
  contentSha256 : Text

namespace Vectors

def start : Vectors := ⟨.start, fun _ => []⟩

/-- The hash is kept with each embedding that is put. -/
def next (codec : Codec) (step : WorkerStep) (s : Vectors) : Vectors where
  connection := s.connection.next codec step.command
  origin :=
    match step.command with
    | .putEmbedding embedding nowMs =>
      match putEmbedding embedding nowMs s.connection.database.items with
      | .ok _ =>
        Function.update s.origin (embedding.itemId, embedding.generation) step.contentSha256
      | .error _ => s.origin
    | _ => s.origin

end Vectors

/-- Every embedding was computed for the current content of its item. -/
def Fresh (origin : Text × Int → Text) (t : ItemTables) : Prop :=
  ∀ embedding ∈ t.embeddings.rows, ∀ item, t.items.find? embedding.itemId = some item →
    origin embedding.key = item.contentSha256

namespace Fresh

variable {origin : Text × Int → Text} {t : ItemTables}

theorem upserted (h : Fresh origin t) (input : MemoryInput) (id : Text) (nowMs : Int) :
    Fresh origin (upserted codec t input id nowMs) := by
  intro embedding hmem item hfind
  rw [find?_upserted] at hfind
  rw [upserted_embeddings] at hmem
  by_cases hitem : embedding.itemId = id
  · rw [if_pos hitem] at hfind
    cases hfind
    cases hchanged : contentChanged codec t input id with
    | true =>
      rw [hchanged, if_pos rfl] at hmem
      simp [Rows.mem_delete, hitem] at hmem
    | false =>
      rw [hchanged, if_neg (by simp)] at hmem
      obtain ⟨old, hold, hsame, _⟩ := @upsertedItem_of_unchanged codec t input id nowMs hchanged
      rw [hsame]
      exact h embedding hmem old (by rw [hitem]; exact hold)
  · rw [if_neg hitem] at hfind
    refine h embedding ?_ item hfind
    split at hmem
    · exact (Rows.mem_delete.1 hmem).1
    · exact hmem

/-- An update that leaves the content alone. -/
theorem update_iff {p : MemoryItem → Bool} {f : MemoryItem → MemoryItem}
    {hf : ∀ item, (f item).id = item.id}
    (hcontent : ∀ item, (f item).contentSha256 = item.contentSha256) :
    Fresh origin (t.updateItems p f hf) ↔ Fresh origin t := by
  have hsame : ∀ item : MemoryItem, (if p item then f item else item).contentSha256 =
      item.contentSha256 := by
    intro item
    split
    · exact hcontent item
    · rfl
  constructor
  · intro h embedding hmem item hfind
    rw [← hsame item]
    apply h embedding hmem
    rw [ItemTables.find?_updateItems, hfind, Option.map_some]
  · intro h embedding hmem item hfind
    rw [ItemTables.find?_updateItems, Option.map_eq_some_iff] at hfind
    obtain ⟨old, hold, rfl⟩ := hfind
    rw [h embedding hmem old hold, hsame]

theorem softDeleted (h : Fresh origin t) (p : MemoryItem → Bool) (nowMs : Int) :
    Fresh origin (t.updateItems p (MemoryItem.softDeleted nowMs)
      (MemoryItem.softDeleted_id nowMs)) := by
  rw [update_iff]
  · exact h
  · exact fun _ => rfl

theorem delete (h : Fresh origin t) (p : MemoryItem → Bool) : Fresh origin (t.deleteItems p) := by
  intro embedding hmem item hfind
  have hfound : (t.items.find? embedding.itemId).filter (fun item => !p item) = some item := by
    rw [← Rows.find?_delete]
    exact hfind
  rw [Option.filter_eq_some_iff] at hfound
  exact h embedding (Rows.mem_delete.1 hmem).1 item hfound.1

/-- **A put keeps the embeddings fresh exactly if its vector is for the current content.** -/
theorem embedded_iff (h : Fresh origin t) (embedding : EmbeddingInput) (nowMs : Int)
    (contentSha256 : Text) :
    Fresh (Function.update origin (embedding.itemId, embedding.generation) contentSha256)
        (embedded embedding nowMs t) ↔
      ∀ item, t.items.find? embedding.itemId = some item → item.contentSha256 = contentSha256 := by
  have hput : Fresh (Function.update origin (embedding.itemId, embedding.generation) contentSha256)
      (upsertEmbedding ⟨embedding.itemId, embedding.generation, embedding.modelId,
        embedding.values, nowMs⟩ t) ↔
      ∀ item, t.items.find? embedding.itemId = some item → item.contentSha256 = contentSha256 := by
    constructor
    · intro hfresh item hfind
      have hnew := hfresh _ (mem_upsertEmbedding.2 (.inr rfl)) item hfind
      rw [Embedding.key, Function.update_self] at hnew
      exact hnew.symm
    · intro hcurrent row hrow item hfind
      rcases mem_upsertEmbedding.1 hrow with ⟨hrow, hkey⟩ | rfl
      · have hother : row.key ≠ (embedding.itemId, embedding.generation) := hkey
        rw [Function.update_of_ne hother]
        exact h row hrow item hfind
      · rw [Embedding.key, Function.update_self]
        exact (hcurrent item hfind).symm
  rw [← hput]
  unfold embedded
  exact update_iff fun _ => rfl

end Fresh

/-- A vector is put only for the current content. -/
def PutsCurrent (s : Vectors) (step : WorkerStep) : Prop :=
  match step.command with
  | .putEmbedding embedding _ => embedding.accepted s.connection.database.items →
    ∀ item, s.connection.database.items.items.find? embedding.itemId = some item →
      item.contentSha256 = step.contentSha256
  | _ => True

/-- **What decides whether a step keeps the embeddings fresh.** -/
theorem fresh_next_iff {s : Vectors} (hsourced : Sourced s.connection.database.authority)
    (h : Fresh s.origin s.connection.database.items) (step : WorkerStep) :
    Fresh (s.next codec step).origin (s.next codec step).connection.database.items ↔
      PutsCurrent s step := by
  obtain ⟨command, contentSha256⟩ := step
  cases command with
  | putEmbedding embedding nowMs =>
    simp only [Vectors.next, PutsCurrent]
    by_cases haccepted : embedding.accepted s.connection.database.items
    · have hput : putEmbedding embedding nowMs s.connection.database.items =
          .ok ((), embedded embedding nowMs s.connection.database.items) :=
        putEmbedding_eq_ok.2 ⟨haccepted, rfl⟩
      rw [hput, (next_put_items _).1 haccepted]
      rw [h.embedded_iff]
      constructor
      · intro hcurrent _
        exact hcurrent
      · intro hcurrent
        exact hcurrent haccepted
    · rw [(next_put_items _).2 haccepted]
      refine iff_of_true ?_ fun hgoes => absurd hgoes haccepted
      cases hput : putEmbedding embedding nowMs s.connection.database.items with
      | error error => exact h
      | ok out => exact absurd (putEmbedding_eq_ok.1 hput).1 haccepted
  | reindex request nowMs =>
    refine iff_of_true ?_ trivial
    simp only [Vectors.next, next_reindex_items]
    split
    · exact h
    · exact h
  | eraseCharacter request erasureId =>
    refine iff_of_true ?_ trivial
    simp only [Vectors.next]
    by_cases haccepted : EraseAccepted codec request erasureId s.connection.database
    · rw [(next_erase_items hsourced).1 haccepted]
      exact h.delete _
    · rw [(next_erase_items hsourced).2 haccepted]
      exact h
  | _ =>
    refine iff_of_true ?_ trivial
    exact next_items_keeps codec (Fresh s.origin)
      (fun t input id nowMs ht => ht.upserted input id nowMs)
      (fun t p nowMs ht => ht.softDeleted p nowMs) s.connection rfl h

/-- What holds in every state of a run. -/
structure VectorContext (s : Vectors) : Prop where
  announced : Announced s.connection.database.items
  sourced : Sourced s.connection.database.authority

theorem VectorContext.next {s : Vectors} (h : VectorContext s) (step : WorkerStep) :
    VectorContext (s.next codec step) :=
  ⟨h.announced.next h.sourced step.command, next_sourced step.command s.connection h.sourced⟩

theorem vectorContext_start : VectorContext .start := by
  refine ⟨?_, fun link hlink => by cases hlink⟩
  intro id item hfind
  cases hfind

/-- **Embeddings and the content they describe.** In every state of a run an item announces only
embeddings that are there. Every embedding was computed for the current content of its item, in
every state of the run, exactly if the run puts no vector that was computed for other content. -/
theorem embeddings_fresh_iff (codec : Codec) (steps : List WorkerStep) :
    Announced (runFrom (Vectors.next codec) steps .start).connection.database.items ∧
      ((∀ pre, pre <+: steps → Fresh (runFrom (Vectors.next codec) pre .start).origin
          (runFrom (Vectors.next codec) pre .start).connection.database.items) ↔
        Along (Vectors.next codec) PutsCurrent steps .start) := by
  constructor
  · exact (inv_runFrom VectorContext (fun s step h => h.next step) vectorContext_start
      steps).announced
  · have hstart : Fresh Vectors.start.origin Vectors.start.connection.database.items := by
      intro embedding hmem
      cases hmem
    exact along_iff_prefixes VectorContext
      (fun s => Fresh s.origin s.connection.database.items) (fun s step h => h.next step)
      (fun s step hcontext h => fresh_next_iff hcontext.sourced h step) vectorContext_start hstart

/-! ### A slow worker -/

def firstHash : Text := "1b16b1df538ba12dc3f97edbb85caa7050d46c148134290feba80f8236c83db9".toList
def secondHash : Text := "62c66a7a5dd70c3146618063c344e531e6d4b59e379808443ce962b3abd63c5a".toList

def twoNotes : Codec := .known (fun _ => []) [runtimeProvenance]
  [.object [("content_sha256".toList, .string firstHash), ("item_id".toList, .string "i".toList),
    ("revision".toList, integer 1)]]
  [("n".toList, firstHash), ("m".toList, secondHash)]

/-- A worker claims the job of an item, whose content is replaced before the worker is done. -/
def slowWorker : List WorkerStep :=
  [⟨.upsert (noteItem "i" "p") [] 0, []⟩, ⟨.claim "w".toList 0 1000 1, []⟩,
    ⟨.upsert { noteItem "i" "p" with content := "m".toList } [] 1, []⟩,
    ⟨.putEmbedding ⟨"i".toList, 0, "e".toList, [.finite 1]⟩ 2, firstHash⟩]

/-- **The vector of the first content becomes the embedding of the second.** The job that was
claimed names the first hash. -/
theorem slow_worker_put :
    let s := runFrom (Vectors.next twoNotes) slowWorker .start
    (s.connection.database.outbox.rows.map fun row =>
        (row.state.leaseOwner, twoNotes.readPayload row.payloadJson)) =
        [(some "w".toList, some (.object [("content_sha256".toList, .string firstHash),
          ("item_id".toList, .string "i".toList), ("revision".toList, integer 1)])), (none, none)] ∧
      s.connection.database.items.items.rows.map (fun item =>
        (item.contentSha256, item.embeddingGeneration)) = [(secondHash, some 0)] ∧
      s.connection.database.items.embeddings.rows.map Embedding.key = [("i".toList, 0)] ∧
      s.origin ("i".toList, 0) = firstHash := by
  decide +kernel

end NpcRuntime.Memory
