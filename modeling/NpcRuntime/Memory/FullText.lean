import NpcRuntime.Memory.Erased

/-!
# The full-text index

`memory_fts` has no content of its own: triggers on `memory_items` and the rebuild of a reindex
drive it. It mirrors the live rows all along a run, and every removal finds its entry, exactly if no
reindex meets a row that has been deleted softly, and no erasure one in its scope
(`index_mirrors_iff`): the rebuild indexes every row of the content table, and the trigger of a
deletion does not ask whether the row was live, as its siblings do. What the index answers to a
removal in vain does not matter.
-/

namespace NpcRuntime.Memory

open Text Json

variable {codec : Codec}

namespace ItemTables

/-- The index has exactly one entry for each live row, and every removal had its entry. -/
def Indexed (t : ItemTables) : Prop :=
  ContentIndex.Mirrors MemoryItem.live MemoryItem.ftsEntry t.items.rows t.fts

/-- Rows have their own `rowid`. -/
def RowidsApart (t : ItemTables) : Prop := (t.items.rows.map MemoryItem.rowid).Nodup

variable {t : ItemTables}

theorem lt_nextRowid {item : MemoryItem} (h : item ∈ t.items.rows) : item.rowid < t.nextRowid :=
  Rows.lt_foldr_max_succ (List.mem_map_of_mem h)

theorem Indexed.upserted {t : ItemTables} (h : t.Indexed) (input : MemoryInput) (id : Text)
    (nowMs : Int) : (upserted codec t input id nowMs).Indexed := by
  have hstatement : (upsertStatement codec t input id nowMs).Indexed := by
    unfold upsertStatement
    split
    · exact ContentIndex.Mirrors.insert h _
    · exact ContentIndex.Mirrors.update h _ _
  unfold Memory.upserted
  split
  · exact hstatement
  · exact hstatement

theorem RowidsApart.update (h : t.RowidsApart) {p : MemoryItem → Bool} {f : MemoryItem → MemoryItem}
    {hf : ∀ item, (f item).id = item.id} (hrowid : ∀ item, (f item).rowid = item.rowid) :
    (t.updateItems p f hf).RowidsApart := by
  have hsame : (t.updateItems p f hf).items.rows.map MemoryItem.rowid =
      t.items.rows.map MemoryItem.rowid := by
    show (t.items.rows.map fun item => if p item then f item else item).map MemoryItem.rowid = _
    rw [List.map_map]
    apply List.map_congr_left
    intro item _
    show (if p item then f item else item).rowid = item.rowid
    split
    · exact hrowid item
    · rfl
  unfold RowidsApart
  rw [hsame]
  exact h

theorem RowidsApart.upserted {t : ItemTables} (h : t.RowidsApart) (input : MemoryInput) (id : Text)
    (nowMs : Int) : (upserted codec t input id nowMs).RowidsApart := by
  unfold RowidsApart
  rw [upserted_items, upsertStatement]
  by_cases hfresh : t.items.find? (upsertedItem codec t input id nowMs).id = none
  · rw [dif_pos hfresh]
    show ((t.items.rows ++ [upsertedItem codec t input id nowMs]).map MemoryItem.rowid).Nodup
    rw [upsertedItem_id] at hfresh
    have hrowid : (upsertedItem codec t input id nowMs).rowid = t.nextRowid := by
      unfold upsertedItem
      rw [hfresh]
      rfl
    rw [List.map_append, List.map_singleton, hrowid, List.nodup_append]
    refine ⟨h, List.nodup_singleton _, ?_⟩
    intro rowid hmem other hother
    obtain ⟨item, hitem, rfl⟩ := List.mem_map.1 hmem
    rw [List.mem_singleton.1 hother]
    exact (lt_nextRowid hitem).ne
  · rw [dif_neg hfresh]
    exact h.update fun _ => rfl

/-- The entry of a deleted row is not one of a live row. -/
theorem RowidsApart.entry_not_live (h : t.RowidsApart) {item : MemoryItem}
    (hitem : item ∈ t.items.rows) (hdead : item.live = false) :
    item.ftsEntry ∉ ContentIndex.liveEntries MemoryItem.live MemoryItem.ftsEntry t.items.rows := by
  intro hmem
  obtain ⟨other, hother, hentry⟩ := List.mem_map.1 hmem
  obtain ⟨hother, hlive⟩ := List.mem_filter.1 hother
  have hsame : other = item :=
    List.inj_on_of_nodup_map h hother hitem (congrArg FtsEntry.rowid hentry)
  rw [hsame, hdead] at hlive
  cases hlive

theorem RowidsApart.delete (h : t.RowidsApart) (p : MemoryItem → Bool) :
    (t.deleteItems p).RowidsApart :=
  List.Nodup.sublist (List.filter_sublist.map _) h

/-- **A deletion finds its entries exactly if the rows it removes are live.** -/
theorem unmatched_delete_iff (h : t.Indexed) (hapart : t.RowidsApart) (p : MemoryItem → Bool) :
    (t.deleteItems p).fts.unmatched = [] ↔ ∀ item ∈ t.items.rows, p item = true → item.live = true :=
  ContentIndex.Mirrors.unmatched_delete_iff h p fun _ hitem hdead =>
    hapart.entry_not_live hitem hdead

theorem Indexed.delete (h : t.Indexed) (hapart : t.RowidsApart) {p : MemoryItem → Bool}
    (hlive : ∀ item ∈ t.items.rows, p item = true → item.live = true) :
    (t.deleteItems p).Indexed :=
  ContentIndex.Mirrors.delete h (fun _ hitem hdead => hapart.entry_not_live hitem hdead) hlive

/-- **A rebuild keeps the mirror exactly if every row is live.** -/
theorem indexed_rebuild_iff : t.rebuildFts.Indexed ↔ ∀ item ∈ t.items.rows, item.live = true :=
  ContentIndex.mirrors_rebuild_iff

end ItemTables

/-! ## Runs of the writer -/

/-- The removals that a call issues find their entries, whether or not the call goes through. Those
of an erasure are of all rows that it deletes; the others are of live rows, whose entries a mirror
lists. -/
def RemovalsFound (c : Connection) : WriterCommand → Prop
  | .eraseCharacter request _ => request.validate = .ok () →
    (c.database.items.deleteItems fun item =>
      erasesItem request.scope c.database item.id).fts.unmatched = []
  | _ => True

/-- After the step the index mirrors the live rows, and in it no removal was in vain. -/
structure KeepsMirror (codec : Codec) (c : Connection) (command : WriterCommand) : Prop where
  indexed : (c.next codec command).database.items.Indexed
  found : RemovalsFound c command

/-- No reindex meets a row that is deleted softly, and no erasure one in its scope. -/
def IndexSafe (codec : Codec) (c : Connection) : WriterCommand → Prop
  | .reindex request nowMs => reindexAccepted codec request nowMs c.database.items = true →
    ∀ item ∈ c.database.items.items.rows, item.live = true
  | .eraseCharacter request _ => request.validate = .ok () →
    ∀ item ∈ c.database.items.items.rows, request.scope.coversItem item.scope = true →
      item.live = true
  | _ => True

/-- What the exact condition of a step rests on. -/
structure IndexContext (c : Connection) : Prop where
  apart : c.database.items.RowidsApart
  sourced : Sourced c.database.authority

theorem IndexContext.next {c : Connection} (h : IndexContext c) (command : WriterCommand) :
    IndexContext (c.next codec command) := by
  refine ⟨?_, next_sourced command c h.sourced⟩
  by_cases hplain : command.plain = true
  · exact next_items_keeps codec ItemTables.RowidsApart
      (fun t input id nowMs ht => ht.upserted input id nowMs)
      (fun t p nowMs ht => ht.update fun _ => rfl) c hplain h.apart
  · cases command with
    | putEmbedding embedding nowMs =>
      by_cases haccepted : embedding.accepted c.database.items
      · rw [(next_put_items c).1 haccepted]
        have hput : (upsertEmbedding ⟨embedding.itemId, embedding.generation, embedding.modelId,
          embedding.values, nowMs⟩ c.database.items).RowidsApart := h.apart
        unfold embedded
        exact hput.update fun _ => rfl
      · rw [(next_put_items c).2 haccepted]
        exact h.apart
    | reindex request nowMs =>
      rw [next_reindex_items]
      split
      · exact h.apart
      · exact h.apart
    | eraseCharacter request erasureId =>
      by_cases haccepted : EraseAccepted codec request erasureId c.database
      · rw [(next_erase_items h.sourced).1 haccepted]
        exact h.apart.delete _
      · rw [(next_erase_items h.sourced).2 haccepted]
        exact h.apart
    | _ => exact absurd rfl hplain

/-- **What decides whether a step keeps the mirror.** -/
theorem keepsMirror_iff {c : Connection} (hcontext : IndexContext c)
    (h : c.database.items.Indexed) (command : WriterCommand) :
    KeepsMirror codec c command ↔ IndexSafe codec c command := by
  by_cases hplain : command.plain = true
  · have hkept := next_items_keeps codec ItemTables.Indexed
      (fun t input id nowMs ht => ht.upserted input id nowMs)
      (fun t p nowMs ht => ContentIndex.Mirrors.update ht p _) c hplain h
    cases command with
    | reindex request nowMs => cases hplain
    | eraseCharacter request erasureId => cases hplain
    | _ => exact iff_of_true ⟨hkept, trivial⟩ trivial
  · cases command with
    | putEmbedding embedding nowMs =>
      refine iff_of_true ⟨?_, trivial⟩ trivial
      by_cases haccepted : embedding.accepted c.database.items
      · rw [(next_put_items c).1 haccepted]
        exact ContentIndex.Mirrors.update h _ _
      · rw [(next_put_items c).2 haccepted]
        exact h
    | reindex request nowMs =>
      by_cases haccepted : reindexAccepted codec request nowMs c.database.items = true
      · constructor
        · intro hkeeps _
          have hindexed := hkeeps.indexed
          rw [next_reindex_items, if_pos haccepted] at hindexed
          exact ItemTables.indexed_rebuild_iff.1 hindexed
        · intro hlive
          refine ⟨?_, trivial⟩
          rw [next_reindex_items, if_pos haccepted]
          exact ItemTables.indexed_rebuild_iff.2 (hlive haccepted)
      · refine iff_of_true ⟨?_, trivial⟩ fun hgoes => absurd hgoes haccepted
        rw [next_reindex_items, if_neg haccepted]
        exact h
    | eraseCharacter request erasureId =>
      have hlive : (c.database.items.deleteItems fun item =>
          erasesItem request.scope c.database item.id).fts.unmatched = [] ↔
          ∀ item ∈ c.database.items.items.rows, request.scope.coversItem item.scope = true →
            item.live = true := by
        rw [ItemTables.unmatched_delete_iff h hcontext.apart]
        refine forall₂_congr fun item hitem => ?_
        rw [erasesItem_of_mem hitem]
      constructor
      · intro hkeeps hvalid
        exact hlive.1 (hkeeps.found hvalid)
      · intro hsafe
        refine ⟨?_, fun hvalid => hlive.2 (hsafe hvalid)⟩
        by_cases haccepted : EraseAccepted codec request erasureId c.database
        · rw [(next_erase_items hcontext.sourced).1 haccepted]
          exact h.delete hcontext.apart ((ItemTables.unmatched_delete_iff h hcontext.apart _).1
            (hlive.2 (hsafe haccepted.valid)))
        · rw [(next_erase_items hcontext.sourced).2 haccepted]
          exact h
    | _ => exact absurd rfl hplain

/-- **The full-text index mirrors the live rows** all along a run exactly if no reindex of the run
meets a row that is deleted softly and no erasure one in its scope. -/
theorem index_mirrors_iff (codec : Codec) (commands : List WriterCommand) :
    Along (Connection.next codec) (KeepsMirror codec) commands .start ↔
      Along (Connection.next codec) (IndexSafe codec) commands .start := by
  refine along_congr (fun c => IndexContext c ∧ c.database.items.Indexed) ?_ ?_
    ⟨⟨List.nodup_nil, fun link hlink => by cases hlink⟩, ContentIndex.Mirrors.empty⟩
  · intro c command h hsafe
    exact ⟨h.1.next command, ((keepsMirror_iff h.1 h.2 command).2 hsafe).indexed⟩
  · intro c command h
    exact keepsMirror_iff h.1 h.2 command

/-! ### Rows that are deleted softly -/

/-- **A rebuild indexes a row that is deleted, and an erasure removes an entry that is not there**,
where the index takes that as it lists another item. -/
theorem index_lists_deleted :
    (¬ Along (Connection.next noteCodec) (KeepsMirror noteCodec)
      (purgedItem ++ [.reindex ⟨0, "m".toList, 1⟩ 20]) .start) ∧
    (¬ Along (Connection.next noteCodec) (KeepsMirror noteCodec)
      (purgedItem ++ [.upsert (noteItem "x" "q") [] 0, .eraseCharacter characterRequest randomId])
      .start) ∧
    (runFrom (Connection.next noteCodec) (purgedItem ++ [.upsert (noteItem "x" "q") [] 0,
      .eraseCharacter characterRequest randomId]) .start).database.items.fts.unmatched.map
        FtsEntry.content = ["n".toList] := by
  refine ⟨fun h => ?_, fun h => ?_, by decide +kernel⟩
  · obtain ⟨⟨hentries, _⟩, _⟩ := (along_append.1 h).2.1
    revert hentries
    decide +kernel
  · have hfound := (along_append.1 h).2.2.1.found (by decide)
    revert hfound
    decide +kernel

end NpcRuntime.Memory
