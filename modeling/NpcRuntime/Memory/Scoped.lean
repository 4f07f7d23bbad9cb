import NpcRuntime.Lib.Lists
import NpcRuntime.Memory.Retrieval

/-!
# Retrieval and the rows out of scope

What a retrieval returns should depend on the rows the caller may see alone. The code ranks the
candidates after it has dropped the others, but it takes the best `candidate_limit` of a modality
before that.

* Where no row out of scope takes the place of one in scope (`Undisplaced`), and the candidates out
  of scope read back, the hits are those of any other such store that agrees on the visible rows.
* The visible candidates are the best visible ones exactly if no visible one is displaced.
* Ranks are dense by full text, and by embedding exactly if no visible item is a candidate twice.

All three are `retrieval_scoped`; `hidden_row_displaces` is a row that takes a place.
-/

namespace NpcRuntime.Memory

open Text Json

/-! ## The rows the caller may see -/

/-- Live, unexpired and admitted by the filter. -/
def MemoryItem.visible (query : RetrievalQuery) (item : MemoryItem) : Bool :=
  item.retrievable query.nowMs &&
    query.filter.admits item.namespace item.visibility item.scope

/-- The columns of a row; the `rowid` is none. -/
def MemoryItem.columns (item : MemoryItem) : MemoryItem := { item with rowid := 0 }

/-- The row under an identifier, where the caller may see it. -/
def shown (query : RetrievalQuery) (t : ItemTables) (id : Text) : Option MemoryItem :=
  ((t.items.find? id).filter (MemoryItem.visible query)).map MemoryItem.columns

def shows (query : RetrievalQuery) (t : ItemTables) (id : Text) : Bool :=
  (t.items.find? id).any (MemoryItem.visible query)

/-- Two stores agree on the visible rows and their embeddings. -/
structure Agree (query : RetrievalQuery) (t t' : ItemTables) : Prop where
  items : ∀ id, shown query t id = shown query t' id
  embeddings : ∀ embedding : Embedding, shows query t embedding.itemId = true →
    (embedding ∈ t.embeddings.rows ↔ embedding ∈ t'.embeddings.rows)

section Rows

variable {query : RetrievalQuery} {t t' : ItemTables}

theorem shows_eq (query : RetrievalQuery) (t : ItemTables) (id : Text) :
    shows query t id = (shown query t id).isSome := by
  unfold shows shown
  cases t.items.find? id with
  | none => rfl
  | some item => cases hvisible : item.visible query <;> simp [Option.filter, hvisible]

theorem Agree.shows_congr (h : Agree query t t') (id : Text) :
    shows query t id = shows query t' id := by
  rw [shows_eq, shows_eq, h.items]

theorem shows_of_mem {item : MemoryItem} (h : item ∈ t.items.rows) :
    shows query t item.id = item.visible query := by
  rw [shows, Rows.find?_of_mem h, Option.any_some]

/-- The visible rows of a store, as far as their columns. -/
def visibleRows (query : RetrievalQuery) (t : ItemTables) : List MemoryItem :=
  (t.items.rows.filter (MemoryItem.visible query)).map MemoryItem.columns

theorem mem_visibleRows {row : MemoryItem} :
    row ∈ visibleRows query t ↔ shown query t row.id = some row := by
  rw [visibleRows, List.mem_map, shown, Option.map_eq_some_iff]
  refine exists_congr fun item => ?_
  rw [List.mem_filter, Option.filter_eq_some_iff]
  constructor
  · intro h
    obtain ⟨⟨hmem, hvisible⟩, rfl⟩ := h
    exact ⟨⟨Rows.find?_of_mem hmem, hvisible⟩, rfl⟩
  · intro h
    obtain ⟨⟨hfind, hvisible⟩, hrow⟩ := h
    exact ⟨⟨(Rows.find?_eq_some.1 hfind).1, hvisible⟩, hrow⟩

theorem visibleRows_nodup (query : RetrievalQuery) (t : ItemTables) :
    (visibleRows query t).Nodup := by
  apply List.Nodup.of_map MemoryItem.id
  rw [visibleRows, List.map_map]
  exact t.items.nodup.sublist (List.filter_sublist.map _)

theorem Agree.visibleRows_perm (h : Agree query t t') :
    (visibleRows query t).Perm (visibleRows query t') := by
  rw [List.perm_ext_iff_of_nodup (visibleRows_nodup query t) (visibleRows_nodup query t')]
  intro row
  rw [mem_visibleRows, mem_visibleRows, h.items]

theorem Agree.embeddings_perm (h : Agree query t t') :
    (t.embeddings.rows.filter fun embedding => shows query t embedding.itemId).Perm
      (t'.embeddings.rows.filter fun embedding => shows query t' embedding.itemId) := by
  rw [List.perm_ext_iff_of_nodup ((List.Nodup.of_map _ t.embeddings.nodup).filter _)
    ((List.Nodup.of_map _ t'.embeddings.nodup).filter _)]
  intro embedding
  simp only [List.mem_filter, ← h.shows_congr]
  refine and_congr_left ?_
  exact h.embeddings embedding

end Rows

/-! ## Hits -/

section Hits

variable {κ : Type} {query : RetrievalQuery} {s : Scoring} {t t' : ItemTables}

/-- The hits the caller may see. -/
def visibleHits (query : RetrievalQuery) (t : ItemTables) (hits : List (κ ×ₗ Text)) :
    List (κ ×ₗ Text) :=
  hits.filter fun hit => shows query t (ofLex hit).2

/-- A scoring of rows that names the row and does not look at its `rowid`. -/
structure ScoresColumns (f : MemoryItem → Option (κ ×ₗ Text)) : Prop where
  id : ∀ item hit, f item = some hit → (ofLex hit).2 = item.id
  columns : ∀ item, f item.columns = f item

theorem visibleHits_items {f : MemoryItem → Option (κ ×ₗ Text)} (hf : ScoresColumns f) :
    visibleHits query t (t.items.rows.filterMap f) = (visibleRows query t).filterMap f := by
  rw [visibleHits, visibleRows, List.filter_filterMap, List.filterMap_map, List.filterMap_filter]
  apply List.filterMap_congr
  intro item hitem
  rw [Function.comp_apply, hf.columns]
  cases hhit : f item with
  | none => simp
  | some hit => simp [Option.filter, hf.id item hit hhit, shows_of_mem hitem]

theorem lexicalHit_scoresColumns (s : Scoring) (ftsText : Text) (nowMs : Int) :
    ScoresColumns (MemoryItem.lexicalHit s ftsText nowMs) := by
  refine ⟨?_, fun _ => rfl⟩
  intro item hit h
  unfold MemoryItem.lexicalHit at h
  split at h
  · obtain ⟨score, _, rfl⟩ := Option.map_eq_some_iff.1 h
    rfl
  · cases h

theorem recentHit_scoresColumns (nowMs : Int) : ScoresColumns (MemoryItem.recentHit nowMs) := by
  refine ⟨?_, fun _ => rfl⟩
  intro item hit h
  unfold MemoryItem.recentHit at h
  split at h
  · cases h
    rfl
  · cases h

variable (s)

theorem Agree.lexicalHits_perm (h : Agree query t t') (text : Text) :
    (visibleHits query t (lexicalHits s t text query.nowMs)).Perm
      (visibleHits query t' (lexicalHits s t' text query.nowMs)) := by
  unfold lexicalHits
  cases ftsQuery s text with
  | none => exact .nil
  | some ftsText =>
    rw [visibleHits_items (lexicalHit_scoresColumns s ftsText query.nowMs),
      visibleHits_items (lexicalHit_scoresColumns s ftsText query.nowMs)]
    exact h.visibleRows_perm.filterMap _

theorem Agree.recentHits_perm (h : Agree query t t') :
    (visibleHits query t (recentHits t query.nowMs)).Perm
      (visibleHits query t' (recentHits t' query.nowMs)) := by
  unfold recentHits
  rw [visibleHits_items (recentHit_scoresColumns query.nowMs),
    visibleHits_items (recentHit_scoresColumns query.nowMs)]
  exact h.visibleRows_perm.filterMap _

theorem Embedding.hit_id {vector : List F32} {generation : Option Int} {embedding : Embedding}
    {hit : ℚᵒᵈ ×ₗ Text} (h : embedding.hit s vector generation = some hit) :
    (ofLex hit).2 = embedding.itemId := by
  unfold Embedding.hit at h
  split at h
  · obtain ⟨score, _, rfl⟩ := Option.map_eq_some_iff.1 h
    rfl
  · cases h

theorem visibleHits_semantic (vector : List F32) (generation : Option Int) :
    visibleHits query t (semanticHits s t vector generation query.nowMs) =
      (t.embeddings.rows.filter fun embedding => shows query t embedding.itemId).filterMap
        (Embedding.hit s vector generation) := by
  rw [visibleHits, semanticHits, List.filter_filterMap, List.filterMap_filter,
    List.filterMap_filter]
  apply List.filterMap_congr
  intro embedding _
  have hretrievable : shows query t embedding.itemId = true →
      (t.items.find? embedding.itemId).any (MemoryItem.retrievable query.nowMs) = true := by
    unfold shows
    cases t.items.find? embedding.itemId with
    | none => simp
    | some item => simp +contextual [MemoryItem.visible]
  cases hhit : embedding.hit s vector generation with
  | none => simp
  | some hit =>
    cases hshows : shows query t embedding.itemId with
    | false => simp [Option.filter, Embedding.hit_id s hhit, hshows]
    | true => simp [Option.filter, Embedding.hit_id s hhit, hshows, hretrievable hshows]

theorem Agree.semanticHits_perm (h : Agree query t t') (vector : List F32)
    (generation : Option Int) :
    (visibleHits query t (semanticHits s t vector generation query.nowMs)).Perm
      (visibleHits query t' (semanticHits s t' vector generation query.nowMs)) := by
  rw [visibleHits_semantic, visibleHits_semantic]
  exact h.embeddings_perm.filterMap _

end Hits

/-! ## Candidates -/

/-- No visible hit is cut off for one that is not visible. -/
def KeepsVisible {κ : Type} [LinearOrder κ] (query : RetrievalQuery) (t : ItemTables)
    (hits : List (κ ×ₗ Text)) : Prop :=
  (∀ hit ∈ (hits.insertionSort fun left right => left ≤ right).take query.candidateLimit,
      shows query t (ofLex hit).2 = true) ∨
    ∀ hit ∈ (hits.insertionSort fun left right => left ≤ right).drop query.candidateLimit,
      shows query t (ofLex hit).2 = false

/-- The same for each modality of the query. -/
structure Undisplaced (s : Scoring) (query : RetrievalQuery) (t : ItemTables) : Prop where
  lexical : ∀ text, query.text = some text →
    KeepsVisible query t (lexicalHits s t text query.nowMs)
  semantic : ∀ vector, query.embedding = some vector →
    KeepsVisible query t (semanticHits s t vector query.embeddingGeneration query.nowMs)
  recent : query.text = none → query.embedding = none →
    KeepsVisible query t (recentHits t query.nowMs)

/-- The candidates that pass. -/
def Candidates.filter (p : Text → Bool) (c : Candidates) : Candidates :=
  ⟨c.lexical.filter p, c.semantic.filter p, c.recent.filter p⟩

/-- The best visible candidates of each modality. -/
def visibleCandidates (s : Scoring) (query : RetrievalQuery) (t : ItemTables) : Candidates where
  lexical :=
    match query.text with
    | some text =>
      topIds query.candidateLimit (visibleHits query t (lexicalHits s t text query.nowMs))
    | none => []
  semantic :=
    match query.embedding with
    | some vector =>
      topIds query.candidateLimit (visibleHits query t
        (semanticHits s t vector query.embeddingGeneration query.nowMs))
    | none => []
  recent :=
    if query.text.isNone && query.embedding.isNone then
      topIds query.candidateLimit (visibleHits query t (recentHits t query.nowMs))
    else []

section Candidates

variable {κ : Type} [LinearOrder κ] {query : RetrievalQuery} {s : Scoring} {t t' : ItemTables}

theorem filter_topIds_iff (hits : List (κ ×ₗ Text)) :
    (topIds query.candidateLimit hits).filter (shows query t) =
        topIds query.candidateLimit (visibleHits query t hits) ↔ KeepsVisible query t hits := by
  rw [topIds, topIds, visibleHits,
    ← filter_insertionSort (fun left right : κ ×ₗ Text => left ≤ right), List.filter_map]
  exact map_filter_take_iff _ _ _ _

theorem topIds_eq_of_perm {hits hits' : List (κ ×ₗ Text)} (h : hits.Perm hits') (limit : Nat) :
    topIds limit hits = topIds limit hits' := by
  rw [topIds, topIds, insertionSort_eq_of_perm (fun left right : κ ×ₗ Text => left ≤ right)
    (fun _ _ _ _ hle hge => le_antisymm hle hge) h]

/-- **The visible candidates are the best visible ones exactly if none is displaced.** -/
theorem candidates_filter_iff :
    (candidates s query t).filter (shows query t) = visibleCandidates s query t ↔
      Undisplaced s query t := by
  have hlexical : (candidates s query t).lexical.filter (shows query t) =
      (visibleCandidates s query t).lexical ↔
        ∀ text, query.text = some text →
          KeepsVisible query t (lexicalHits s t text query.nowMs) := by
    unfold candidates visibleCandidates
    cases query.text with
    | none => simp
    | some text => simpa [lexicalCandidates] using filter_topIds_iff _
  have hsemantic : (candidates s query t).semantic.filter (shows query t) =
      (visibleCandidates s query t).semantic ↔
        ∀ vector, query.embedding = some vector →
          KeepsVisible query t
            (semanticHits s t vector query.embeddingGeneration query.nowMs) := by
    unfold candidates visibleCandidates
    cases query.embedding with
    | none => simp
    | some vector => simpa [semanticCandidates] using filter_topIds_iff _
  have hrecent : (candidates s query t).recent.filter (shows query t) =
      (visibleCandidates s query t).recent ↔
        (query.text = none → query.embedding = none →
          KeepsVisible query t (recentHits t query.nowMs)) := by
    unfold candidates visibleCandidates
    cases htext : query.text with
    | some text => simp
    | none =>
      cases hembedding : query.embedding with
      | some vector => simp
      | none => simpa [recentCandidates] using filter_topIds_iff _
  constructor
  · intro h
    exact ⟨hlexical.1 (congrArg Candidates.lexical h), hsemantic.1 (congrArg Candidates.semantic h),
      hrecent.1 (congrArg Candidates.recent h)⟩
  · intro h
    rw [Candidates.filter, hlexical.2 h.lexical, hsemantic.2 h.semantic, hrecent.2 h.recent]

/-- **The best visible candidates depend on the visible rows alone.** -/
theorem Agree.visibleCandidates_eq (h : Agree query t t') :
    visibleCandidates s query t = visibleCandidates s query t' := by
  unfold visibleCandidates
  congr 1
  · cases query.text with
    | none => rfl
    | some text => exact topIds_eq_of_perm (h.lexicalHits_perm s text) _
  · cases query.embedding with
    | none => rfl
    | some vector => exact topIds_eq_of_perm (h.semanticHits_perm s vector _) _
  · split
    · exact topIds_eq_of_perm h.recentHits_perm _
    · rfl

end Candidates

/-! ## Loading -/

variable {ids : List Text}

section Loading

variable {codec : Codec} {query : RetrievalQuery} {s : Scoring} {t t' : ItemTables}

theorem sortedSet_filter (p : Text → Bool) (ids : List Text) :
    (sortedSet ids).filter p = sortedSet (ids.filter p) := by
  unfold sortedSet
  rw [filter_insertionSort (fun left right : Text => left ≤ right)]
  apply insertionSort_eq_of_perm (fun left right : Text => left ≤ right)
    (fun _ _ _ _ hle hge => le_antisymm hle hge)
  rw [List.perm_ext_iff_of_nodup ((List.nodup_dedup ids).filter p) (List.nodup_dedup _)]
  intro id
  simp

theorem Candidates.ids_filter (p : Text → Bool) (c : Candidates) :
    c.ids.filter p = (c.filter p).ids := by
  simp only [Candidates.ids, Candidates.filter, sortedSet_filter, List.filter_append]

theorem Candidates.mem_ids {c : Candidates} {id : Text} :
    id ∈ c.ids ↔ id ∈ c.lexical ∨ id ∈ c.semantic ∨ id ∈ c.recent := by
  simp [Candidates.ids, sortedSet]

/-- What is loaded under an identifier is permitted exactly if it is visible. -/
theorem loaded_permitted {id : Text} {loaded : Option MemoryRecord}
    (h : loadRecord codec t id = .ok loaded) :
    (loaded.filter (MemoryRecord.permitted query)).map MemoryRecord.id =
      if shows query t id then some id else none := by
  unfold loadRecord at h
  unfold shows
  cases hfind : t.items.find? id with
  | none =>
    rw [hfind] at h
    cases h
    rfl
  | some item =>
    rw [hfind] at h
    have hid := (Rows.find?_eq_some.1 hfind).2
    cases hlive : item.live with
    | false =>
      simp only [Option.filter_some, hlive, Bool.false_eq_true, if_false] at h
      cases h
      simp [MemoryItem.visible, MemoryItem.retrievable, hlive]
    | true =>
      simp only [Option.filter_some, hlive, if_true] at h
      obtain ⟨record, hrecord, rfl⟩ := map_eq_ok.1 h
      obtain ⟨provenance, _, hpure⟩ := bind_eq_ok.1 hrecord
      obtain rfl := pure_eq_ok.1 hpure
      rw [Option.any_some, MemoryItem.visible, MemoryItem.retrievable, hlive, Bool.true_and,
        MemoryItem.unexpired, Option.filter_some, MemoryRecord.permitted]
      split
      · exact congrArg some hid
      · rfl

/-- **The records that are permitted are those of the visible candidates.** -/
theorem permittedRecords_ids {records : List MemoryRecord}
    (h : permittedRecords codec query t ids = .ok records) :
    records.map MemoryRecord.id = ids.filter (shows query t) := by
  induction ids generalizing records with
  | nil =>
    cases h
    rfl
  | cons id ids ih =>
    obtain ⟨loaded, hloaded, h⟩ := bind_eq_ok.1 h
    obtain ⟨rest, hrest, h⟩ := bind_eq_ok.1 h
    have hid := @loaded_permitted codec query t id loaded hloaded
    cases hfilter : loaded.filter (MemoryRecord.permitted query) with
    | none =>
      rw [hfilter] at h hid
      obtain rfl := pure_eq_ok.1 h
      have hhidden : ¬ shows query t id = true := by
        intro hshows
        simp [hshows] at hid
      rw [List.filter_cons_of_neg hhidden, ih hrest]
    | some record =>
      rw [hfilter] at h hid
      obtain rfl := pure_eq_ok.1 h
      by_cases hshows : shows query t id = true
      · rw [if_pos hshows] at hid
        rw [List.filter_cons_of_pos hshows, List.map_cons, ih hrest, Option.some.inj hid]
      · rw [if_neg hshows] at hid
        cases hid

/-- Candidates that are not visible and read back are skipped. -/
theorem permittedRecords_filter
    (h : ∀ id ∈ ids, shows query t id = false → ∃ loaded, loadRecord codec t id = .ok loaded) :
    permittedRecords codec query t ids =
      permittedRecords codec query t (ids.filter (shows query t)) := by
  induction ids with
  | nil => rfl
  | cons id ids ih =>
    obtain ⟨hhead, htail⟩ := List.forall_mem_cons.1 h
    cases hshows : shows query t id with
    | true =>
      rw [List.filter_cons_of_pos hshows, permittedRecords, permittedRecords, ih htail]
    | false =>
      obtain ⟨loaded, hloaded⟩ := hhead hshows
      have hskipped : loaded.filter (MemoryRecord.permitted query) = none := by
        have hid := @loaded_permitted codec query t id loaded hloaded
        rw [hshows] at hid
        simpa using hid
      rw [List.filter_cons_of_neg (by simp [hshows]), permittedRecords, hloaded, ih htail]
      cases hrest : permittedRecords codec query t (ids.filter (shows query t)) with
      | error error => rfl
      | ok records =>
        simp only [bind, Except.bind, hskipped]
        rfl

theorem permittedRecords_congr (h : ∀ id ∈ ids, loadRecord codec t id = loadRecord codec t' id) :
    permittedRecords codec query t ids = permittedRecords codec query t' ids := by
  induction ids with
  | nil => rfl
  | cons id ids ih =>
    obtain ⟨hhead, htail⟩ := List.forall_mem_cons.1 h
    rw [permittedRecords, permittedRecords, hhead, ih htail]

/-- Visible rows on which the stores agree load the same. -/
theorem Agree.loadRecord_eq (h : Agree query t t') {id : Text} (hshows : shows query t id = true) :
    loadRecord codec t id = loadRecord codec t' id := by
  have hload : ∀ t : ItemTables, ∀ row, shown query t id = some row →
      loadRecord codec t id = (row.record codec).map some := by
    intro t row hrow
    obtain ⟨item, hitem, rfl⟩ := Option.map_eq_some_iff.1 hrow
    obtain ⟨hfind, hvisible⟩ := Option.filter_eq_some_iff.1 hitem
    have hlive : item.live = true := by
      simp only [MemoryItem.visible, MemoryItem.retrievable, Bool.and_eq_true] at hvisible
      exact hvisible.1.1
    rw [loadRecord, hfind, Option.filter_some, if_pos hlive]
    rfl
  rw [shows_eq, Option.isSome_iff_exists] at hshows
  obtain ⟨row, hrow⟩ := hshows
  rw [hload t row hrow, hload t' row (h.items id ▸ hrow)]

end Loading

/-! ## Ranks -/

theorem rankMap_concat (ids : List Text) (id : Text) :
    rankMap (ids ++ [id]) = Function.update (rankMap ids) id (some ids.length) := by
  simp [rankMap, List.zipIdx_append]

/-- The rank of an identifier is its last position. -/
theorem rankMap_eq_some {id : Text} {rank : Nat} :
    rankMap ids id = some rank ↔
      ids[rank]? = some id ∧ ∀ later, rank < later → ids[later]? ≠ some id := by
  induction ids using List.reverseRecOn with
  | nil => simp [rankMap]
  | append_singleton ids last ih =>
    rw [rankMap_concat]
    by_cases hlast : id = last
    · subst hlast
      rw [Function.update_self, Option.some.injEq]
      constructor
      · intro hrank
        subst hrank
        refine ⟨by simp, ?_⟩
        intro later hlater
        rw [List.getElem?_eq_none (by rw [List.length_append]; exact hlater)]
        simp
      · intro h
        obtain ⟨hat, hnone⟩ := h
        obtain ⟨hbound, _⟩ := List.getElem?_eq_some_iff.1 hat
        rw [List.length_append, List.length_singleton] at hbound
        by_contra hne
        exact hnone ids.length (by omega) (by simp)
    · rw [Function.update_of_ne hlast, ih]
      have hsame : ∀ i : Nat, (ids ++ [last])[i]? = some id ↔ ids[i]? = some id := by
        intro i
        rw [List.getElem?_append]
        split
        · rfl
        · next hi =>
          rw [List.getElem?_eq_none (by omega : ids.length ≤ i)]
          cases hsub : i - ids.length with
          | zero => simp [Ne.symm hlast]
          | succ k => simp
      simp only [hsame, ne_eq]

/-- The ranks are a bijection between the ranked identifiers and the numbers below some `k`. -/
def Dense (ranks : Text → Option Nat) : Prop :=
  ∃ k, (∀ id rank, ranks id = some rank → rank < k) ∧ ∀ rank < k, ∃! id, ranks id = some rank

/-- **Ranks are dense exactly if nothing is ranked twice.** -/
theorem dense_rankMap_iff : Dense (rankMap ids) ↔ ids.Nodup := by
  constructor
  · intro h
    obtain ⟨k, hbelow, hall⟩ := h
    rw [List.nodup_iff_getElem?_ne_getElem?]
    intro i j hij hj heq
    -- The last identifier has the last position as its rank.
    have hlast : rankMap ids ids[ids.length - 1] = some (ids.length - 1) := by
      refine rankMap_eq_some.2 ⟨List.getElem?_eq_getElem _, ?_⟩
      intro later hlater
      rw [List.getElem?_eq_none (by omega)]
      simp
    have hlength := hbelow _ _ hlast
    obtain ⟨id, hid, _⟩ := hall i (by omega)
    obtain ⟨hat, hnone⟩ := rankMap_eq_some.1 hid
    exact hnone j hij (heq ▸ hat)
  · intro h
    rw [List.nodup_iff_getElem?_ne_getElem?] at h
    refine ⟨ids.length, ?_, ?_⟩
    · intro id rank hid
      exact (List.getElem?_eq_some_iff.1 (rankMap_eq_some.1 hid).1).1
    · intro rank hrank
      refine ⟨ids[rank], rankMap_eq_some.2 ⟨List.getElem?_eq_getElem hrank, ?_⟩, ?_⟩
      · intro later hlater hat
        obtain ⟨hbound, _⟩ := List.getElem?_eq_some_iff.1 hat
        exact h rank later hlater hbound ((List.getElem?_eq_getElem hrank).trans hat.symm)
      · intro id hid
        have hat := (rankMap_eq_some.1 hid).1
        rw [List.getElem?_eq_getElem hrank] at hat
        exact (Option.some.inj hat).symm

/-! ## The guarantee -/

section Answer

variable {codec : Codec} {query : RetrievalQuery} {s : Scoring} {t t' : ItemTables}
  {c : Candidates} {records : List MemoryRecord}

/-- The ranks of a modality are those of its visible candidates. -/
theorem modalityRanks_eq (h : permittedRecords codec query t c.ids = .ok records)
    (hids : ∀ id ∈ ids, id ∈ c.ids) :
    modalityRanks records ids = rankMap (ids.filter (shows query t)) := by
  have hcontained : ∀ id ∈ ids,
      (records.any fun record => record.id = id) = shows query t id := by
    intro id hid
    have hmem : id ∈ records.map MemoryRecord.id ↔ shows query t id = true := by
      rw [permittedRecords_ids h, List.mem_filter, and_iff_right (hids id hid)]
    rw [Bool.eq_iff_iff, ← hmem, List.any_eq_true, List.mem_map]
    simp
  rw [modalityRanks, List.filter_congr hcontained]

theorem modalityRanks_filter (h : permittedRecords codec query t c.ids = .ok records)
    (hids : ∀ id ∈ ids, id ∈ c.ids) :
    modalityRanks records (ids.filter (shows query t)) = modalityRanks records ids := by
  rw [modalityRanks_eq h hids,
    modalityRanks_eq h (fun id hid => hids id (List.mem_of_mem_filter hid)), List.filter_filter]
  simp

/-- What is made of the candidates. -/
def answer (codec : Codec) (s : Scoring) (query : RetrievalQuery) (t : ItemTables)
    (c : Candidates) : Except MemoryError (List SearchHit) := do
  let records ← permittedRecords codec query t c.ids
  return searchHits s query c records

/-- Hidden candidates that read back do not matter. -/
theorem answer_filter
    (h : ∀ id ∈ c.ids, shows query t id = false → ∃ loaded, loadRecord codec t id = .ok loaded) :
    answer codec s query t c = answer codec s query t (c.filter (shows query t)) := by
  unfold answer
  rw [← Candidates.ids_filter, ← permittedRecords_filter h]
  cases hrecords : permittedRecords codec query t c.ids with
  | error error => rfl
  | ok records =>
    have hlexical : modalityRanks records (c.filter (shows query t)).lexical =
        modalityRanks records c.lexical :=
      modalityRanks_filter hrecords fun id hid => Candidates.mem_ids.2 (.inl hid)
    have hsemantic : modalityRanks records (c.filter (shows query t)).semantic =
        modalityRanks records c.semantic :=
      modalityRanks_filter hrecords fun id hid => Candidates.mem_ids.2 (.inr (.inl hid))
    show Except.ok (searchHits s query c records) =
      .ok (searchHits s query (c.filter (shows query t)) records)
    rw [searchHits, searchHits, hlexical, hsemantic]

end Answer

/-- What a retrieval needs of the rows the caller may not see. -/
structure Undisturbed (codec : Codec) (s : Scoring) (query : RetrievalQuery) (t : ItemTables) :
    Prop where
  undisplaced : Undisplaced s query t
  readable : ∀ id ∈ (candidates s query t).ids, shows query t id = false →
    ∃ loaded, loadRecord codec t id = .ok loaded

variable {query : RetrievalQuery}

/-- An undisturbed retrieval answers with the best visible candidates. -/
theorem retrieveOn_eq {codec : Codec} {s : Scoring} {t : ItemTables}
    (h : Undisturbed codec s query t) :
    retrieveOn codec s query t = answer codec s query t (visibleCandidates s query t) := by
  rw [← candidates_filter_iff.2 h.undisplaced, ← answer_filter h.readable]
  rfl

/-- The best visible candidates are visible. -/
theorem shows_of_mem_visibleCandidates {s : Scoring} {t : ItemTables} (h : Undisplaced s query t)
    {id : Text} (hid : id ∈ (visibleCandidates s query t).ids) : shows query t id = true := by
  rw [← candidates_filter_iff.2 h, ← Candidates.ids_filter, List.mem_filter] at hid
  exact hid.2

theorem topIds_nodup {κ : Type} [LinearOrder κ] {hits : List (κ ×ₗ Text)}
    (h : (hits.map fun hit => (ofLex hit).2).Nodup) (limit : Nat) : (topIds limit hits).Nodup := by
  have hsorted := ((List.perm_insertionSort (fun left right : κ ×ₗ Text => left ≤ right) hits).map
    fun hit => (ofLex hit).2).nodup_iff.2 h
  exact hsorted.sublist ((List.take_sublist _ _).map _)

/-- No item is found twice by full text. -/
theorem lexicalCandidates_nodup (s : Scoring) (t : ItemTables) (text : Text) (nowMs : Int)
    (limit : Nat) : (lexicalCandidates s t text nowMs limit).Nodup := by
  apply topIds_nodup
  unfold lexicalHits
  cases ftsQuery s text with
  | none => exact .nil
  | some ftsText =>
    have hall := (perm_filterMap_filter _ (fun hit : ℚ ×ₗ Text => (ofLex hit).2) MemoryItem.id
      (lexicalHit_scoresColumns s ftsText nowMs).id t.items.rows).nodup_iff.1 t.items.nodup
    exact hall.of_append_left

/-- No item is found twice by embeddings of one generation. -/
theorem semanticCandidates_nodup (s : Scoring) (t : ItemTables) (vector : List F32)
    (generation nowMs : Int) (limit : Nat) :
    (semanticCandidates s t vector (some generation) nowMs limit).Nodup := by
  apply topIds_nodup
  have hkey : ∀ embedding hit, Embedding.hit s vector (some generation) embedding = some hit →
      ((ofLex hit).2, generation) = embedding.key := by
    intro embedding hit h
    have hid := Embedding.hit_id s h
    unfold Embedding.hit at h
    split at h
    · next hgeneration =>
      rw [Option.all_some, decide_eq_true_eq] at hgeneration
      rw [hid, Embedding.key, hgeneration]
    · cases h
  have hrows : ((t.embeddings.rows.filter fun embedding => (t.items.find? embedding.itemId).any
      (MemoryItem.retrievable nowMs)).map Embedding.key).Nodup :=
    t.embeddings.nodup.sublist (List.filter_sublist.map _)
  have hall := (perm_filterMap_filter _ (fun hit : ℚᵒᵈ ×ₗ Text => ((ofLex hit).2, generation))
    Embedding.key hkey _).nodup_iff.1 hrows
  apply List.Nodup.of_map fun id : Text => (id, generation)
  rw [List.map_map]
  exact hall.of_append_left

/-- **Retrieval and the rows out of scope.** -/
theorem retrieval_scoped (codec : Codec) (s : Scoring) (query : RetrievalQuery) :
    (∀ t t', Agree query t t' → Undisturbed codec s query t → Undisturbed codec s query t' →
      retrieveOn codec s query t = retrieveOn codec s query t') ∧
    (∀ t, (candidates s query t).filter (shows query t) = visibleCandidates s query t ↔
      Undisplaced s query t) ∧
    ∀ t records, permittedRecords codec query t (candidates s query t).ids = .ok records →
      Dense (modalityRanks records (candidates s query t).lexical) ∧
        (Dense (modalityRanks records (candidates s query t).semantic) ↔
          ((candidates s query t).semantic.filter (shows query t)).Nodup) ∧
        (query.embeddingGeneration.isSome = true →
          ((candidates s query t).semantic.filter (shows query t)).Nodup) := by
  refine ⟨?_, fun t => candidates_filter_iff, ?_⟩
  · intro t t' hagree h h'
    rw [retrieveOn_eq h, retrieveOn_eq h', ← hagree.visibleCandidates_eq]
    unfold answer
    rw [permittedRecords_congr fun id hid =>
      hagree.loadRecord_eq (shows_of_mem_visibleCandidates h.undisplaced hid)]
  · intro t records hrecords
    rw [modalityRanks_eq hrecords fun id hid => Candidates.mem_ids.2 (.inl hid),
      modalityRanks_eq hrecords fun id hid => Candidates.mem_ids.2 (.inr (.inl hid)),
      dense_rankMap_iff, dense_rankMap_iff]
    refine ⟨List.Nodup.filter _ ?_, Iff.rfl, ?_⟩
    · unfold candidates
      cases query.text with
      | none => exact .nil
      | some text => exact lexicalCandidates_nodup s t text _ _
    · intro hgeneration
      obtain ⟨generation, hgeneration⟩ := Option.isSome_iff_exists.1 hgeneration
      apply List.Nodup.filter
      unfold candidates
      cases query.embedding with
      | none => exact .nil
      | some vector =>
        rw [hgeneration]
        exact semanticCandidates_nodup s t vector generation _ _

/-! ### A row that takes a place -/

/-- The note of another profile in front of the note `v`, or the note `v` alone. -/
def crowdedStore : ItemTables :=
  (runFrom (Connection.next noteCodec)
    [.upsert (noteItem "a" "q") [] 0, .upsert (noteItem "v" "p") [] 0] .start).database.items

def lonelyStore : ItemTables :=
  (runFrom (Connection.next noteCodec) [.upsert (noteItem "v" "p") [] 0] .start).database.items

/-- One note of the profile `p`, of one candidate. -/
def noteQuery : RetrievalQuery where
  text := some "n".toList
  embedding := none
  embeddingGeneration := none
  filter := ⟨[.event], [.private], some "p".toList, none, none, none, none, false⟩
  limit := 1
  candidateLimit := 1
  nowMs := 0

/-- All notes hold the same text, so they score the same. -/
def noteScoring : Scoring where
  alphanumeric := Char.isAlphanum
  bm25 _ _ _ := some (-1)
  cosine _ _ := none
  round q := q

theorem agree_of_visibleRows {t t' : ItemTables}
    (hitems : visibleRows query t = visibleRows query t')
    (hembeddings : t.embeddings = t'.embeddings) : Agree query t t' := by
  have hshown : ∀ (t : ItemTables) id row,
      shown query t id = some row ↔ row ∈ visibleRows query t ∧ row.id = id := by
    intro t id row
    rw [mem_visibleRows]
    constructor
    · intro h
      obtain ⟨item, hitem, rfl⟩ := Option.map_eq_some_iff.1 h
      have hid : item.columns.id = id :=
        (Rows.find?_eq_some.1 (Option.filter_eq_some_iff.1 hitem).1).2
      rw [hid]
      exact ⟨h, rfl⟩
    · intro h
      obtain ⟨h, rfl⟩ := h
      exact h
  refine ⟨?_, fun _ _ => by rw [hembeddings]⟩
  intro id
  apply Option.ext
  intro row
  rw [hshown, hshown, hitems]

/-- **A note the caller may not see takes the place of the one it may see.** -/
theorem hidden_row_displaces :
    noteQuery.validate = .ok () ∧ Agree noteQuery lonelyStore crowdedStore ∧
      (retrieveOn noteCodec noteScoring noteQuery lonelyStore).map
        (fun hits => hits.map fun hit => (hit.record.id, hit.lexicalRank)) =
          .ok [("v".toList, some 0)] ∧
      retrieveOn noteCodec noteScoring noteQuery crowdedStore = .ok [] :=
  ⟨by decide +kernel, agree_of_visibleRows (by decide +kernel) (by decide +kernel),
    by decide +kernel, by decide +kernel⟩

end NpcRuntime.Memory
