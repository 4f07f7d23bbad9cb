import NpcRuntime.Lib.Limit
import NpcRuntime.Memory.Erased
import Mathlib.Data.Prod.Lex

/-!
# Retrieval of memory items

`retrieve_on` of `memory/src/store.rs` and `rank_candidates` of `memory/src/retrieval.rs`:
candidates by full text, by embedding or by recency, which are then loaded, filtered by the scope
the caller may see, ranked by modality and fused into one order.

The scores of `bm25` and of the cosine similarity are fixed for a query and a row; rounding to `f64`
is an argument.
-/

namespace NpcRuntime.Memory

open Text Json

/-- What the rows are scored with: `char::is_alphanumeric`, the rank of a row that matches a
full-text query, `cosine_similarity`, and the rounding of `f64` operations. -/
structure Scoring where
  alphanumeric : Char → Bool
  bm25 : (query content provenanceJson : Text) → Option ℚ
  cosine : (query values : List F32) → Option ℚ
  round : ℚ → ℚ

/-! ## Candidates -/

/-- The identifiers of the best `limit` hits. -/
def topIds {κ : Type} [LinearOrder κ] (limit : Nat) (hits : List (κ ×ₗ Text)) : List Text :=
  ((hits.insertionSort fun left right => left ≤ right).take limit).map fun hit => (ofLex hit).2

def quotedToken (token : Text) : Text :=
  '"' :: (token.flatMap (fun c => if c = '"' then "\"\"".toList else [c]) ++ "\"*".toList)

def ftsQuery (s : Scoring) (text : Text) : Option Text :=
  let tokens := ((text.splitOnP fun c => !s.alphanumeric c && c != '_').filter
    fun token => !token.isEmpty).take 32
  if tokens.isEmpty then none
  else some (" OR ".toList.intercalate (tokens.map quotedToken))

/-- The `WHERE` of all three modalities. -/
def MemoryItem.retrievable (nowMs : Int) (item : MemoryItem) : Bool :=
  item.live && item.unexpired nowMs

/-- `ORDER BY bm25(memory_fts), m.id`. -/
def MemoryItem.lexicalHit (s : Scoring) (ftsText : Text) (nowMs : Int) (item : MemoryItem) :
    Option (ℚ ×ₗ Text) :=
  if item.retrievable nowMs then
    (s.bm25 ftsText item.content item.provenanceJson).map fun score => toLex (score, item.id)
  else none

def lexicalHits (s : Scoring) (t : ItemTables) (text : Text) (nowMs : Int) : List (ℚ ×ₗ Text) :=
  match ftsQuery s text with
  | none => []
  | some ftsText => t.items.rows.filterMap (MemoryItem.lexicalHit s ftsText nowMs)

def lexicalCandidates (s : Scoring) (t : ItemTables) (text : Text) (nowMs : Int) (limit : Nat) :
    List Text :=
  topIds limit (lexicalHits s t text nowMs)

/-- The score of an embedding: the best first, then by identifier. -/
def Embedding.hit (s : Scoring) (query : List F32) (generation : Option Int)
    (embedding : Embedding) : Option (ℚᵒᵈ ×ₗ Text) :=
  if generation.all (embedding.generation = ·) then
    (s.cosine query embedding.values).map fun score =>
      toLex (OrderDual.toDual score, embedding.itemId)
  else none

def semanticHits (s : Scoring) (t : ItemTables) (query : List F32) (generation : Option Int)
    (nowMs : Int) : List (ℚᵒᵈ ×ₗ Text) :=
  (t.embeddings.rows.filter fun embedding =>
    (t.items.find? embedding.itemId).any (MemoryItem.retrievable nowMs)).filterMap
      (Embedding.hit s query generation)

def semanticCandidates (s : Scoring) (t : ItemTables) (query : List F32) (generation : Option Int)
    (nowMs : Int) (limit : Nat) : List Text :=
  topIds limit (semanticHits s t query generation nowMs)

/-- `ORDER BY observed_at_ms DESC, id`. -/
def MemoryItem.recentHit (nowMs : Int) (item : MemoryItem) : Option (ℤᵒᵈ ×ₗ Text) :=
  if item.retrievable nowMs then some (toLex (OrderDual.toDual item.observedAtMs, item.id))
  else none

def recentHits (t : ItemTables) (nowMs : Int) : List (ℤᵒᵈ ×ₗ Text) :=
  t.items.rows.filterMap (MemoryItem.recentHit nowMs)

def recentCandidates (t : ItemTables) (nowMs : Int) (limit : Nat) : List Text :=
  topIds limit (recentHits t nowMs)

/-- The candidates of each modality. -/
structure Candidates where
  lexical : List Text
  semantic : List Text
  recent : List Text

def candidates (s : Scoring) (query : RetrievalQuery) (t : ItemTables) : Candidates where
  lexical :=
    match query.text with
    | some text => lexicalCandidates s t text query.nowMs query.candidateLimit
    | none => []
  semantic :=
    match query.embedding with
    | some vector =>
      semanticCandidates s t vector query.embeddingGeneration query.nowMs query.candidateLimit
    | none => []
  recent :=
    if query.text.isNone && query.embedding.isNone then
      recentCandidates t query.nowMs query.candidateLimit
    else []

/-- A `BTreeSet` as the list it iterates over. -/
def sortedSet (ids : List Text) : List Text :=
  ids.dedup.insertionSort fun left right => left ≤ right

/-- `candidate_ids`. -/
def Candidates.ids (c : Candidates) : List Text := sortedSet (c.lexical ++ c.semantic ++ c.recent)

/-! ## What the caller may see -/

def scopeMatches (actual wanted : Option Text) (includeGlobal : Bool) : Bool :=
  match wanted with
  | none => true
  | some wanted => actual = some wanted || (includeGlobal && actual.isNone)

/-- `record_matches_filter`, on the columns it reads. -/
def RetrievalFilter.admits (filter : RetrievalFilter) («namespace» : MemoryNamespace)
    (visibility : Visibility) (scope : MemoryScope) : Bool :=
  filter.namespaces.contains «namespace» && filter.visibility.contains visibility &&
    scopeMatches scope.profileId filter.profileId filter.includeGlobalScope &&
    scopeMatches scope.gameId filter.gameId filter.includeGlobalScope &&
    scopeMatches scope.characterId filter.characterId filter.includeGlobalScope &&
    scopeMatches scope.sessionId filter.sessionId filter.includeGlobalScope &&
    scopeMatches scope.saveId filter.saveId filter.includeGlobalScope

def MemoryRecord.permitted (query : RetrievalQuery) (record : MemoryRecord) : Bool :=
  record.expiresAtMs.all (query.nowMs < ·) &&
    query.filter.admits record.namespace record.visibility record.scope

/-- The loop over the candidates. -/
def permittedRecords (codec : Codec) (query : RetrievalQuery) (t : ItemTables) :
    List Text → Except MemoryError (List MemoryRecord)
  | [] => .ok []
  | id :: ids => do
    let loaded ← loadRecord codec t id
    let records ← permittedRecords codec query t ids
    match loaded.filter (MemoryRecord.permitted query) with
    | none => return records
    | some record => return record :: records

/-! ## Ranking -/

structure CandidateRanks where
  lexical : Option Nat
  semantic : Option Nat
deriving DecidableEq

/-- `rank_map`: of two entries with a key the later one stays. -/
def rankMap (ids : List Text) : Text → Option Nat :=
  ids.zipIdx.foldl (fun ranks entry => Function.update ranks entry.1 (some entry.2)) fun _ => none

structure SearchHit where
  record : MemoryRecord
  score : ℚ
  lexicalRank : Option Nat
  semanticRank : Option Nat
deriving DecidableEq

/-- `1.0 / (RRF_K + rank as f64 + 1.0)`. -/
def reciprocalRank (round : ℚ → ℚ) (rank : Option Nat) : ℚ :=
  (rank.map fun rank => round (1 / round (round (60 + rank) + 1))).getD 0

/-- `i64::saturating_sub`. -/
def i64SaturatingSub (a b : Int) : Int := max (-2 ^ 63) (min (a - b) (2 ^ 63 - 1))

def fusedScore (round : ℚ → ℚ) (nowMs : Int) (record : MemoryRecord) (ranks : CandidateRanks) : ℚ :=
  let lexical := reciprocalRank round ranks.lexical
  let semantic := reciprocalRank round ranks.semantic
  let ageDays :=
    round (round (max (i64SaturatingSub nowMs record.observedAtMs) 0 : Int) / 86400000)
  let recency := round (1 / round (1 + round (ageDays / 30)))
  round (round (round (round (round (lexical * round 0.50) + round (semantic * round 0.40)) +
    round (record.importance * round 0.0008)) + round (record.confidence * round 0.0004)) +
    round (recency * round 0.0002))

/-- The best score first; ties go to the more important, the younger and the smaller identifier. -/
def SearchHit.orderKey (hit : SearchHit) : ℚᵒᵈ ×ₗ ℚᵒᵈ ×ₗ ℤᵒᵈ ×ₗ Text :=
  toLex (.toDual hit.score, toLex (.toDual hit.record.importance,
    toLex (.toDual hit.record.observedAtMs, hit.record.id)))

def rankCandidates (round : ℚ → ℚ) (candidates : List (MemoryRecord × CandidateRanks))
    (nowMs : Int) : List SearchHit :=
  (candidates.map fun candidate =>
    ⟨candidate.1, fusedScore round nowMs candidate.1 candidate.2, candidate.2.lexical,
      candidate.2.semantic⟩).insertionSort fun left right => left.orderKey ≤ right.orderKey

/-- The ranks of a modality are dense over the records the caller may see. -/
def modalityRanks (records : List MemoryRecord) (ids : List Text) : Text → Option Nat :=
  rankMap (ids.filter fun id => records.any fun record => record.id = id)

def searchHits (s : Scoring) (query : RetrievalQuery) (c : Candidates)
    (records : List MemoryRecord) : List SearchHit :=
  let lexical := modalityRanks records c.lexical
  let semantic := modalityRanks records c.semantic
  (rankCandidates s.round (records.map fun record =>
    (record, ⟨lexical record.id, semantic record.id⟩)) query.nowMs).take query.limit

def retrieveOn (codec : Codec) (s : Scoring) (query : RetrievalQuery) (t : ItemTables) :
    Except MemoryError (List SearchHit) := do
  let c := candidates s query t
  let records ← permittedRecords codec query t c.ids
  return searchHits s query c records

end NpcRuntime.Memory
