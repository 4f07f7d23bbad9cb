import NpcRuntime.Lib.Limit
import NpcRuntime.Memory.Erased
import Mathlib.Data.List.Infix
import Mathlib.Data.Prod.Lex

/-!
# Context retrieval

`retrieve_context_on` of `memory/src/store.rs`: the recent dialogue of a scope, and for each class
of knowledge its best memories. The query orders the memories in scope and takes the first eight
times the limit; only then the spoiler rules hide some of them.

* Each list holds the first visible memories of that window, so it begins the visible memories in
  their order, and it is as long as the limit allows exactly if the window holds that many of them
  or none stands behind it (`context_lists`).
* Hidden memories in front push visible ones out of the window (`hidden_fill_the_window`).

`str::to_lowercase` is an argument; SQLite's `lower` knows ASCII only.
-/

namespace NpcRuntime.Memory

open Text Json

/-- SQLite's `lower`. -/
def sqlLower (t : Text) : Text := t.map Char.toLower

/-! ## Recent dialogue -/

/-- `ORDER BY delivered_at_ms, sequence_no, turn_id`. -/
def DeliveredTurn.orderKey (turn : DeliveredTurn) : Int ×ₗ Nat ×ₗ Text :=
  toLex (turn.deliveredAtMs, toLex (turn.sequenceNo, turn.turnId))

/-- The last turns of the scope, oldest first. -/
def recentTurns (t : AuthorityTables) (query : ContextQuery) : List DeliveredTurn :=
  (((t.turns.rows.filter fun turn => turn.scope = query.scope).insertionSort
    fun left right => right.orderKey ≤ left.orderKey).take query.recentTurnLimit).insertionSort
      fun left right => left.orderKey ≤ right.orderKey

def recentDialogue (codec : Codec) (t : AuthorityTables) (query : ContextQuery) :
    Except MemoryError (List DeliveredTurnRecord) :=
  if 0 < query.recentTurnLimit then (recentTurns t query).mapM (DeliveredTurn.record codec)
  else .ok []

/-! ## One class -/

/-- `column IS NULL OR column IS ?`. -/
def nullOrIs (actual wanted : Option Text) : Bool := actual.isNone || actual = wanted

/-- The `WHERE` of `retrieve_class`. -/
def StructuredMemory.inScope (query : ContextQuery) (knowledgeClass : KnowledgeClass)
    (memory : StructuredMemory) : Bool :=
  memory.scope.userId = query.scope.userId && memory.scope.profileId = query.scope.profileId &&
    memory.scope.gameId = query.scope.gameId && memory.knowledgeClass = knowledgeClass &&
    nullOrIs memory.scope.characterId query.scope.characterId &&
    nullOrIs memory.scope.encounterId query.scope.encounterId &&
    nullOrIs memory.scope.sessionId query.scope.sessionId &&
    nullOrIs memory.scope.saveId query.scope.saveId &&
    memory.expiresAtMs.all (query.nowMs < ·)

/-- The text of a query, trimmed and in lower case, unless it is blank. -/
def ContextQuery.normalizedText (toLowercase : Text → Text) (query : ContextQuery) : Option Text :=
  ((query.text.map trim).filter fun text => !text.isEmpty).map toLowercase

/-- `instr(lower(content), ?) > 0`. -/
def StructuredMemory.mentions (memory : StructuredMemory) (text : Option Text) : Bool :=
  text.any fun text => text <:+: sqlLower memory.content

/-- `ORDER BY CASE … END, importance DESC, confidence DESC, observed_at_ms DESC, id`. -/
def StructuredMemory.orderKey (text : Option Text) (memory : StructuredMemory) :
    Nat ×ₗ ℚᵒᵈ ×ₗ ℚᵒᵈ ×ₗ ℤᵒᵈ ×ₗ Text :=
  toLex (if memory.mentions text then 0 else 1, toLex (.toDual memory.importance,
    toLex (.toDual memory.confidence, toLex (.toDual memory.observedAtMs, memory.id))))

/-- The memories of a class that are in scope, in the order of the query. -/
def rankedMemories (toLowercase : Text → Text) (t : AuthorityTables) (query : ContextQuery)
    (knowledgeClass : KnowledgeClass) : List StructuredMemory :=
  (t.memories.rows.filter (StructuredMemory.inScope query knowledgeClass)).insertionSort
    fun left right => left.orderKey (query.normalizedText toLowercase) ≤
      right.orderKey (query.normalizedText toLowercase)

def ContextQuery.candidateLimit (query : ContextQuery) : Nat := min (query.perClassLimit * 8) 8000

def spoilerScopeMatches (spoilerScope : SpoilerScope) (scope : AuthorityScope)
    (query : ContextQuery) : Bool :=
  match spoilerScope with
  | .none | .game | .userPrivate => true
  | .save => query.scope.saveId.isSome && scope.saveId = query.scope.saveId
  | .characterPrivate =>
    query.scope.characterId.isSome && scope.characterId = query.scope.characterId

/-- The loop over the candidates: hidden ones are skipped, and the visible ones get their sources,
until there are enough. -/
def collectVisible (t : AuthorityTables) (query : ContextQuery)
    (visible : List DerivedMemoryRecord) : List DerivedMemoryRecord → List DerivedMemoryRecord
  | [] => visible
  | record :: candidates =>
    if !query.spoilerPolicy.allows record.spoilerScope ||
        !spoilerScopeMatches record.spoilerScope record.scope query then
      collectVisible t query visible candidates
    else
      let visible := visible ++ [{ record with sourceTurnIds := t.sourceTurnIds record.id }]
      if visible.length = query.perClassLimit then visible
      else collectVisible t query visible candidates

def retrieveClass (codec : Codec) (toLowercase : Text → Text) (t : AuthorityTables)
    (query : ContextQuery) (knowledgeClass : KnowledgeClass) :
    Except MemoryError (List DerivedMemoryRecord) :=
  if query.perClassLimit = 0 then .ok []
  else do
    let candidates ← ((rankedMemories toLowercase t query knowledgeClass).take
      query.candidateLimit).mapM fun memory => memory.record codec []
    return collectVisible t query [] candidates

/-! ## The bundle -/

def retrieveContextOn (codec : Codec) (toLowercase : Text → Text) (t : AuthorityTables)
    (query : ContextQuery) : Except MemoryError MemoryContextBundle := do
  let recentDialogue ← recentDialogue codec t query
  let worldLore ← retrieveClass codec toLowercase t query .worldLore
  let biography ← retrieveClass codec toLowercase t query .biography
  let characterKnowledge ← retrieveClass codec toLowercase t query .characterKnowledge
  let uncertainPublicInfo ← retrieveClass codec toLowercase t query .uncertainPublicInfo
  let longTermSummaries ← retrieveClass codec toLowercase t query .longTermSummary
  return { worldLore, biography, characterKnowledge, uncertainPublicInfo, recentDialogue,
           longTermSummaries }

/-- The list of a class. -/
def MemoryContextBundle.ofClass (bundle : MemoryContextBundle) :
    KnowledgeClass → List DerivedMemoryRecord
  | .worldLore => bundle.worldLore
  | .biography => bundle.biography
  | .characterKnowledge => bundle.characterKnowledge
  | .uncertainPublicInfo => bundle.uncertainPublicInfo
  | .longTermSummary => bundle.longTermSummaries

/-! ## What a class list holds -/

/-- The spoiler rules. -/
def StructuredMemory.visible (query : ContextQuery) (memory : StructuredMemory) : Bool :=
  query.spoilerPolicy.allows memory.spoilerScope &&
    spoilerScopeMatches memory.spoilerScope memory.scope query

/-- The JSON columns read back. -/
def StructuredMemory.readable (codec : Codec) (memory : StructuredMemory) : Bool :=
  (codec.readProvenance memory.provenanceJson).isSome &&
    memory.generatorJson.all fun json => (codec.readGenerator json).isSome

section Class

variable {codec : Codec} {toLowercase : Text → Text} {t : AuthorityTables} {query : ContextQuery}
  {knowledgeClass : KnowledgeClass} {records : List DerivedMemoryRecord}

theorem StructuredMemory.record_isOk (memory : StructuredMemory) (sourceTurnIds : List Text) :
    (∃ record, memory.record codec sourceTurnIds = .ok record) ↔
      memory.readable codec = true := by
  unfold record readable
  cases codec.readProvenance memory.provenanceJson with
  | none => simp [okOr, bind, Except.bind]
  | some provenance =>
    cases memory.generatorJson with
    | none => simp [okOr, bind, Except.bind, readGeneratorJson, pure, Except.pure]
    | some json =>
      cases hread : codec.readGenerator json <;>
        simp [okOr, bind, Except.bind, readGeneratorJson, Except.map, pure, Except.pure, hread]

/-- Sources that are read later make the record that is read with them. -/
theorem StructuredMemory.record_sources {memory : StructuredMemory} {record : DerivedMemoryRecord}
    (h : memory.record codec [] = .ok record) :
    record.id = memory.id ∧ record.scope = memory.scope ∧
      record.spoilerScope = memory.spoilerScope ∧ ∀ sourceTurnIds,
        memory.record codec sourceTurnIds = .ok { record with sourceTurnIds } := by
  obtain ⟨provenance, hprovenance, h⟩ := bind_eq_ok.1 h
  obtain ⟨generator, hgenerator, h⟩ := bind_eq_ok.1 h
  obtain rfl := pure_eq_ok.1 h
  refine ⟨rfl, rfl, rfl, ?_⟩
  intro sourceTurnIds
  exact bind_eq_ok.2 ⟨provenance, hprovenance, bind_eq_ok.2 ⟨generator, hgenerator, rfl⟩⟩

/-- The record of a row with its sources. -/
def Reads (codec : Codec) (t : AuthorityTables) (memory : StructuredMemory)
    (record : DerivedMemoryRecord) : Prop :=
  memory.record codec (t.sourceTurnIds memory.id) = .ok record

/-- **The loop over the candidates** appends the first visible ones. -/
theorem collectVisible_eq {rows : List StructuredMemory} {candidates : List DerivedMemoryRecord}
    (h : List.Forall₂ (fun memory record => memory.record codec [] = .ok record) rows candidates)
    {visible : List DerivedMemoryRecord} (hroom : visible.length < query.perClassLimit) :
    ∃ found, collectVisible t query visible candidates = visible ++ found ∧
      List.Forall₂ (Reads codec t) ((rows.filter (StructuredMemory.visible query)).take
        (query.perClassLimit - visible.length)) found := by
  induction h generalizing visible with
  | nil => exact ⟨[], (List.append_nil _).symm, by simp⟩
  | @cons memory record rows candidates hread _ ih =>
    obtain ⟨hid, hscope, hspoiler, hsources⟩ := StructuredMemory.record_sources hread
    have hhidden : (!query.spoilerPolicy.allows record.spoilerScope ||
        !spoilerScopeMatches record.spoilerScope record.scope query) =
          !memory.visible query := by
      rw [StructuredMemory.visible, hscope, hspoiler, Bool.not_and]
    rw [collectVisible, hhidden]
    cases hvisible : memory.visible query with
    | false =>
      rw [List.filter_cons_of_neg (by simp [hvisible])]
      exact ih hroom
    | true =>
      rw [List.filter_cons_of_pos hvisible]
      have hmore : query.perClassLimit - visible.length =
          query.perClassLimit - (visible.length + 1) + 1 := by omega
      have hfound : Reads codec t memory
          { record with sourceTurnIds := t.sourceTurnIds record.id } := by
        unfold Reads
        rw [← hid]
        exact hsources _
      rw [hmore, List.take_succ_cons]
      simp only [Bool.not_true, Bool.false_eq_true, if_false, List.length_append,
        List.length_singleton]
      by_cases hfull : visible.length + 1 = query.perClassLimit
      · rw [if_pos hfull, hfull, Nat.sub_self, List.take_zero]
        exact ⟨_, rfl, .cons hfound .nil⟩
      · rw [if_neg hfull]
        obtain ⟨found, heq, hfoundRest⟩ := @ih
          (visible ++ [{ record with sourceTurnIds := t.sourceTurnIds record.id }])
          (by rw [List.length_append, List.length_singleton]; omega)
        refine ⟨_ :: found, ?_, .cons hfound ?_⟩
        · rw [heq, List.append_assoc]
          rfl
        · rw [List.length_append, List.length_singleton] at hfoundRest
          exact hfoundRest

variable (toLowercase t query knowledgeClass)

/-- The memories of a class that the query may see, the best first. -/
def visibleMemories : List StructuredMemory :=
  (rankedMemories toLowercase t query knowledgeClass).filter (StructuredMemory.visible query)

/-- The candidates. -/
def window : List StructuredMemory :=
  (rankedMemories toLowercase t query knowledgeClass).take (query.perClassLimit * 8)

/-- The rows of a class list: the first visible candidates. -/
def contextRows : List StructuredMemory :=
  ((window toLowercase t query knowledgeClass).filter (StructuredMemory.visible query)).take
    query.perClassLimit

variable {toLowercase t query knowledgeClass}

theorem candidateLimit_eq (h : query.validate = .ok ()) :
    query.candidateLimit = query.perClassLimit * 8 := by
  obtain ⟨_, h⟩ := check_eq_ok.1 h
  obtain ⟨hlimits, _⟩ := check_eq_ok.1 h
  rw [require_eq_ok, Bool.and_eq_true, decide_eq_true_eq, decide_eq_true_eq] at hlimits
  unfold ContextQuery.candidateLimit
  omega

theorem retrieveClass_eq_ok (hvalid : query.validate = .ok ())
    (h : retrieveClass codec toLowercase t query knowledgeClass = .ok records) :
    List.Forall₂ (Reads codec t) (contextRows toLowercase t query knowledgeClass) records := by
  unfold retrieveClass at h
  unfold contextRows window
  by_cases hzero : query.perClassLimit = 0
  · rw [if_pos hzero] at h
    cases h
    rw [hzero, List.take_zero]
    exact .nil
  · rw [if_neg hzero, candidateLimit_eq hvalid] at h
    obtain ⟨candidates, hread, h⟩ := bind_eq_ok.1 h
    obtain rfl := pure_eq_ok.1 h
    obtain ⟨found, heq, hfound⟩ := @collectVisible_eq codec t query _ _ (mapM_eq_ok.1 hread) []
      (Nat.pos_of_ne_zero hzero)
    rw [heq]
    exact hfound

theorem retrieveClass_ok_iff (hvalid : query.validate = .ok ()) :
    (∃ records, retrieveClass codec toLowercase t query knowledgeClass = .ok records) ↔
      ∀ memory ∈ window toLowercase t query knowledgeClass, memory.readable codec = true := by
  unfold retrieveClass window
  by_cases hzero : query.perClassLimit = 0
  · simp [hzero]
  · rw [if_neg hzero, candidateLimit_eq hvalid]
    simp only [bind_eq_ok, pure_eq_ok, ← StructuredMemory.record_isOk _ [], ← exists_mapM_eq_ok]
    constructor
    · intro h
      obtain ⟨_, candidates, hread, _⟩ := h
      exact ⟨candidates, hread⟩
    · intro h
      obtain ⟨candidates, hread⟩ := h
      exact ⟨_, candidates, hread, rfl⟩

end Class

/-! ## The guarantee -/

/-- What a class list is. -/
structure ContextList (codec : Codec) (toLowercase : Text → Text) (t : AuthorityTables)
    (query : ContextQuery) (knowledgeClass : KnowledgeClass)
    (records : List DerivedMemoryRecord) : Prop where
  /-- The records of the first visible candidates. -/
  records : List.Forall₂ (Reads codec t) (contextRows toLowercase t query knowledgeClass) records
  /-- The visible memories are those of the table that are in scope and that the rules show. -/
  members : ∀ memory, memory ∈ visibleMemories toLowercase t query knowledgeClass ↔
    memory ∈ t.memories.rows ∧ memory.inScope query knowledgeClass = true ∧
      memory.visible query = true
  ordered : (visibleMemories toLowercase t query knowledgeClass).Pairwise fun left right =>
    left.orderKey (query.normalizedText toLowercase) ≤
      right.orderKey (query.normalizedText toLowercase)
  /-- The list begins them. -/
  begins : contextRows toLowercase t query knowledgeClass <+:
    visibleMemories toLowercase t query knowledgeClass
  /-- It goes as far as the limit exactly if enough of them are candidates, or all. -/
  complete_iff : contextRows toLowercase t query knowledgeClass =
      (visibleMemories toLowercase t query knowledgeClass).take query.perClassLimit ↔
    query.perClassLimit ≤ ((window toLowercase t query knowledgeClass).filter
        (StructuredMemory.visible query)).length ∨
      ∀ memory ∈ (rankedMemories toLowercase t query knowledgeClass).drop
        (query.perClassLimit * 8), memory.visible query = false
  /-- So it does where no more memories are in scope than there are candidates. -/
  complete : (rankedMemories toLowercase t query knowledgeClass).length ≤ query.perClassLimit * 8 →
    contextRows toLowercase t query knowledgeClass =
      (visibleMemories toLowercase t query knowledgeClass).take query.perClassLimit

theorem contextList {codec : Codec} {toLowercase : Text → Text} {t : AuthorityTables}
    {query : ContextQuery} {knowledgeClass : KnowledgeClass} {records : List DerivedMemoryRecord}
    (hvalid : query.validate = .ok ())
    (h : retrieveClass codec toLowercase t query knowledgeClass = .ok records) :
    ContextList codec toLowercase t query knowledgeClass records := by
  refine ⟨retrieveClass_eq_ok hvalid h, ?_, ?_, ?_, ?_, ?_⟩
  · intro memory
    rw [visibleMemories, List.mem_filter, rankedMemories, List.mem_insertionSort, List.mem_filter,
      and_assoc]
  · exact (pairwise_insertionSort_key _ _).filter _
  · exact (List.take_prefix _ _).trans ((List.take_prefix _ _).filter _)
  · exact take_filter_take_iff _ _ _ _
  · intro hfew
    refine (take_filter_take_iff _ _ _ _).2 (.inr ?_)
    rw [List.drop_of_length_le hfew]
    intro memory hmemory
    cases hmemory

/-- What a retrieval reads. -/
structure ContextReadable (codec : Codec) (toLowercase : Text → Text) (t : AuthorityTables)
    (query : ContextQuery) : Prop where
  turns : 0 < query.recentTurnLimit → ∀ turn ∈ recentTurns t query,
    (codec.readProvenance turn.provenanceJson).isSome = true
  memories : ∀ knowledgeClass, ∀ memory ∈ window toLowercase t query knowledgeClass,
    memory.readable codec = true

theorem recentDialogue_ok_iff {codec : Codec} {t : AuthorityTables} {query : ContextQuery} :
    (∃ records, recentDialogue codec t query = .ok records) ↔
      (0 < query.recentTurnLimit → ∀ turn ∈ recentTurns t query,
        (codec.readProvenance turn.provenanceJson).isSome = true) := by
  have hrecord : ∀ turn : DeliveredTurn, (∃ record, turn.record codec = .ok record) ↔
      (codec.readProvenance turn.provenanceJson).isSome = true := by
    intro turn
    unfold DeliveredTurn.record
    cases codec.readProvenance turn.provenanceJson <;>
      simp [okOr, bind, Except.bind, pure, Except.pure]
  unfold recentDialogue
  by_cases hlimit : 0 < query.recentTurnLimit
  · simp only [hlimit, if_true, exists_mapM_eq_ok, hrecord, true_implies]
  · simp [hlimit]

/-- **Context retrieval.** A valid query is answered exactly if what it reads reads back; then each
class list holds the first visible memories of its window. -/
theorem context_lists {query : ContextQuery} (hvalid : query.validate = .ok ()) (codec : Codec)
    (toLowercase : Text → Text) (t : AuthorityTables) :
    ((∃ bundle, retrieveContextOn codec toLowercase t query = .ok bundle) ↔
        ContextReadable codec toLowercase t query) ∧
      ∀ bundle, retrieveContextOn codec toLowercase t query = .ok bundle → ∀ knowledgeClass,
        ContextList codec toLowercase t query knowledgeClass (bundle.ofClass knowledgeClass) := by
  constructor
  · constructor
    · intro h
      simp only [retrieveContextOn, bind_eq_ok, pure_eq_ok] at h
      obtain ⟨_, dialogue, hdialogue, lore, hlore, biography, hbiography, character, hcharacter,
        uncertain, huncertain, summaries, hsummaries, _⟩ := h
      refine ⟨recentDialogue_ok_iff.1 ⟨dialogue, hdialogue⟩, ?_⟩
      intro knowledgeClass
      rw [← @retrieveClass_ok_iff codec toLowercase t query knowledgeClass hvalid]
      cases knowledgeClass with
      | worldLore => exact ⟨lore, hlore⟩
      | biography => exact ⟨biography, hbiography⟩
      | characterKnowledge => exact ⟨character, hcharacter⟩
      | uncertainPublicInfo => exact ⟨uncertain, huncertain⟩
      | longTermSummary => exact ⟨summaries, hsummaries⟩
    · intro h
      obtain ⟨dialogue, hdialogue⟩ := recentDialogue_ok_iff.2 h.turns
      have hclass : ∀ knowledgeClass, ∃ records,
          retrieveClass codec toLowercase t query knowledgeClass = .ok records :=
        fun knowledgeClass => (retrieveClass_ok_iff hvalid).2 (h.memories knowledgeClass)
      choose records hrecords using hclass
      simp only [retrieveContextOn, bind_eq_ok, pure_eq_ok]
      exact ⟨_, dialogue, hdialogue, _, hrecords _, _, hrecords _, _, hrecords _, _, hrecords _, _,
        hrecords _, rfl⟩
  · intro bundle h knowledgeClass
    simp only [retrieveContextOn, bind_eq_ok, pure_eq_ok] at h
    obtain ⟨dialogue, _, lore, hlore, biography, hbiography, character, hcharacter, uncertain,
      huncertain, summaries, hsummaries, rfl⟩ := h
    apply contextList hvalid
    cases knowledgeClass with
    | worldLore => exact hlore
    | biography => exact hbiography
    | characterKnowledge => exact hcharacter
    | uncertainPublicInfo => exact huncertain
    | longTermSummary => exact hsummaries

/-! ### Hidden memories in front -/

/-- The note as lore of the game. -/
def noteLore (id : String) (spoilerScope : SpoilerScope) (importance : ℚ) : DerivedMemoryInput where
  id := some id.toList
  scope := ⟨"u".toList, "p".toList, "g".toList, some "c".toList, none, none, none⟩
  «class» := .worldLore
  spoilerScope := spoilerScope
  content := "n".toList
  provenance := runtimeProvenance
  confidence := 1
  importance := importance
  observedAtMs := 0
  expiresAtMs := none
  sourceTurnIds := []
  generator := none

/-- Eight important notes that are private to the user, and a plain one. -/
def hiddenLore : MemoryCommitBatch :=
  ⟨[], (["1", "2", "3", "4", "5", "6", "7", "8"].map fun id => noteLore id .userPrivate 1) ++
    [noteLore "v" .none 0]⟩

/-- One memory a class, none that is private to the user. -/
def plainQuery : ContextQuery where
  scope := ⟨"u".toList, "p".toList, "g".toList, some "c".toList, none, none, none⟩
  text := none
  spoilerPolicy := ⟨true, true, true, false⟩
  recentTurnLimit := 0
  perClassLimit := 1
  nowMs := 0

/-- A store of the lore above. -/
def hiddenLoreStore : AuthorityTables :=
  ((commitBatch noteCodec hiddenLore fun _ => ⟨[], 0⟩).commit .empty).2

theorem context_lists_plainQuery :
    ((∃ bundle, retrieveContextOn noteCodec (fun text => text) hiddenLoreStore plainQuery =
          .ok bundle) ↔
        ContextReadable noteCodec (fun text => text) hiddenLoreStore plainQuery) ∧
      ∀ bundle, retrieveContextOn noteCodec (fun text => text) hiddenLoreStore plainQuery =
          .ok bundle → ∀ knowledgeClass,
        ContextList noteCodec (fun text => text) hiddenLoreStore plainQuery knowledgeClass
          (bundle.ofClass knowledgeClass) :=
  context_lists (by decide +kernel) noteCodec (fun text => text) hiddenLoreStore

/-- **The one visible memory is not returned**: eight hidden ones fill the window. -/
theorem hidden_fill_the_window :
    plainQuery.validate = .ok () ∧
      (visibleMemories (fun text => text) hiddenLoreStore plainQuery .worldLore).map
        StructuredMemory.id = ["v".toList] ∧
      (retrieveContextOn noteCodec (fun text => text) hiddenLoreStore plainQuery).map
        (fun bundle => bundle.worldLore) = .ok [] := by
  decide +kernel

end NpcRuntime.Memory
