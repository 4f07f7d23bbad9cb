import NpcRuntime.Memory.Authority

/-!
# What a commit does

A commit that goes through only appends (`Extends`): what it stores comes from its batch, and every
source link it stores is between rows that are there and agree on user, profile, game, character,
encounter and save (`Sourced`).

Committing the same batch again compares it with what the first commit stored, and so decides
whether the rows read back as they were written (`recommit_iff`).
-/

namespace NpcRuntime.Memory

open Text Json

variable {codec : Codec}

/-! ## The statements -/

theorem constraint_bind_eq_ok {σ α β : Type} {name : String} {x : Option α}
    {f : α → Transaction σ MemoryError β} {s : σ} {out : β × σ} :
    (constraint name x >>= f) s = .ok out ↔ ∃ a, x = some a ∧ f a s = .ok out := by
  rw [constraint, Transaction.lift_bind_eq_ok]
  simp only [okOr_eq_ok]

variable {t t' : AuthorityTables}

theorem insertTurn_eq_ok {turn : DeliveredTurn} {u : Unit}
    (h : insertTurn codec turn t = .ok (u, t')) :
    t.turns.find? turn.turnId = none ∧ t'.turns.rows = t.turns.rows ++ [turn] ∧
      t'.memories = t.memories ∧ t'.sources = t.sources := by
  rw [insertTurn, Transaction.reading_eq, Transaction.guard_bind_eq_ok] at h
  obtain ⟨_, h⟩ := h
  obtain ⟨turns, hturns, h⟩ := constraint_bind_eq_ok.1 h
  obtain rfl := Transaction.write_eq_ok.1 h
  obtain ⟨hfresh, hrows⟩ := Rows.insert?_eq_some.1 hturns
  exact ⟨hfresh, hrows, rfl, rfl⟩

theorem insertMemory_eq_ok {memory : StructuredMemory} {u : Unit}
    (h : insertMemory codec memory t = .ok (u, t')) :
    t.memories.find? memory.id = none ∧ t'.memories.rows = t.memories.rows ++ [memory] ∧
      t'.turns = t.turns ∧ t'.sources = t.sources := by
  rw [insertMemory, Transaction.reading_eq, Transaction.guard_bind_eq_ok] at h
  obtain ⟨_, h⟩ := h
  obtain ⟨memories, hmemories, h⟩ := constraint_bind_eq_ok.1 h
  obtain rfl := Transaction.write_eq_ok.1 h
  obtain ⟨hfresh, hrows⟩ := Rows.insert?_eq_some.1 hmemories
  exact ⟨hfresh, hrows, rfl, rfl⟩

theorem insertSource_eq_ok {link : SourceLink} {u : Unit} (h : insertSource link t = .ok (u, t')) :
    t'.sources.rows = t.sources.rows ++ [link] ∧ t'.turns = t.turns ∧ t'.memories = t.memories := by
  rw [insertSource, Transaction.reading_eq, Transaction.guard_bind_eq_ok] at h
  obtain ⟨_, h⟩ := h
  rw [Transaction.guard_bind_eq_ok] at h
  obtain ⟨_, h⟩ := h
  obtain ⟨sources, hsources, h⟩ := constraint_bind_eq_ok.1 h
  obtain rfl := Transaction.write_eq_ok.1 h
  exact ⟨(Rows.insert?_eq_some.1 hsources).2, rfl, rfl⟩

/-- The links of a memory to its sources. -/
def sourceLinks (id : Text) (sources : List (Text × Nat)) : List SourceLink :=
  sources.map fun source => ⟨id, source.1, source.2⟩

variable {id : Text}

theorem insertSources_eq_ok {ids : List Text} {u : Unit}
    (h : insertSources id ids t = .ok (u, t')) :
    t'.sources.rows = t.sources.rows ++ sourceLinks id ids.zipIdx ∧ t'.turns = t.turns ∧
      t'.memories = t.memories := by
  unfold insertSources at h
  generalize ids.zipIdx = sources at h ⊢
  induction sources generalizing t with
  | nil =>
    obtain ⟨_, rfl⟩ := Transaction.pure_eq_ok.1 h
    simp [sourceLinks]
  | cons source sources ih =>
    obtain ⟨_, mid, hsource, h⟩ := Transaction.bind_eq_ok.1 h
    obtain ⟨hrows, hturns, hmemories⟩ := insertSource_eq_ok hsource
    obtain ⟨hrows', hturns', hmemories'⟩ := ih h
    refine ⟨?_, hturns'.trans hturns, hmemories'.trans hmemories⟩
    rw [hrows', hrows, List.append_assoc]
    rfl

/-! ## Delivered turns -/

/-- The text and instant of a turn that was delivered. -/
def DeliveryDisposition.Delivers (text delivered : Text) (deliveredAtMs : Int) :
    DeliveryDisposition → Prop
  | .delivered atMs => delivered = text ∧ deliveredAtMs = atMs
  | .partiallyDelivered bytes atMs =>
    (∃ rest, rest ≠ [] ∧ text = delivered ++ rest) ∧ utf8Len delivered = bytes ∧ 0 < bytes ∧
      deliveredAtMs = atMs
  | .queued | .cancelled | .failed => False

variable {text : Text}

/-- **What is eligible**: the whole text, or the exact prefix that was delivered. -/
theorem eligibleText_eq_some {delivered : Text} {deliveredAtMs : Int}
    {delivery : DeliveryDisposition} :
    delivery.eligibleText text = .ok (some (delivered, deliveredAtMs)) ↔
      delivery.Delivers text delivered deliveredAtMs := by
  cases delivery with
  | delivered atMs => simp [DeliveryDisposition.eligibleText, DeliveryDisposition.Delivers, eq_comm]
  | partiallyDelivered bytes atMs =>
    simp only [DeliveryDisposition.eligibleText, DeliveryDisposition.Delivers]
    by_cases hbounds : bytes = 0 ∨ text.utf8Len ≤ bytes
    · rw [if_pos hbounds]
      constructor
      · intro h
        cases h
      · intro h
        obtain ⟨⟨rest, hrest, rfl⟩, rfl, hpos, -⟩ := h
        have := utf8Len_pos hrest
        rw [utf8Len_append] at hbounds
        omega
    · rw [if_neg hbounds]
      obtain ⟨hpos, hproper⟩ := not_or.1 hbounds
      cases hsplit : text.splitAtByte bytes with
      | none =>
        constructor
        · intro h
          cases h
        · intro h
          obtain ⟨⟨rest, hrest, rfl⟩, rfl, -, -⟩ := h
          rw [splitAtByte_append] at hsplit
          cases hsplit
      | some split =>
        obtain ⟨rfl, hbytes⟩ := splitAtByte_eq_some.1 hsplit
        constructor
        · intro h
          cases h
          refine ⟨⟨split.2, ?_, rfl⟩, hbytes, Nat.pos_of_ne_zero hpos, rfl⟩
          intro hnil
          rw [hnil, List.append_nil] at hproper
          exact hproper hbytes.le
        · intro h
          obtain ⟨⟨rest, _, heq⟩, rfl, _, rfl⟩ := h
          rw [heq, splitAtByte_append] at hsplit
          cases hsplit
          rfl
  | queued => simp [DeliveryDisposition.eligibleText, DeliveryDisposition.Delivers]
  | cancelled => simp [DeliveryDisposition.eligibleText, DeliveryDisposition.Delivers]
  | failed => simp [DeliveryDisposition.eligibleText, DeliveryDisposition.Delivers]

variable {t : AuthorityTables}

theorem loadDeliveredTurn_eq_some {record : DeliveredTurnRecord} :
    loadDeliveredTurn codec t id = .ok (some record) ↔
      ∃ row, t.turns.find? id = some row ∧ row.record codec = .ok record := by
  unfold loadDeliveredTurn
  cases t.turns.find? id with
  | none => simp
  | some turn => simp [map_eq_ok]

variable {record : DerivedMemoryRecord}

theorem loadDerivedMemory_eq_some :
    loadDerivedMemory codec t id = .ok (some record) ↔
      ∃ row, t.memories.find? id = some row ∧
        row.record codec (t.sourceTurnIds id) = .ok record := by
  unfold loadDerivedMemory
  cases t.memories.find? id with
  | none => simp
  | some memory => simp [map_eq_ok]

variable {turn : TurnCommitInput} {atMs : Int} {stored : DeliveredTurnRecord}

/-- A stored turn is compared with the one to be stored; a new one is appended. -/
theorem storeTurn_eq_ok (h : storeTurn codec turn text atMs t = .ok (stored, t')) :
    stored = turn.record codec text atMs ∧
      (loadDeliveredTurn codec t turn.turnId = .ok (some stored) ∧ t' = t ∨
        t.turns.find? turn.turnId = none ∧
          t'.turns.rows = t.turns.rows ++ [turn.row codec text atMs] ∧
          t'.memories = t.memories ∧ t'.sources = t.sources) := by
  rw [storeTurn, Transaction.reading_eq, Transaction.lift_bind_eq_ok] at h
  obtain ⟨loaded, hload, h⟩ := h
  cases loaded with
  | some existing =>
    rw [Transaction.guard_bind_eq_ok] at h
    obtain ⟨hsame, h⟩ := h
    obtain ⟨rfl, rfl⟩ := Transaction.pure_eq_ok.1 h
    exact ⟨of_decide_eq_true hsame, .inl ⟨hload, rfl⟩⟩
  | none =>
    rw [Transaction.lift_bind_eq_ok] at h
    obtain ⟨_, _, h⟩ := h
    rw [Transaction.lift_bind_eq_ok] at h
    obtain ⟨_, _, h⟩ := h
    obtain ⟨_, mid, hinsert, h⟩ := Transaction.bind_eq_ok.1 h
    obtain ⟨rfl, rfl⟩ := Transaction.pure_eq_ok.1 h
    obtain ⟨hfresh, hrows, hmemories, hsources⟩ := insertTurn_eq_ok hinsert
    exact ⟨rfl, .inr ⟨hfresh, hrows, hmemories, hsources⟩⟩

/-- A turn that is stored as it is to be stored is found so. -/
theorem storeTurn_of_load
    (h : loadDeliveredTurn codec t turn.turnId = .ok (some (turn.record codec text atMs))) :
    storeTurn codec turn text atMs t = .ok (turn.record codec text atMs, t) := by
  rw [storeTurn, Transaction.reading_eq, Transaction.lift_bind_eq_ok]
  refine ⟨_, h, ?_⟩
  rw [Transaction.guard_bind_eq_ok]
  exact ⟨decide_eq_true rfl, rfl⟩

/-! ## Tables that have grown -/

/-- Nothing that was there is gone or different. -/
structure Extends (t t' : AuthorityTables) : Prop where
  turns : t.turns.rows <+: t'.turns.rows
  memories : t.memories.rows <+: t'.memories.rows
  links : t.sources.rows <+: t'.sources.rows
  /-- A stored memory keeps its sources. -/
  sources : ∀ id, (t.memories.find? id).isSome → t'.sourceTurnIds id = t.sourceTurnIds id

variable {memory : DerivedMemoryInput}

namespace Extends

theorem refl (t : AuthorityTables) : Extends t t :=
  ⟨List.prefix_rfl, List.prefix_rfl, List.prefix_rfl, fun _ _ => rfl⟩

theorem trans {t t' t'' : AuthorityTables} (h : Extends t t') (h' : Extends t' t'') :
    Extends t t'' where
  turns := h.turns.trans h'.turns
  memories := h.memories.trans h'.memories
  links := h.links.trans h'.links
  sources := by
    intro id hid
    obtain ⟨memory, hmemory⟩ := Option.isSome_iff_exists.1 hid
    have hid' : (t'.memories.find? id).isSome := by
      rw [Rows.find?_extends h.memories hmemory]
      rfl
    rw [h'.sources id hid', h.sources id hid]

/-- Appending turns alone. -/
theorem of_turns {rows : List DeliveredTurn} (hturns : t'.turns.rows = t.turns.rows ++ rows)
    (hmemories : t'.memories = t.memories) (hsources : t'.sources = t.sources) : Extends t t' where
  turns := hturns ▸ List.prefix_append _ _
  memories := hmemories ▸ List.prefix_rfl
  links := hsources ▸ List.prefix_rfl
  sources := by
    intro id _
    rw [AuthorityTables.sourceTurnIds, hsources, AuthorityTables.sourceTurnIds]

theorem loadDeliveredTurn (h : Extends t t') {record : DeliveredTurnRecord}
    (hload : Memory.loadDeliveredTurn codec t id = .ok (some record)) :
    Memory.loadDeliveredTurn codec t' id = .ok (some record) := by
  obtain ⟨row, hrow, hrecord⟩ := loadDeliveredTurn_eq_some.1 hload
  exact loadDeliveredTurn_eq_some.2 ⟨row, Rows.find?_extends h.turns hrow, hrecord⟩

theorem loadDerivedMemory (h : Extends t t')
    (hload : Memory.loadDerivedMemory codec t id = .ok (some record)) :
    Memory.loadDerivedMemory codec t' id = .ok (some record) := by
  obtain ⟨row, hrow, hrecord⟩ := loadDerivedMemory_eq_some.1 hload
  refine loadDerivedMemory_eq_some.2 ⟨row, Rows.find?_extends h.memories hrow, ?_⟩
  rw [h.sources id (by rw [hrow]; rfl)]
  exact hrecord

theorem checkSource (h : Extends t t') (hcheck : Memory.checkSource codec t memory id = .ok ()) :
    Memory.checkSource codec t' memory id = .ok () := by
  obtain ⟨stored, hload, hrest⟩ := bind_eq_ok.1 hcheck
  obtain ⟨source, hsource, hscope⟩ := bind_eq_ok.1 hrest
  rw [okOr_eq_ok] at hsource
  subst hsource
  exact bind_eq_ok.2 ⟨some source, h.loadDeliveredTurn hload, bind_eq_ok.2 ⟨source, rfl, hscope⟩⟩

end Extends

/-! ## Structured memories -/

/-- Every source link is between rows that are there and agree on their scope. -/
def Sourced (t : AuthorityTables) : Prop :=
  ∀ link ∈ t.sources.rows, ∃ memory ∈ t.memories.rows, ∃ turn ∈ t.turns.rows,
    memory.id = link.memoryId ∧ turn.turnId = link.turnId ∧
      sourceScopeCompatible memory.scope turn.scope = true

/-- What `insert_derived_memory` appends. -/
structure Appends (codec : Codec) (memory : DerivedMemoryInput) (id : Text) (nowMs : Int)
    (t t' : AuthorityTables) : Prop where
  fresh : t.memories.find? id = none
  memories : t'.memories.rows = t.memories.rows ++ [memory.row codec id nowMs]
  sources : t'.sources.rows = t.sources.rows ++ sourceLinks id memory.sourceTurnIds.zipIdx
  turns : t'.turns = t.turns

variable {nowMs : Int}

theorem insertDerivedMemory_eq_ok {newId : Text}
    (h : insertDerivedMemory codec memory newId nowMs t = .ok (record, t')) :
    (∀ id ∈ memory.sourceTurnIds, checkSource codec t memory id = .ok ()) ∧
      loadDerivedMemory codec t' (memory.id.getD newId) = .ok (some record) ∧
      (record.same memory = true ∧ t' = t ∨
        Appends codec memory (memory.id.getD newId) nowMs t t') := by
  rw [insertDerivedMemory, Transaction.reading_eq, Transaction.lift_bind_eq_ok] at h
  obtain ⟨_, hsources, h⟩ := h
  rw [Transaction.lift_bind_eq_ok] at h
  obtain ⟨loaded, hload, h⟩ := h
  refine ⟨forM_eq_ok.1 hsources, ?_⟩
  cases loaded with
  | some existing =>
    rw [Transaction.guard_bind_eq_ok] at h
    obtain ⟨hsame, h⟩ := h
    obtain ⟨rfl, rfl⟩ := Transaction.pure_eq_ok.1 h
    exact ⟨hload, .inl ⟨hsame, rfl⟩⟩
  | none =>
    obtain ⟨_, mid, hinsert, h⟩ := Transaction.bind_eq_ok.1 h
    obtain ⟨hfresh, hmemories, hturns, hsame⟩ := insertMemory_eq_ok hinsert
    obtain ⟨_, last, hlinks, h⟩ := Transaction.bind_eq_ok.1 h
    obtain ⟨hrows, hturns', hmemories'⟩ := insertSources_eq_ok hlinks
    rw [Transaction.reading_eq, Transaction.lift_eq_ok] at h
    obtain ⟨hread, rfl⟩ := h
    obtain ⟨found, hfound, hrecord⟩ := bind_eq_ok.1 hread
    rw [okOr_eq_ok] at hrecord
    subst hrecord
    refine ⟨hfound, .inr ⟨hfresh, ?_, ?_, hturns'.trans hturns⟩⟩
    · rw [hmemories', hmemories]
    · rw [hrows, hsame]

/-- A memory that is stored as it is to be stored is found so. -/
theorem insertDerivedMemory_of_load {newId : Text}
    (hsources : ∀ id ∈ memory.sourceTurnIds, checkSource codec t memory id = .ok ())
    (hload : loadDerivedMemory codec t (memory.id.getD newId) = .ok (some record))
    (hsame : record.same memory = true) :
    insertDerivedMemory codec memory newId nowMs t = .ok (record, t) := by
  rw [insertDerivedMemory, Transaction.reading_eq, Transaction.lift_bind_eq_ok]
  refine ⟨.unit, forM_eq_ok.2 hsources, ?_⟩
  rw [Transaction.lift_bind_eq_ok]
  refine ⟨_, hload, ?_⟩
  rw [Transaction.guard_bind_eq_ok]
  exact ⟨hsame, rfl⟩

theorem sourceTurnIds_of_ne {other : Text} {sources : List (Text × Nat)}
    (h : t'.sources.rows = t.sources.rows ++ sourceLinks id sources) (hne : other ≠ id) :
    t'.sourceTurnIds other = t.sourceTurnIds other := by
  have hfilter : (sourceLinks id sources).filter (fun link => link.memoryId = other) = [] := by
    rw [List.filter_eq_nil_iff]
    intro link hlink
    obtain ⟨source, _, rfl⟩ := List.mem_map.1 hlink
    simpa using fun heq : id = other => hne heq.symm
  unfold AuthorityTables.sourceTurnIds
  rw [h, List.filter_append, hfilter, List.append_nil]

section

variable (h : Appends codec memory id nowMs t t')

include h

/-- **The sources of a new memory read back in their order.** -/
theorem Appends.sourceTurnIds (hsourced : Sourced t) :
    t'.sourceTurnIds id = memory.sourceTurnIds := by
  have hold : t.sources.rows.filter (fun link => link.memoryId = id) = [] := by
    rw [List.filter_eq_nil_iff]
    intro link hlink
    obtain ⟨row, hrow, _, _, hid, _⟩ := hsourced link hlink
    have hne := Rows.find?_eq_none.1 h.fresh row hrow
    rw [hid] at hne
    simpa using hne
  have hnew : (sourceLinks id memory.sourceTurnIds.zipIdx).filter
      (fun link => link.memoryId = id) = sourceLinks id memory.sourceTurnIds.zipIdx := by
    rw [List.filter_eq_self]
    intro link hlink
    obtain ⟨source, _, rfl⟩ := List.mem_map.1 hlink
    simp
  have hsorted : (sourceLinks id memory.sourceTurnIds.zipIdx).Pairwise fun left right =>
      left.sourceOrdinal ≤ right.sourceOrdinal := by
    have hordinals : (memory.sourceTurnIds.zipIdx.map Prod.snd).Pairwise (· ≤ ·) := by
      rw [List.zipIdx_map_snd]
      exact List.pairwise_le_range'
    rw [List.pairwise_map] at hordinals
    rw [sourceLinks, List.pairwise_map]
    exact hordinals
  unfold AuthorityTables.sourceTurnIds
  rw [h.sources, List.filter_append, hold, hnew, List.nil_append, hsorted.insertionSort_eq,
    sourceLinks, List.map_map]
  exact List.zipIdx_map_fst 0 _

theorem Appends.extends :
    Extends t t' where
  turns := h.turns ▸ List.prefix_rfl
  memories := h.memories ▸ List.prefix_append _ _
  links := h.sources ▸ List.prefix_append _ _
  sources := by
    intro other hother
    apply sourceTurnIds_of_ne h.sources
    intro heq
    rw [heq, h.fresh] at hother
    cases hother

/-- What is appended keeps every link between rows that are there. -/
theorem Appends.sourced (hsourced : Sourced t)
    (hchecked : ∀ id ∈ memory.sourceTurnIds, checkSource codec t memory id = .ok ()) :
    Sourced t' := by
  intro link hlink
  rw [h.sources, List.mem_append] at hlink
  rw [h.memories, h.turns]
  rcases hlink with hlink | hlink
  · obtain ⟨row, hrow, turn, hturn, hboth⟩ := hsourced link hlink
    exact ⟨row, List.mem_append_left _ hrow, turn, hturn, hboth⟩
  · obtain ⟨source, hsource, rfl⟩ := List.mem_map.1 hlink
    have hid : source.1 ∈ memory.sourceTurnIds := List.fst_mem_of_mem_zipIdx hsource
    obtain ⟨stored, hload, hrest⟩ := bind_eq_ok.1 (hchecked source.1 hid)
    obtain ⟨loaded, hloaded, hscope⟩ := bind_eq_ok.1 hrest
    rw [okOr_eq_ok] at hloaded
    subst hloaded
    obtain ⟨turn, hturn, hrecord⟩ := loadDeliveredTurn_eq_some.1 hload
    obtain ⟨provenance, _, hpure⟩ := bind_eq_ok.1 hrecord
    obtain rfl := NpcRuntime.pure_eq_ok.1 hpure
    obtain ⟨hmem, hturnId⟩ := Rows.find?_eq_some.1 hturn
    refine ⟨_, List.mem_append_right _ List.mem_cons_self, turn, hmem, rfl, hturnId, ?_⟩
    exact require_eq_ok.1 hscope

end

/-! ## Batches -/

/-- The row has what the turn delivered. -/
def DeliveredTurn.Holds (codec : Codec) (row : DeliveredTurn) (turn : TurnCommitInput)
    (text : Text) (atMs : Int) : Prop :=
  row = { turn.row codec text atMs with provenanceJson := row.provenanceJson }

/-- **What the turns of a batch leave**: their rows and no others. -/
structure StoresTurns (codec : Codec) (turns : List TurnCommitInput) (t t' : AuthorityTables) :
    Prop where
  memories : t'.memories = t.memories
  sources : t'.sources = t.sources
  appended : ∃ rows, t'.turns.rows = t.turns.rows ++ rows ∧ ∀ row ∈ rows, ∃ turn ∈ turns,
    ∃ text atMs, turn.delivery.Delivers turn.text text atMs ∧ row = turn.row codec text atMs
  stored : ∀ turn ∈ turns, ∀ text atMs, turn.delivery.Delivers turn.text text atMs →
    ∃ row ∈ t'.turns.rows, row.Holds codec turn text atMs

variable {turns : List TurnCommitInput}

theorem StoresTurns.extends (h : StoresTurns codec turns t t') : Extends t t' := by
  obtain ⟨rows, hrows, _⟩ := h.appended
  exact .of_turns hrows h.memories h.sources

variable {mid : AuthorityTables}

theorem StoresTurns.append {turns' : List TurnCommitInput} (h : StoresTurns codec turns t mid)
    (h' : StoresTurns codec turns' mid t') : StoresTurns codec (turns ++ turns') t t' := by
  obtain ⟨rows, hrows, hfrom⟩ := h.appended
  obtain ⟨rows', hrows', hfrom'⟩ := h'.appended
  refine ⟨h'.memories.trans h.memories, h'.sources.trans h.sources, ⟨rows ++ rows', ?_, ?_⟩, ?_⟩
  · rw [hrows', hrows, List.append_assoc]
  · intro row hrow
    rcases List.mem_append.1 hrow with hrow | hrow
    · obtain ⟨turn, hturn, hall⟩ := hfrom row hrow
      exact ⟨turn, List.mem_append_left _ hturn, hall⟩
    · obtain ⟨turn, hturn, hall⟩ := hfrom' row hrow
      exact ⟨turn, List.mem_append_right _ hturn, hall⟩
  · intro turn hturn text atMs hdelivers
    rcases List.mem_append.1 hturn with hturn | hturn
    · obtain ⟨row, hrow, hholds⟩ := h.stored turn hturn text atMs hdelivers
      exact ⟨row, h'.extends.turns.subset hrow, hholds⟩
    · exact h'.stored turn hturn text atMs hdelivers

theorem StoresTurns.skip (h : turn.delivery.eligibleText turn.text = .ok none) :
    StoresTurns codec [turn] t t := by
  refine ⟨rfl, rfl, ⟨[], by simp, by simp⟩, ?_⟩
  intro other hother text atMs hdelivers
  rw [List.mem_singleton.1 hother, ← eligibleText_eq_some, h] at hdelivers
  cases hdelivers

theorem storeTurn_stores (h : storeTurn codec turn text atMs t = .ok (stored, t'))
    (hdelivers : turn.delivery.Delivers turn.text text atMs) : StoresTurns codec [turn] t t' := by
  -- The delivered text is determined by the turn.
  have honly : ∀ {row : DeliveredTurn}, row ∈ t'.turns.rows → row.Holds codec turn text atMs →
      ∀ other ∈ [turn], ∀ text' atMs', other.delivery.Delivers other.text text' atMs' →
        ∃ row ∈ t'.turns.rows, row.Holds codec other text' atMs' := by
    intro row hrow hholds other hother text' atMs' hother'
    rw [List.mem_singleton] at hother
    subst hother
    have heq := (eligibleText_eq_some.2 hdelivers).symm.trans (eligibleText_eq_some.2 hother')
    cases heq
    exact ⟨row, hrow, hholds⟩
  obtain ⟨rfl, hcases⟩ := storeTurn_eq_ok h
  rcases hcases with ⟨hload, rfl⟩ | ⟨_, hrows, hmemories, hsources⟩
  · obtain ⟨row, hrow, hrecord⟩ := loadDeliveredTurn_eq_some.1 hload
    obtain ⟨provenance, _, hpure⟩ := bind_eq_ok.1 hrecord
    have hsame := NpcRuntime.pure_eq_ok.1 hpure
    refine ⟨rfl, rfl, ⟨[], by simp, by simp⟩, honly (Rows.find?_eq_some.1 hrow).1 ?_⟩
    simp only [TurnCommitInput.record, DeliveredTurnRecord.mk.injEq] at hsame
    cases row
    simp_all [DeliveredTurn.Holds, TurnCommitInput.row]
  · have hthere : turn.row codec text atMs ∈ t'.turns.rows := by simp [hrows]
    refine ⟨hmemories, hsources, ⟨_, hrows, ?_⟩, honly hthere rfl⟩
    intro row hrow
    rw [List.mem_singleton.1 hrow]
    exact ⟨turn, List.mem_cons_self, text, atMs, hdelivers, rfl⟩

/-- New turns leave every link between rows that are there. -/
theorem StoresTurns.sourced (h : StoresTurns codec turns t t') (hsourced : Sourced t) :
    Sourced t' := by
  intro link hlink
  rw [h.sources] at hlink
  obtain ⟨memory, hmemory, turn, hturn, hboth⟩ := hsourced link hlink
  rw [h.memories]
  exact ⟨memory, hmemory, turn, h.extends.turns.subset hturn, hboth⟩

variable {report' : MemoryCommitReport} {report : MemoryCommitReport}

theorem commitTurns_eq_ok (h : commitTurns codec report turns t = .ok (report', t')) :
    StoresTurns codec turns t t' := by
  induction turns generalizing report t with
  | nil =>
    obtain ⟨_, rfl⟩ := Transaction.pure_eq_ok.1 h
    exact ⟨rfl, rfl, ⟨[], by simp, by simp⟩, by simp⟩
  | cons turn turns ih =>
    rw [commitTurns, Transaction.lift_bind_eq_ok] at h
    obtain ⟨eligible, heligible, h⟩ := h
    cases eligible with
    | none => exact (StoresTurns.skip heligible).append (ih h)
    | some delivered =>
      obtain ⟨stored, mid, hstore, h⟩ := Transaction.bind_eq_ok.1 h
      exact (storeTurn_stores hstore (eligibleText_eq_some.1 heligible)).append (ih h)

/-- **What the memories of a batch leave**: their rows and no others. -/
structure StoresMemories (codec : Codec) (derived : List (DerivedMemoryInput × Stamp))
    (t t' : AuthorityTables) : Prop where
  «extends» : Extends t t'
  turns : t'.turns = t.turns
  appended : ∃ rows, t'.memories.rows = t.memories.rows ++ rows ∧ ∀ row ∈ rows, ∃ memory ∈ derived,
    row = memory.1.row codec (memory.1.id.getD memory.2.newId) memory.2.nowMs
  stored : ∀ memory ∈ derived, t'.memories.find? (memory.1.id.getD memory.2.newId) ≠ none
  sourced : Sourced t → Sourced t'

/-- The memories of a batch with their stamps. -/
def stamped (derived : List DerivedMemoryInput) (stamps : Nat → Stamp) :
    List (DerivedMemoryInput × Stamp) :=
  derived.zipIdx.map fun memory => (memory.1, stamps memory.2)

def insertStamped (codec : Codec) (derived : List (DerivedMemoryInput × Stamp)) :
    Transaction AuthorityTables MemoryError (List DerivedMemoryRecord) :=
  derived.mapM fun memory => insertDerivedMemory codec memory.1 memory.2.newId memory.2.nowMs

theorem insertDerived_eq (derived : List DerivedMemoryInput) (stamps : Nat → Stamp) :
    insertDerived codec derived stamps = insertStamped codec (stamped derived stamps) := by
  rw [insertDerived, insertStamped, stamped, List.mapM_map]
  rfl

variable {derived : List (DerivedMemoryInput × Stamp)} {records : List DerivedMemoryRecord}

theorem insertStamped_eq_ok (h : insertStamped codec derived t = .ok (records, t')) :
    StoresMemories codec derived t t' := by
  induction derived generalizing t records with
  | nil =>
    obtain ⟨_, rfl⟩ := Transaction.pure_eq_ok.1 h
    exact ⟨.refl t, rfl, ⟨[], by simp, by simp⟩, by simp, id⟩
  | cons memory derived ih =>
    obtain ⟨record, mid, rest, hfirst, hrest, _⟩ := Transaction.mapM_cons_eq_ok.1 h
    have hlater := ih hrest
    obtain ⟨rows, hrows, hfrom⟩ := hlater.appended
    have hbehind : ∀ row ∈ rows, ∃ later ∈ memory :: derived,
        row = later.1.row codec (later.1.id.getD later.2.newId) later.2.nowMs := by
      intro row hrow
      obtain ⟨later, hmem, heq⟩ := hfrom row hrow
      exact ⟨later, List.mem_cons_of_mem _ hmem, heq⟩
    obtain ⟨hchecked, hload, hcases⟩ := insertDerivedMemory_eq_ok hfirst
    have hstored : ∀ later ∈ memory :: derived,
        t'.memories.find? (later.1.id.getD later.2.newId) ≠ none := by
      refine List.forall_mem_cons.2 ⟨?_, hlater.stored⟩
      obtain ⟨row, hrow, _⟩ := loadDerivedMemory_eq_some.1 hload
      rw [Rows.find?_extends hlater.extends.memories hrow]
      exact Option.some_ne_none row
    rcases hcases with ⟨_, rfl⟩ | happends
    · exact ⟨hlater.extends, hlater.turns, ⟨rows, hrows, hbehind⟩, hstored, hlater.sourced⟩
    · refine ⟨happends.extends.trans hlater.extends, hlater.turns.trans happends.turns,
        ⟨memory.1.row codec (memory.1.id.getD memory.2.newId) memory.2.nowMs :: rows, ?_, ?_⟩,
        hstored, fun hsourced => hlater.sourced (happends.sourced hsourced hchecked)⟩
      · rw [hrows, happends.memories, List.append_assoc]
        rfl
      · rw [List.forall_mem_cons]
        exact ⟨⟨memory, List.mem_cons_self, rfl⟩, hbehind⟩

/-! ## Committing again -/

/-- A provenance reads back from its JSON as itself. -/
def Codec.keepsProvenance (codec : Codec) (provenance : Provenance) : Prop :=
  codec.readProvenance (codec.writeProvenance provenance) = some provenance

def Codec.keepsGenerator (codec : Codec) (generator : GeneratorProvenance) : Prop :=
  codec.readGenerator (codec.writeGenerator generator) = some generator

/-- Of the turns that are delivered, those that are stored for the first time keep their
provenance. -/
def TurnsReadBack (codec : Codec) (turns : List TurnCommitInput) (t : AuthorityTables) : Prop :=
  ∀ turn ∈ turns, ∀ text atMs, turn.delivery.Delivers turn.text text atMs →
    t.turns.find? turn.turnId = none → codec.keepsProvenance turn.provenance

/-- The memories that are stored for the first time keep their provenance and their generator. -/
def MemoriesReadBack (codec : Codec) (derived : List DerivedMemoryInput) (t : AuthorityTables) :
    Prop :=
  ∀ memory ∈ derived, ∀ id, memory.id = some id → t.memories.find? id = none →
    codec.keepsProvenance memory.provenance ∧
      ∀ generator, memory.generator = some generator → codec.keepsGenerator generator

/-- A later state asks for less. -/
theorem TurnsReadBack.mono (h : TurnsReadBack codec turns t)
    (hext : t.turns.rows <+: t'.turns.rows) : TurnsReadBack codec turns t' := by
  intro turn hturn text atMs hdelivers hfresh
  apply h turn hturn text atMs hdelivers
  rw [Rows.find?_eq_none] at hfresh ⊢
  exact fun row hrow => hfresh row (hext.subset hrow)

theorem MemoriesReadBack.mono {derived : List DerivedMemoryInput}
    (h : MemoriesReadBack codec derived t) (hext : t.memories.rows <+: t'.memories.rows) :
    MemoriesReadBack codec derived t' := by
  intro memory hmemory id hid hfresh
  apply h memory hmemory id hid
  rw [Rows.find?_eq_none] at hfresh ⊢
  exact fun row hrow => hfresh row (hext.subset hrow)

/-- A turn that has been stored loads as it was to be stored, if it reads back. -/
theorem storeTurn_loads (h : storeTurn codec turn text atMs t = .ok (stored, t'))
    (hreads : t.turns.find? turn.turnId = none → codec.keepsProvenance turn.provenance) :
    loadDeliveredTurn codec t' turn.turnId = .ok (some (turn.record codec text atMs)) := by
  obtain ⟨rfl, hcases⟩ := storeTurn_eq_ok h
  rcases hcases with ⟨hload, rfl⟩ | ⟨hfresh, hrows, _, _⟩
  · exact hload
  · have hthere : turn.row codec text atMs ∈ t'.turns.rows := by simp [hrows]
    refine loadDeliveredTurn_eq_some.2 ⟨_, Rows.find?_of_mem hthere, ?_⟩
    have hkept := hreads hfresh
    simp only [Codec.keepsProvenance] at hkept
    rw [DeliveredTurn.record]
    simp only [TurnCommitInput.row, hkept]
    rfl

variable {u : AuthorityTables}

/-- **Turns that read back are found by a second commit.** -/
theorem commitTurns_again (h : commitTurns codec report turns t = .ok (report', t'))
    (hreads : TurnsReadBack codec turns t) (hext : Extends t' u) :
    commitTurns codec report turns u = .ok (report', u) := by
  induction turns generalizing report t with
  | nil =>
    obtain ⟨rfl, rfl⟩ := Transaction.pure_eq_ok.1 h
    rfl
  | cons turn turns ih =>
    rw [commitTurns, Transaction.lift_bind_eq_ok] at h ⊢
    obtain ⟨eligible, heligible, h⟩ := h
    refine ⟨eligible, heligible, ?_⟩
    obtain ⟨hhead, htail⟩ := List.forall_mem_cons.1 hreads
    cases eligible with
    | none => exact ih h htail
    | some delivered =>
      obtain ⟨stored, mid, hstore, h⟩ := Transaction.bind_eq_ok.1 h
      have hdelivered := eligibleText_eq_some.1 heligible
      have hmid := (storeTurn_stores hstore hdelivered).extends
      have hloads := storeTurn_loads hstore (hhead _ _ hdelivered)
      have hlater := (commitTurns_eq_ok h).extends.trans hext
      obtain ⟨rfl, _⟩ := storeTurn_eq_ok hstore
      exact Transaction.bind_eq_ok.2 ⟨_, u, storeTurn_of_load (hlater.loadDeliveredTurn hloads),
        ih h (TurnsReadBack.mono htail hmid.turns)⟩

variable {u' : AuthorityTables}

/-- Where every delivered turn is there, a commit that goes through has found each as it was to be
stored. -/
theorem commitTurns_found (h : commitTurns codec report turns u = .ok (report', u'))
    (hthere : ∀ turn ∈ turns, ∀ text
      atMs, turn.delivery.Delivers turn.text text atMs → u.turns.find? turn.turnId ≠ none) :
    ∀ turn ∈ turns, ∀ text atMs, turn.delivery.Delivers turn.text text atMs →
      loadDeliveredTurn codec u turn.turnId = .ok (some (turn.record codec text atMs)) := by
  induction turns generalizing report with
  | nil => simp
  | cons turn turns ih =>
    rw [commitTurns, Transaction.lift_bind_eq_ok] at h
    obtain ⟨eligible, heligible, h⟩ := h
    obtain ⟨hhead, htail⟩ := List.forall_mem_cons.1 hthere
    cases eligible with
    | none =>
      refine List.forall_mem_cons.2 ⟨?_, ih h htail⟩
      intro text atMs hdelivers
      rw [eligibleText_eq_some.2 hdelivers] at heligible
      cases heligible
    | some delivered =>
      obtain ⟨stored, mid, hstore, hrest⟩ := Transaction.bind_eq_ok.1 h
      have hdelivered := eligibleText_eq_some.1 heligible
      obtain ⟨rfl, hcases⟩ := storeTurn_eq_ok hstore
      rcases hcases with ⟨hload, rfl⟩ | ⟨hfresh, _⟩
      · refine List.forall_mem_cons.2 ⟨?_, ih hrest htail⟩
        intro text atMs hdelivers
        rw [eligibleText_eq_some.2 hdelivers] at heligible
        cases heligible
        exact hload
      · exact absurd hfresh (hhead _ _ hdelivered)

/-- A memory that has been appended loads as it was to be stored, if it reads back. -/
theorem Appends.same (h : Appends codec memory id nowMs t t') (hsourced : Sourced t)
    (hload : loadDerivedMemory codec t' id = .ok (some record))
    (hprovenance : codec.keepsProvenance memory.provenance)
    (hgenerator : ∀ generator, memory.generator = some generator → codec.keepsGenerator generator) :
    record.same memory = true := by
  obtain ⟨row, hrow, hrecord⟩ := loadDerivedMemory_eq_some.1 hload
  have hthere : memory.row codec id nowMs ∈ t'.memories.rows := by simp [h.memories]
  have hnew : t'.memories.find? id = some (memory.row codec id nowMs) := Rows.find?_of_mem hthere
  have hfound := hrow.symm.trans hnew
  cases hfound
  rw [h.sourceTurnIds hsourced] at hrecord
  have hreadsGenerator : readGeneratorJson codec (memory.generator.map codec.writeGenerator) =
      .ok memory.generator := by
    cases hwritten : memory.generator with
    | none => rfl
    | some generator =>
      have hkept := hgenerator generator hwritten
      simp only [Codec.keepsGenerator] at hkept
      simp [readGeneratorJson, hkept, okOr, Except.map]
  simp only [Codec.keepsProvenance] at hprovenance
  rw [StructuredMemory.record] at hrecord
  simp only [DerivedMemoryInput.row, hprovenance, hreadsGenerator] at hrecord
  cases hrecord
  simp [DerivedMemoryRecord.same]

/-- **Memories that read back are found by a second commit**, whatever its stamps. -/
theorem insertStamped_again (stamp : Nat → Stamp) {n : Nat}
    (h : insertStamped codec derived t = .ok (records, t')) (hsourced : Sourced t)
    (hids : ∀ memory ∈ derived, memory.1.id.isSome)
    (hreads : MemoriesReadBack codec (derived.map Prod.fst) t) (hext : Extends t' u) :
    insertStamped codec (((derived.map Prod.fst).zipIdx n).map fun memory =>
      (memory.1, stamp memory.2)) u = .ok (records, u) := by
  induction derived generalizing n t records with
  | nil =>
    obtain ⟨rfl, rfl⟩ := Transaction.pure_eq_ok.1 h
    rfl
  | cons memory derived ih =>
    obtain ⟨record, mid, rest, hfirst, hrest, hrecords⟩ := Transaction.mapM_cons_eq_ok.1 h
    obtain ⟨hid, hids⟩ := List.forall_mem_cons.1 hids
    obtain ⟨hhead, htail⟩ := List.forall_mem_cons.1 hreads
    obtain ⟨id, hid⟩ := Option.isSome_iff_exists.1 hid
    have hlater := (insertStamped_eq_ok hrest).extends.trans hext
    obtain ⟨hchecked, hload, hcases⟩ := insertDerivedMemory_eq_ok hfirst
    have hboth : record.same memory.1 = true ∧ Extends t mid ∧ Sourced mid := by
      rcases hcases with ⟨hsame, rfl⟩ | happends
      · exact ⟨hsame, .refl _, hsourced⟩
      · have hfresh := happends.fresh
        have happended := happends
        rw [hid] at hfresh hload happended
        obtain ⟨hprovenance, hgenerator⟩ := hhead id hid hfresh
        exact ⟨happended.same hsourced hload hprovenance hgenerator, happends.extends,
          happends.sourced hsourced hchecked⟩
    obtain ⟨hsame, hmid, hsourced'⟩ := hboth
    refine Transaction.mapM_cons_eq_ok.2 ⟨record, u, rest, ?_, ?_, hrecords⟩
    · apply insertDerivedMemory_of_load _ _ hsame
      · exact fun source hsource => (hmid.trans hlater).checkSource (hchecked source hsource)
      · have hloaded := hlater.loadDerivedMemory hload
        rw [hid] at hloaded ⊢
        exact hloaded
    · exact ih hrest hsourced' hids (MemoriesReadBack.mono htail hmid.memories)

/-- Where every memory is there, a commit that goes through has found each as it was to be
stored. -/
theorem insertStamped_found (h : insertStamped codec derived u = .ok (records, u'))
    (hthere : ∀ memory ∈ derived, ∃ id, memory.1.id = some id ∧ u.memories.find? id ≠ none) :
    ∀ memory ∈ derived, ∀ id, memory.1.id = some id →
      ∃ record, loadDerivedMemory codec u id = .ok (some record) ∧ record.same memory.1 = true := by
  induction derived generalizing records with
  | nil => simp
  | cons memory derived ih =>
    obtain ⟨record, mid, rest, hfirst, hrest, _⟩ := Transaction.mapM_cons_eq_ok.1 h
    obtain ⟨⟨id, hid, hpresent⟩, htail⟩ := List.forall_mem_cons.1 hthere
    obtain ⟨_, hload, hcases⟩ := insertDerivedMemory_eq_ok hfirst
    rw [hid] at hload hcases
    rcases hcases with ⟨hsame, rfl⟩ | happends
    · refine List.forall_mem_cons.2 ⟨?_, ih hrest htail⟩
      intro other hother
      rw [hid] at hother
      cases hother
      exact ⟨record, hload, hsame⟩
    · exact absurd happends.fresh hpresent

theorem DeliveredTurn.record_eq_ok {row : DeliveredTurn} {record : DeliveredTurnRecord}
    (h : row.record codec = .ok record) :
    codec.readProvenance row.provenanceJson = some record.provenance := by
  obtain ⟨provenance, hread, hpure⟩ := bind_eq_ok.1 h
  obtain rfl := NpcRuntime.pure_eq_ok.1 hpure
  exact okOr_eq_ok.1 hread

theorem StructuredMemory.record_eq_ok {row : StructuredMemory} {ids : List Text}
    (h : row.record codec ids = .ok record) :
    codec.readProvenance row.provenanceJson = some record.provenance ∧
      readGeneratorJson codec row.generatorJson = .ok record.generator := by
  obtain ⟨provenance, hread, h⟩ := bind_eq_ok.1 h
  obtain ⟨generator, hgenerator, hpure⟩ := bind_eq_ok.1 h
  obtain rfl := NpcRuntime.pure_eq_ok.1 hpure
  exact ⟨okOr_eq_ok.1 hread, hgenerator⟩

/-- A batch stores its turns, and then its memories. -/
theorem commitAuthoritativeBatch_eq_ok {batch : MemoryCommitBatch} {stamps : Nat → Stamp} :
    commitAuthoritativeBatch codec batch stamps t = .ok (report, t') ↔
      ∃ stored mid records, commitTurns codec ⟨[], [], []⟩ batch.turns t = .ok (stored, mid) ∧
        insertStamped codec (stamped batch.derived stamps) mid = .ok (records, t') ∧
        report = { stored with derivedMemories := records } := by
  rw [commitAuthoritativeBatch, Transaction.bind_eq_ok]
  simp only [Transaction.bind_eq_ok, insertDerived_eq, Transaction.pure_eq_ok]
  constructor
  · intro h
    obtain ⟨stored, mid, hturns, records, last, hderived, rfl, rfl⟩ := h
    exact ⟨stored, mid, records, hturns, hderived, rfl⟩
  · intro h
    obtain ⟨stored, mid, records, hturns, hderived, rfl⟩ := h
    exact ⟨stored, mid, hturns, records, t', hderived, rfl, rfl⟩

theorem stamped_fst (derived : List DerivedMemoryInput) (stamps : Nat → Stamp) :
    (stamped derived stamps).map Prod.fst = derived := by
  rw [stamped, List.map_map]
  exact List.zipIdx_map_fst 0 derived

section Recommit

variable {batch : MemoryCommitBatch} {stamps : Nat → Stamp} {t t' : AuthorityTables}
  {report : MemoryCommitReport}

/-- **A batch that reads back can be committed again.** -/
theorem recommit (h : commitAuthoritativeBatch codec batch stamps t = .ok (report, t'))
    (hsourced : Sourced t) (hids : ∀ memory ∈ batch.derived, memory.id.isSome)
    (hturns : TurnsReadBack codec batch.turns t)
    (hmemories : MemoriesReadBack codec batch.derived t) (again : Nat → Stamp) :
    commitAuthoritativeBatch codec batch again t' = .ok (report, t') := by
  obtain ⟨stored, mid, records, hstore, hderive, rfl⟩ := commitAuthoritativeBatch_eq_ok.1 h
  have hmid := commitTurns_eq_ok hstore
  have hlast := insertStamped_eq_ok hderive
  have hsourced' := hmid.sourced hsourced
  have hids' : ∀ memory ∈ stamped batch.derived stamps, memory.1.id.isSome := by
    intro memory hmemory
    apply hids
    rw [← stamped_fst batch.derived stamps]
    exact List.mem_map_of_mem hmemory
  have hreads : MemoriesReadBack codec ((stamped batch.derived stamps).map Prod.fst) mid := by
    rw [stamped_fst]
    exact hmemories.mono hmid.extends.memories
  have hderived := insertStamped_again again (n := 0) hderive hsourced' hids' hreads (.refl t')
  rw [stamped_fst] at hderived
  exact commitAuthoritativeBatch_eq_ok.2
    ⟨stored, t', records, commitTurns_again hstore hturns hlast.extends, hderived, rfl⟩

/-- What a stored memory is compared on includes what is kept as JSON. -/
theorem DerivedMemoryRecord.same_eq (h : record.same memory = true) :
    record.provenance = memory.provenance ∧ record.generator = memory.generator := by
  simp only [DerivedMemoryRecord.same, Bool.and_eq_true, decide_eq_true_eq] at h
  exact ⟨h.1.1.1.1.1.1.2, h.2⟩

/-- **Turns that are found again read back.** A row comes from a turn of the batch, and the second
commit compares it with that turn. -/
theorem turnsReadBack_of_found {stored stored' : MemoryCommitReport}
    (h : commitTurns codec ⟨[], [], []⟩ turns t = .ok (stored, mid)) (hrows' : u.turns = mid.turns)
    (h' : commitTurns codec ⟨[], [], []⟩ turns u = .ok (stored', u')) :
    TurnsReadBack codec turns t := by
  have hmid := commitTurns_eq_ok h
  have hthere : ∀ turn ∈ turns, ∀ text atMs, turn.delivery.Delivers turn.text text atMs →
      u.turns.find? turn.turnId ≠ none := by
    intro turn hturn text atMs hdelivers
    obtain ⟨row, hrow, hholds⟩ := hmid.stored turn hturn text atMs hdelivers
    have hid : row.turnId = turn.turnId := congrArg DeliveredTurn.turnId hholds
    rw [hrows', ← hid, Rows.find?_of_mem hrow]
    exact Option.some_ne_none row
  have hfound := commitTurns_found h' hthere
  intro turn hturn text atMs hdelivers hfresh
  obtain ⟨row, hrow, hrecord⟩ := loadDeliveredTurn_eq_some.1 (hfound turn hturn text atMs hdelivers)
  obtain ⟨hmem, hid⟩ := Rows.find?_eq_some.1 hrow
  obtain ⟨rows, hrows, hfrom⟩ := hmid.appended
  have hnew : row ∈ rows := by
    rw [hrows', hrows] at hmem
    rcases List.mem_append.1 hmem with hold | hnew
    · exact absurd hid (Rows.find?_eq_none.1 hfresh row hold)
    · exact hnew
  obtain ⟨first, hfirst, text', atMs', hdelivers', rfl⟩ := hfrom row hnew
  obtain ⟨row', hrow', hrecord'⟩ :=
    loadDeliveredTurn_eq_some.1 (hfound first hfirst text' atMs' hdelivers')
  have hsame : first.turnId = turn.turnId := hid
  rw [hsame, hrow] at hrow'
  cases hrow'
  have hread : codec.readProvenance (codec.writeProvenance first.provenance) =
      some turn.provenance := DeliveredTurn.record_eq_ok hrecord
  have hfirstRead : codec.readProvenance (codec.writeProvenance first.provenance) =
      some first.provenance := DeliveredTurn.record_eq_ok hrecord'
  have hprovenance : turn.provenance = first.provenance :=
    Option.some.inj (hread.symm.trans hfirstRead)
  rw [hprovenance]
  exact hfirstRead

/-- **Memories that are found again read back.** -/
theorem memoriesReadBack_of_found {again : Nat → Stamp} {derived : List DerivedMemoryInput}
    {records' : List DerivedMemoryRecord} (hids : ∀ memory ∈ derived, memory.id.isSome)
    (h : insertStamped codec (stamped derived stamps) mid = .ok (records, t'))
    (hrows' : u.memories = t'.memories)
    (h' : insertStamped codec (stamped derived again) u = .ok (records', u')) :
    MemoriesReadBack codec derived mid := by
  have hlast := insertStamped_eq_ok h
  have hmem_derived : ∀ {stamps : Nat → Stamp} {pair : DerivedMemoryInput × Stamp},
      pair ∈ stamped derived stamps → pair.1 ∈ derived := by
    intro stamps pair hpair
    rw [← stamped_fst derived stamps]
    exact List.mem_map_of_mem hpair
  have hthere : ∀ memory ∈ stamped derived again,
      ∃ id, memory.1.id = some id ∧ u.memories.find? id ≠ none := by
    intro memory hmemory
    have hderived := hmem_derived hmemory
    obtain ⟨id, hid⟩ := Option.isSome_iff_exists.1 (hids memory.1 hderived)
    rw [← stamped_fst derived stamps] at hderived
    obtain ⟨first, hfirst, heq⟩ := List.mem_map.1 hderived
    have hstored := hlast.stored first hfirst
    rw [heq, hid] at hstored
    rw [hrows']
    exact ⟨id, hid, hstored⟩
  have hfound : ∀ memory ∈ derived, ∀ id, memory.id = some id →
      ∃ record, loadDerivedMemory codec u id = .ok (some record) ∧ record.same memory = true := by
    intro memory hmemory id hid
    rw [← stamped_fst derived again] at hmemory
    obtain ⟨pair, hpair, rfl⟩ := List.mem_map.1 hmemory
    exact insertStamped_found h' hthere pair hpair id hid
  intro memory hmemory id hid hfresh
  obtain ⟨record, hload, hsame⟩ := hfound memory hmemory id hid
  obtain ⟨row, hrow, hrecord⟩ := loadDerivedMemory_eq_some.1 hload
  obtain ⟨hmem, hrowId⟩ := Rows.find?_eq_some.1 hrow
  obtain ⟨rows, hrows, hfrom⟩ := hlast.appended
  have hnew : row ∈ rows := by
    rw [hrows', hrows] at hmem
    rcases List.mem_append.1 hmem with hold | hnew
    · exact absurd hrowId (Rows.find?_eq_none.1 hfresh row hold)
    · exact hnew
  obtain ⟨pair, hpair, rfl⟩ := hfrom row hnew
  obtain ⟨first, hfirst⟩ := Option.isSome_iff_exists.1 (hids pair.1 (hmem_derived hpair))
  have hfirstId : pair.1.id = some id := by
    rw [hfirst, ← hrowId]
    simp [DerivedMemoryInput.row, hfirst]
  obtain ⟨record', hload', hsame'⟩ := hfound pair.1 (hmem_derived hpair) id hfirstId
  rw [hload] at hload'
  cases hload'
  obtain ⟨hread, hgenerator⟩ := StructuredMemory.record_eq_ok hrecord
  obtain ⟨hprovenance, hgenerators⟩ := DerivedMemoryRecord.same_eq hsame
  obtain ⟨hprovenance', hgenerators'⟩ := DerivedMemoryRecord.same_eq hsame'
  constructor
  · rw [← hprovenance, hprovenance']
    rw [hprovenance'] at hread
    exact hread
  · intro generator hmemoryGenerator
    have hkept : record.generator = some generator := hgenerators.trans hmemoryGenerator
    have hwritten : pair.1.generator = some generator := hgenerators'.symm.trans hkept
    simp only [DerivedMemoryInput.row, hwritten, Option.map_some, readGeneratorJson, hkept,
      map_eq_ok, okOr_eq_ok, Option.some.injEq] at hgenerator
    obtain ⟨_, hkeeps, rfl⟩ := hgenerator
    exact hkeeps

/-- **A batch can be committed again exactly if what it stores for the first time reads back.** -/
theorem recommit_iff (h : commitAuthoritativeBatch codec batch stamps t = .ok (report, t'))
    (hsourced : Sourced t) (hids : ∀ memory ∈ batch.derived, memory.id.isSome)
    (again : Nat → Stamp) :
    commitAuthoritativeBatch codec batch again t' = .ok (report, t') ↔
      TurnsReadBack codec batch.turns t ∧ MemoriesReadBack codec batch.derived t := by
  constructor
  · intro h'
    obtain ⟨stored, mid, records, hstore, hderive, _⟩ := commitAuthoritativeBatch_eq_ok.1 h
    obtain ⟨stored', mid', records', hstore', hderive', _⟩ := commitAuthoritativeBatch_eq_ok.1 h'
    have hreads :=
      memoriesReadBack_of_found hids hderive (commitTurns_eq_ok hstore').memories hderive'
    refine ⟨turnsReadBack_of_found hstore (insertStamped_eq_ok hderive).turns hstore', ?_⟩
    intro memory hmemory id hid hfresh
    apply hreads memory hmemory id hid
    rw [(commitTurns_eq_ok hstore).memories]
    exact hfresh
  · intro hreads
    exact recommit h hsourced hids hreads.1 hreads.2 again

end Recommit

end NpcRuntime.Memory
