import NpcRuntime.Memory.Erased

/-!
# Committing a batch again

Commits are atomic and append-only in any run of the writer. A retry compares what was stored with
what is to be stored, and both have to agree to the last bit: a retry succeeds exactly if what the
first commit stored reads back as it was written (`authoritative_commits`). A floating-point
attribute may not (`retry_refused`).
-/

namespace NpcRuntime.Memory

open Text Json

variable {codec : Codec}

/-- **What a commit leaves**: everything that was there, and what its batch brings. -/
structure CommitContract (codec : Codec) (batch : MemoryCommitBatch) (t t' : AuthorityTables) :
    Prop where
  kept : Extends t t'
  /-- Every stored turn was there or is a delivered turn of the batch. -/
  turns : ∀ row ∈ t'.turns.rows, row ∈ t.turns.rows ∨ ∃ turn ∈ batch.turns, ∃ text atMs,
    turn.delivery.Delivers turn.text text atMs ∧ row = turn.row codec text atMs
  /-- Every delivered turn of the batch is stored. -/
  delivered : ∀ turn ∈ batch.turns, ∀ text atMs, turn.delivery.Delivers turn.text text atMs →
    ∃ row ∈ t'.turns.rows, row.Holds codec turn text atMs
  /-- Every stored memory was there or is one of the batch. -/
  memories : ∀ row ∈ t'.memories.rows, row ∈ t.memories.rows ∨ ∃ memory ∈ batch.derived,
    ∃ id nowMs, row = memory.row codec id nowMs
  sourced : Sourced t'

theorem commitContract {batch : MemoryCommitBatch} {stamps : Nat → Stamp} {t t' : AuthorityTables}
    {report : MemoryCommitReport} (hsourced : Sourced t)
    (h : commitAuthoritativeBatch codec batch stamps t = .ok (report, t')) :
    CommitContract codec batch t t' := by
  obtain ⟨stored, mid, records, hstore, hderive, _⟩ := commitAuthoritativeBatch_eq_ok.1 h
  have hmid := commitTurns_eq_ok hstore
  have hlast := insertStamped_eq_ok hderive
  refine ⟨hmid.extends.trans hlast.extends, ?_, ?_, ?_, hlast.sourced (hmid.sourced hsourced)⟩
  · intro row hrow
    obtain ⟨rows, hrows, hfrom⟩ := hmid.appended
    rw [hlast.turns, hrows, List.mem_append] at hrow
    exact hrow.imp_right (hfrom row)
  · rw [hlast.turns]
    exact hmid.stored
  · intro row hrow
    obtain ⟨rows, hrows, hfrom⟩ := hlast.appended
    rw [hrows, hmid.memories, List.mem_append] at hrow
    refine hrow.imp_right fun hnew => ?_
    obtain ⟨memory, hmemory, rfl⟩ := hfrom row hnew
    have hderived : memory.1 ∈ (stamped batch.derived stamps).map Prod.fst :=
      List.mem_map_of_mem hmemory
    rw [stamped_fst] at hderived
    exact ⟨memory.1, hderived, _, _, rfl⟩

namespace Connection

variable {batch : MemoryCommitBatch} {stamps : Nat → Stamp} {c c' : Connection}

/-- `commit_authoritative_batch` on a connection. -/
def commitBatch (codec : Codec) (batch : MemoryCommitBatch) (stamps : Nat → Stamp)
    (c : Connection) : Except MemoryError MemoryCommitReport × Connection :=
  c.run (onAuthority (commitAuthoritativeBatch codec batch stamps))

theorem commitBatch_eq (batch : MemoryCommitBatch) (stamps : Nat → Stamp) (c : Connection) :
    c.commitBatch codec batch stamps =
      (((commitAuthoritativeBatch codec batch stamps).commit c.database.authority).1,
        { c with database := { c.database with
          authority :=
            ((commitAuthoritativeBatch codec batch stamps).commit c.database.authority).2 } }) := by
  rw [Connection.commitBatch, Connection.run, onAuthority, Transaction.commit_zoom rfl]

theorem commitBatch_eq_ok {report : MemoryCommitReport} :
    c.commitBatch codec batch stamps = (.ok report, c') ↔
      ∃ authority, commitAuthoritativeBatch codec batch stamps c.database.authority =
          .ok (report, authority) ∧
        c' = { c with database := { c.database with authority } } := by
  rw [commitBatch_eq]
  constructor
  · intro h
    obtain ⟨hreport, rfl⟩ := Prod.mk.inj h
    exact ⟨_, Transaction.commit_eq_ok.1 (Prod.ext hreport rfl), rfl⟩
  · intro h
    obtain ⟨authority, hcommit, rfl⟩ := h
    rw [Transaction.commit_of_ok hcommit]

/-- A commit that fails changes nothing. -/
theorem commitBatch_error {error : MemoryError}
    (h : c.commitBatch codec batch stamps = (.error error, c')) : c' = c := by
  rw [commitBatch_eq] at h
  obtain ⟨herror, rfl⟩ := Prod.mk.inj h
  have hsame : ((commitAuthoritativeBatch codec batch stamps).commit c.database.authority).2 =
      c.database.authority := (Transaction.commit_eq_error.1 (Prod.ext herror rfl)).2
  rw [hsame]

end Connection

/-- **Commits in a run of the writer.** A commit that fails changes nothing; one that succeeds
keeps its contract and the other tables; and it can be repeated, with the same report and to no
effect, exactly if what it stored for the first time reads back. -/
theorem authoritative_commits (codec : Codec) (commands : List WriterCommand)
    (batch : MemoryCommitBatch) (stamps : Nat → Stamp) :
    (∀ error c', (runFrom (Connection.next codec) commands .start).commitBatch codec batch stamps =
        (.error error, c') → c' = runFrom (Connection.next codec) commands .start) ∧
      ∀ report c', (runFrom (Connection.next codec) commands .start).commitBatch codec batch
          stamps = (.ok report, c') →
        CommitContract codec batch
            (runFrom (Connection.next codec) commands .start).database.authority
            c'.database.authority ∧
          c'.database = { (runFrom (Connection.next codec) commands .start).database with
            authority := c'.database.authority } ∧
          ((∀ memory ∈ batch.derived, memory.id.isSome) → ∀ again,
            (c'.commitBatch codec batch again = (.ok report, c') ↔
              TurnsReadBack codec batch.turns
                  (runFrom (Connection.next codec) commands .start).database.authority ∧
                MemoriesReadBack codec batch.derived
                  (runFrom (Connection.next codec) commands .start).database.authority)) := by
  have hsourced := run_sourced codec commands
  generalize runFrom (Connection.next codec) commands .start = c at hsourced
  constructor
  · intro error c' h
    exact Connection.commitBatch_error h
  · intro report c' h
    obtain ⟨authority, hcommit, rfl⟩ := Connection.commitBatch_eq_ok.1 h
    refine ⟨commitContract hsourced hcommit, rfl, ?_⟩
    intro hids again
    rw [← recommit_iff hcommit hsourced hids again, Connection.commitBatch_eq_ok]
    constructor
    · intro h
      obtain ⟨authority', hagain, heq⟩ := h
      have hauthority : authority = authority' := congrArg (·.database.authority) heq
      rwa [← hauthority] at hagain
    · intro h
      exact ⟨authority, h, rfl⟩

/-! ### A retry that is refused -/

/-- A measured value as the `f64` nearest to 31.245270191439438, and the value `serde_json` reads
for that text, one unit in the last place above it. -/
def measured : ℚ := 4397380849726785 / 2 ^ 47
def measuredRead : ℚ := 8794761699453571 / 2 ^ 48

def measuredProvenance (value : ℚ) : Provenance :=
  { runtimeProvenance with attributes := [("score".toList, .number (.float value))] }

/-- The shortest decimals of the two. -/
def measuredText (value : ℚ) : Text :=
  if value = measured then "31.245270191439438".toList else "31.24527019143944".toList

def measuredCodec : Codec :=
  { Codec.known measuredText [] [] [("n".toList,
      "1b16b1df538ba12dc3f97edbb85caa7050d46c148134290feba80f8236c83db9".toList)] with
    readProvenance := fun t =>
      if t = (measuredProvenance measured).json.text measuredText then
        some (measuredProvenance measuredRead)
      else none }

def measuredBatch : MemoryCommitBatch :=
  ⟨[{ noteTurn "x" with provenance := measuredProvenance measured }], []⟩

/-- **A retry is refused** when the first commit stored an attribute that does not read back. -/
theorem retry_refused :
    let first := Connection.start.commitBatch measuredCodec measuredBatch fun _ => ⟨[], 0⟩
    (first.1.map fun report => report.storedTurns.map DeliveredTurnRecord.turnId) =
        .ok ["x".toList] ∧
      (first.2.commitBatch measuredCodec measuredBatch fun _ => ⟨[], 0⟩).1 = .error (.invalid
        "delivered turn x is immutable and conflicts with the existing source row") := by
  decide +kernel

end NpcRuntime.Memory
